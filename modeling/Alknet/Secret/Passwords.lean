import Alknet.Secret.Transparency

/-!
# Passwords

A password is cut from the private key at its path, which is derived anew at each call. The key has
32 bytes, and more are never returned.
-/

open Alknet.Rust Alknet.Lib

namespace Alknet.Secret

open SecretServiceInner

/-- The service is unlocked with this seed. -/
structure HasSeed (env : Env) (seed : Seed) (handle : SecretServiceHandle) : Prop where
  sound : Sound env handle
  unlocked : handle.inner.unlocked = true
  has_seed : handle.inner.seed = some seed

variable {env : Env} {seed : Seed} {handle handle' : SecretServiceHandle}

theorem Change.sameSeed_of_unlocked {before after : SecretServiceInner} {call : Call}
    {result : Outcome SecretServiceError Reply} (h : Change env before call result after)
    (hcall : call ≠ .lock) (hun : before.unlocked = true) : SameSeed before after := by
  cases h with
  | locked hlock hok => exact absurd hlock hcall
  | loaded mnemonic seed hturns hlocked hok =>
    rw [hun] at hlocked
    cases hlocked
  | cached _ hcache => exact hcache.1

theorem HasSeed.step (h : HasSeed env seed handle) {at_call : Clock × Call}
    (hcall : at_call.2 ≠ .lock) (hstep : handle.step env at_call = some handle') :
    HasSeed env seed handle' := by
  have hsound := step_sound handle at_call handle' h.sound hstep
  obtain ⟨-, rfl⟩ := step_eq_some.mp hstep
  have hsame :=
    (call_changes env handle at_call.1 at_call.2).sameSeed_of_unlocked hcall h.unlocked
  exact ⟨hsound, hsame.1.trans h.unlocked, hsame.2.1.trans h.has_seed⟩

theorem HasSeed.run (h : HasSeed env seed handle) {since : List (Clock × Call)}
    (hcalls : ∀ at_call ∈ since, at_call.2 ≠ .lock)
    (hrun : run (SecretServiceHandle.step env) handle since = some handle') :
    HasSeed env seed handle' :=
  run_keeps_of (fun _ _ _ hcall h => h.step hcall) hcalls h hrun

theorem HasSeed.derive_password (h : HasSeed env seed handle) {path : String} {key : KeyPair}
    (hkey : slip10 env seed.bytes path = .ok key) (clock : Clock) (length : Nat) :
    (handle.call env clock (.derive_password path length)).1 =
      .ok (.bytes (key.private_key.toList.take length)) := by
  have htake : key.private_key.toList.take (min length key.private_key.toList.length) =
      key.private_key.toList.take length := by
    rw [← List.take_take, List.take_length]
  simp only [SecretServiceHandle.call, SecretServiceHandle.read, h.sound.1, Bool.false_eq_true,
    if_false, SecretServiceInner.derive_password, h.unlocked, if_true, h.has_seed, hkey, htake]
  rfl

/-- There is one password with as many bytes as requested. After any calls since the unlock, a
request for it, or for fewer bytes, returns its first bytes. -/
def PasswordServed (env : Env) (handle : SecretServiceHandle) (path : String) (length : Nat) :
    Prop :=
  ∃ password : List UInt8, password.length = length ∧
    ∀ since handle', (∀ at_call ∈ since, at_call.2 ≠ Call.lock) →
      run (SecretServiceHandle.step env) handle since = some handle' →
      ∀ clock shorter, shorter ≤ length →
        (handle'.call env clock (.derive_password path shorter)).1 =
          .ok (.bytes (password.take shorter))

theorem HasSeed.password_served (h : HasSeed env seed handle) {path : String} {key : KeyPair}
    (hkey : slip10 env seed.bytes path = .ok key) {length : Nat} (hle : length ≤ 32) :
    PasswordServed env handle path length := by
  refine ⟨key.private_key.toList.take length, ?_, ?_⟩
  · rw [List.length_take, key.private_key.toList_length]
    omega
  · intro since handle' hcalls hrun clock shorter hshorter
    rw [(h.run hcalls hrun).derive_password hkey, List.take_take, Nat.min_eq_left hshorter]

theorem HasSeed.length_le_of_served (h : HasSeed env seed handle) {path : String} {key : KeyPair}
    (hkey : slip10 env seed.bytes path = .ok key) {length : Nat}
    (hserved : PasswordServed env handle path length) : length ≤ 32 := by
  obtain ⟨password, hlen, hserved⟩ := hserved
  have hfull := hserved [] handle (by simp) rfl ⟨0, 0⟩ length (Nat.le_refl _)
  rw [h.derive_password hkey, ← hlen, List.take_length] at hfull
  have heq : key.private_key.toList.take password.length = password := by simpa using hfull
  have hlens := congrArg List.length heq
  rw [List.length_take, key.private_key.toList_length] at hlens
  omega

theorem derive_password_iff (env : Env) (config : CacheConfig) (history : List (Clock × Call))
    (handle : SecretServiceHandle) (h : Reached env config history handle)
    (hun : handle.inner.unlocked = true) (seed : Seed) (hseed : handle.inner.seed = some seed)
    (path : String) (key : KeyPair) (hkey : slip10 env seed.bytes path = .ok key) (length : Nat) :
    PasswordServed env handle path length ↔ length ≤ 32 := by
  have hhas : HasSeed env seed handle := ⟨reached_sound h, hun, hseed⟩
  exact ⟨hhas.length_le_of_served hkey, hhas.password_served hkey⟩

theorem derive_password_short :
    ∃ handle, Reached (sampleEnv true) sampleConfig sampleHistory handle ∧
      PasswordServed (sampleEnv true) handle "m/74'/1'/0'/7'" 16 :=
  ⟨_, rfl, (derive_password_iff (sampleEnv true) sampleConfig sampleHistory _ rfl rfl _ rfl
    "m/74'/1'/0'/7'" _ rfl 16).mpr (by decide)⟩

theorem derive_password_cut_off :
    ∃ handle, Reached (sampleEnv true) sampleConfig sampleHistory handle ∧
      (handle.call (sampleEnv true) ⟨2, 2⟩ (.derive_password "m/74'/1'/0'/7'" 64)).1 =
        .ok (.bytes (List.replicate 32 1)) ∧
      ¬ PasswordServed (sampleEnv true) handle "m/74'/1'/0'/7'" 64 := by
  refine ⟨_, rfl, rfl, fun hserved => ?_⟩
  have hreached : Reached (sampleEnv true) sampleConfig sampleHistory _ := rfl
  have hle := HasSeed.length_le_of_served ⟨reached_sound hreached, rfl, rfl⟩ rfl hserved
  omega

end Alknet.Secret
