import Alknet.Code.Secret.Actor
import Alknet.Secret.Poison

/-!
# The actor and the handle

Clients of the actor and direct callers of the handle see one sequence of calls. A message whose
call panics ends the actor and poisons the handle for all of them.
-/

open Alknet.Rust Alknet.Lib

namespace Alknet.Secret

theorem reply_of_eq_some {α : Type} {result : Outcome SecretServiceError α}
    {reply : Except SecretServiceError α} :
    reply_of result = some reply ↔ result = ofResult reply := by
  rcases result with (e | cause) | a <;> cases reply <;> simp [reply_of, ofResult]

theorem reply_of_isSome {α : Type} (result : Outcome SecretServiceError α) :
    (reply_of result).isSome = true ↔ Returns result := by
  rcases result with (e | cause) | a <;> simp [reply_of]

namespace SecretServiceActor

variable {env : Env} {actor actor' : SecretServiceActor}

/-- The handle after some calls, whether or not they returned. -/
def after_calls (env : Env) (handle : SecretServiceHandle) (calls : List (Clock × Call)) :
    SecretServiceHandle :=
  Actor.replay (call env) handle calls

/-- **One sequence of calls.** An answer is the result of the message's own call at its place in the
sequence. -/
theorem actor_linearizable (env : Env) (handle : SecretServiceHandle)
    {steps : List (ActorStep (Clock × Call) SecretMessage Drawn)}
    (hrun : run (step env) (spawn handle) steps = some actor) :
    actor.object = after_calls env handle (actor.log.map Prod.snd) ∧
      actor.handled <+: List.range actor.sent.length ∧
      (∀ number reply, (number, reply) ∈ actor.answered →
        ∃ before after message drawn,
          actor.log = before ++ (some number, handle_message message drawn) :: after ∧
          actor.sent[number]? = some message ∧
          ((after_calls env handle (before.map Prod.snd)).call env
            (handle_message message drawn).1 (handle_message message drawn).2).1 = ofResult reply) ∧
      actor.places.Perm (List.range actor.sent.length) ∧
      (actor.running = true → actor.dropped = []) := by
  have h := Actor.linear_run hrun
  refine ⟨h.replayed, h.handled, fun number reply hmem => ?_, h.places, h.dropped⟩
  obtain ⟨before, at_call, after, hlog, hresult⟩ :=
    h.results (number, reply) (List.mem_append_left _ hmem)
  obtain ⟨message, drawn, hsent, rfl⟩ :=
    h.asked number at_call (hlog ▸ List.mem_append_right _ List.mem_cons_self)
  exact ⟨before, after, message, drawn, hlog, hsent, reply_of_eq_some.mp hresult⟩

def sampleDrawn (time : Nat) : Drawn :=
  ⟨⟨time, time⟩, List.Vector.replicate 12 0, List.Vector.replicate 32 0⟩

/-- Two requests whose reply tasks end in the other order. -/
def sampleOvertaken : List (ActorStep (Clock × Call) SecretMessage Drawn) :=
  [.send (.Unlock samplePhrase none), .send (.DeriveEd25519 PATHS.ENCRYPTION),
    .handle (sampleDrawn 0), .handle (sampleDrawn 1), .reply 1, .reply 0]

theorem actor_linearizable_overtaken :
    ∃ actor, run (step (sampleEnv true)) (spawn (.with_cache_config sampleConfig)) sampleOvertaken =
        some actor ∧
      actor.answered.map Prod.fst = [1, 0] ∧ actor.handled <+: [0, 1] ∧
      actor.places.Perm [0, 1] := by
  obtain ⟨actor, hrun, hshows⟩ := Option.map_eq_some_iff.mp (show
    (run (step (sampleEnv true)) (spawn (.with_cache_config sampleConfig)) sampleOvertaken).map
      (fun actor => (actor.answered.map Prod.fst, actor.sent.length)) = some ([1, 0], 2) from rfl)
  obtain ⟨hanswered, hlength⟩ := Prod.mk.inj hshows
  obtain ⟨-, hhandled, -, hplaces, -⟩ :=
    actor_linearizable (sampleEnv true) (.with_cache_config sampleConfig) hrun
  rw [hlength] at hhandled hplaces
  exact ⟨actor, hrun, hanswered, hhandled, hplaces⟩

/-! ## The end of the actor -/

theorem call_poisoned {handle : SecretServiceHandle} (h : handle.poisoned = true) (clock : Clock)
    (c : Call) : (handle.call env clock c).2.poisoned = true := by
  cases c with
  | derive_ethereum_key path =>
    simp only [SecretServiceHandle.call]
    split <;> simp [SecretServiceHandle.write, h]
  | _ => simp [SecretServiceHandle.call, SecretServiceHandle.write, h]

theorem returns_of_poisoned {handle : SecretServiceHandle} (h : handle.poisoned = true)
    {clock : Clock} {c : Call} (hret : Returns (handle.call env clock c).1) :
    env.build.secp256k1 = false ∧ ∃ path, c = .derive_ethereum_key path := by
  -- only `derive_ethereum_key` returns, and only where it takes no lock
  cases c with
  | derive_ethereum_key path =>
    simp only [SecretServiceHandle.call] at hret
    split at hret
    · simp [SecretServiceHandle.write, h] at hret
    · rename_i hfeature
      exact ⟨by simpa using hfeature, path, rfl⟩
  | _ =>
    simp [SecretServiceHandle.call, SecretServiceHandle.write, SecretServiceHandle.read, h] at hret

theorem consistent_run {config : CacheConfig}
    {steps : List (ActorStep (Clock × Call) SecretMessage Drawn)}
    (hrun : run (step env) (spawn (.with_cache_config config)) steps = some actor) :
    Consistent env actor.object.inner :=
  Actor.object_run (fun handle => Consistent env handle.inner)
    (fun handle at_call h => h.change (call_changes env handle at_call.1 at_call.2))
    (consistent_fresh env config) hrun

theorem write_poisoned {α : Type} {handle : SecretServiceHandle}
    (body : SecretServiceInner → Outcome SecretServiceError α × SecretServiceInner)
    (hpanic : ¬ Returns (handle.write body).1) : (handle.write body).2.poisoned = true := by
  unfold SecretServiceHandle.write at hpanic ⊢
  split
  · assumption
  · rename_i hok
    rw [if_neg hok] at hpanic
    simpa only [Bool.not_eq_true', ← Bool.not_eq_true, returned_iff] using hpanic

/-- **One blob ends the service.** After a panic in `decrypt` no message is accepted any more. -/
theorem actor_survives_decrypt_iff (env : Env) (config : CacheConfig)
    {steps : List (ActorStep (Clock × Call) SecretMessage Drawn)}
    (hrun : run (step env) (spawn (.with_cache_config config)) steps = some actor)
    (hlock : actor.object.poisoned = false) (hrunning : actor.running = true) {number : Nat}
    {encrypted : EncryptedData} {queue : List (Nat × SecretMessage)}
    (hqueue : actor.queue = (number, .Decrypt encrypted) :: queue) (drawn : Drawn)
    (hstep : step env actor (.handle drawn) = some actor') :
    (actor'.running = true ↔
      (actor.object.inner.unlocked = true → KeyAvailable env drawn.clock actor.object.inner →
        NonceFits env.cipher encrypted)) ∧
      (actor'.running = false → ∀ later last, run (step env) actor' later = some last →
        last.sent = actor.sent ∧
          (last.answered ++ last.replies).Perm (actor.answered ++ actor.replies) ∧
          ∀ clock c, Returns (last.object.call env clock c).1 →
            env.build.secp256k1 = false ∧ ∃ path, c = .derive_ethereum_key path) := by
  obtain ⟨hobject, hran, hend⟩ := Actor.handle_next hrunning hqueue hstep
  have hiff : actor'.running = true ↔
      Returns (actor.object.call env drawn.clock (.decrypt encrypted)).1 :=
    hran ▸ reply_of_isSome _
  refine ⟨hiff.trans ?_, fun hstopped later last hlater => ?_⟩
  · exact decrypt_call_returns_iff ⟨hlock, consistent_run hrun⟩ drawn.clock encrypted
  · obtain ⟨hsent, hanswered, hreplies⟩ := hend hstopped
    obtain ⟨-, hsent', -, hperm⟩ := Actor.stopped_run hstopped hlater
    refine ⟨hsent'.trans hsent, hanswered ▸ hreplies ▸ hperm, fun clock c => ?_⟩
    have hpoisoned : actor'.object.poisoned = true := by
      have hpanic := mt hiff.mpr (by rw [hstopped]; exact nofun)
      rw [hobject]
      exact write_poisoned (SecretServiceInner.decrypt env drawn.clock encrypted)
        (mt (returns_map _ _).mpr hpanic)
    have hlast : last.object.poisoned = true :=
      Actor.object_run (fun handle => handle.poisoned = true)
        (fun handle at_call h => call_poisoned h at_call.1 at_call.2) hpoisoned hlater
    exact returns_of_poisoned hlast

def sampleBlob : List (ActorStep (Clock × Call) SecretMessage Drawn) :=
  [.send (.Unlock samplePhrase none), .send (.Decrypt ⟨1, "", "", ""⟩), .send .Lock,
    .handle (sampleDrawn 0)]

theorem actor_survives_decrypt_empty_iv :
    ∃ actor actor',
      run (step (sampleEnv true)) (spawn (.with_cache_config sampleConfig)) sampleBlob =
        some actor ∧
      step (sampleEnv true) actor (.handle (sampleDrawn 1)) = some actor' ∧
      actor'.running = false ∧
      ∀ later last, run (step (sampleEnv true)) actor' later = some last →
        (last.answered ++ last.replies).Perm [(0, .ok .unit)] := by
  obtain ⟨actor, hrun, hrest⟩ := Option.bind_eq_some_iff.mp (show
    (run (step (sampleEnv true)) (spawn (.with_cache_config sampleConfig)) sampleBlob).bind
      (fun actor => (step (sampleEnv true) actor (.handle (sampleDrawn 1))).map fun actor' =>
        (actor.object.poisoned, actor.running, actor.queue, actor.answered ++ actor.replies,
          actor'.running)) =
      some (false, true, [(1, .Decrypt ⟨1, "", "", ""⟩), (2, .Lock)], [(0, .ok .unit)], false)
    from rfl)
  obtain ⟨actor', hstep, hshows⟩ := Option.map_eq_some_iff.mp hrest
  simp only [Prod.mk.injEq] at hshows
  obtain ⟨hlock, hrunning, hqueue, hgiven, hstopped⟩ := hshows
  refine ⟨actor, actor', hrun, hstep, hstopped, fun later last hlater => ?_⟩
  rw [← hgiven]
  exact ((actor_survives_decrypt_iff (sampleEnv true) sampleConfig hrun hlock hrunning hqueue
    (sampleDrawn 1) hstep).2 hstopped later last hlater).2.1

end SecretServiceActor

end Alknet.Secret
