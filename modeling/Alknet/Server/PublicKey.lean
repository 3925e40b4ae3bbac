import Alknet.Code.Server.PublicKey

/-!
# Public-key attempts

Over a whole sequence of attempts: who is accepted, when the identity provider is asked, and whose
identity the handler has. The provider may answer differently at each attempt.
-/

namespace Alknet

variable {PublicKey : Type} {fingerprint : PublicKey → String}

/-! ## The code's runs -/

theorem auth_publickey_eq (kind : HandlerKind) (attempt : Attempt PublicKey)
    (handler : Authentication) :
    kind.auth_publickey fingerprint attempt handler = authenticate fingerprint attempt handler := by
  cases kind <;> rfl

theorem attempts_snoc (kind : HandlerKind) (attempts : List (Attempt PublicKey))
    (attempt : Attempt PublicKey) (handler : Authentication) :
    kind.attempts fingerprint (attempts ++ [attempt]) handler =
      ((kind.attempts fingerprint attempts handler).1 ++
          [(authenticate fingerprint attempt (kind.attempts fingerprint attempts handler).2).1],
        (authenticate fingerprint attempt (kind.attempts fingerprint attempts handler).2).2) := by
  unfold HandlerKind.attempts
  simp only [List.foldl_append, List.foldl_cons, List.foldl_nil, auth_publickey_eq]

theorem attempts_length (kind : HandlerKind) (attempts : List (Attempt PublicKey))
    (handler : Authentication) :
    (kind.attempts fingerprint attempts handler).1.length = attempts.length := by
  induction attempts using List.reverseRecOn with
  | nil => rfl
  | append_singleton attempts attempt ih =>
    rw [attempts_snoc, List.length_append, List.length_append, ih]
    rfl

/-! ## What an attempt depends on -/

theorem authenticate_accepted {attempt : Attempt PublicKey} {handler : Authentication}
    (h : (authenticate fingerprint attempt handler).1.auth = .Accept) :
    ∃ id, attempt.resolve_from_fingerprint (fingerprint attempt.public_key) = some id ∧
      (authenticate fingerprint attempt handler).2.authenticated_identity = some id := by
  unfold authenticate at h ⊢
  by_cases hlimit : handler.auth_limiter.check = true
  · simp only [hlimit, if_true] at h ⊢
    cases hid : attempt.resolve_from_fingerprint (fingerprint attempt.public_key) with
    | some id => exact ⟨id, rfl, rfl⟩
    | none =>
      rw [hid] at h
      cases h
  · rw [if_neg hlimit] at h
    cases h

def failed (answers : List Attempted) : Nat := answers.countP fun answer => answer.auth = .Reject

/-- The identity that an accepted attempt was resolved to. -/
def grantedTo (fingerprint : PublicKey → String) :
    Attempt PublicKey × Attempted → Option Identity
  | (attempt, answer) =>
    if answer.auth = .Accept then
      attempt.resolve_from_fingerprint (fingerprint attempt.public_key)
    else none

/-- The identity of the latest accepted attempt. -/
def latestGrant (fingerprint : PublicKey → String) (attempts : List (Attempt PublicKey))
    (answers : List Attempted) : Option Identity :=
  ((attempts.zip answers).filterMap (grantedTo fingerprint)).getLast?

theorem failed_snoc (answers : List Attempted) (answer : Attempted) :
    failed (answers ++ [answer]) = failed answers + if answer.auth = .Reject then 1 else 0 := by
  unfold failed
  rw [List.countP_append, List.countP_singleton]
  simp

theorem latestGrant_snoc {attempts : List (Attempt PublicKey)} {answers : List Attempted}
    (hlen : answers.length = attempts.length) (attempt : Attempt PublicKey) (answer : Attempted) :
    latestGrant fingerprint (attempts ++ [attempt]) (answers ++ [answer]) =
      (grantedTo fingerprint (attempt, answer)).or (latestGrant fingerprint attempts answers) := by
  unfold latestGrant
  rw [List.zip_append hlen.symm, List.filterMap_append, List.getLast?_append]
  cases h : grantedTo fingerprint (attempt, answer) <;> simp [h]

/-! ## The counter -/

/-- A positive limit is not passed, so the counter cannot wrap. -/
structure Attempts (limit : UInt64) (answers : List Attempted) (handler : Authentication) :
    Prop where
  max : handler.auth_limiter.max_attempts = limit
  failures : limit ≠ 0 → handler.auth_limiter.failures.toNat = min (failed answers) limit.toNat

theorem check_iff_failed {limit : UInt64} {answers : List Attempted} {handler : Authentication}
    (h : Attempts limit answers handler) :
    handler.auth_limiter.check = true ↔ limit = 0 ∨ failed answers < limit.toNat := by
  unfold AuthAttemptLimiter.check
  rw [h.max]
  split_ifs with hzero
  · simp [hzero]
  · have hfailures := h.failures hzero
    rw [decide_eq_true_iff, UInt64.lt_iff_toNat_lt, hfailures]
    constructor
    · intro hlt
      exact Or.inr (by omega)
    · rintro (h | h)
      · exact absurd h hzero
      · omega

theorem authenticate_attempts {limit : UInt64} {answers : List Attempted}
    {handler : Authentication} (h : Attempts limit answers handler) (attempt : Attempt PublicKey) :
    Attempts limit (answers ++ [(authenticate fingerprint attempt handler).1])
      (authenticate fingerprint attempt handler).2 := by
  have hcheck := check_iff_failed h
  unfold authenticate
  split_ifs with hallowed
  · simp only
    cases attempt.resolve_from_fingerprint (fingerprint attempt.public_key) with
    | some id =>
      refine ⟨h.max, fun hne => ?_⟩
      rw [failed_snoc]
      exact h.failures hne
    | none =>
      refine ⟨h.max, fun hne => ?_⟩
      -- there was room for one more failure
      have hroom : failed answers < limit.toNat := (hcheck.mp hallowed).resolve_left hne
      have hfailures := h.failures hne
      have hbound := limit.toNat_lt
      rw [failed_snoc]
      simp only [AuthAttemptLimiter.on_failure, UInt64.toNat_add, UInt64.toNat_one, if_true]
      omega
  · refine ⟨h.max, fun hne => ?_⟩
    have hfull : ¬ failed answers < limit.toNat := fun hlt => hallowed (hcheck.mpr (Or.inr hlt))
    have hfailures := h.failures hne
    rw [failed_snoc]
    simp only [if_true]
    omega

theorem attempts_counted (kind : HandlerKind) (limit : UInt64)
    (attempts : List (Attempt PublicKey)) :
    Attempts limit (kind.attempts fingerprint attempts (.new limit)).1
      (kind.attempts fingerprint attempts (.new limit)).2 := by
  induction attempts using List.reverseRecOn with
  | nil => exact ⟨rfl, fun _ => rfl⟩
  | append_singleton attempts attempt ih =>
    rw [attempts_snoc]
    exact authenticate_attempts ih attempt

/-! ## Whole sequences -/

theorem authenticated_identity_eq (kind : HandlerKind) (limit : UInt64)
    (attempts : List (Attempt PublicKey)) :
    (kind.attempts fingerprint attempts (.new limit)).2.authenticated_identity =
      latestGrant fingerprint attempts (kind.attempts fingerprint attempts (.new limit)).1 := by
  induction attempts using List.reverseRecOn with
  | nil => rfl
  | append_singleton attempts attempt ih =>
    rw [attempts_snoc, latestGrant_snoc (attempts_length kind attempts _), ← ih]
    unfold authenticate
    split_ifs with hallowed
    · simp only
      cases hid : attempt.resolve_from_fingerprint (fingerprint attempt.public_key) with
      | some id => simp [grantedTo, hid]
      | none => simp [grantedTo]
    · simp [grantedTo]

/-- **Public-key authentication.** A key is accepted if and only if the limit is not reached and the
provider knows it now. -/
theorem publickey_attempts (kind : HandlerKind) (fingerprint : PublicKey → String)
    (limit : UInt64) (before : List (Attempt PublicKey)) (attempt : Attempt PublicKey) :
    ((kind.auth_publickey fingerprint attempt
        (kind.attempts fingerprint before (.new limit)).2).1.auth = .Accept ↔
      (limit = 0 ∨ failed (kind.attempts fingerprint before (.new limit)).1 < limit.toNat) ∧
        (attempt.resolve_from_fingerprint (fingerprint attempt.public_key)).isSome) ∧
    (0 < limit → limit.toNat ≤ failed (kind.attempts fingerprint before (.new limit)).1 →
      (kind.auth_publickey fingerprint attempt
        (kind.attempts fingerprint before (.new limit)).2).1 = ⟨.Reject, none⟩) ∧
    (kind.attempts fingerprint before (.new limit)).2.authenticated_identity =
      latestGrant fingerprint before (kind.attempts fingerprint before (.new limit)).1 := by
  have hcounted : Attempts limit (kind.attempts fingerprint before (.new limit)).1
      (kind.attempts fingerprint before (.new limit)).2 := attempts_counted kind limit before
  have hcheck := check_iff_failed hcounted
  rw [auth_publickey_eq]
  refine ⟨?_, fun hpos hfull => ?_, authenticated_identity_eq kind limit before⟩
  · rw [← hcheck]
    unfold authenticate
    split_ifs with hallowed
    · simp only
      cases attempt.resolve_from_fingerprint (fingerprint attempt.public_key) with
      | some id => simp [hallowed]
      | none => simp
    · simp [hallowed]
  · have hne : limit ≠ 0 := by
      rintro rfl
      exact absurd hpos (by decide)
    have hstop : ¬ (kind.attempts fingerprint before (.new limit)).2.auth_limiter.check = true := by
      rw [hcheck]
      rintro (h | h)
      · exact hne h
      · omega
    unfold authenticate
    rw [if_neg hstop]

end Alknet
