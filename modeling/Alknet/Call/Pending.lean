import Alknet.Code.Call.Frame
import Alknet.Code.Call.Pending

/-!
# Correlation of pending requests

What an operation may do to the entries of the map, and when it does no more than that. The map
keeps to it as long as no request reuses an id that is taken, and no operation meets an entry of
the other kind that it removes all the same.
-/

namespace Alknet

variable {α : Type} {map : PendingRequestMap α}

/-! ## Lookups -/

theorem lookup_foldl_erase (ids : List String) (pending : AList fun _ : String => PendingEntry)
    (id : String) :
    (ids.foldl (fun pending id => pending.erase id) pending).lookup id =
      if id ∈ ids then none else pending.lookup id := by
  induction ids generalizing pending with
  | nil => simp
  | cons id' ids ih =>
    rw [List.foldl_cons, ih]
    by_cases h : id = id'
    · subst h
      simp
    · simp [h, AList.lookup_erase_ne h]

theorem lookup_sweep_expired (now : Nat) (id : String) :
    (map.sweep_expired now).2.pending.lookup id =
      (map.pending.lookup id).filter fun entry => !entry.expired now := by
  simp only [PendingRequestMap.sweep_expired, lookup_foldl_erase]
  have hmem : id ∈ (map.pending.entries.filter fun entry => entry.2.expired now).map (·.1) ↔
      ∃ entry, map.pending.lookup id = some entry ∧ entry.expired now := by
    simp only [List.mem_map, List.mem_filter, Sigma.exists, exists_and_right, exists_eq_right,
      ← AList.mem_lookup_iff, Option.mem_def]
  cases hlookup : map.pending.lookup id with
  | none => simp
  | some entry =>
    rw [hlookup] at hmem
    simp only [Option.some.injEq, exists_eq_left'] at hmem
    rw [Option.filter_some]
    cases hexp : entry.expired now with
    | true =>
      rw [if_pos (hmem.mpr hexp)]
      rfl
    | false =>
      have hnot : ¬ entry.expired now := by rw [hexp]; decide
      rw [if_neg (mt hmem.mp hnot)]
      rfl

theorem lookup_insert (id id' : String) (entry : PendingEntry) :
    (map.insert id entry).pending.lookup id' =
      if id' = id then some entry else map.pending.lookup id' := by
  by_cases h : id' = id
  · subst h
    simp [PendingRequestMap.insert, AList.lookup_insert]
  · simp [PendingRequestMap.insert, AList.lookup_insert_ne h, h]

theorem lookup_erase_if (pending : AList fun _ : String => PendingEntry) (id id' : String) :
    (pending.erase id).lookup id' = if id' = id then none else pending.lookup id' := by
  by_cases h : id' = id
  · subst h
    simp
  · simp [AList.lookup_erase_ne h, h]

theorem resolve_call_pending (id : String) (value : α) :
    (map.resolve_call id value).2.pending = map.pending.erase id := by
  unfold PendingRequestMap.resolve_call
  simp only
  split <;> rfl

theorem push_subscribe_pending (id : String) (value : α) :
    (map.push_subscribe id value).2.pending = map.pending := by
  unfold PendingRequestMap.push_subscribe
  split
  · simp only
    split <;> rfl
  · rfl

/-! ## What an operation may do -/

def PendingOp.request_id? : PendingOp α → Option String
  | .insert_call id _ _ => some id
  | .insert_subscribe id _ _ => some id
  | .resolve_call id _ => some id
  | .push_subscribe id _ => some id
  | .complete_subscribe id => some id
  | .abort id => some id
  | _ => none

def Foreign : PendingOp α → PendingEntry → Prop
  | .resolve_call _ _, .Subscribe _ _ => True
  | .push_subscribe _ _, .Call _ _ => True
  | .complete_subscribe _, .Call _ _ => True
  | _, _ => False

/-- The operation ends the request: it resolves, completes or aborts it, or it is a sweep at or
after its timeout. -/
def Ends : PendingOp α → String → PendingEntry → Prop
  | .resolve_call id' _, id, .Call _ _ => id' = id
  | .complete_subscribe id', id, .Subscribe _ _ => id' = id
  | .abort id', id, _ => id' = id
  | .sweep_expired now, _, entry => entry.expired now
  | _, _, _ => False

/-- What correlation asks of one operation. -/
structure StepCorrect (map : PendingRequestMap α) (op : PendingOp α) : Prop where
  kind : ∀ id entry, op.request_id? = some id → map.pending.lookup id = some entry →
    Foreign op entry → (map.apply op).1 = .answer false ∧
      (map.apply op).2.pending.lookup id = some entry ∧
      (map.apply op).2.oneshots = map.oneshots ∧ (map.apply op).2.mpscs = map.mpscs
  leaves : ∀ id entry, map.pending.lookup id = some entry →
    (map.apply op).2.pending.lookup id ≠ some entry → Ends op id entry
  others : ∀ id, op.request_id? ≠ some id →
    (map.apply op).2.pending.lookup id = map.pending.lookup id ∨
      (map.apply op).2.pending.lookup id = none ∧
        ∃ entry, map.pending.lookup id = some entry ∧ Ends op id entry

/-- The condition: an inserted id is free (or has this very entry), and no operation that removes
entries of one kind is applied to the other. -/
def Meets (map : PendingRequestMap α) : PendingOp α → Prop
  | .insert_call id tx timeout =>
    map.pending.lookup id = none ∨ map.pending.lookup id = some (.Call tx timeout)
  | .insert_subscribe id tx timeout =>
    map.pending.lookup id = none ∨ map.pending.lookup id = some (.Subscribe tx timeout)
  | .resolve_call id _ => ∀ tx timeout, map.pending.lookup id ≠ some (.Subscribe tx timeout)
  | .complete_subscribe id => ∀ tx timeout, map.pending.lookup id ≠ some (.Call tx timeout)
  | _ => True

/-! ## One operation -/

theorem insert_correct_iff {op : PendingOp α} {id : String} {entry : PendingEntry}
    (hid : op.request_id? = some id) (hop : (map.apply op).2 = map.insert id entry)
    (hforeign : ∀ e, ¬ Foreign op e) (hends : ∀ i e, ¬ Ends op i e) :
    StepCorrect map op ↔
      map.pending.lookup id = none ∨ map.pending.lookup id = some entry := by
  constructor
  · intro h
    cases hlookup : map.pending.lookup id with
    | none => exact Or.inl rfl
    | some old =>
      by_contra hne
      refine hends id old (h.leaves id old hlookup ?_)
      rw [hop, lookup_insert, if_pos rfl]
      intro heq
      exact hne (Or.inr heq.symm)
  · intro h
    refine ⟨fun _ e _ _ hf => absurd hf (hforeign e), fun id' old hold hgone => ?_,
      fun id' hne => Or.inl ?_⟩
    · rw [hop, lookup_insert] at hgone
      split at hgone
      · rename_i heq
        subst heq
        rw [hold] at h
        rcases h with h | h
        · simp at h
        · exact absurd h.symm hgone
      · exact absurd hold hgone
    · have hne' : id' ≠ id := fun heq => hne (heq ▸ hid)
      rw [hop, lookup_insert, if_neg hne']

theorem erase_correct {op : PendingOp α} {id : String} (hid : op.request_id? = some id)
    (hop : (map.apply op).2.pending = map.pending.erase id)
    (hforeign : ∀ e, map.pending.lookup id = some e → ¬ Foreign op e)
    (hends : ∀ e, map.pending.lookup id = some e → Ends op id e) : StepCorrect map op := by
  refine ⟨fun id' e hid' he hf => ?_, fun id' e he hgone => ?_, fun id' hne => Or.inl ?_⟩
  · obtain rfl : id = id' := Option.some.inj (hid.symm.trans hid')
    exact absurd hf (hforeign e he)
  · rw [hop, lookup_erase_if] at hgone
    split at hgone
    · rename_i heq
      exact heq ▸ hends e (heq ▸ he)
    · exact absurd he hgone
  · have hne' : id' ≠ id := fun heq => hne (heq ▸ hid)
    rw [hop, lookup_erase_if, if_neg hne']

theorem same_correct {op : PendingOp α} (hop : (map.apply op).2.pending = map.pending)
    (hkind : ∀ id entry, op.request_id? = some id → map.pending.lookup id = some entry →
      Foreign op entry → (map.apply op).1 = .answer false ∧
        (map.apply op).2.oneshots = map.oneshots ∧ (map.apply op).2.mpscs = map.mpscs) :
    StepCorrect map op := by
  refine ⟨fun id e hid he hf => ?_, fun id e he hgone => ?_, fun id _ => Or.inl (by rw [hop])⟩
  · obtain ⟨hfalse, hone, hmpsc⟩ := hkind id e hid he hf
    exact ⟨hfalse, by rw [hop, he], hone, hmpsc⟩
  · rw [hop] at hgone
    exact absurd he hgone

theorem sweep_correct (now : Nat) : StepCorrect map (.sweep_expired now) := by
  have hlookup : ∀ id, (map.apply (.sweep_expired now)).2.pending.lookup id =
      (map.pending.lookup id).filter fun entry => !entry.expired now := lookup_sweep_expired now
  refine ⟨fun _ _ hid => by simp [PendingOp.request_id?] at hid, fun id e he hgone => ?_,
    fun id _ => ?_⟩
  · rw [hlookup, he] at hgone
    by_contra hlive
    exact hgone (by simpa [Ends] using hlive)
  · rw [hlookup]
    cases he : map.pending.lookup id with
    | none => exact Or.inl rfl
    | some entry =>
      by_cases hexp : entry.expired now
      · exact Or.inr ⟨by simp [hexp], entry, rfl, hexp⟩
      · exact Or.inl (by simp [hexp])

theorem stepCorrect_iff (map : PendingRequestMap α) (op : PendingOp α) :
    StepCorrect map op ↔ Meets map op := by
  cases op with
  | insert_call id tx timeout =>
    exact insert_correct_iff rfl rfl (fun _ h => h) (fun _ _ h => h)
  | insert_subscribe id tx timeout =>
    exact insert_correct_iff rfl rfl (fun _ h => h) (fun _ _ h => h)
  | resolve_call id value =>
    have hop : (map.apply (.resolve_call id value)).2.pending = map.pending.erase id :=
      resolve_call_pending id value
    constructor
    -- a subscription does not survive
    · intro h tx timeout hlookup
      have hkept := (h.kind id _ rfl hlookup trivial).2.1
      simp [hop] at hkept
    · intro h
      refine erase_correct rfl hop (fun e he => ?_) (fun e he => ?_)
      all_goals
        cases e with
        | Call tx timeout => simp [Foreign, Ends]
        | Subscribe tx timeout => exact absurd he (h tx timeout)
  | complete_subscribe id =>
    constructor
    · intro h tx timeout hlookup
      have hkept := (h.kind id _ rfl hlookup trivial).2.1
      simp [PendingRequestMap.apply, PendingRequestMap.complete_subscribe,
        PendingRequestMap.remove] at hkept
    · intro h
      refine erase_correct rfl rfl (fun e he => ?_) (fun e he => ?_)
      all_goals
        cases e with
        | Call tx timeout => exact absurd he (h tx timeout)
        | Subscribe tx timeout => simp [Foreign, Ends]
  | push_subscribe id value =>
    refine iff_of_true (same_correct (push_subscribe_pending id value) ?_) trivial
    intro id' entry hid hlookup hforeign
    obtain rfl : id = id' := Option.some.inj hid
    cases entry with
    | Subscribe tx timeout => exact hforeign.elim
    | Call tx timeout =>
      simp [PendingRequestMap.apply, PendingRequestMap.push_subscribe, hlookup]
  | abort id =>
    refine iff_of_true (erase_correct rfl rfl (fun e _ => ?_) (fun e _ => ?_)) trivial
    all_goals simp [Foreign, Ends]
  | sweep_expired now => exact iff_of_true (sweep_correct now) trivial
  | receive tx =>
    exact iff_of_true (same_correct rfl fun _ _ hid => by simp [PendingOp.request_id?] at hid)
      trivial
  | close tx =>
    exact iff_of_true (same_correct rfl fun _ _ hid => by simp [PendingOp.request_id?] at hid)
      trivial

/-! ## Whole runs -/

/-- Each operation of a run has the property `P` in the state that it finds. -/
def Along (P : PendingRequestMap α → PendingOp α → Prop) (map : PendingRequestMap α)
    (ops : List (PendingOp α)) : Prop :=
  ∀ before op after, ops = before ++ op :: after → P (map.run before) op

theorem along_cons {P : PendingRequestMap α → PendingOp α → Prop} {op : PendingOp α}
    {ops : List (PendingOp α)} (h : Along P map (op :: ops)) :
    P map op ∧ Along P (map.apply op).2 ops :=
  ⟨h [] op ops rfl, fun before op' after heq => h (op :: before) op' after (by rw [heq]; rfl)⟩

theorem entry_ended {ops : List (PendingOp α)} {id : String} {entry : PendingEntry}
    (h : Along Meets map ops) (hentry : map.pending.lookup id = some entry)
    (hgone : (map.run ops).pending.lookup id ≠ some entry) :
    ∃ before op after, ops = before ++ op :: after ∧
      (map.run before).pending.lookup id = some entry ∧ Ends op id entry := by
  induction ops generalizing map with
  | nil => exact absurd hentry hgone
  | cons op ops ih =>
    obtain ⟨hmeets, hrest⟩ := along_cons h
    by_cases hkept : (map.apply op).2.pending.lookup id = some entry
    · obtain ⟨before, op', after, rfl, hbefore, hends⟩ := ih hrest hkept hgone
      exact ⟨op :: before, op', after, rfl, hbefore, hends⟩
    · exact ⟨[], op, ops, rfl, hentry,
        ((stepCorrect_iff map op).mpr hmeets).leaves id entry hentry hkept⟩

/-- A response for a subscription with room reaches its queue, and the subscription stays. -/
def DispatchDelivers (map : PendingRequestMap α) (id : String) (value : α) : Prop :=
  ∀ tx timeout, map.pending.lookup id = some (.Subscribe tx timeout) → (map.mpscs tx).has_room →
    (map.dispatch id value).1 = true ∧
      (map.dispatch id value).2.pending.lookup id = some (.Subscribe tx timeout) ∧
      ((map.dispatch id value).2.mpscs tx).queue = (map.mpscs tx).queue ++ [value]

theorem dispatch_subscribe {id : String} {tx : Nat} {timeout : Option Nat}
    (h : map.pending.lookup id = some (.Subscribe tx timeout)) (value : α) :
    (map.dispatch id value).1 = false ∧ (map.dispatch id value).2.pending.lookup id = none := by
  -- `resolve_call` has removed the subscription before `push_subscribe` looks for it
  simp [PendingRequestMap.dispatch, PendingRequestMap.resolve_call, h,
    PendingRequestMap.push_subscribe]

/-- **Correlation** is kept by a run exactly when each of its operations meets the condition. -/
theorem correlation_iff (map : PendingRequestMap α) (ops : List (PendingOp α)) :
    (Along StepCorrect map ops ↔ Along Meets map ops) ∧
    (Along Meets map ops → ∀ id entry, map.pending.lookup id = some entry →
      (map.run ops).pending.lookup id ≠ some entry →
        ∃ before op after, ops = before ++ op :: after ∧
          (map.run before).pending.lookup id = some entry ∧ Ends op id entry) ∧
    (∀ id value, DispatchDelivers (map.run ops) id value ↔
      ¬ ∃ tx timeout, (map.run ops).pending.lookup id = some (.Subscribe tx timeout) ∧
        ((map.run ops).mpscs tx).has_room) := by
  refine ⟨?_, fun h id entry hentry hgone => entry_ended h hentry hgone, fun id value => ?_⟩
  · exact forall₄_congr fun before op after _ => stepCorrect_iff (map.run before) op
  · constructor
    · rintro h ⟨tx, timeout, hlookup, hroom⟩
      have htrue := (h tx timeout hlookup hroom).1
      simp [(dispatch_subscribe hlookup value).1] at htrue
    · intro h tx timeout hlookup hroom
      exact absurd ⟨tx, timeout, hlookup, hroom⟩ h

def sampleMap : PendingRequestMap Value := .new (fun _ => ⟨none, true⟩) (fun _ => ⟨[], 8, true⟩)

/-- A response to a subscription removes it. A second call with an id takes the first one's place.
-/
theorem correlation_broken :
    ((sampleMap.run [.insert_subscribe "req-1" 0 none]).pending.lookup "req-1" =
        some (.Subscribe 0 none) ∧
      ((sampleMap.run [.insert_subscribe "req-1" 0 none]).mpscs 0).has_room ∧
      ((sampleMap.run [.insert_subscribe "req-1" 0 none]).apply
        (.resolve_call "req-1" .null)).1 = .answer false ∧
      (sampleMap.run [.insert_subscribe "req-1" 0 none,
        .resolve_call "req-1" .null]).pending.lookup "req-1" = none ∧
      ((sampleMap.run [.insert_subscribe "req-1" 0 none]).dispatch "req-1" .null).1 = false) ∧
    (sampleMap.run [.insert_call "req-1" 0 5, .insert_call "req-1" 1 9]).pending.lookup "req-1" =
      some (.Call 1 9) :=
  ⟨⟨rfl, rfl, rfl, rfl, rfl⟩, rfl⟩

end Alknet
