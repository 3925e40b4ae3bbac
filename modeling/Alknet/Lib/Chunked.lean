import Mathlib.Data.List.Infix

/-!
# Reading items from a stream that comes in chunks

A decoder `attempt` takes the first item off a buffer, or says that the buffer is too short. The
loop `Reader.read` reads chunks until it has an item. A call may be dropped while it waits for a
chunk, and keeps what it has buffered. A decoder that more input does not sway gives the same
items however the stream is cut and wherever calls are dropped.
-/

namespace Alknet.Lib.Chunked

variable {β ρ ε : Type}

inductive Event (β ε : Type) where
  | data (chunk : List β) (nonempty : chunk ≠ [])
  | fault (e : ε)

def Event.bytes : Event β ε → List β
  | .data chunk _ => chunk
  | .fault _ => []

/-- A buffer, and what the stream still gives. After its last event the stream is at its end. -/
structure Reader (β ε : Type) where
  stream : List (Event β ε)
  buf : List β

inductive Got (ρ ε : Type) where
  | item (r : ρ)
  | ended
  | fault (e : ε)
  | dropped

def Got.isDropped : Got ρ ε → Bool
  | .dropped => true
  | _ => false

/-- One call. It is dropped at its read number `budget + 1`, if it comes to that. -/
def Reader.read (attempt : List β → Option (ρ × List β)) :
    (budget : Nat) → Reader β ε → Got ρ ε × Reader β ε
  | budget, ⟨stream, buf⟩ =>
    match attempt buf with
    | some (r, rest) => (.item r, ⟨stream, rest⟩)
    | none =>
      match budget, stream with
      | 0, _ => (.dropped, ⟨stream, buf⟩)
      | _ + 1, [] => (.ended, ⟨[], buf⟩)
      | _ + 1, .fault e :: stream => (.fault e, ⟨stream, buf⟩)
      | budget + 1, .data chunk _ :: stream => Reader.read attempt budget ⟨stream, buf ++ chunk⟩

/-- A call whose end becomes a result. A dropped call has none. -/
def Reader.call {α : Type} (attempt : List β → Option (ρ × List β)) (result : Got ρ ε → Option α)
    (budget : Nat) (reader : Reader β ε) : Option α × Reader β ε :=
  (result (reader.read attempt budget).1, (reader.read attempt budget).2)

/-- One call after the other: the results of those that were not dropped. -/
def calls {σ α : Type} (call : Nat → σ → Option α × σ) : List Nat → σ → List α × σ
  | [], s => ([], s)
  | budget :: budgets, s =>
    let (r, s) := call budget s
    let (rs, s) := calls call budgets s
    (r.toList ++ rs, s)

def Reader.pending (reader : Reader β ε) : List β := reader.buf ++ reader.stream.flatMap Event.bytes

/-- More input does not change an item that was found. -/
def Stable (attempt : List β → Option (ρ × List β)) : Prop :=
  ∀ x y r rest, attempt x = some (r, rest) → attempt (x ++ y) = some (r, rest ++ y)

/-- The items `rs` are what `attempt` finds, one after the other, from `x` to `y`. -/
def Items (attempt : List β → Option (ρ × List β)) : List ρ → List β → List β → Prop
  | [], x, y => x = y
  | r :: rs, x, y => ∃ mid, attempt x = some (r, mid) ∧ Items attempt rs mid y

variable {attempt : List β → Option (ρ × List β)}

theorem items_append {rs rs' : List ρ} {x z : List β} :
    Items attempt (rs ++ rs') x z ↔ ∃ y, Items attempt rs x y ∧ Items attempt rs' y z := by
  induction rs generalizing x with
  | nil => simp [Items]
  | cons r rs ih =>
    simp only [List.cons_append, Items, ih]
    constructor
    · rintro ⟨mid, hmid, y, hy, hz⟩
      exact ⟨y, ⟨mid, hmid, hy⟩, hz⟩
    · rintro ⟨y, ⟨mid, hmid, hy⟩, hz⟩
      exact ⟨mid, hmid, y, hy, hz⟩

/-! ## One call -/

theorem read_spec (hstable : Stable attempt) (budget : Nat) (reader : Reader β ε) :
    match (reader.read attempt budget).1 with
    | .item r => attempt reader.pending = some (r, (reader.read attempt budget).2.pending)
    | .ended => attempt reader.pending = none ∧
        (reader.read attempt budget).2.pending = reader.pending ∧
        (reader.read attempt budget).2.stream = []
    | .fault _ => (reader.read attempt budget).2.pending = reader.pending
    | .dropped => (reader.read attempt budget).2.pending = reader.pending := by
  obtain ⟨stream, buf⟩ := reader
  induction stream generalizing budget buf with
  | nil =>
    unfold Reader.read
    cases h : attempt buf with
    | some found => simpa [Reader.pending] using h
    | none => cases budget <;> simp [Reader.pending, h]
  | cons event stream ih =>
    unfold Reader.read
    cases h : attempt buf with
    | some found => exact hstable _ _ _ _ h
    | none =>
      cases budget with
      | zero => rfl
      | succ budget =>
        cases event with
        | fault e => rfl
        | data chunk hne =>
          have hpending : (⟨.data chunk hne :: stream, buf⟩ : Reader β ε).pending =
              (⟨stream, buf ++ chunk⟩ : Reader β ε).pending := by
            simp [Reader.pending, Event.bytes]
          rw [hpending]
          exact ih budget (buf ++ chunk)

theorem read_completes {budget : Nat} {reader : Reader β ε}
    (h : reader.stream.length < budget) :
    (reader.read attempt budget).1.isDropped = false := by
  obtain ⟨stream, buf⟩ := reader
  induction stream generalizing budget buf with
  | nil =>
    unfold Reader.read
    cases attempt buf with
    | some found => rfl
    | none =>
      cases budget with
      | zero => simp at h
      | succ budget => rfl
  | cons event stream ih =>
    unfold Reader.read
    cases attempt buf with
    | some found => rfl
    | none =>
      cases budget with
      | zero => simp at h
      | succ budget =>
        cases event with
        | fault e => rfl
        | data chunk hne => exact ih (buf ++ chunk) (by simpa using h)

theorem read_stream_suffix (budget : Nat) (reader : Reader β ε) :
    (reader.read attempt budget).2.stream <:+ reader.stream := by
  obtain ⟨stream, buf⟩ := reader
  induction stream generalizing budget buf with
  | nil =>
    unfold Reader.read
    cases attempt buf with
    | some found => exact List.suffix_rfl
    | none => cases budget <;> exact List.suffix_rfl
  | cons event stream ih =>
    unfold Reader.read
    cases attempt buf with
    | some found => exact List.suffix_rfl
    | none =>
      cases budget with
      | zero => exact List.suffix_rfl
      | succ budget =>
        cases event with
        | fault e => exact List.suffix_cons _ _
        | data chunk hne => exact (ih budget (buf ++ chunk)).trans (List.suffix_cons _ _)

theorem read_fault_mem {budget : Nat} {reader : Reader β ε} {e : ε}
    (h : (reader.read attempt budget).1 = .fault e) : .fault e ∈ reader.stream := by
  obtain ⟨stream, buf⟩ := reader
  induction stream generalizing budget buf with
  | nil =>
    unfold Reader.read at h
    cases ha : attempt buf with
    | some found => simp [ha] at h
    | none => cases budget <;> simp [ha] at h
  | cons event stream ih =>
    unfold Reader.read at h
    cases ha : attempt buf with
    | some found => simp [ha] at h
    | none =>
      cases budget with
      | zero => simp [ha] at h
      | succ budget =>
        cases event with
        | fault e' =>
          simp only [ha, Got.fault.injEq] at h
          simp [h]
        | data chunk hne =>
          simp only [ha] at h
          exact List.mem_cons_of_mem _ (ih (buf ++ chunk) h)

/-! ## Whole runs -/

def Faultless (reader : Reader β ε) : Prop := ∀ e, .fault e ∉ reader.stream

theorem Faultless.read {reader : Reader β ε} (h : Faultless reader) (budget : Nat) :
    Faultless (reader.read attempt budget).2 :=
  fun e he => h e ((read_stream_suffix budget reader).subset he)

theorem read_item (hstable : Stable attempt) {budget : Nat} {reader : Reader β ε} {r : ρ}
    {rest : List β} (hf : Faultless reader) (hbudget : reader.stream.length < budget)
    (hnext : attempt reader.pending = some (r, rest)) :
    ∃ reader' : Reader β ε, reader.read attempt budget = (.item r, reader') ∧
      reader'.pending = rest ∧ Faultless reader' := by
  have hread := read_spec hstable budget reader
  have hdone : (reader.read attempt budget).1.isDropped = false := read_completes hbudget
  have hfaultless : Faultless (reader.read attempt budget).2 := hf.read budget
  rcases hgot : reader.read attempt budget with ⟨got, reader'⟩
  rw [hgot] at hread hdone hfaultless
  cases got with
  | item r' =>
    obtain ⟨rfl, rfl⟩ := Prod.mk.inj (Option.some.inj (hnext.symm.trans hread))
    exact ⟨reader', rfl, rfl, hfaultless⟩
  | ended =>
    have hnone : attempt reader.pending = none := hread.1
    rw [hnext] at hnone
    cases hnone
  | fault e =>
    have hfault : (reader.read attempt budget).1 = .fault e := by rw [hgot]
    exact absurd (read_fault_mem hfault) (hf e)
  | dropped => cases hdone

theorem calls_stream_suffix {α : Type} (result : Got ρ ε → Option α) (budgets : List Nat)
    (reader : Reader β ε) :
    (calls (Reader.call attempt result) budgets reader).2.stream <:+ reader.stream := by
  induction budgets generalizing reader with
  | nil => exact List.suffix_rfl
  | cons budget budgets ih =>
    exact (ih (reader.read attempt budget).2).trans (read_stream_suffix budget reader)

theorem call_isSome {α : Type} {result : Got ρ ε → Option α}
    (hresult : ∀ got, (result got).isSome = !got.isDropped) (budgets : List Nat)
    {reader : Reader β ε} {budget : Nat} (h : reader.stream.length < budget) :
    ((calls (Reader.call attempt result) budgets reader).2.call attempt result
      budget).1.isSome := by
  have hlen : (calls (Reader.call attempt result) budgets reader).2.stream.length ≤
      reader.stream.length := (calls_stream_suffix result budgets reader).length_le
  rw [Reader.call, hresult, read_completes (by omega)]
  rfl

/-- **Independence of the chunks.** The calls hand out the items of the pending bytes in order. -/
theorem calls_spec {α : Type} (result : Got ρ ε → Option α) (hdrop : result .dropped = none)
    (hstable : Stable attempt) (budgets : List Nat) {reader : Reader β ε}
    (hf : Faultless reader) :
    ∃ rs k, (calls (Reader.call attempt result) budgets reader).1 =
        (rs.map .item ++ List.replicate k .ended).filterMap result ∧
      Items attempt rs reader.pending
        (calls (Reader.call attempt result) budgets reader).2.pending ∧
      (0 < k →
        attempt (calls (Reader.call attempt result) budgets reader).2.pending = none) := by
  induction budgets generalizing reader with
  | nil => exact ⟨[], 0, rfl, rfl, by simp⟩
  | cons budget budgets ih =>
    obtain ⟨rs, k, hdone, hitems, hend⟩ := ih (Faultless.read hf budget)
    have hcall := read_spec hstable budget reader
    simp only [calls, Reader.call] at hdone hitems hend ⊢
    cases hgot : (reader.read attempt budget).1 with
    | item r =>
      rw [hgot] at hcall
      refine ⟨r :: rs, k, ?_, ⟨_, hcall, hitems⟩, hend⟩
      rw [hdone, List.map_cons, List.cons_append, List.filterMap_cons]
      cases result (.item r) <;> rfl
    | ended =>
      rw [hgot] at hcall
      obtain ⟨hnone, hsame, -⟩ := hcall
      rw [hsame] at hitems
      -- nothing was found in the pending bytes, so the later calls find nothing either
      cases rs with
      | cons r rs =>
        obtain ⟨mid, hmid, -⟩ := hitems
        rw [hnone] at hmid
        cases hmid
      | nil =>
        have hpending : reader.pending = _ := hitems
        refine ⟨[], k + 1, ?_, hitems, fun _ => hpending ▸ hnone⟩
        rw [hdone, List.map_nil, List.nil_append, List.nil_append, List.replicate_succ,
          List.filterMap_cons]
        cases result .ended <;> rfl
    | fault e => exact absurd (read_fault_mem hgot) (hf e)
    | dropped =>
      rw [hgot] at hcall
      rw [hcall] at hitems
      exact ⟨rs, k, by rw [hdrop]; exact hdone, hitems, hend⟩

theorem calls_length {α : Type} {result : Got ρ ε → Option α}
    (hresult : ∀ got, (result got).isSome = !got.isDropped) {reader : Reader β ε} {budget : Nat}
    (h : reader.stream.length < budget) (n : Nat) :
    (calls (Reader.call attempt result) (List.replicate n budget) reader).1.length = n := by
  induction n generalizing reader with
  | zero => rfl
  | succ n ih =>
    obtain ⟨r, hr⟩ : ∃ r, (Reader.call attempt result budget reader).1 = some r :=
      Option.isSome_iff_exists.mp (call_isSome hresult [] h)
    have hlen : (Reader.call attempt result budget reader).2.stream.length < budget :=
      lt_of_le_of_lt (read_stream_suffix budget reader).length_le h
    simp only [List.replicate_succ, calls, hr, List.length_append, Option.length_toList,
      Option.isSome_some, if_true]
    rw [ih hlen, Nat.add_comm]

end Alknet.Lib.Chunked
