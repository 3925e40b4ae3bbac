import Mathlib.Data.List.Infix
import Mathlib.Data.List.Perm.Basic

/-!
# Calls that take turns

Calls come in any number at any time and are served one at a time, in an order that nothing is known
about. A call moves some items while it is its turn, and then it returns. So what the calls have
moved in all is made of one piece for each turn. A call that comes when another one has returned has
its turn after it.
-/

namespace Alknet.Lib

variable {κ ρ β : Type}

/-- The call's number, what it asks for, and what it has moved. -/
structure Turn (κ β : Type) where
  number : Nat
  call : κ
  part : List β

structure Turns (κ ρ β : Type) where
  /-- The turns that are over, with what the calls returned. -/
  past : List (Turn κ β × ρ)
  present : Option (Turn κ β)
  waiting : List (Nat × κ)
  /-- How many calls there were. -/
  count : Nat

namespace Turns

def new : Turns κ ρ β := ⟨[], none, [], 0⟩

def add (call : κ) (turns : Turns κ ρ β) : Turns κ ρ β :=
  { turns with waiting := turns.waiting ++ [(turns.count, call)], count := turns.count + 1 }

/-- One of those that wait gets its turn. -/
def start (i : Nat) (turns : Turns κ ρ β) : Option (Turns κ ρ β) :=
  if turns.present.isNone then
    turns.waiting[i]?.map fun entry =>
      { turns with
        present := some ⟨entry.1, entry.2, []⟩
        waiting := turns.waiting.eraseIdx i }
  else none

/-- In its turn, a call moves some items. -/
def move (turn : Turn κ β) (items : List β) (turns : Turns κ ρ β) : Turns κ ρ β :=
  { turns with present := some { turn with part := turn.part ++ items } }

def finish (turn : Turn κ β) (result : ρ) (turns : Turns κ ρ β) : Turns κ ρ β :=
  { turns with past := turns.past ++ [(turn, result)], present := none }

/-- A call moves some items and is through. -/
def serve (turn : Turn κ β) (items : List β) (result : ρ) (turns : Turns κ ρ β) : Turns κ ρ β :=
  (turns.move turn items).finish { turn with part := turn.part ++ items } result

/-- The turns in their order. -/
def order (turns : Turns κ ρ β) : List (Turn κ β) :=
  turns.past.map Prod.fst ++ turns.present.toList

/-- What those asked for whose turn has come. -/
def calls (turns : Turns κ ρ β) : List κ := turns.order.map Turn.call

/-- All that was moved. -/
def moved (turns : Turns κ ρ β) : List β := turns.order.flatMap Turn.part

/-- A call waits or has its turn. -/
def Pending (turns : Turns κ ρ β) : Prop := turns.present ≠ none ∨ turns.waiting ≠ []

section

variable {turns turns' : Turns κ ρ β} {turn : Turn κ β}

theorem start_cases {i : Nat} (h : turns.start i = some turns') :
    ∃ (hi : i < turns.waiting.length), turns.present = none ∧
      turns' = { turns with
        present := some ⟨turns.waiting[i].1, turns.waiting[i].2, []⟩
        waiting := turns.waiting.eraseIdx i } := by
  unfold start at h
  obtain ⟨hnone, h⟩ := Option.ite_none_right_eq_some.mp h
  obtain ⟨entry, hentry, rfl⟩ := Option.map_eq_some_iff.mp h
  obtain ⟨hi, rfl⟩ := List.getElem?_eq_some_iff.mp hentry
  exact ⟨hi, Option.isNone_iff_eq_none.mp hnone, rfl⟩

theorem waiting_eq_nil (h : turns.start 0 = none) (hnone : turns.present = none) :
    turns.waiting = [] := by
  by_contra hwaiting
  obtain ⟨entry, rest, hentry⟩ := List.exists_cons_of_ne_nil hwaiting
  unfold start at h
  rw [hnone, hentry] at h
  cases h

theorem order_start {i : Nat} (h : turns.start i = some turns') :
    ∃ number call, turns'.order = turns.order ++ [⟨number, call, []⟩] := by
  obtain ⟨hi, hnone, rfl⟩ := start_cases h
  refine ⟨turns.waiting[i].1, turns.waiting[i].2, ?_⟩
  unfold order
  rw [hnone, Option.toList_none, List.append_nil]
  rfl

theorem order_finish (h : turns.present = some turn) (result : ρ) :
    (turns.finish turn result).order = turns.order := by
  unfold order finish
  rw [h, List.map_append]
  exact List.append_nil _

theorem mem_calls (h : turns.present = some turn) : turn.call ∈ turns.calls := by
  refine List.mem_map_of_mem (List.mem_append_right _ ?_)
  rw [h]
  exact List.mem_singleton_self turn

theorem calls_start {i : Nat} (h : turns.start i = some turns') :
    ∃ call, turns'.calls = turns.calls ++ [call] := by
  obtain ⟨number, call, horder⟩ := order_start h
  refine ⟨call, ?_⟩
  unfold calls
  rw [horder, List.map_append]
  rfl

theorem calls_move (h : turns.present = some turn) (items : List β) :
    (turns.move turn items).calls = turns.calls := by
  unfold calls order move
  rw [h, List.map_append, List.map_append]
  rfl

theorem calls_finish (h : turns.present = some turn) (result : ρ) :
    (turns.finish turn result).calls = turns.calls := by
  unfold calls
  rw [order_finish h result]

theorem moved_start {i : Nat} (h : turns.start i = some turns') : turns'.moved = turns.moved := by
  obtain ⟨number, call, horder⟩ := order_start h
  unfold moved
  rw [horder, List.flatMap_append]
  exact List.append_nil _

theorem moved_move (h : turns.present = some turn) (items : List β) :
    (turns.move turn items).moved = turns.moved ++ items := by
  unfold moved order move
  rw [h, List.flatMap_append, List.flatMap_append, List.append_assoc]
  refine congrArg _ ?_
  simp

theorem moved_finish (h : turns.present = some turn) (result : ρ) :
    (turns.finish turn result).moved = turns.moved := by
  unfold moved
  rw [order_finish h result]

theorem moved_serve (h : turns.present = some turn) (items : List β) (result : ρ) :
    (turns.serve turn items result).moved = turns.moved ++ items := by
  have hpresent : (turns.move turn items).present = some { turn with part := turn.part ++ items } :=
    rfl
  unfold serve
  rw [moved_finish hpresent, moved_move h]

/-! ## Each call has one turn -/

/-- Each call is at one place: it waits, or its turn has come. -/
def Counted (turns : Turns κ ρ β) : Prop :=
  (turns.order.map Turn.number ++ turns.waiting.map Prod.fst).Perm (List.range turns.count)

theorem counted_new : (new : Turns κ ρ β).Counted := .refl _

theorem Counted.add (h : turns.Counted) (call : κ) : (turns.add call).Counted := by
  unfold Counted Turns.add
  rw [List.map_append, ← List.append_assoc, List.range_succ]
  exact h.append_right _

theorem Counted.start {i : Nat} (h : turns.Counted) (hstart : turns.start i = some turns') :
    turns'.Counted := by
  obtain ⟨hi, hnone, rfl⟩ := start_cases hstart
  have hwaiting := (List.getElem_cons_eraseIdx_perm hi).map Prod.fst
  unfold Counted order at h ⊢
  rw [hnone, Option.toList_none, List.append_nil] at h
  refine .trans ?_ h
  rw [Option.toList_some, List.map_append, List.append_assoc]
  exact hwaiting.append_left _

theorem Counted.move (h : turns.Counted) (hpresent : turns.present = some turn) (items : List β) :
    (turns.move turn items).Counted := by
  unfold Counted order at h ⊢
  rw [hpresent, List.map_append] at h
  rw [List.map_append]
  exact h

theorem Counted.finish (h : turns.Counted) (hpresent : turns.present = some turn) (result : ρ) :
    (turns.finish turn result).Counted := by
  unfold Counted
  rw [order_finish hpresent]
  exact h

theorem Counted.serve (h : turns.Counted) (hpresent : turns.present = some turn) (items : List β)
    (result : ρ) : (turns.serve turn items result).Counted :=
  (h.move hpresent items).finish rfl result

theorem Counted.number_lt (h : turns.Counted) (hmem : turn ∈ turns.order) :
    turn.number < turns.count := by
  have hnumber : turn.number ∈ turns.order.map Turn.number ++ turns.waiting.map Prod.fst :=
    List.mem_append_left _ (List.mem_map_of_mem hmem)
  exact List.mem_range.mp (h.mem_iff.mp hnumber)

/-! ## A call that comes later has its turn later -/

/-- What was the case before and what is the case now: what is over is over. -/
structure Continues (turns turns' : Turns κ ρ β) : Prop where
  past : turns.past <+: turns'.past
  count : turns.count ≤ turns'.count

theorem Continues.refl (turns : Turns κ ρ β) : turns.Continues turns :=
  ⟨List.prefix_rfl, Nat.le_refl _⟩

theorem Continues.trans {turns'' : Turns κ ρ β} (h : turns.Continues turns')
    (h' : turns'.Continues turns'') : turns.Continues turns'' :=
  ⟨h.past.trans h'.past, h.count.trans h'.count⟩

theorem continues_add (call : κ) : turns.Continues (turns.add call) :=
  ⟨List.prefix_rfl, Nat.le_succ _⟩

theorem continues_start {i : Nat} (h : turns.start i = some turns') : turns.Continues turns' := by
  obtain ⟨hi, hnone, rfl⟩ := start_cases h
  exact ⟨List.prefix_rfl, Nat.le_refl _⟩

theorem continues_move (items : List β) : turns.Continues (turns.move turn items) :=
  ⟨List.prefix_rfl, Nat.le_refl _⟩

theorem continues_finish (result : ρ) : turns.Continues (turns.finish turn result) :=
  ⟨List.prefix_append .., Nat.le_refl _⟩

theorem Continues.in_order (h : turns.Continues turns') (hcounted : turns.Counted)
    {done : Turn κ β × ρ} (hdone : done ∈ turns.past) {later : Turn κ β}
    (hmem : later ∈ turns'.order) (hlate : turns.count ≤ later.number) :
    [done.1, later].Sublist turns'.order := by
  obtain ⟨rest, hrest⟩ := h.past
  have horder : turns'.order =
      turns.past.map Prod.fst ++ (rest.map Prod.fst ++ turns'.present.toList) := by
    rw [order, ← hrest, List.map_append, List.append_assoc]
  have hnew : later ∈ rest.map Prod.fst ++ turns'.present.toList := by
    rw [horder] at hmem
    refine (List.mem_append.mp hmem).resolve_left fun hold => ?_
    exact absurd (hcounted.number_lt (List.mem_append_left _ hold)) (Nat.not_lt.mpr hlate)
  rw [horder]
  exact List.Sublist.append (List.singleton_sublist.mpr (List.mem_map_of_mem hdone))
    (List.singleton_sublist.mpr hnew)

end

end Turns

end Alknet.Lib
