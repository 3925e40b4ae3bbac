import Mathlib.Data.List.AList
import Mathlib.Data.List.Dedup
import Mathlib.Data.List.Induction

/-!
# A map that forgets the least recently used key

A step keeps some of the entries and may use one key, which then is the most recently used one. So
two facts about a step say all there is to know about a run: what a lookup finds after it, and how
the keys stand after it.
-/

namespace Alknet.Lib

/-- The keys stand in the order of their last use, the most recent one first. -/
abbrev Lru (κ ν : Type) := AList fun _ : κ => ν

namespace Lru

/-- A read finds its value dead or alive. A sweep is told which entries are dead. -/
inductive Op (κ ν : Type) where
  | read (key : κ) (dead : ν → Bool)
  | put (key : κ) (value : ν)
  | sweep (dead : κ → ν → Bool)
  | clear

variable {κ ν : Type}

def oldest (s : Lru κ ν) : Option κ := s.keys.getLast?

def keep (p : κ → ν → Bool) (s : Lru κ ν) : Lru κ ν :=
  ⟨s.entries.filter fun entry => p entry.1 entry.2, s.nodupKeys.sublist List.filter_sublist⟩

theorem keys_keep_sublist (p : κ → ν → Bool) (s : Lru κ ν) : (s.keep p).keys.Sublist s.keys :=
  List.filter_sublist.map _

variable [DecidableEq κ] {capacity : Nat}

/-- What the operation takes away. Only a new key at capacity evicts another one. -/
def removes (capacity : Nat) (s : Lru κ ν) (op : Op κ ν) (k : κ) (v : ν) : Bool :=
  match op with
  | .read key dead => k = key && dead v
  | .put key _ => key ∉ s && capacity ≤ s.keys.length && s.oldest = some k
  | .sweep dead => dead k v
  | .clear => true

/-- The key that the operation puts or reads, with its value. -/
def used (s : Lru κ ν) : Op κ ν → Option (κ × ν)
  | .read key dead => ((s.lookup key).filter (!dead ·)).map (key, ·)
  | .put key value => some (key, value)
  | .sweep _ | .clear => none

def use (s : Lru κ ν) : Option (κ × ν) → Lru κ ν
  | some (key, value) => s.insert key value
  | none => s

def step (capacity : Nat) (s : Lru κ ν) (op : Op κ ν) : Lru κ ν :=
  (s.keep fun k v => !removes capacity s op k v).use (used s op)

def run (capacity : Nat) (s : Lru κ ν) (ops : List (Op κ ν)) : Lru κ ν :=
  ops.foldl (step capacity) s

/-- The keys that a run uses, the most recent one last. -/
def uses (capacity : Nat) : Lru κ ν → List (Op κ ν) → List κ
  | _, [] => []
  | s, op :: ops => ((used s op).map Prod.fst).toList ++ uses capacity (step capacity s op) ops

/-- The value was put at the key, and from then on no operation put another or took it away. -/
def Resident (capacity : Nat) (ops : List (Op κ ν)) (k : κ) (v : ν) : Prop :=
  ∃ before after, ops = before ++ .put k v :: after ∧
    ∀ between op rest, after = between ++ op :: rest →
      (∀ v', op ≠ .put k v') ∧
        removes capacity (run capacity ∅ (before ++ .put k v :: between)) op k v = false

theorem step_of_used_none {s : Lru κ ν} {op : Op κ ν} (h : used s op = none) :
    step capacity s op = s.keep fun k v => !removes capacity s op k v := by
  rw [step, h]
  rfl

theorem step_of_used_some {s : Lru κ ν} {op : Op κ ν} {k : κ} {v : ν}
    (h : used s op = some (k, v)) :
    step capacity s op = (s.keep fun k v => !removes capacity s op k v).insert k v := by
  rw [step, h]
  rfl

@[simp] theorem run_concat (s : Lru κ ν) (ops : List (Op κ ν)) (op : Op κ ν) :
    run capacity s (ops ++ [op]) = step capacity (run capacity s ops) op :=
  List.foldl_concat ..

theorem uses_concat (s : Lru κ ν) (ops : List (Op κ ν)) (op : Op κ ν) :
    uses capacity s (ops ++ [op]) =
      uses capacity s ops ++ ((used (run capacity s ops) op).map Prod.fst).toList := by
  induction ops generalizing s with
  | nil => simp [uses, run]
  | cons first ops ih => simp [uses, ih, run]

/-! ## What a lookup finds -/

theorem lookup_keep (p : κ → ν → Bool) (s : Lru κ ν) (k : κ) :
    (s.keep p).lookup k = (s.lookup k).filter (p k) := by
  apply Option.ext
  intro v
  rw [← Option.mem_def, AList.mem_lookup_iff, Option.filter_eq_some_iff, ← Option.mem_def,
    AList.mem_lookup_iff]
  exact List.mem_filter

theorem lookup_use (s : Lru κ ν) (key : κ) (value : ν) (k : κ) :
    (s.use (some (key, value))).lookup k = if k = key then some value else s.lookup k := by
  by_cases h : k = key
  · rw [if_pos h, h]
    exact AList.lookup_insert s
  · rw [if_neg h]
    exact AList.lookup_insert_ne h

theorem lookup_step (s : Lru κ ν) (op : Op κ ν) (k : κ) (v : ν) :
    (step capacity s op).lookup k = some v ↔
      op = .put k v ∨
        (∀ v', op ≠ .put k v') ∧ s.lookup k = some v ∧ removes capacity s op k v = false := by
  unfold step
  cases op with
  | read key dead =>
    cases hread : (s.lookup key).filter (!dead ·) with
    | none =>
      simp [used, hread, use, lookup_keep, Option.filter_eq_some_iff]
    | some value =>
      obtain ⟨hlookup, halive⟩ := Option.filter_eq_some_iff.mp hread
      simp only [used, hread, Option.map_some, lookup_use, lookup_keep]
      by_cases hk : k = key
      · subst hk
        simp only [hlookup, removes]
        grind
      · simp [hk, removes]
  | put key value =>
    rw [used, lookup_use, lookup_keep]
    by_cases hk : k = key
    · subst hk
      simp
    · simp [hk, Ne.symm hk, Option.filter_eq_some_iff]
  | sweep dead => simp [used, use, lookup_keep, Option.filter_eq_some_iff]
  | clear => simp [used, use, lookup_keep, removes]

theorem resident_concat (ops : List (Op κ ν)) (op : Op κ ν) (k : κ) (v : ν) :
    Resident capacity (ops ++ [op]) k v ↔
      op = .put k v ∨ (∀ v', op ≠ .put k v') ∧ Resident capacity ops k v ∧
        removes capacity (run capacity ∅ ops) op k v = false := by
  constructor
  · rintro ⟨before, after, hops, hafter⟩
    rcases after.eq_nil_or_concat with rfl | ⟨after, last, rfl⟩
    · exact .inl (List.append_inj_right' hops rfl |> List.cons.inj |>.1)
    · rw [List.concat_eq_append, ← List.cons_append, ← List.append_assoc] at hops
      obtain ⟨rfl, hlast⟩ := List.append_inj' hops rfl
      obtain rfl := (List.cons.inj hlast).1
      have hop := hafter after op [] (by simp)
      refine .inr ⟨hop.1, ⟨before, after, rfl, fun between op' rest heq => ?_⟩, hop.2⟩
      exact hafter between op' (rest ++ [op]) (by simp [heq])
  · rintro (rfl | ⟨hput, ⟨before, after, rfl, hafter⟩, hkept⟩)
    · exact ⟨ops, [], rfl, by simp⟩
    · refine ⟨before, after ++ [op], by simp, fun between op' rest heq => ?_⟩
      rcases rest.eq_nil_or_concat with rfl | ⟨rest, last, rfl⟩
      · obtain ⟨rfl, hop⟩ := List.append_inj' heq rfl
        obtain rfl := (List.cons.inj hop).1
        exact ⟨hput, hkept⟩
      · rw [List.concat_eq_append, ← List.cons_append, ← List.append_assoc] at heq
        exact hafter between op' rest (List.append_inj_left' heq rfl)

theorem lookup_run (ops : List (Op κ ν)) (k : κ) (v : ν) :
    (run capacity ∅ ops).lookup k = some v ↔ Resident capacity ops k v := by
  induction ops using List.reverseRecOn with
  | nil => simp [run, Resident]
  | append_singleton ops op ih => rw [run_concat, lookup_step, ih, resident_concat]

/-! ## How the keys stand -/

theorem eq_filter_of_sublist {l l' : List κ} (h : l.Sublist l') (hnodup : l'.Nodup) :
    l = l'.filter (· ∈ l) := by
  induction h with
  | slnil => rfl
  | cons k h ih =>
    obtain ⟨hk, hnodup⟩ := List.nodup_cons.mp hnodup
    have hnot : k ∉ _ := fun hmem => hk (h.subset hmem)
    rw [List.filter_cons_of_neg (by simpa using hnot)]
    exact ih hnodup
  | cons_cons k h ih =>
    obtain ⟨hk, hnodup⟩ := List.nodup_cons.mp hnodup
    rw [List.filter_cons_of_pos (by simp)]
    congr 1
    refine (ih hnodup).trans (List.filter_congr fun k' hk' => ?_)
    have hne : k' ≠ k := fun heq => hk (heq ▸ hk')
    simp [hne]

theorem keys_keep (p : κ → ν → Bool) (s : Lru κ ν) :
    (s.keep p).keys = s.keys.filter fun k => (s.lookup k).any (p k) := by
  refine (eq_filter_of_sublist (keys_keep_sublist p s) s.keys_nodup).trans
    (List.filter_congr fun k _ => ?_)
  rw [Bool.eq_iff_iff, decide_eq_true_iff, ← AList.mem_keys, ← AList.lookup_isSome, lookup_keep]
  cases s.lookup k with
  | none => simp
  | some v => by_cases h : p k v <;> simp [h]

theorem keys_use (s : Lru κ ν) (u : Option (κ × ν)) :
    (s.use u).keys =
      (u.map Prod.fst).toList ++ s.keys.filter fun k => u.map Prod.fst ≠ some k := by
  cases u with
  | none => simp [use]
  | some u =>
    rw [use, AList.keys_insert, s.keys_nodup.erase_eq_filter]
    simp only [Option.map_some, Option.toList_some, List.singleton_append, List.cons.injEq,
      true_and]
    exact List.filter_congr fun k _ => by grind

theorem keys_step (s : Lru κ ν) (op : Op κ ν) :
    (step capacity s op).keys.Sublist (((used s op).map Prod.fst).toList ++
      s.keys.filter fun k => (used s op).map Prod.fst ≠ some k) := by
  rw [step, keys_use]
  exact .append_left (.filter _ (keys_keep_sublist _ s)) _

theorem dedup_append_toList (l : List κ) (u : Option κ) :
    (l ++ u.toList).dedup = (l.dedup.filter fun k => u ≠ some k) ++ u.toList := by
  induction l with
  | nil => cases u <;> simp
  | cons k l ih =>
    rw [List.cons_append, List.dedup_cons, List.dedup_cons, ih]
    by_cases hk : k ∈ l
    · simp [hk]
    · by_cases hu : u = some k
      · simp [hk, hu]
      · have hmem : k ∉ u.toList := by simpa using hu
        simp [hk, hu, hmem]

theorem keys_run_sublist (ops : List (Op κ ν)) :
    (run capacity ∅ ops).keys.reverse.Sublist (uses capacity ∅ ops).dedup := by
  induction ops using List.reverseRecOn with
  | nil => exact .refl _
  | append_singleton ops op ih =>
    rw [run_concat, uses_concat, dedup_append_toList]
    refine (keys_step _ op).reverse.trans ?_
    rw [List.reverse_append, ← List.filter_reverse]
    refine .append (ih.filter _) ?_
    cases (used (run capacity ∅ ops) op).map Prod.fst <;> exact .refl _

theorem keys_run (ops : List (Op κ ν)) :
    (run capacity ∅ ops).keys.reverse =
      (uses capacity ∅ ops).dedup.filter (· ∈ run capacity ∅ ops) := by
  refine (eq_filter_of_sublist (keys_run_sublist ops) (List.nodup_dedup _)).trans ?_
  exact List.filter_congr fun k _ => by simp [AList.mem_keys]

/-! ## How many keys there are -/

theorem length_insert_keep_le {p : κ → ν → Bool} {s : Lru κ ν} {k : κ} (h : k ∈ s) (v : ν) :
    ((s.keep p).insert k v).keys.length ≤ s.keys.length := by
  have hpos : 0 < s.keys.length := List.length_pos_of_mem (AList.mem_keys.mp h)
  have herase := ((keys_keep_sublist p s).erase k).length_le
  rw [List.length_erase_of_mem (AList.mem_keys.mp h)] at herase
  rw [AList.keys_insert, List.length_cons]
  omega

theorem length_insert_keep_le_of_oldest {p : κ → ν → Bool} {s : Lru κ ν} {oldest : κ}
    (h : s.oldest = some oldest) (hp : ∀ v, p oldest v = false) (k : κ) (v : ν) :
    ((s.keep p).insert k v).keys.length ≤ s.keys.length := by
  have hlt : (s.keep p).keys.length < s.keys.length := by
    rw [keys_keep, List.length_filter_lt_length_iff_exists]
    refine ⟨oldest, List.mem_of_getLast? h, ?_⟩
    cases s.lookup oldest <;> simp [hp]
  have herase : ((s.keep p).keys.erase k).length ≤ (s.keep p).keys.length :=
    List.length_erase_le
  rw [AList.keys_insert, List.length_cons]
  omega

theorem length_step_le {s : Lru κ ν} (hs : s.keys.length ≤ max capacity 1) (op : Op κ ν) :
    (step capacity s op).keys.length ≤ max capacity 1 := by
  cases hused : used s op with
  | none =>
    rw [step_of_used_none hused]
    exact Nat.le_trans (keys_keep_sublist _ s).length_le hs
  | some u =>
    obtain ⟨k, v⟩ := u
    rw [step_of_used_some hused]
    by_cases hk : k ∈ s
    · exact Nat.le_trans (length_insert_keep_le hk v) hs
    · cases op with
      | read key dead =>
        -- what is read is there
        obtain ⟨value, hvalue, heq⟩ := Option.map_eq_some_iff.mp hused
        obtain ⟨rfl, rfl⟩ := Prod.mk.inj heq
        have hlookup := (Option.filter_eq_some_iff.mp hvalue).1
        exact absurd (AList.lookup_isSome.mp (by rw [hlookup]; rfl)) hk
      | put key value =>
        obtain ⟨rfl, rfl⟩ := Prod.mk.inj (Option.some.inj hused)
        by_cases hfull : capacity ≤ s.keys.length
        · cases holdest : s.oldest with
          | some oldest =>
            refine Nat.le_trans (length_insert_keep_le_of_oldest holdest (fun v => ?_) key value) hs
            simp [removes, hk, hfull, holdest]
          | none =>
            -- only an empty map has no oldest key
            have hempty : s.keys = [] := List.getLast?_eq_none_iff.mp holdest
            have hlen := (keys_keep_sublist (fun k v =>
              !removes capacity s (.put key value) k v) s).length_le
            rw [hempty, List.length_nil, Nat.le_zero, List.length_eq_zero_iff] at hlen
            rw [AList.keys_insert, hlen]
            exact Nat.le_max_right capacity 1
        · have herase := ((keys_keep_sublist (fun k v =>
            !removes capacity s (.put key value) k v) s).erase key).length_le
          have hle : (s.keys.erase key).length ≤ s.keys.length := List.length_erase_le
          rw [AList.keys_insert, List.length_cons]
          omega
      | sweep dead => cases hused
      | clear => cases hused

theorem length_run_le (ops : List (Op κ ν)) :
    (run capacity ∅ ops).keys.length ≤ max capacity 1 := by
  induction ops using List.reverseRecOn with
  | nil => simp [run]
  | append_singleton ops op ih =>
    rw [run_concat]
    exact length_step_le ih op

end Lru

end Alknet.Lib
