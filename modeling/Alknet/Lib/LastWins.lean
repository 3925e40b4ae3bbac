import Mathlib.Data.List.AList
import Mathlib.Data.List.Induction

/-!
# Maps in which the last item of a key wins

Items with a key are put into a map one after the other.
-/

namespace Alknet.Lib.LastWins

variable {α κ : Type}

/-- The last item of the list with its key. -/
def Latest (key : α → κ) (items : List α) (item : α) : Prop :=
  ∃ earlier later, items = earlier ++ item :: later ∧ ∀ other ∈ later, key other ≠ key item

section Latest

variable {key : α → κ} {items : List α} {item : α}

theorem Latest.mem (h : Latest key items item) : item ∈ items := by
  obtain ⟨earlier, later, rfl, -⟩ := h
  exact List.mem_append_right _ List.mem_cons_self

theorem latest_concat_self : Latest key (items ++ [item]) item :=
  ⟨items, [], rfl, by simp⟩

theorem latest_concat_iff {last : α} :
    Latest key (items ++ [last]) item ↔
      item = last ∨ (Latest key items item ∧ key last ≠ key item) := by
  constructor
  · rintro ⟨earlier, later, heq, hlater⟩
    rcases List.eq_nil_or_concat later with rfl | ⟨later, other, rfl⟩
    · exact .inl (List.cons.inj (List.append_inj' heq rfl).2).1.symm
    · rw [List.concat_eq_append] at heq hlater
      rw [← List.cons_append, ← List.append_assoc] at heq
      obtain ⟨rfl, hlast⟩ := List.append_inj' heq rfl
      cases hlast
      exact .inr ⟨⟨earlier, later, rfl, fun x hx => hlater x (by simp [hx])⟩, hlater _ (by simp)⟩
  · rintro (rfl | ⟨⟨earlier, later, rfl, hlater⟩, hne⟩)
    · exact latest_concat_self
    · refine ⟨earlier, later ++ [last], by simp, fun other hother => ?_⟩
      rcases List.mem_append.mp hother with hother | hother
      · exact hlater other hother
      · rwa [List.mem_singleton.mp hother]

end Latest

variable [DecidableEq κ]

def collect (key : α → κ) (items : List α) : AList fun _ : κ => α :=
  items.foldl (fun map item => map.insert (key item) item) ∅

theorem foldl_eq_collect {ρ : Type} {key : α → κ} (toMap : ρ → AList fun _ : κ => α)
    {put : ρ → α → ρ} (hput : ∀ r item, toMap (put r item) = (toMap r).insert (key item) item)
    {r : ρ} (hr : toMap r = ∅) (items : List α) :
    toMap (items.foldl put r) = collect key items := by
  induction items using List.reverseRecOn with
  | nil => exact hr
  | append_singleton items item ih =>
    rw [List.foldl_concat, hput, ih, collect, collect, List.foldl_concat]

theorem lookup_collect {key : α → κ} {items : List α} {k : κ} {item : α} :
    (collect key items).lookup k = some item ↔ Latest key items item ∧ key item = k := by
  induction items using List.reverseRecOn generalizing item with
  | nil =>
    simp only [collect, List.foldl_nil, AList.lookup_empty, reduceCtorEq, false_iff]
    rintro ⟨⟨earlier, later, h, -⟩, -⟩
    simp at h
  | append_singleton items last ih =>
    unfold collect at ih ⊢
    rw [List.foldl_concat, latest_concat_iff]
    by_cases h : key last = k
    · rw [← h, AList.lookup_insert, Option.some.injEq]
      constructor
      · rintro rfl
        exact ⟨.inl rfl, rfl⟩
      · rintro ⟨rfl | ⟨-, hne⟩, hkey⟩
        · rfl
        · exact absurd hkey.symm hne
    · rw [AList.lookup_insert_ne (Ne.symm h), ih]
      constructor
      · rintro ⟨hlatest, rfl⟩
        exact ⟨.inr ⟨hlatest, h⟩, rfl⟩
      · rintro ⟨rfl | ⟨hlatest, -⟩, hkey⟩
        · exact absurd hkey h
        · exact ⟨hlatest, hkey⟩

theorem mem_entries_collect {key : α → κ} {items : List α} {entry : Σ _ : κ, α} :
    entry ∈ (collect key items).entries ↔
      Latest key items entry.2 ∧ key entry.2 = entry.1 := by
  obtain ⟨k, item⟩ := entry
  rw [← AList.mem_lookup_iff, Option.mem_def, lookup_collect]

theorem exists_latest_iff {key : α → κ} {items : List α} {k : κ} :
    (∃ item, Latest key items item ∧ key item = k) ↔ ∃ item ∈ items, key item = k := by
  constructor
  · rintro ⟨item, h, hkey⟩
    exact ⟨item, h.mem, hkey⟩
  · induction items using List.reverseRecOn with
    | nil => simp
    | append_singleton items last ih =>
      rintro ⟨item, hmem, hkey⟩
      by_cases hlast : key last = k
      · exact ⟨last, latest_concat_self, hlast⟩
      · have hitem : item ∈ items := by
          rcases List.mem_append.mp hmem with h | h
          · exact h
          · exact absurd (List.mem_singleton.mp h ▸ hkey) hlast
        obtain ⟨found, hfound, hk⟩ := ih ⟨item, hitem, hkey⟩
        exact ⟨found, latest_concat_iff.mpr (.inr ⟨hfound, hk ▸ hlast⟩), hk⟩

theorem nodup_key_collect (key : α → κ) (items : List α) :
    ((collect key items).entries.map fun entry => key entry.2).Nodup := by
  have hkeys : ((collect key items).entries.map fun entry => key entry.2) =
      (collect key items).keys :=
    List.map_congr_left fun entry hentry => (mem_entries_collect.mp hentry).2
  rw [hkeys]
  exact AList.keys_nodup _

end Alknet.Lib.LastWins
