import Alknet.Code.Config.Forwarding
import Alknet.Lib.Glob
import Alknet.Rust.Text

/-!
# Host patterns as globs

`match_host_pattern` reads the first `*` of a pattern as a wildcard and every later one as itself.
-/

open Alknet.Lib Alknet.Rust

namespace Alknet

theorem starts_with_iff (s start : String) :
    starts_with s start = true ↔ ∃ rest, s.toList = start.toList ++ rest := by
  rw [starts_with, List.isPrefixOf_iff_prefix]
  exact ⟨fun ⟨rest, h⟩ => ⟨rest, h.symm⟩, fun ⟨rest, h⟩ => ⟨rest, h.symm⟩⟩

theorem ends_with_iff (s tail : String) :
    ends_with s tail = true ↔ ∃ front, s.toList = front ++ tail.toList := by
  rw [ends_with, List.isSuffixOf_iff_suffix]
  exact ⟨fun ⟨front, h⟩ => ⟨front, h.symm⟩, fun ⟨front, h⟩ => ⟨front, h.symm⟩⟩

theorem begins_and_ends {before after target : List Char} (hbegins : before <+: target)
    (hends : after <:+ target) (hsize : byte_len before + byte_len after ≤ byte_len target) :
    ∃ filler, target = before ++ (filler ++ after) := by
  obtain ⟨rest, rfl⟩ := hbegins
  rw [byte_len_append] at hsize
  rcases List.suffix_or_suffix_of_suffix hends (List.suffix_append before rest) with h | h
  · obtain ⟨filler, rfl⟩ := h
    exact ⟨filler, rfl⟩
  -- the end would reach back over the beginning
  · obtain ⟨front, rfl⟩ := h
    rw [byte_len_append] at hsize
    obtain rfl : front = [] := byte_len_eq_zero.mp (by omega)
    exact ⟨[], rfl⟩

theorem split_at_star {before : List Char} (h : '*' ∉ before) (after : List Char) :
    (before ++ '*' :: after).takeWhile (· ≠ '*') = before ∧
      ((before ++ '*' :: after).dropWhile (· ≠ '*')).drop 1 = after := by
  have hall : ∀ c ∈ before, decide (c ≠ '*') = true := by
    intro c hc
    exact decide_eq_true fun heq => h (heq ▸ hc)
  constructor
  · rw [List.takeWhile_append_of_pos hall]
    simp
  · rw [List.dropWhile_append_of_pos hall]
    simp

theorem match_star_iff {pattern target : String} {before after : List Char}
    (hpattern : pattern.toList = before ++ '*' :: after) (hbefore : '*' ∉ before) :
    match_host_pattern pattern target = true ↔
      pattern = target ∨ ∃ filler, target.toList = before ++ (filler ++ after) := by
  obtain ⟨htake, hdrop⟩ := split_at_star hbefore after
  have hstar : '*' ∈ pattern.toList := by simp [hpattern]
  unfold match_host_pattern
  by_cases heq : pattern = target
  · simp [heq]
  · rw [if_neg heq, if_pos hstar, hpattern, htake, hdrop]
    simp only [heq, false_or, Bool.and_eq_true, decide_eq_true_eq]
    constructor
    · rintro ⟨⟨hstarts, hends⟩, hsize⟩
      rw [starts_with, String.toList_ofList, List.isPrefixOf_iff_prefix] at hstarts
      rw [ends_with, String.toList_ofList, List.isSuffixOf_iff_suffix] at hends
      rw [← byte_len_toList target] at hsize
      exact begins_and_ends hstarts hends hsize
    · rintro ⟨filler, htarget⟩
      refine ⟨⟨?_, ?_⟩, ?_⟩
      · rw [starts_with_iff, htarget, String.toList_ofList]
        exact ⟨_, rfl⟩
      · rw [ends_with_iff, htarget, String.toList_ofList]
        exact ⟨before ++ filler, by rw [List.append_assoc]⟩
      · change byte_len before + byte_len after ≤ _
        rw [← byte_len_toList target, htarget, byte_len_append, byte_len_append]
        omega

theorem match_literal_iff {pattern target : String} (hpattern : '*' ∉ pattern.toList) :
    match_host_pattern pattern target = true ↔ pattern = target := by
  unfold match_host_pattern
  by_cases heq : pattern = target
  · simp [heq]
  · rw [if_neg heq, if_neg hpattern]
    simp [heq]

theorem glob_of_match {pattern target : String} (h : match_host_pattern pattern target = true) :
    Glob '*' pattern.toList target.toList := by
  by_cases hstar : '*' ∈ pattern.toList
  · obtain ⟨before, after, hpattern, hbefore⟩ := List.eq_append_cons_of_mem hstar
    rcases (match_star_iff hpattern hbefore).mp h with rfl | ⟨filler, htarget⟩
    · exact glob_self '*' pattern.toList
    · rw [hpattern, htarget]
      exact glob_append_self hbefore filler after
  · rw [(match_literal_iff hstar).mp h]
    exact glob_self '*' target.toList

theorem count_after_star {before after : List Char} (hbefore : '*' ∉ before) :
    (before ++ '*' :: after).count '*' ≤ 1 ↔ '*' ∉ after := by
  rw [List.count_append, List.count_eq_zero_of_not_mem hbefore, List.count_cons_self,
    ← List.count_eq_zero]
  omega

/-- **Host patterns are globs** if they have no second `*`. -/
theorem host_pattern_glob_iff (pattern : String) :
    (∀ target, match_host_pattern pattern target = true →
      Glob '*' pattern.toList target.toList) ∧
    ((∀ target, match_host_pattern pattern target = true ↔
        Glob '*' pattern.toList target.toList) ↔
      pattern.toList.count '*' ≤ 1) := by
  refine ⟨fun target => glob_of_match, ?_⟩
  by_cases hstar : '*' ∈ pattern.toList
  · obtain ⟨before, after, hpattern, hbefore⟩ := List.eq_append_cons_of_mem hstar
    rw [hpattern, count_after_star hbefore]
    constructor
    -- the target with no `*` in it is not matched by a part that has one
    · intro hall hafter
      have hglob := glob_without_wild '*' (before ++ '*' :: after)
      have hmatch := (hall (String.ofList _)).mpr (by rwa [String.toList_ofList])
      have hfree : '*' ∉ (before ++ '*' :: after).filter (· ≠ '*') := by simp
      rcases (match_star_iff hpattern hbefore).mp hmatch with heq | ⟨filler, htarget⟩
      · rw [heq, String.toList_ofList] at hstar
        exact hfree hstar
      · rw [String.toList_ofList] at htarget
        rw [htarget] at hfree
        exact hfree (by simp [hafter])
    · intro hafter target
      rw [match_star_iff hpattern hbefore, glob_one_wild hbefore hafter]
      constructor
      · rintro (rfl | h)
        · exact ⟨['*'], hpattern⟩
        · exact h
      · exact .inr
  · refine iff_of_true (fun target => ?_) (by simp [List.count_eq_zero_of_not_mem hstar])
    rw [match_literal_iff hstar, glob_literal hstar, ← String.toList_inj]
    exact eq_comm

theorem second_star_literal :
    ¬ (match_host_pattern "*.example.*" "api.example.com" = true ↔
      Glob '*' "*.example.*".toList "api.example.com".toList) := by
  have hend : Glob '*' ".example.*".toList ".example.com".toList :=
    glob_append_self (q := ".example.".toList) (by decide) "com".toList []
  have hglob : Glob '*' "*.example.*".toList "api.example.com".toList :=
    .filled "api".toList hend
  exact fun h => absurd (h.mpr hglob) (by decide)

end Alknet
