import Alknet.Config.HostPattern
import Alknet.Config.Policy
import Alknet.Rust.NetSpec

/-!
# Respelled host names

Rules are matched against the text of the requested name. `SpellingBlind` says which texts of rules
cannot tell two spellings of a name apart, and the decision of a policy is the same for all
spellings where its rules are such texts.
-/

open Alknet.Rust Alknet.Lib

namespace Alknet

/-- Two host names that differ only in the case of ASCII letters and in one trailing dot. They are
names, so neither is the text of an address. -/
structure Respelled (a b : String) : Prop where
  name_left : IpAddr.from_str a = none
  name_right : IpAddr.from_str b = none
  same : let lower := fun s : String => s.toList.map Char.toLower
    lower a = lower b ∨ lower a = lower b ++ ['.'] ∨ lower b = lower a ++ ['.']

/-- A host pattern that is an address, or ends in its only `*` with no letter before it. A dot right
before the `*` could be a name's trailing one, unless what it ends is an address. -/
def SpellingBlind (pattern : String) : Prop :=
  let before := pattern.toList.takeWhile (· ≠ '*')
  if '*' ∈ pattern.toList then
    pattern.toList = before ++ ['*'] ∧ before.all (! ·.isAlpha) ∧
      (before.getLast? = some '.' → (IpAddr.from_str (String.ofList before.dropLast)).isSome)
  else (IpAddr.from_str pattern).isSome

instance (pattern : String) : Decidable (SpellingBlind pattern) := by
  unfold SpellingBlind
  infer_instance

section

variable {IpNetwork : Type}

def TargetPattern.SpellingBlind (port : UInt16) : TargetPattern IpNetwork → Prop
  | .Any => True
  | .Host pattern => Alknet.SpellingBlind pattern
  | .Cidr _ => True
  | .PortRange host_pattern start stop =>
    start ≤ port ∧ port < stop → Alknet.SpellingBlind host_pattern
  | .AlknetPrefix => False

instance (port : UInt16) (target : TargetPattern IpNetwork) :
    Decidable (target.SpellingBlind port) := by
  cases target <;> unfold TargetPattern.SpellingBlind <;> infer_instance

end

/-! ## Letters -/

theorem toNat_lt_of_isAlpha {c : Char} (h : c.isAlpha = true) : c.toNat < 123 := by
  have hz : c.val ≤ 'z'.val := by
    rcases Bool.or_eq_true_iff.mp h with hupper | hlower
    · exact UInt32.le_trans (of_decide_eq_true hupper).2 (by decide)
    · exact of_decide_eq_true (Bool.and_eq_true_iff.mp hlower).2
  exact Nat.lt_succ_of_le (UInt32.le_iff_toNat_le.mp hz)

theorem isAlpha_toLower {c : Char} (h : c.isAlpha = true) : c.toLower.isAlpha = true := by
  have hall : ∀ n < 123, (Char.ofNat n).isAlpha = true →
      (Char.ofNat n).toLower.isAlpha = true := by decide
  have hc := hall c.toNat (toNat_lt_of_isAlpha h)
  rw [Char.ofNat_toNat] at hc
  exact hc h

theorem exists_other_case {c : Char} (h : c.isAlpha = true) :
    ∃ d, d ≠ c ∧ d.toLower = c.toLower := by
  have hall : ∀ n < 123, (Char.ofNat n).isAlpha = true →
      let d := if (Char.ofNat n).isUpper then (Char.ofNat n).toLower else (Char.ofNat n).toUpper
      d ≠ Char.ofNat n ∧ d.toLower = (Char.ofNat n).toLower := by decide
  have hc := hall c.toNat (toNat_lt_of_isAlpha h)
  rw [Char.ofNat_toNat] at hc
  exact ⟨_, hc h⟩

theorem toLower_of_not_alpha {c : Char} (h : c.isAlpha = false) : c.toLower = c := by
  have hupper : c.isUpper = false := (Bool.or_eq_false_iff.mp h).1
  exact dif_neg (of_decide_eq_false hupper)

theorem eq_of_toLower_eq {c d : Char} (hc : c.isAlpha = false) (h : d.toLower = c.toLower) :
    d = c := by
  rw [toLower_of_not_alpha hc] at h
  cases hd : d.isAlpha with
  | true =>
    have halpha := isAlpha_toLower hd
    rw [h, hc] at halpha
    cases halpha
  | false => rwa [toLower_of_not_alpha hd] at h

theorem eq_of_map_toLower_eq {l m : List Char} (hl : ∀ c ∈ l, c.isAlpha = false)
    (h : m.map Char.toLower = l.map Char.toLower) : m = l := by
  induction l generalizing m with
  | nil => simpa using h
  | cons c l ih =>
    obtain ⟨d, m, rfl, hd, hm⟩ := List.map_eq_cons_iff.mp h
    obtain ⟨hc, hl⟩ := List.forall_mem_cons.mp hl
    rw [eq_of_toLower_eq hc hd, ih hl hm]

theorem begins_of_map_toLower {l m rest : List Char} (hl : ∀ c ∈ l, c.isAlpha = false)
    (h : m.map Char.toLower = l.map Char.toLower ++ rest) : l <+: m := by
  obtain ⟨front, back, rfl, hfront, -⟩ := List.map_eq_append_iff.mp h
  rw [eq_of_map_toLower_eq hl hfront]
  exact List.prefix_append l back

/-! ## Names -/

theorem Respelled.symm {a b : String} (h : Respelled a b) : Respelled b a where
  name_left := h.name_right
  name_right := h.name_left
  same := by
    rcases h.same with h | h | h
    · exact .inl h.symm
    · exact .inr (.inr h)
    · exact .inr (.inl h)

theorem name_of_mem_x {text : List Char} (h : 'x' ∈ text) :
    IpAddr.from_str (String.ofList text) = none := by
  by_contra hsome
  obtain ⟨ip, hip⟩ := Option.ne_none_iff_exists'.mp hsome
  have hall := (IpAddr.from_str_text hip).all
  rw [String.toList_ofList, List.all_eq_true] at hall
  exact absurd (hall 'x' h) (by decide)

theorem name_of_dot (text : List Char) :
    IpAddr.from_str (String.ofList (text ++ ['.'])) = none := by
  by_contra hsome
  obtain ⟨ip, hip⟩ := Option.ne_none_iff_exists'.mp hsome
  have hlast := (IpAddr.from_str_text hip).last
  rw [String.toList_ofList, List.getLast?_append] at hlast
  exact hlast rfl

theorem respelled_dot {text : List Char} (h : IpAddr.from_str (String.ofList text) = none) :
    Respelled (String.ofList text) (String.ofList (text ++ ['.'])) where
  name_left := h
  name_right := name_of_dot text
  same := .inr (.inr (by simp [String.toList_ofList]))

/-! ## Host patterns -/

theorem match_filled_iff {pattern target : String} {before after : List Char}
    (hpattern : pattern.toList = before ++ '*' :: after) (hbefore : '*' ∉ before) :
    match_host_pattern pattern target = true ↔
      ∃ filler, target.toList = before ++ (filler ++ after) := by
  rw [match_star_iff hpattern hbefore]
  refine ⟨?_, .inr⟩
  rintro (rfl | h)
  · exact ⟨['*'], hpattern⟩
  · exact h

theorem match_open_iff {pattern target : String} {before : List Char}
    (hpattern : pattern.toList = before ++ ['*']) (hbefore : '*' ∉ before) :
    match_host_pattern pattern target = true ↔ before <+: target.toList := by
  rw [match_filled_iff hpattern hbefore]
  simp only [List.append_nil]
  exact ⟨fun ⟨filler, h⟩ => ⟨filler, h.symm⟩, fun ⟨filler, h⟩ => ⟨filler, h.symm⟩⟩

theorem begins_respelled {before : List Char} (hletters : ∀ c ∈ before, c.isAlpha = false)
    (hdot : before.getLast? = some '.' →
      (IpAddr.from_str (String.ofList before.dropLast)).isSome)
    {a b : String} (h : Respelled a b) (hbegins : before <+: a.toList) : before <+: b.toList := by
  obtain ⟨rest, hrest⟩ := hbegins
  have hlower : a.toList.map Char.toLower = before.map Char.toLower ++ rest.map Char.toLower := by
    rw [← hrest, List.map_append]
  have hspelled := h.same
  simp only at hspelled
  rcases hspelled with hsame | hsame | hsame
  · exact begins_of_map_toLower hletters (hsame.symm.trans hlower)
  · rw [hlower] at hsame
    rcases List.eq_nil_or_concat rest with rfl | ⟨rest, c, rfl⟩
    -- the dot that `b` lacks is the last character before the star
    · rw [List.map_nil, List.append_nil] at hsame
      obtain ⟨name, last, rfl, hname, hlast⟩ := List.map_eq_append_iff.mp hsame
      obtain ⟨c, rfl, hc⟩ := List.map_eq_singleton_iff.mp hlast
      obtain rfl := eq_of_toLower_eq (c := '.') (by decide) hc
      have heq : b.toList = name :=
        eq_of_map_toLower_eq (fun c hc => hletters c (List.mem_append_left _ hc)) hname.symm
      have haddress := hdot (by rw [List.getLast?_append]; rfl)
      rw [List.dropLast_concat, ← heq, String.ofList_toList, h.name_right] at haddress
      cases haddress
    · rw [List.concat_eq_append, List.map_append, ← List.append_assoc] at hsame
      exact begins_of_map_toLower hletters (List.append_inj' hsame rfl).1.symm
  · rw [hlower, List.append_assoc] at hsame
    exact begins_of_map_toLower hletters hsame

theorem SpellingBlind.matches_same {pattern a b : String} (h : SpellingBlind pattern)
    (hspelled : Respelled a b) : match_host_pattern pattern a = match_host_pattern pattern b := by
  rw [Bool.eq_iff_iff]
  unfold SpellingBlind at h
  split at h
  · obtain ⟨hpattern, hletters, hdot⟩ := h
    have hbefore : '*' ∉ pattern.toList.takeWhile (· ≠ '*') := fun hmem => by
      simpa using List.mem_takeWhile_imp hmem
    simp only [List.all_eq_true, Bool.not_eq_true'] at hletters
    rw [match_open_iff hpattern hbefore, match_open_iff hpattern hbefore]
    exact ⟨begins_respelled hletters hdot hspelled, begins_respelled hletters hdot hspelled.symm⟩
  · rename_i hstar
    rw [match_literal_iff hstar, match_literal_iff hstar]
    refine iff_of_false ?_ ?_
    · rintro rfl
      rw [hspelled.name_left] at h
      cases h
    · rintro rfl
      rw [hspelled.name_right] at h
      cases h

/-! ## Patterns that tell spellings apart -/

section

variable {pattern : String} {before after : List Char}
  (hsame : ∀ a b, Respelled a b → match_host_pattern pattern a = match_host_pattern pattern b)

include hsame

theorem address_of_same (hstar : '*' ∉ pattern.toList) : (IpAddr.from_str pattern).isSome := by
  by_contra hname
  rw [Option.not_isSome_iff_eq_none] at hname
  have hdot := hsame _ (String.ofList (pattern.toList ++ ['.']))
    (respelled_dot (by rwa [String.ofList_toList]))
  rw [String.ofList_toList, (match_literal_iff hstar).mpr rfl] at hdot
  have heq := congrArg (List.length ∘ String.toList) ((match_literal_iff hstar).mp hdot.symm)
  simp at heq

theorem nothing_after_of_same (hpattern : pattern.toList = before ++ '*' :: after)
    (hbefore : '*' ∉ before) : after = [] := by
  rcases List.eq_nil_or_concat after with rfl | ⟨init, last, rfl⟩
  · rfl
  rw [List.concat_eq_append] at hpattern ⊢
  have hmatch : ∀ text : List Char, match_host_pattern pattern (String.ofList text) = true ↔
      ∃ filler, text = before ++ (filler ++ (init ++ [last])) := by
    intro text
    rw [match_filled_iff hpattern hbefore, String.toList_ofList]
  have hdotted : ∀ text : List Char, 'x' ∈ text →
      ((∃ filler, text = before ++ (filler ++ (init ++ [last]))) ↔
        ∃ filler, text ++ ['.'] = before ++ (filler ++ (init ++ [last]))) := by
    intro text hx
    rw [← hmatch, ← hmatch, hsame _ _ (respelled_dot (name_of_mem_x hx))]
  -- a dot more, so the pattern ends in a dot
  obtain ⟨filler, hlonger⟩ :=
    (hdotted (before ++ 'x' :: (init ++ [last])) (by simp)).mp ⟨['x'], rfl⟩
  have hlast : last = '.' := by
    have hend := congrArg List.getLast? hlonger
    simp only [List.getLast?_append, List.getLast?_singleton] at hend
    simpa using hend.symm
  subst hlast
  -- a dot less, and a text that does not end as the pattern
  obtain ⟨filler', hshorter⟩ := (hdotted (before ++ 'x' :: init) (by simp)).mpr ⟨['x'], by simp⟩
  have htail := List.append_cancel_left hshorter
  have hlength := congrArg List.length htail
  have hfiller : filler' = [] := by
    simp only [List.length_cons, List.length_append, List.length_nil] at hlength
    exact List.length_eq_zero_iff.mp (by omega)
  have hcount := congrArg (List.count 'x') htail
  rw [hfiller, List.nil_append, List.count_cons_self, List.count_append] at hcount
  have hnone : List.count 'x' ['.'] = 0 := by decide
  omega

theorem no_letter_of_same (hpattern : pattern.toList = before ++ ['*']) (hbefore : '*' ∉ before) :
    ∀ c ∈ before, c.isAlpha = false := by
  intro c hc
  by_contra halpha
  rw [Bool.not_eq_false] at halpha
  obtain ⟨d, hne, hlower⟩ := exists_other_case halpha
  obtain ⟨l, r, rfl⟩ := List.append_of_mem hc
  have hspelled : Respelled (String.ofList (l ++ c :: r ++ ['x']))
      (String.ofList (l ++ d :: r ++ ['x'])) :=
    ⟨name_of_mem_x (by simp), name_of_mem_x (by simp), .inl (by simp [hlower])⟩
  have hmatch : match_host_pattern pattern (String.ofList (l ++ c :: r ++ ['x'])) = true := by
    rw [match_open_iff hpattern hbefore, String.toList_ofList]
    exact List.prefix_append _ _
  rw [hsame _ _ hspelled, match_open_iff hpattern hbefore, String.toList_ofList,
    List.append_assoc, List.prefix_append_right_inj] at hmatch
  simp only [List.cons_append, List.cons_prefix_cons] at hmatch
  exact hne hmatch.1.symm

theorem address_before_dot_of_same (hpattern : pattern.toList = before ++ ['*'])
    (hbefore : '*' ∉ before) (hdot : before.getLast? = some '.') :
    (IpAddr.from_str (String.ofList before.dropLast)).isSome := by
  by_contra hname
  rw [Option.not_isSome_iff_eq_none] at hname
  have hsplit : before.dropLast ++ ['.'] = before := List.dropLast_append_getLast? '.' hdot
  have hmatch : match_host_pattern pattern (String.ofList before) = true := by
    rw [match_open_iff hpattern hbefore, String.toList_ofList]
  have hdotted := hsame _ _ (respelled_dot hname)
  rw [hsplit, hmatch, match_open_iff hpattern hbefore, String.toList_ofList] at hdotted
  have hlength := hdotted.length_le
  have hsplit := congrArg List.length hsplit
  rw [List.length_append, List.length_singleton] at hsplit
  omega

end

theorem spellingBlind_iff (pattern : String) :
    SpellingBlind pattern ↔
      ∀ a b, Respelled a b → match_host_pattern pattern a = match_host_pattern pattern b := by
  refine ⟨fun h a b => h.matches_same, fun hsame => ?_⟩
  unfold SpellingBlind
  split
  · rename_i hstar
    obtain ⟨before, after, hpattern, hbefore⟩ := List.eq_append_cons_of_mem hstar
    obtain rfl := nothing_after_of_same hsame hpattern hbefore
    simp only [hpattern, (split_at_star hbefore []).1, List.all_eq_true, Bool.not_eq_true']
    exact ⟨trivial, no_letter_of_same hsame hpattern hbefore,
      address_before_dot_of_same hsame hpattern hbefore⟩
  · rename_i hstar
    exact address_of_same hsame hstar

/-! ## Rules and policies -/

section

variable {IpNetwork : Type} [Network IpNetwork]

/-- The rule is for this identity and transport. -/
def ForwardingRule.applies (rule : ForwardingRule IpNetwork) (identity : Identity)
    (transport : TransportKind) : Bool :=
  rule.matches_principal identity && rule.matches_transport transport

/-- The rule decides every request for a name, if no rule before it does. -/
def ForwardingRule.TakesNames (rule : ForwardingRule IpNetwork) (port : UInt16)
    (identity : Identity) (transport : TransportKind) : Prop :=
  ∀ name, IpAddr.from_str name = none → rule.takes name port identity transport = true

theorem takes_eq (rule : ForwardingRule IpNetwork) (target : String) (port : UInt16)
    (identity : Identity) (transport : TransportKind) :
    rule.takes target port identity transport =
      (rule.target.matches target port && rule.applies identity transport) :=
  Bool.and_assoc _ _ _

theorem target_spellingBlind_iff (target : TargetPattern IpNetwork) (port : UInt16) :
    target.SpellingBlind port ↔
      ∀ a b, Respelled a b → target.matches a port = target.matches b port := by
  cases target with
  | Any => exact iff_of_true trivial fun _ _ _ => rfl
  | Host pattern => exact spellingBlind_iff pattern
  | Cidr network =>
    refine iff_of_true trivial fun a b h => ?_
    simp only [TargetPattern.matches, match_cidr, h.name_left, h.name_right]
  | PortRange host_pattern start stop =>
    by_cases hport : start ≤ port ∧ port < stop
    · simp [TargetPattern.SpellingBlind, TargetPattern.matches, hport, spellingBlind_iff]
    · simp [TargetPattern.SpellingBlind, TargetPattern.matches, hport]
  | AlknetPrefix =>
    have hspelled : Respelled "alknet-x" "Alknet-x" := ⟨by decide, by decide, .inl (by decide)⟩
    have hdiffer : starts_with "alknet-x" ALKNET_PREFIX ≠ starts_with "Alknet-x" ALKNET_PREFIX := by
      decide
    exact iff_of_false id fun h => hdiffer (h _ _ hspelled)

theorem takes_respelled {rule : ForwardingRule IpNetwork} {port : UInt16} {identity : Identity}
    {transport : TransportKind}
    (h : rule.applies identity transport = true → rule.target.SpellingBlind port) {a b : String}
    (hspelled : Respelled a b) :
    rule.takes a port identity transport = rule.takes b port identity transport := by
  rw [takes_eq, takes_eq]
  cases happlies : rule.applies identity transport with
  | false => rw [Bool.and_false, Bool.and_false]
  | true => rw [(target_spellingBlind_iff rule.target port).mp (h happlies) a b hspelled]

theorem check_respelled {policy : ForwardingPolicy IpNetwork} {port : UInt16} {identity : Identity}
    {transport : TransportKind}
    (h : ∀ before rule after, policy.rules = before ++ rule :: after →
      rule.applies identity transport = true →
      rule.target.SpellingBlind port ∨ ∃ e ∈ before, e.TakesNames port identity transport)
    {a b : String} (hspelled : Respelled a b) :
    policy.check a port identity transport = policy.check b port identity transport := by
  rw [check_eq_pick, check_eq_pick]
  refine pick_eq_of_shadowed
    (p := fun rule : ForwardingRule IpNetwork => rule.takes a port identity transport)
    (q := fun rule => rule.takes b port identity transport) ?_ _ (List.map_id policy.rules)
  intro before rule after hrules hdiffer
  by_contra hnone
  refine hdiffer (takes_respelled (fun happlies => ?_) hspelled)
  refine (h before rule after hrules happlies).resolve_right ?_
  rintro ⟨e, he, htakes⟩
  exact hnone ⟨e, he, htakes a hspelled.name_left, htakes b hspelled.name_right⟩

theorem check_one_rule (default : ForwardingAction) (rule : ForwardingRule IpNetwork)
    (target : String) (port : UInt16) {identity : Identity} {transport : TransportKind}
    (happlies : rule.applies identity transport = true) :
    (ForwardingPolicy.mk default [rule]).check target port identity transport =
      if rule.target.matches target port then rule.allows else default == .Allow := by
  rw [check_eq_pick, pick, takes_eq, happlies, Bool.and_true]
  rfl

/-- **Respelled names** get one decision where each rule is blind to the spelling or behind one that
takes every name. -/
theorem respelled_decision (port : UInt16) (identity : Identity) (transport : TransportKind) :
    (∀ target : TargetPattern IpNetwork, target.SpellingBlind port ↔
      ∀ a b, Respelled a b → target.matches a port = target.matches b port) ∧
    (∀ policy : ForwardingPolicy IpNetwork,
      (∀ before rule after, policy.rules = before ++ rule :: after →
        rule.applies identity transport = true →
        rule.target.SpellingBlind port ∨ ∃ e ∈ before, e.TakesNames port identity transport) →
      ∀ a b, Respelled a b →
        policy.check a port identity transport = policy.check b port identity transport) ∧
    ∀ (default : ForwardingAction) (rule : ForwardingRule IpNetwork),
      rule.applies identity transport = true →
      ((∀ a b, Respelled a b →
          (ForwardingPolicy.mk default [rule]).check a port identity transport =
            (ForwardingPolicy.mk default [rule]).check b port identity transport) ↔
        rule.target.SpellingBlind port ∨ rule.action = default) := by
  refine ⟨fun target => target_spellingBlind_iff target port, fun policy h a b => check_respelled h,
    fun default rule happlies => ?_⟩
  rw [target_spellingBlind_iff]
  simp only [check_one_rule default rule _ port happlies]
  constructor
  · intro hsame
    by_contra hneither
    rw [not_or] at hneither
    obtain ⟨hblind, haction⟩ := hneither
    refine hblind fun a b hspelled => ?_
    have hdecides := hsame a b hspelled
    have hlabel : rule.allows ≠ (default == .Allow) := by
      unfold ForwardingRule.allows
      revert haction
      cases rule.action <;> cases default <;> decide
    cases ha : rule.target.matches a port <;> cases hb : rule.target.matches b port <;>
      simp only [ha, hb, if_true, if_false, Bool.false_eq_true] at hdecides
    · rfl
    · exact absurd hdecides.symm hlabel
    · exact absurd hdecides hlabel
    · rfl
  · rintro (hblind | haction) a b hspelled
    · rw [hblind a b hspelled]
    · simp [ForwardingRule.allows, haction]

end

theorem respelled_decision_host_texts :
    let _ : Network Unit := ⟨fun _ _ => false⟩
    let policy : ForwardingPolicy Unit :=
      ⟨.Deny, [⟨.Host "10-*", .Deny, [], []⟩, ⟨.PortRange "*" 80 444, .Allow, [], []⟩]⟩
    policy.check "10-0-0-7.example.com" 443 ⟨"alice", []⟩ .Tcp =
      policy.check "10-0-0-7.EXAMPLE.com." 443 ⟨"alice", []⟩ .Tcp := by
  intro _ policy
  refine (respelled_decision 443 ⟨"alice", []⟩ .Tcp).2.1 policy
    (fun before rule after hrules _ => ?_) _ _ ⟨by decide, by decide, .inr (.inr (by decide))⟩
  have hmem : rule ∈ policy.rules := by rw [hrules]; simp
  rcases List.mem_cons.mp hmem with rfl | hmem
  · exact .inl (by decide)
  · obtain rfl := List.mem_singleton.mp hmem
    exact .inl fun _ => by decide

/-- A policy that denies one host. -/
def deny_internal : ForwardingPolicy Unit where
  default := .Allow
  rules := [⟨.Host "internal.example.com", .Deny, [], []⟩]

theorem respelled_bypasses_deny :
    let _ : Network Unit := ⟨fun _ _ => false⟩
    Respelled "internal.example.com" "INTERNAL.example.com" ∧
      deny_internal.check "internal.example.com" 443 ⟨"alice", []⟩ .Tcp = false ∧
      deny_internal.check "INTERNAL.example.com" 443 ⟨"alice", []⟩ .Tcp = true := by
  refine ⟨⟨by decide, by decide, .inl (by decide)⟩, ?_, ?_⟩ <;> decide

end Alknet
