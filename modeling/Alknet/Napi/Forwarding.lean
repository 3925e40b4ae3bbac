import Alknet.Code.Napi.Forwarding
import Alknet.Config.Policy
import Alknet.Rust.Decimal

/-!
# What the texts of forwarding rules say

The readings below are what a writer of `"10.0.0.0/8:80"` means. `parse_target_pattern` has no
pattern for a network with ports, for a single port or for the last port of a range.
-/

open Alknet.Rust Alknet.Lib

namespace Alknet

/-! ## Reading the texts -/

/-- The ports that the part behind the last colon names. -/
inductive PortText where
  | all
  | one (port : UInt16)
  | range (first last : UInt16)

def PortText.covers (ports : PortText) (port : UInt16) : Bool :=
  match ports with
  | .all => true
  | .one p => p == port
  | .range first last => decide (first ≤ port ∧ port ≤ last)

def port_text (s : List Char) : Option PortText :=
  if s = ['*'] then some .all
  else
    match parse_u16 s with
    | some port => some (.one port)
    | none =>
      match split_once '-' s with
      | none => none
      | some (first, last) =>
        match parse_u16 first, parse_u16 last with
        | some first, some last => some (.range first last)
        | _, _ => none

inductive HostText (IpNetwork : Type) where
  | network (network : IpNetwork)
  | pattern (pattern : String)

inductive TargetText (IpNetwork : Type) where
  | everything
  | reserved
  | host (host : HostText IpNetwork) (ports : PortText)

variable {IpNetwork : Type}

def HostText.covers [Network IpNetwork] (text : HostText IpNetwork) (host : String) : Bool :=
  match text with
  | .network n => match_cidr n host
  | .pattern p => match_host_pattern p host

def TargetText.covers [Network IpNetwork] (text : TargetText IpNetwork) (host : String)
    (port : UInt16) : Bool :=
  match text with
  | .everything => true
  | .reserved => starts_with host ALKNET_PREFIX
  | .host text ports => text.covers host && ports.covers port

section

variable [ParseNetwork IpNetwork]

def host_text (s : String) : HostText IpNetwork :=
  match ParseNetwork.from_str s with
  | some network => .network network
  | none => .pattern s

/-- The reading of a target, if it has one. -/
def target_text (target : String) : Option (TargetText IpNetwork) :=
  if target = "*" then some .everything
  else if target = "alknet-*" then some .reserved
  else
    match ParseNetwork.from_str target with
    | some network => some (.host (.network network) .all)
    | none =>
      match rsplit_once ':' target.toList with
      | none => some (.host (.pattern target) .all)
      | some (host, ports) => (port_text ports).map (.host (host_text (String.ofList host)))

end

/-- What a rule says about the requests it is for. -/
structure RuleText where
  target : String
  principals : Option (List String)

def ForwardingRuleConfig.text (rc : ForwardingRuleConfig) : RuleText := ⟨rc.target, rc.principals⟩

/-- The rule names the identity or one of its scopes. -/
def RuleText.names (text : RuleText) (identity : Identity) : Bool :=
  (text.principals.getD []).any fun p => p == identity.id || identity.scopes.contains p

def RuleText.for_everyone (text : RuleText) : Bool :=
  (text.principals.getD []).isEmpty || (text.principals.getD []).contains "*"

variable [ParseNetwork IpNetwork]

variable (IpNetwork) in
def RuleText.covers_target (text : RuleText) (host : String) (port : UInt16) : Bool :=
  match (target_text text.target : Option (TargetText IpNetwork)) with
  | some target => target.covers host port
  | none => false

variable (IpNetwork) in
def RuleText.covers (text : RuleText) (host : String) (port : UInt16) (identity : Identity) :
    Bool :=
  text.covers_target IpNetwork host port && (text.for_everyone || text.names identity)

def allows_text [Unicode] (action : String) : Bool :=
  match parse_forwarding_action action with
  | .ok action => action == .Allow
  | .error _ => false

variable (IpNetwork) in
/-- The first rule whose text covers the request decides, else the default. -/
def text_decision [Unicode] (config : ForwardingPolicyConfig) (host : String) (port : UInt16)
    (identity : Identity) : Bool :=
  pick (fun rc => rc.text.covers IpNetwork host port identity) (fun rc => allows_text rc.action)
    (allows_text config.default) (config.rules.getD [])

variable (IpNetwork) in
/-- The configuration means what its texts say: one with a text that says nothing is refused, and
a policy built from it decides as the texts do. -/
def MeansItsTexts [Unicode] (config : ForwardingPolicyConfig) (host : String) (port : UInt16)
    (identity : Identity) (transport : TransportKind) : Prop :=
  ((∃ rc ∈ config.rules.getD [], (target_text rc.target : Option (TargetText IpNetwork)) = none) →
    ∃ e, (build_forwarding_policy config : Except NapiError (ForwardingPolicy IpNetwork)) =
      .error e) ∧
  ∀ policy : ForwardingPolicy IpNetwork, build_forwarding_policy config = .ok policy →
    policy.check host port identity transport = text_decision IpNetwork config host port identity

/-! ## Misreadings -/

variable (IpNetwork) in
/-- A text with ports is taken for a host pattern. -/
def misread_ports (target host_part host : String) (port : UInt16) : PortText → Bool
  | .all =>
    (host_text host_part : HostText IpNetwork).covers host != match_host_pattern host_part host
  | .one p =>
    ((host_text host_part : HostText IpNetwork).covers host && p == port) !=
      match_host_pattern target host
  | .range first last =>
    ((host_text host_part : HostText IpNetwork).covers host &&
        decide (first ≤ port ∧ port ≤ last)) !=
      (match_host_pattern host_part host && decide (first ≤ port ∧ port < last))

variable (IpNetwork) in
/-- The request is one for which a target is not taken as it reads. A text that begins with
`alknet-` is taken for `alknet-*`. -/
def misread_target (target host : String) (port : UInt16) : Bool :=
  if starts_with target ALKNET_PREFIX then
    target != "alknet-*" &&
      (RuleText.mk target none).covers_target IpNetwork host port != starts_with host ALKNET_PREFIX
  else if (ParseNetwork.from_str target : Option IpNetwork).isSome then false
  else
    match rsplit_once ':' target.toList with
    | none => false
    | some (host_part, port_part) =>
      match port_text port_part with
      | none => false
      | some ports => misread_ports IpNetwork target (String.ofList host_part) host port ports

variable (IpNetwork) in
/-- A `*` among the principals is taken for the name of somebody. -/
def RuleText.misread (text : RuleText) (host : String) (port : UInt16) (identity : Identity) :
    Bool :=
  if (text.principals.getD []).isEmpty || text.names identity then
    misread_target IpNetwork text.target host port
  else text.for_everyone && text.covers_target IpNetwork host port

/-- The text of a network is neither a pattern nor a range. -/
def PlainNetworks (IpNetwork : Type) [ParseNetwork IpNetwork] : Prop :=
  ∀ s (network : IpNetwork), ParseNetwork.from_str s = some network →
    '*' ∉ s.toList ∧ '-' ∉ s.toList

theorem dash_notMem_of_parse_u16 {s : List Char} {p : UInt16} (h : parse_u16 s = some p) :
    '-' ∉ s := by
  obtain ⟨n, hn, -⟩ := Option.bind_eq_some_iff.mp h
  obtain ⟨digits, hs, hdigits, -⟩ := parse_u32_eq_some.mp hn
  have hdash : '-' ∉ digits := fun hmem => absurd (hdigits.2 '-' hmem) (by decide)
  rcases hs with rfl | rfl
  · exact hdash
  · simpa using hdash

section

variable {target host : String} {port : UInt16}

theorem parse_port_part_of_network (hplain : PlainNetworks IpNetwork) {network : IpNetwork}
    (h : ParseNetwork.from_str target = some network) :
    (parse_port_part target : Option (TargetPattern IpNetwork)) = none := by
  obtain ⟨hstar, hdash⟩ := hplain target network h
  unfold parse_port_part
  cases hsplit : rsplit_once ':' target.toList with
  | none => rfl
  | some parts =>
    obtain ⟨host_part, port_part⟩ := parts
    obtain ⟨htarget, -⟩ := rsplit_once_eq_some.mp hsplit
    have hport : ∀ c ∈ port_part, c ∈ target.toList := by
      intro c hc
      rw [htarget]
      simp [hc]
    have hall : port_part ≠ ['*'] := by
      rintro rfl
      exact hstar (hport '*' List.mem_cons_self)
    have hrange : '-' ∉ port_part := fun hmem => hdash (hport '-' hmem)
    simp only [if_neg hall, split_once_eq_none.mpr hrange]

omit [ParseNetwork IpNetwork] in
theorem parse_port_part_eq {host_part port_part : List Char} {ports : PortText}
    (hsplit : rsplit_once ':' target.toList = some (host_part, port_part))
    (hports : port_text port_part = some ports) :
    (parse_port_part target : Option (TargetPattern IpNetwork)) =
      match ports with
      | .all => some (.Host (String.ofList host_part))
      | .one _ => none
      | .range first last => some (.PortRange (String.ofList host_part) first last) := by
  unfold parse_port_part
  unfold port_text at hports
  simp only [hsplit]
  by_cases hstar : port_part = ['*']
  · rw [if_pos hstar] at hports ⊢
    cases hports
    rfl
  rw [if_neg hstar] at hports ⊢
  cases hport : parse_u16 port_part with
  | some p =>
    rw [hport] at hports
    cases hports
    rw [split_once_eq_none.mpr (dash_notMem_of_parse_u16 hport)]
  | none =>
    rw [hport] at hports
    cases hdash : split_once '-' port_part with
    | none => simp [hdash] at hports
    | some range =>
      obtain ⟨first, last⟩ := range
      simp only [hdash] at hports ⊢
      cases hfirst : parse_u16 first <;> cases hlast : parse_u16 last <;>
        simp only [hfirst, hlast] at hports ⊢ <;> cases hports
      rfl

variable (IpNetwork) in
theorem parse_target_pattern_ok (target : String) :
    ∃ pattern : TargetPattern IpNetwork, parse_target_pattern target = .ok pattern := by
  unfold parse_target_pattern
  split
  · exact ⟨_, rfl⟩
  split
  · exact ⟨_, rfl⟩
  split
  · exact ⟨_, rfl⟩
  split <;> exact ⟨_, rfl⟩

theorem misread_target_eq (hplain : PlainNetworks IpNetwork) {text : TargetText IpNetwork}
    {pattern : TargetPattern IpNetwork} (htext : target_text target = some text)
    (hpattern : parse_target_pattern target = .ok pattern) :
    misread_target IpNetwork target host port =
      (text.covers host port != pattern.matches host port) := by
  unfold parse_target_pattern at hpattern
  by_cases hany : target = "*"
  · subst hany
    cases hpattern
    cases htext
    have hsplit : rsplit_once ':' ['*'] = none := by decide
    simp [misread_target, hsplit, starts_with, ALKNET_PREFIX, TargetText.covers,
      TargetPattern.matches]
  rw [if_neg hany] at hpattern
  by_cases hstart : starts_with target "alknet-" = true
  · rw [if_pos hstart] at hpattern
    cases hpattern
    rw [misread_target, ALKNET_PREFIX, if_pos hstart]
    simp only [RuleText.covers_target, htext]
    by_cases hreserved : target = "alknet-*"
    · subst hreserved
      cases htext
      simp [TargetText.covers, TargetPattern.matches]
    · simp [hreserved, TargetPattern.matches, ALKNET_PREFIX]
  rw [if_neg hstart] at hpattern
  rw [misread_target, ALKNET_PREFIX, if_neg hstart]
  have hreserved : target ≠ "alknet-*" := by
    rintro rfl
    exact hstart (by decide)
  rw [target_text, if_neg hany, if_neg hreserved] at htext
  cases hnetwork : (ParseNetwork.from_str target : Option IpNetwork) with
  | some network =>
    rw [parse_port_part_of_network hplain hnetwork] at hpattern
    simp only [hnetwork] at hpattern htext
    cases hpattern
    cases htext
    simp [TargetText.covers, HostText.covers, PortText.covers, TargetPattern.matches]
  | none =>
    simp only [hnetwork] at hpattern htext
    cases hsplit : rsplit_once ':' target.toList with
    | none =>
      have hpart : (parse_port_part target : Option (TargetPattern IpNetwork)) = none := by
        rw [parse_port_part, hsplit]
      simp only [hpart] at hpattern
      simp only [hsplit] at htext
      cases hpattern
      cases htext
      simp [TargetText.covers, HostText.covers, PortText.covers, TargetPattern.matches]
    | some parts =>
      obtain ⟨host_part, port_part⟩ := parts
      simp only [hsplit] at htext ⊢
      obtain ⟨ports, hports, rfl⟩ := Option.map_eq_some_iff.mp htext
      rw [parse_port_part_eq hsplit hports] at hpattern
      simp only [hports, Option.isSome_none, Bool.false_eq_true, if_false]
      cases ports <;> simp only at hpattern <;> cases hpattern <;>
        simp [misread_ports, TargetText.covers, PortText.covers, TargetPattern.matches]

end

/-! ## Built policies -/

section

variable {text : RuleText} {host : String} {port : UInt16} {identity : Identity}
  {transport : TransportKind}

variable (IpNetwork) in
/-- What the built rule takes. -/
def RuleText.taken (text : RuleText) (host : String) (port : UInt16) (identity : Identity)
    (transport : TransportKind) : Bool :=
  match (parse_target_pattern text.target : Except NapiError (TargetPattern IpNetwork)) with
  | .ok pattern => reaches host port identity transport (pattern, text.principals.getD [], [])
  | .error _ => false

theorem taken_eq {pattern : TargetPattern IpNetwork}
    (h : parse_target_pattern text.target = .ok pattern) :
    text.taken IpNetwork host port identity transport =
      (pattern.matches host port &&
        ((text.principals.getD []).isEmpty || text.names identity)) := by
  simp [RuleText.taken, h, reaches, rule_of, ForwardingRule.matches_principal,
    ForwardingRule.matches_transport, RuleText.names]

variable (transport) in
theorem misread_eq (hplain : PlainNetworks IpNetwork)
    (htext : (target_text text.target : Option (TargetText IpNetwork)) ≠ none) :
    text.misread IpNetwork host port identity =
      (text.covers IpNetwork host port identity !=
        text.taken IpNetwork host port identity transport) := by
  obtain ⟨target, htarget⟩ := Option.ne_none_iff_exists'.mp htext
  obtain ⟨pattern, hpattern⟩ := parse_target_pattern_ok IpNetwork text.target
  have hcovers : text.covers_target IpNetwork host port = target.covers host port := by
    simp only [RuleText.covers_target, htarget]
  rw [taken_eq hpattern, RuleText.covers, RuleText.misread, hcovers,
    misread_target_eq hplain htarget hpattern, RuleText.for_everyone]
  cases (text.principals.getD []).isEmpty <;> cases text.names identity <;>
    cases (text.principals.getD []).contains "*" <;> simp

theorem covers_and_taken_iff (hplain : PlainNetworks IpNetwork)
    (htext : (target_text text.target : Option (TargetText IpNetwork)) ≠ none) :
    (text.covers IpNetwork host port identity = true ∧
        text.taken IpNetwork host port identity transport = true) ↔
      text.covers IpNetwork host port identity = true ∧
        text.misread IpNetwork host port identity = false := by
  rw [misread_eq transport hplain htext]
  cases text.covers IpNetwork host port identity <;> simp

variable [Unicode]

theorem build_rules_cons {rc : ForwardingRuleConfig} {rcs : List ForwardingRuleConfig}
    {rules : List (ForwardingRule IpNetwork)} (h : build_rules (rc :: rcs) = .ok rules) :
    ∃ pattern action tail, parse_target_pattern rc.target = .ok pattern ∧
      parse_forwarding_action rc.action = .ok action ∧ build_rules rcs = .ok tail ∧
      rules = ⟨pattern, action, rc.principals.getD [], []⟩ :: tail := by
  obtain ⟨pattern, hpattern⟩ := parse_target_pattern_ok IpNetwork rc.target
  rw [build_rules, hpattern] at h
  cases haction : parse_forwarding_action rc.action with
  | error e => simp [haction, Bind.bind, Except.bind] at h
  | ok action =>
    cases htail : (build_rules rcs : Except NapiError (List (ForwardingRule IpNetwork))) with
    | error e => simp [haction, htail, Bind.bind, Except.bind] at h
    | ok tail =>
      simp only [haction, htail, Bind.bind, Except.bind, pure, Except.pure] at h
      cases h
      exact ⟨pattern, action, tail, hpattern, rfl, rfl, rfl⟩

theorem build_rules_decides {rcs : List ForwardingRuleConfig}
    {rules : List (ForwardingRule IpNetwork)} (h : build_rules rcs = .ok rules) (d : Bool) :
    pick (fun rule => rule.takes host port identity transport) ForwardingRule.allows d rules =
      pick (fun rc => rc.text.taken IpNetwork host port identity transport)
        (fun rc => allows_text rc.action) d rcs := by
  induction rcs generalizing rules with
  | nil =>
    cases h
    rfl
  | cons rc rcs ih =>
    obtain ⟨pattern, action, tail, hpattern, haction, htail, rfl⟩ := build_rules_cons h
    have htaken : rc.text.taken IpNetwork host port identity transport =
        ForwardingRule.takes ⟨pattern, action, rc.principals.getD [], []⟩ host port identity
          transport := by
      simp only [RuleText.taken, ForwardingRuleConfig.text, hpattern]
      rfl
    unfold pick
    rw [ih htail, htaken, allows_text, haction]
    rfl

theorem build_decides {config : ForwardingPolicyConfig} {policy : ForwardingPolicy IpNetwork}
    (h : build_forwarding_policy config = .ok policy) :
    policy.check host port identity transport =
      pick (fun rc => rc.text.taken IpNetwork host port identity transport)
        (fun rc => allows_text rc.action) (allows_text config.default)
        (config.rules.getD []) := by
  rw [check_eq_pick]
  unfold build_forwarding_policy at h
  cases hdefault : parse_forwarding_action config.default with
  | error e => simp [hdefault, Bind.bind, Except.bind] at h
  | ok default =>
    rw [allows_text, hdefault]
    cases hrules : config.rules with
    | none =>
      simp only [hdefault, hrules, Bind.bind, Except.bind, pure, Except.pure] at h
      cases h
      rfl
    | some rcs =>
      cases hbuilt : (build_rules rcs : Except NapiError (List (ForwardingRule IpNetwork))) with
      | error e => simp [hdefault, hrules, hbuilt, Bind.bind, Except.bind] at h
      | ok rules =>
        simp only [hdefault, hrules, hbuilt, Bind.bind, Except.bind, pure, Except.pure] at h
        cases h
        exact build_rules_decides hbuilt _

/-- The configuration with these texts and answers. -/
def config_of (d : Bool) (rules : List (RuleText × Bool)) : ForwardingPolicyConfig where
  default := if d then "allow" else "deny"
  rules := some (rules.map fun rule =>
    ⟨rule.1.target, if rule.2 then "allow" else "deny", rule.1.principals⟩)

theorem parse_forwarding_action_of (allow : Bool) :
    parse_forwarding_action (if allow then "allow" else "deny") =
      .ok (if allow then .Allow else .Deny) := by
  cases allow <;> rfl

variable (IpNetwork) in
theorem build_config_of (d : Bool) (rules : List (RuleText × Bool)) :
    ∃ policy : ForwardingPolicy IpNetwork,
      build_forwarding_policy (config_of d rules) = .ok policy := by
  have hrules : ∃ built : List (ForwardingRule IpNetwork),
      build_rules ((config_of d rules).rules.getD []) = .ok built := by
    induction rules with
    | nil => exact ⟨[], rfl⟩
    | cons rule rules ih =>
      obtain ⟨built, hbuilt⟩ := ih
      obtain ⟨pattern, hpattern⟩ := parse_target_pattern_ok IpNetwork rule.1.target
      refine ⟨⟨pattern, if rule.2 then .Allow else .Deny, rule.1.principals.getD [], []⟩ :: built,
        ?_⟩
      simp only [config_of, Option.getD_some, List.map_cons] at hbuilt ⊢
      simp only [build_rules, hpattern, parse_forwarding_action_of, hbuilt, Bind.bind, Except.bind,
        pure, Except.pure]
  obtain ⟨built, hbuilt⟩ := hrules
  refine ⟨⟨if d then .Allow else .Deny, built⟩, ?_⟩
  simp only [config_of, Option.getD_some] at hbuilt
  simp only [build_forwarding_policy, config_of, parse_forwarding_action_of, hbuilt, Bind.bind,
    Except.bind, pure, Except.pure]

theorem allows_text_of (allow : Bool) :
    allows_text (if allow then "allow" else "deny") = allow := by
  cases allow <;> rfl

omit [Unicode] in
theorem map_text_config_of (d : Bool) (rules : List (RuleText × Bool)) :
    ((config_of d rules).rules.getD []).map ForwardingRuleConfig.text = rules.map Prod.fst := by
  simp [config_of, Function.comp_def, ForwardingRuleConfig.text]

theorem pick_config_of (takes : RuleText → Bool) (d : Bool) (rules : List (RuleText × Bool)) :
    pick (fun rc => takes rc.text) (fun rc => allows_text rc.action)
        (allows_text (config_of d rules).default) ((config_of d rules).rules.getD []) =
      pick (fun rule => takes rule.1) Prod.snd d rules := by
  simp only [config_of, Option.getD_some, allows_text_of]
  induction rules with
  | nil => rfl
  | cons rule rules ih =>
    rw [List.map_cons, pick, pick, ih, allows_text_of]
    rfl

omit [Unicode] in
variable (transport) in
theorem decisions_agree_iff (hplain : PlainNetworks IpNetwork) {texts : List RuleText}
    (htexts : ∀ text ∈ texts, (target_text text.target : Option (TargetText IpNetwork)) ≠ none) :
    Shadowed (fun text => text.covers IpNetwork host port identity)
        (fun text => text.taken IpNetwork host port identity transport) texts ↔
      ∀ before text after, texts = before ++ text :: after →
        text.misread IpNetwork host port identity = true →
        ∃ earlier ∈ before, earlier.covers IpNetwork host port identity = true ∧
          earlier.misread IpNetwork host port identity = false := by
  unfold Shadowed
  refine forall_congr' fun before => forall_congr' fun text => forall_congr' fun after =>
    forall_congr' fun hsplit => ?_
  have htext := htexts text (by rw [hsplit]; simp)
  rw [misread_eq transport hplain htext, bne_iff_ne]
  refine imp_congr Iff.rfl (exists_congr fun earlier => and_congr_right fun hmem => ?_)
  exact covers_and_taken_iff hplain (htexts earlier (by rw [hsplit]; simp [hmem]))

/-- **Rules mean what they say** if and only if each misread rule is behind one that covers the
request and is not. -/
theorem rule_texts_iff (hplain : PlainNetworks IpNetwork) (texts : List RuleText) (host : String)
    (port : UInt16) (identity : Identity) (transport : TransportKind) :
    (∀ config : ForwardingPolicyConfig,
        (config.rules.getD []).map ForwardingRuleConfig.text = texts →
        MeansItsTexts IpNetwork config host port identity transport) ↔
      (∀ text ∈ texts, (target_text text.target : Option (TargetText IpNetwork)) ≠ none) ∧
      ∀ before text after, texts = before ++ text :: after →
        text.misread IpNetwork host port identity = true →
        ∃ earlier ∈ before, earlier.covers IpNetwork host port identity = true ∧
          earlier.misread IpNetwork host port identity = false := by
  constructor
  · intro hall
    have htexts : ∀ text ∈ texts,
        (target_text text.target : Option (TargetText IpNetwork)) ≠ none := by
      intro text hmem hnone
      -- nothing in the code refuses the text
      have hmap : (texts.map fun text => (text, true)).map Prod.fst = texts := by
        simp [Function.comp_def]
      obtain ⟨hrefused, -⟩ := hall (config_of true (texts.map fun text => (text, true)))
        ((map_text_config_of _ _).trans hmap)
      obtain ⟨policy, hbuilt⟩ := build_config_of IpNetwork true
        (texts.map fun text => (text, true))
      rw [← hmap, ← map_text_config_of true, List.mem_map] at hmem
      obtain ⟨rc, hrc, rfl⟩ := hmem
      obtain ⟨e, herror⟩ := hrefused ⟨rc, hrc, hnone⟩
      rw [hbuilt] at herror
      cases herror
    refine ⟨htexts, (decisions_agree_iff transport hplain htexts).mp ?_⟩
    refine (pick_agree_iff (a := true) (b := false) Prod.fst Prod.snd Prod.mk (fun _ _ => rfl)
      (fun _ _ => rfl) (by simp) texts).mp fun d rules hrules => ?_
    obtain ⟨policy, hbuilt⟩ := build_config_of IpNetwork d rules
    obtain ⟨-, hdecides⟩ := hall (config_of d rules) ((map_text_config_of d rules).trans hrules)
    have hdecision := hdecides policy hbuilt
    rw [build_decides hbuilt, text_decision] at hdecision
    have hcovers := pick_config_of (fun text => text.covers IpNetwork host port identity) d rules
    have htaken := pick_config_of
      (fun text => text.taken IpNetwork host port identity transport) d rules
    exact hcovers.symm.trans (hdecision.symm.trans htaken)
  · rintro ⟨htexts, hbehind⟩ config hconfig
    have hshadowed := (decisions_agree_iff transport hplain htexts).mpr hbehind
    constructor
    · rintro ⟨rc, hrc, hnone⟩
      exact absurd hnone (htexts rc.text (hconfig ▸ List.mem_map_of_mem hrc))
    · intro policy hbuilt
      rw [build_decides hbuilt, text_decision]
      exact (pick_eq_of_shadowed hshadowed _ hconfig).symm

end

/-! ## A network with a port -/

/-- The network `10.0.0.0/8`. -/
structure TenNetwork where

instance tenNetwork : ParseNetwork TenNetwork where
  contains _ addr :=
    match addr with
    | .V4 addr => addr.to_chars.takeWhile (· ≠ '.') == ['1', '0']
    | .V6 _ => false
  from_str s := if s = "10.0.0.0/8" then some ⟨⟩ else none

theorem tenNetwork_plain : PlainNetworks TenNetwork := by
  intro s network h
  change (if s = "10.0.0.0/8" then some TenNetwork.mk else none) = some network at h
  split at h
  · rename_i hs
    rw [hs]
    exact ⟨by decide, by decide⟩
  · cases h

theorem rule_texts_network :
    let _ : Unicode := ⟨id⟩
    ∀ config : ForwardingPolicyConfig,
      (config.rules.getD []).map ForwardingRuleConfig.text =
        [⟨"10.0.0.0/8", none⟩, ⟨"10.0.0.0/8:80", none⟩] →
      MeansItsTexts TenNetwork config "10.1.2.3" 80 ⟨"alice", []⟩ .Tcp := by
  intro _
  refine (rule_texts_iff tenNetwork_plain _ "10.1.2.3" 80 ⟨"alice", []⟩ .Tcp).mpr ⟨?_, ?_⟩
  · simp only [List.forall_mem_cons]
    exact ⟨by decide, by decide, by simp⟩
  · intro before text after hsplit hmisread
    cases before with
    | nil =>
      obtain ⟨rfl, -⟩ := List.cons.inj hsplit
      exact absurd hmisread (by decide)
    | cons earlier before =>
      obtain ⟨rfl, -⟩ := List.cons.inj hsplit
      exact ⟨_, List.mem_cons_self, by decide, by decide⟩

theorem network_port_not_denied :
    let _ : Unicode := ⟨id⟩
    ¬ MeansItsTexts TenNetwork ⟨"allow", some [⟨"10.0.0.0/8:80", "deny", none⟩]⟩ "10.1.2.3" 80
      ⟨"alice", []⟩ .Tcp := by
  intro _ hmeans
  have hdecision := hmeans.2 ⟨.Allow, [⟨.Host "10.0.0.0/8:80", .Deny, [], []⟩]⟩ rfl
  exact absurd hdecision (by decide)

end Alknet
