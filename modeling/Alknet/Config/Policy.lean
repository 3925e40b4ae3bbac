import Alknet.Code.Config.Forwarding
import Alknet.Lib.FirstMatch

/-!
# The forwarding policy as a first match

`ForwardingPolicy.check` is `pick`: the first rule that takes the request decides. Where a rule
stands and which rules never matter follow from that.
-/

open Alknet.Rust Alknet.Lib

namespace Alknet

variable {IpNetwork : Type} [Network IpNetwork]

/-- What a rule covers, apart from what it then does. -/
def ForwardingRule.reach (rule : ForwardingRule IpNetwork) :
    TargetPattern IpNetwork × List String × List TransportKind :=
  (rule.target, rule.principals, rule.transports)

/-- A rule that covers this and does `action`. -/
def rule_of (reach : TargetPattern IpNetwork × List String × List TransportKind) (allow : Bool) :
    ForwardingRule IpNetwork where
  target := reach.1
  action := if allow then .Allow else .Deny
  principals := reach.2.1
  transports := reach.2.2

def reaches (target : String) (port : UInt16) (identity : Identity) (transport : TransportKind)
    (reach : TargetPattern IpNetwork × List String × List TransportKind) : Bool :=
  let rule := rule_of reach true
  rule.target.matches target port && rule.matches_principal identity &&
    rule.matches_transport transport

/-- The rule decides the request if no rule before it does. -/
def ForwardingRule.takes (rule : ForwardingRule IpNetwork) (target : String) (port : UInt16)
    (identity : Identity) (transport : TransportKind) : Bool :=
  reaches target port identity transport rule.reach

def ForwardingRule.allows (rule : ForwardingRule IpNetwork) : Bool := rule.action == .Allow

theorem check_rules_eq_pick (default : ForwardingAction) (target : String) (port : UInt16)
    (identity : Identity) (transport : TransportKind) (rules : List (ForwardingRule IpNetwork)) :
    check_rules default target port identity transport rules =
      pick (fun rule => rule.takes target port identity transport) ForwardingRule.allows
        (default == .Allow) rules := by
  induction rules with
  | nil => rfl
  | cons rule rules ih =>
    unfold check_rules pick
    rw [ih]
    rfl

theorem check_eq_pick (policy : ForwardingPolicy IpNetwork) (target : String) (port : UInt16)
    (identity : Identity) (transport : TransportKind) :
    policy.check target port identity transport =
      pick (fun rule => rule.takes target port identity transport) ForwardingRule.allows
        (policy.default == .Allow) policy.rules :=
  check_rules_eq_pick policy.default target port identity transport policy.rules

/-! ## Where a rule stands -/

/-- A rule that takes every request. -/
structure ForwardingRule.Unrestricted (rule : ForwardingRule IpNetwork) : Prop where
  target : rule.target = .Any
  principals : rule.principals = []
  transports : rule.transports = []

theorem ForwardingRule.Unrestricted.takes {rule : ForwardingRule IpNetwork}
    (h : rule.Unrestricted) (target : String) (port : UInt16) (identity : Identity)
    (transport : TransportKind) : rule.takes target port identity transport = true := by
  simp [ForwardingRule.takes, reaches, rule_of, ForwardingRule.reach, h.target, h.principals,
    h.transports, TargetPattern.matches, ForwardingRule.matches_principal,
    ForwardingRule.matches_transport]

/-- **The algebra of policies:** what may be inserted, swapped and removed. -/
theorem policy_algebra (default : ForwardingAction) (front back : List (ForwardingRule IpNetwork))
    (target : String) (port : UInt16) (identity : Identity) (transport : TransportKind) :
    let decides := fun rules =>
      (ForwardingPolicy.mk default rules).check target port identity transport
    (∀ rule, rule.action = .Deny →
      decides (front ++ back) = false → decides (front ++ rule :: back) = false) ∧
    (∀ rule, rule.action = .Allow →
      decides (front ++ back) = true → decides (front ++ rule :: back) = true) ∧
    (∀ r s : ForwardingRule IpNetwork,
      (r.action = s.action ∨ ∀ target port identity transport,
        ¬ (r.takes target port identity transport ∧ s.takes target port identity transport)) →
      decides (front ++ r :: s :: back) = decides (front ++ s :: r :: back)) ∧
    (∀ (any rule : ForwardingRule IpNetwork) between, any.Unrestricted →
      decides (front ++ any :: (between ++ rule :: back)) =
        decides (front ++ any :: (between ++ back))) := by
  simp only [check_eq_pick]
  refine ⟨fun rule hdeny hdenied => ?_, fun rule hallow hallowed => ?_, fun r s hrs => ?_,
    fun any rule between hany => ?_⟩
  · have hleast : ∀ d, rule.allows ≤ d := by
      rw [show rule.allows = false by rw [ForwardingRule.allows, hdeny]; rfl]
      exact Bool.false_le
    have hle := pick_insert_le (fun rule => rule.takes target port identity transport)
      (d := default == .Allow) hleast front back
    rw [hdenied] at hle
    exact Bool.eq_false_of_le_false hle
  · have hgreatest : ∀ d, d ≤ rule.allows := by
      rw [show rule.allows = true by rw [ForwardingRule.allows, hallow]; rfl]
      exact Bool.le_true
    have hle := le_pick_insert (fun rule => rule.takes target port identity transport)
      (d := default == .Allow) hgreatest front back
    rw [hallowed] at hle
    exact Bool.eq_true_of_true_le hle
  · apply pick_swap
    intro hr hs
    rcases hrs with haction | hapart
    · rw [ForwardingRule.allows, ForwardingRule.allows, haction]
    · exact absurd ⟨hr, hs⟩ (hapart target port identity transport)
  · exact pick_behind (x := any) (hany.takes target port identity transport) front _ _

end Alknet
