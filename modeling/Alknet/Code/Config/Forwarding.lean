import Alknet.Code.Auth
import Alknet.Rust.Net

/-!
# The forwarding policy

`config/forwarding.rs`. The networks of the `ipnetwork` crate are a type `IpNetwork` with the
crate's `contains`.
-/

open Alknet.Rust

namespace Alknet

/-- `ipnetwork::IpNetwork`, as far as the policy uses it. -/
class Network (IpNetwork : Type) where
  contains : IpNetwork → IpAddr → Bool

/-- `ipnetwork::IpNetwork` with its `FromStr`, without the error. -/
class ParseNetwork (IpNetwork : Type) extends Network IpNetwork where
  from_str : String → Option IpNetwork

def ALKNET_CONTROL_DESTINATION : String := "alknet-control"

def ALKNET_PREFIX : String := "alknet-"

def starts_with (s start : String) : Bool := start.toList.isPrefixOf s.toList

def ends_with (s tail : String) : Bool := tail.toList.isSuffixOf s.toList

inductive ForwardingAction where
  | Allow
  | Deny
deriving DecidableEq

inductive TargetPattern (IpNetwork : Type) where
  | Any
  | Host (pattern : String)
  | Cidr (network : IpNetwork)
  | PortRange (host_pattern : String) (start stop : UInt16)
  | AlknetPrefix

def match_host_pattern (pattern target : String) : Bool :=
  if pattern = target then true
  else if '*' ∈ pattern.toList then
    let before := String.ofList (pattern.toList.takeWhile (· ≠ '*'))
    let after := String.ofList ((pattern.toList.dropWhile (· ≠ '*')).drop 1)
    starts_with target before && ends_with target after &&
      decide (before.utf8ByteSize + after.utf8ByteSize ≤ target.utf8ByteSize)
  else false

variable {IpNetwork : Type} [Network IpNetwork]

def match_cidr (network : IpNetwork) (target : String) : Bool :=
  match IpAddr.from_str target with
  | none => false
  | some addr => Network.contains network addr

def TargetPattern.matches (pattern : TargetPattern IpNetwork) (target : String) (port : UInt16) :
    Bool :=
  match pattern with
  | .Any => true
  | .Host pattern => match_host_pattern pattern target
  | .Cidr network => match_cidr network target
  | .PortRange host_pattern start stop =>
    match_host_pattern host_pattern target && decide (start ≤ port ∧ port < stop)
  | .AlknetPrefix => starts_with target ALKNET_PREFIX

structure ForwardingRule (IpNetwork : Type) where
  target : TargetPattern IpNetwork
  action : ForwardingAction
  principals : List String
  transports : List TransportKind

def ForwardingRule.matches_principal (rule : ForwardingRule IpNetwork) (identity : Identity) :
    Bool :=
  rule.principals.isEmpty ||
    rule.principals.any fun p => p == identity.id || identity.scopes.contains p

def ForwardingRule.matches_transport (rule : ForwardingRule IpNetwork)
    (transport : TransportKind) : Bool :=
  rule.transports.isEmpty || rule.transports.contains transport

structure ForwardingPolicy (IpNetwork : Type) where
  default : ForwardingAction
  rules : List (ForwardingRule IpNetwork)

/-- The loop of `check`: the first rule that matches decides. -/
def check_rules (default : ForwardingAction) (target : String) (port : UInt16)
    (identity : Identity) (transport : TransportKind) : List (ForwardingRule IpNetwork) → Bool
  | [] => default == .Allow
  | rule :: rules =>
    if rule.target.matches target port && rule.matches_principal identity &&
        rule.matches_transport transport then
      rule.action == .Allow
    else check_rules default target port identity transport rules

def ForwardingPolicy.check (policy : ForwardingPolicy IpNetwork) (target : String) (port : UInt16)
    (identity : Identity) (transport : TransportKind) : Bool :=
  check_rules policy.default target port identity transport policy.rules

end Alknet
