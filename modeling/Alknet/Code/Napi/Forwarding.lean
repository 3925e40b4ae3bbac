import Alknet.Code.Config.Forwarding
import Alknet.Rust.Text

/-!
# Forwarding rules from Node.js

`alknet-napi/src/serve.rs`, from the texts that JavaScript passes to a `ForwardingPolicy`.
-/

open Alknet.Rust

namespace Alknet

structure ForwardingRuleConfig where
  target : String
  action : String
  principals : Option (List String)

structure ForwardingPolicyConfig where
  default : String
  rules : Option (List ForwardingRuleConfig)

/-- `napi::Status`, as far as it is used. -/
inductive NapiStatus where
  | InvalidArg
deriving DecidableEq

/-- `napi::Error` -/
structure NapiError where
  status : NapiStatus
  reason : String
deriving DecidableEq

def parse_forwarding_action [Unicode] (action : String) : Except NapiError ForwardingAction :=
  let other := to_lowercase action
  if other = "allow" then .ok .Allow
  else if other = "deny" then .ok .Deny
  else
    .error ⟨.InvalidArg, "invalid forwarding action '" ++ other ++ "'; expected 'allow' or 'deny'"⟩

variable {IpNetwork : Type} [ParseNetwork IpNetwork]

/-- The part of `parse_target_pattern` that looks behind the last colon. -/
def parse_port_part (target : String) : Option (TargetPattern IpNetwork) :=
  match rsplit_once ':' target.toList with
  | none => none
  | some (host_part, port_part) =>
    if port_part = ['*'] then some (.Host (String.ofList host_part))
    else
      match split_once '-' port_part with
      | none => none
      | some (start_str, end_str) =>
        match parse_u16 start_str, parse_u16 end_str with
        | some start, some stop => some (.PortRange (String.ofList host_part) start stop)
        | _, _ => none

def parse_target_pattern (target : String) : Except NapiError (TargetPattern IpNetwork) :=
  if target = "*" then .ok .Any
  else if starts_with target "alknet-" then .ok .AlknetPrefix
  else
    match parse_port_part target with
    | some pattern => .ok pattern
    | none =>
      match ParseNetwork.from_str target with
      | some network => .ok (.Cidr network)
      | none => .ok (.Host target)

/-- The loop of `build_forwarding_policy`. -/
def build_rules [Unicode] :
    List ForwardingRuleConfig → Except NapiError (List (ForwardingRule IpNetwork))
  | [] => .ok []
  | rc :: rule_configs => do
    let target ← parse_target_pattern rc.target
    let action ← parse_forwarding_action rc.action
    let principals := rc.principals.getD []
    let rules ← build_rules rule_configs
    return ⟨target, action, principals, []⟩ :: rules

def build_forwarding_policy [Unicode] (config : ForwardingPolicyConfig) :
    Except NapiError (ForwardingPolicy IpNetwork) := do
  let default ← parse_forwarding_action config.default
  match config.rules with
  | none => return ⟨default, []⟩
  | some rule_configs =>
    let rules ← build_rules rule_configs
    return ⟨default, rules⟩

end Alknet
