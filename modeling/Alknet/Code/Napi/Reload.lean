import Alknet.Code.Napi.Auth

/-! # Reloading the configuration from Node.js, `alknet-napi/src/serve.rs` -/

open Alknet.Rust

namespace Alknet

namespace AlknetServer

variable {KeyData IpNetwork : Type}

section

variable [SshKey KeyData] [DecidableEq KeyData]

def reload_auth (files : FileSystem) (auth : AuthConfigNapi)
    (reload_handle : ConfigReloadHandle KeyData IpNetwork) :
    Outcome NapiError Unit × ConfigReloadHandle KeyData IpNetwork :=
  match build_auth_policy_from_napi files auth with
  | .error fault => (.error fault, reload_handle)
  | .ok new_auth_policy =>
    let current := reload_handle.dynamic
    let new_config :=
      DynamicConfig.from_parts new_auth_policy current.forwarding current.rate_limits
    (.ok (), reload_handle.reload new_config)

end

section

variable [ParseNetwork IpNetwork] [Unicode]

def reload_forwarding (policy : ForwardingPolicyConfig)
    (reload_handle : ConfigReloadHandle KeyData IpNetwork) :
    Outcome NapiError Unit × ConfigReloadHandle KeyData IpNetwork :=
  match build_forwarding_policy policy with
  | .error e => (.error (.err e), reload_handle)
  | .ok new_forwarding =>
    let current := reload_handle.dynamic
    let new_config := DynamicConfig.from_parts current.auth new_forwarding current.rate_limits
    (.ok (), reload_handle.reload new_config)

def reload_all [SshKey KeyData] [DecidableEq KeyData] (files : FileSystem) (auth : AuthConfigNapi)
    (forwarding : ForwardingPolicyConfig) (reload_handle : ConfigReloadHandle KeyData IpNetwork) :
    Outcome NapiError Unit × ConfigReloadHandle KeyData IpNetwork :=
  match build_auth_policy_from_napi files auth with
  | .error fault => (.error fault, reload_handle)
  | .ok new_auth_policy =>
    match build_forwarding_policy forwarding with
    | .error e => (.error (.err e), reload_handle)
    | .ok new_forwarding =>
      let current := reload_handle.dynamic
      let new_config := DynamicConfig.from_parts new_auth_policy new_forwarding current.rate_limits
      (.ok (), reload_handle.reload new_config)

end

end AlknetServer

end Alknet
