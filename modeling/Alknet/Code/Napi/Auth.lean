import Alknet.Code.Config.DynamicConfig
import Alknet.Code.Napi.Forwarding

/-! # Keys from Node.js, `alknet-napi/src/serve.rs` -/

open Alknet.Rust

namespace Alknet

structure AuthConfigNapi where
  authorized_keys : Option (List UInt8)
  cert_authority : Option (List UInt8)

def build_auth_policy_from_napi {KeyData : Type} [SshKey KeyData] [DecidableEq KeyData]
    (files : FileSystem) (auth : AuthConfigNapi) : Outcome NapiError (AuthPolicy KeyData) :=
  match ServerAuthConfig.from_keys_and_ca files (auth.authorized_keys.map .Memory)
      (auth.cert_authority.map .Memory) with
  | .ok server_auth_config => .ok (.from_server_auth_config server_auth_config)
  | .error fault =>
    .error (fault.into fun e => ⟨.InvalidArg, "auth config error: " ++ e.to_string⟩)

end Alknet
