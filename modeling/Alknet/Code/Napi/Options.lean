import Alknet.Code.Napi.Reload
import Alknet.Code.Server.Options

/-!
# The options of the Node.js server

`serve` of `alknet-napi/src/serve.rs`, up to the configuration that the server starts with. The
acceptor is bound after that.
-/

open Alknet.Rust

namespace Alknet

/-- `Either<String, Buffer>` -/
inductive KeyArgument where
  | A (path : String)
  | B (data : List UInt8)

structure AlknetServeOptions where
  transport : String
  host_key : Option KeyArgument
  authorized_keys : Option KeyArgument
  cert_authority : Option KeyArgument
  tls_cert : Option String
  tls_key : Option String
  acme_domain : Option String
  listen : Option String
  iroh_relay : Option String

def KeyArgument.source : KeyArgument → KeySource
  | .A path => .File path
  | .B data => .Memory data

def resolve_key_source (key : Option KeyArgument) (field : String) : Except NapiError KeySource :=
  match key with
  | none =>
    .error ⟨.InvalidArg,
      field ++ " is required: provide a file path (string) or key data (Buffer)"⟩
  | some key => .ok key.source

def resolve_optional_key_source (key : Option KeyArgument) : Option KeySource :=
  key.map KeyArgument.source

def OptionsError.to_string : OptionsError → String
  | .InvalidFlag name => "invalid flag: " ++ name
  | .IncompatibleOptions => "incompatible options"
  | .ProxyConfigInvalid message => "invalid proxy config: " ++ message
  | .Keys error => error.to_string

/-- The `match` of `serve` on the transport. -/
def parse_transport [Unicode] (transport : String) : Except NapiError ServeTransportMode :=
  let other := to_lowercase transport
  if other = "tcp" then .ok .Tcp
  else if other = "tls" then .ok .Tls
  else if other = "iroh" then .ok .Iroh
  else .error ⟨.InvalidArg, "unknown transport '" ++ other ++ "'; expected tcp, tls, or iroh"⟩

def AlknetServeOptions.serve_opts (options : AlknetServeOptions) (host_key_source : KeySource)
    (transport_mode : ServeTransportMode) : ServeOptions :=
  { ServeOptions.new host_key_source with
    transport_mode
    listen_addr := options.listen.getD "0.0.0.0:22"
    authorized_keys := resolve_optional_key_source options.authorized_keys
    cert_authority := resolve_optional_key_source options.cert_authority
    tls_cert := options.tls_cert
    tls_key := options.tls_key
    acme_domain := options.acme_domain
    iroh_relay := options.iroh_relay }

/-- `serve`, to where `initialized_config` is stored. -/
def AlknetServer.serve {KeyData IpNetwork : Type} (HostKey : Type) [SshKey KeyData]
    [DecidableEq KeyData] [SecretKey HostKey] [Unicode] (files : FileSystem)
    (options : AlknetServeOptions) : Outcome NapiError (ConfigReloadHandle KeyData IpNetwork) := do
  let host_key_source ← ofResult (resolve_key_source options.host_key "hostKey")
  let transport_mode ← ofResult (parse_transport options.transport)
  let serve_opts := options.serve_opts host_key_source transport_mode
  let core_server : Server KeyData IpNetwork HostKey ← (Server.new files serve_opts).mapError
    (Fault.into fun e => ⟨.InvalidArg, "server config error: config error: " ++ e.to_string⟩)
  let reload_handle : ConfigReloadHandle KeyData IpNetwork := ⟨core_server.dynamic⟩
  let server_auth ← (ServerAuthConfig.from_keys_and_ca files
    (resolve_optional_key_source options.authorized_keys)
    (resolve_optional_key_source options.cert_authority)).mapError
    (Fault.into fun e => ⟨.InvalidArg, "auth config error: " ++ e.to_string⟩)
  let current := reload_handle.dynamic
  let initialized_config := DynamicConfig.from_parts (.from_server_auth_config server_auth)
    current.forwarding current.rate_limits
  return reload_handle.reload initialized_config

end Alknet
