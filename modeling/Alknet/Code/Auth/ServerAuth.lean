import Mathlib.Data.Finset.Image
import Alknet.Code.Auth.Keys
import Alknet.Code.Config.Forwarding

/-!
# Keys and certificates

`auth/server_auth.rs`. The checks of a certificate stand there once and once more in
`config/dynamic_config.rs`, word for word. They are `check_certificate` here. `now_secs` is the time
of the call, in seconds since the epoch and 0 before it.
-/

open Alknet.Rust

namespace Alknet

inductive AuthError where
  | KeyRejected
  | CertInvalid
  | CertExpired
  | CertPrincipalMismatch
deriving DecidableEq

/-- `ssh_key::certificate::CertType` -/
inductive CertType where
  | User
  | Host
deriving DecidableEq

/-- `russh::keys::Certificate`, with options in the order of its maps. -/
structure Certificate (KeyData : Type) where
  cert_type : CertType
  signature_key : KeyData
  valid_after : UInt64
  valid_before : UInt64
  valid_principals : List String
  critical_options : List (String × String)
  extensions : List (String × String)

/-- Whether `Certificate::verify_signature` accepts. -/
class SshCertificate (KeyData : Type) where
  verify_signature : Certificate KeyData → Bool

variable {KeyData : Type}

/-! ## The checks of a certificate -/

section

variable (IpNetwork : Type) [ParseNetwork IpNetwork]

def check_source_address (allowed : String) (client_ip : Option IpAddr) : Bool :=
  match client_ip with
  | none => false
  | some ip =>
    (allowed.toList.splitOn ',').any fun pattern =>
      let pattern := trim pattern
      pattern ≠ [] &&
        ((match (ParseNetwork.from_str (String.ofList pattern) : Option IpNetwork) with
          | some cidr => Network.contains cidr ip
          | none => false) ||
        IpAddr.from_str (String.ofList pattern) == some ip)

/-- The option `no-pty` of the authority is looked up there and has no effect. -/
def check_critical_options (critical_options : List (String × String))
    (client_ip : Option IpAddr) : Except AuthError Unit :=
  match critical_options with
  | [] => .ok ()
  | (name, data) :: rest =>
    if name = "source-address" then
      if check_source_address IpNetwork data client_ip then check_critical_options rest client_ip
      else .error .CertInvalid
    else if name = "force-command" then check_critical_options rest client_ip
    else if name = "no-pty" then check_critical_options rest client_ip
    else .error .CertInvalid

def check_extensions (cert : Certificate KeyData) (ca_entry : CertAuthorityEntry KeyData) :
    Except AuthError Unit :=
  let ca_permit_port_forwarding := ca_entry.options.any fun o => o == "permit-port-forwarding"
  if ca_permit_port_forwarding then
    let cert_allows := cert.extensions.any fun extension => extension.1 == "permit-port-forwarding"
    if cert_allows then .ok () else .error .CertInvalid
  else .ok ()

variable [DecidableEq KeyData] [SshCertificate KeyData]

def check_certificate (cert_authorities : List (CertAuthorityEntry KeyData))
    (cert : Certificate KeyData) (user : String) (client_ip : Option IpAddr)
    (now_secs : UInt64) : Except AuthError Unit :=
  match cert_authorities.find? fun ca => cert.signature_key = ca.public_key.key_data with
  | none => .error .CertInvalid
  | some ca_entry =>
    if SshCertificate.verify_signature cert = false then .error .CertInvalid
    else if now_secs < cert.valid_after ∨ cert.valid_before ≤ now_secs then .error .CertExpired
    else if cert.valid_principals ≠ [] ∧ user ∉ cert.valid_principals then
      .error .CertPrincipalMismatch
    else do
      check_critical_options IpNetwork cert.critical_options client_ip
      check_extensions cert ca_entry

end

/-! ## The server's configuration -/

section

variable [SshKey KeyData]

def encode_key_data (key : PublicKey KeyData) : List UInt8 :=
  (SshKey.encoded key.key_data).getD []

structure ServerAuthConfig (KeyData : Type) where
  authorized_keys : Finset (PublicKey KeyData)
  cert_authorities : List (CertAuthorityEntry KeyData)
  encoded_keys : Finset (List UInt8)

def ServerAuthConfig.from_keys_and_ca [DecidableEq KeyData] (files : FileSystem)
    (authorized_keys_source cert_authority_source : Option KeySource) :
    Outcome ConfigError (ServerAuthConfig KeyData) := do
  let authorized_keys ← match authorized_keys_source with
    | some src => (load_public_keys files src).map List.toFinset
    | none => pure ∅
  let encoded_keys := authorized_keys.image encode_key_data
  let cert_authorities ← match cert_authority_source with
    | some src => load_cert_authority_entries files src
    | none => pure []
  return ⟨authorized_keys, cert_authorities, encoded_keys⟩

def ServerAuthConfig.authenticate_publickey (config : ServerAuthConfig KeyData)
    (key : PublicKey KeyData) : Except AuthError Unit :=
  if encode_key_data key ∈ config.encoded_keys then .ok () else .error .KeyRejected

end

def ServerAuthConfig.authenticate_certificate (IpNetwork : Type) [ParseNetwork IpNetwork]
    [DecidableEq KeyData] [SshCertificate KeyData] (config : ServerAuthConfig KeyData)
    (cert : Certificate KeyData) (user : String) (client_ip : Option IpAddr)
    (now_secs : UInt64) : Except AuthError Unit :=
  check_certificate IpNetwork config.cert_authorities cert user client_ip now_secs

end Alknet
