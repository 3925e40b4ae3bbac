import Alknet.Code.Auth.ServerAuth
import Mathlib.Data.List.AList

/-!
# The dynamic configuration and its auth policy

`config/dynamic_config.rs`, the token half of `auth/identity.rs` and the credentials of
`credentials/mod.rs`. SHA-256 is the `sha2` crate's.
-/

open Alknet.Rust

namespace Alknet

structure ApiKeyEntry where
  prefix_text : String
  hash : String
  scopes : List String
  expires_at : Option UInt64
deriving DecidableEq

def API_KEY_PREFIX : String := "alk_"

/-- Of the map from fingerprints to keys only the fingerprints are ever read. -/
structure AuthPolicy (KeyData : Type) where
  authorized_keys : Finset (PublicKey KeyData)
  cert_authorities : List (CertAuthorityEntry KeyData)
  api_keys : List ApiKeyEntry
  encoded_keys : Finset (List UInt8)
  fingerprint_to_key : Finset String

namespace AuthPolicy

variable {KeyData : Type}

section

variable [SshKey KeyData]

def with_api_keys (authorized_keys : Finset (PublicKey KeyData))
    (cert_authorities : List (CertAuthorityEntry KeyData)) (api_keys : List ApiKeyEntry) :
    AuthPolicy KeyData where
  authorized_keys
  cert_authorities
  api_keys
  encoded_keys := authorized_keys.image encode_key_data
  fingerprint_to_key := authorized_keys.image SshKey.fingerprint

def new (authorized_keys : Finset (PublicKey KeyData))
    (cert_authorities : List (CertAuthorityEntry KeyData)) : AuthPolicy KeyData :=
  with_api_keys authorized_keys cert_authorities []

def from_server_auth_config (config : ServerAuthConfig KeyData) : AuthPolicy KeyData :=
  new config.authorized_keys config.cert_authorities

def resolve_identity_from_fingerprint (policy : AuthPolicy KeyData) (fingerprint : String) :
    Option Identity :=
  if fingerprint ∈ policy.fingerprint_to_key then some ⟨fingerprint, ["relay:connect"]⟩ else none

def authenticate_publickey (policy : AuthPolicy KeyData) (key : PublicKey KeyData) :
    Except AuthError Unit :=
  if encode_key_data key ∈ policy.encoded_keys then .ok () else .error .KeyRejected

end

def authenticate_certificate (IpNetwork : Type) [ParseNetwork IpNetwork] [DecidableEq KeyData]
    [SshCertificate KeyData] (policy : AuthPolicy KeyData) (cert : Certificate KeyData)
    (user : String) (client_ip : Option IpAddr) (now_secs : UInt64) : Except AuthError Unit :=
  check_certificate IpNetwork policy.cert_authorities cert user client_ip now_secs

section

/- `Sha256::digest`, and `hex::encode`. -/
variable (sha256 : List UInt8 → List UInt8) (hex_encode : List UInt8 → String)

/-- What `resolve_api_key` does with the entry that it found. -/
def check_api_key (entry : ApiKeyEntry) (token : String) (now_secs : UInt64) : Option Identity :=
  let expected_hash := "sha256:" ++ hex_encode (sha256 (as_bytes token))
  if entry.hash ≠ expected_hash then none
  else
    match entry.expires_at with
    | some expires_at =>
      if expires_at ≤ now_secs then none else some ⟨entry.prefix_text, entry.scopes⟩
    | none => some ⟨entry.prefix_text, entry.scopes⟩

def resolve_api_key {ε : Type} (policy : AuthPolicy KeyData) (token : String)
    (now_secs : UInt64) : Outcome ε (Option Identity) :=
  if starts_with token API_KEY_PREFIX = false then .ok none
  else
    match slice_to (min token.utf8ByteSize 8) token.toList with
    | none => .error (.panic .charBoundary)
    | some prefix_part =>
      match policy.api_keys.find? fun e =>
          starts_with (String.ofList prefix_part) e.prefix_text with
      | none => .ok none
      | some entry => .ok (check_api_key sha256 hex_encode entry token now_secs)

end

end AuthPolicy

/-- `ConfigIdentityProvider::resolve_from_token`, with the policy that the call loads. -/
def resolve_from_token {KeyData ε : Type} (sha256 : List UInt8 → List UInt8)
    (hex_encode : List UInt8 → String) (auth : AuthPolicy KeyData) (now_secs : UInt64)
    (token : AuthToken) : Outcome ε (Option Identity) :=
  let token_str := from_utf8_lossy token.raw
  if starts_with token_str API_KEY_PREFIX then
    auth.resolve_api_key sha256 hex_encode token_str now_secs
  else .ok none

/-! ## The whole configuration -/

structure RateLimitConfig where
  max_connections_per_ip : Nat
  max_auth_attempts : Nat
deriving DecidableEq

inductive CredentialSet where
  | ApiKey (header_name token : String)
  | Basic (username password : String)
  | Bearer (token : String)
  | S3AccessKey (access_key secret_key : String) (session_token : Option String)
  | OidcToken (access_token : String) (refresh_token : Option String) (expires_at : Option UInt64)
  | Custom (scheme : String) (params : AList fun _ : String => String)

structure DynamicConfig (KeyData IpNetwork : Type) where
  auth : AuthPolicy KeyData
  forwarding : ForwardingPolicy IpNetwork
  rate_limits : RateLimitConfig
  credentials : AList fun _ : String => CredentialSet

def DynamicConfig.from_parts {KeyData IpNetwork : Type} (auth : AuthPolicy KeyData)
    (forwarding : ForwardingPolicy IpNetwork) (rate_limits : RateLimitConfig) :
    DynamicConfig KeyData IpNetwork where
  auth
  forwarding
  rate_limits
  credentials := ∅

/-- The configuration that the `ArcSwap` holds. -/
structure ConfigReloadHandle (KeyData IpNetwork : Type) where
  dynamic : DynamicConfig KeyData IpNetwork

def ConfigReloadHandle.reload {KeyData IpNetwork : Type}
    (handle : ConfigReloadHandle KeyData IpNetwork)
    (new_config : DynamicConfig KeyData IpNetwork) : ConfigReloadHandle KeyData IpNetwork :=
  { handle with dynamic := new_config }

/-- `ConfigCredentialProvider::get_credentials` -/
def get_credentials {KeyData IpNetwork : Type} (handle : ConfigReloadHandle KeyData IpNetwork)
    (service : String) : Option CredentialSet :=
  handle.dynamic.credentials.lookup service

end Alknet
