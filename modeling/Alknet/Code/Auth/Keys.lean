import Alknet.Code.Auth
import Alknet.Rust.Outcome
import Alknet.Rust.Text

/-!
# Key files

`auth/keys.rs`, for the keys that a server trusts. The `russh` crate reads and writes the keys
themselves. Paths are their displayed text.
-/

open Alknet.Rust

namespace Alknet

/-- `russh::keys::PublicKey` -/
structure PublicKey (KeyData : Type) where
  key_data : KeyData
  comment : String
deriving DecidableEq

/-- What `russh` does with keys. Errors are not looked at. -/
class SshKey (KeyData : Type) where
  parse_public_key_base64 : String → Option (PublicKey KeyData)
  encoded : KeyData → Option (List UInt8)
  fingerprint : PublicKey KeyData → String

/-- `std::path::Path::exists` and `std::fs::read`, at the time of the call. -/
structure FileSystem where
  path_exists : String → Bool
  read : String → Option (List UInt8)

inductive ConfigError where
  | KeyFileNotFound (path : String)
deriving DecidableEq

def ConfigError.to_string : ConfigError → String
  | .KeyFileNotFound path => "key file not found: " ++ path

inductive KeySource where
  | File (path : String)
  | Memory (data : List UInt8)

structure CertAuthorityEntry (KeyData : Type) where
  public_key : PublicKey KeyData
  options : List String

def resolve_bytes (files : FileSystem) (source : KeySource) : Except ConfigError (List UInt8) :=
  match source with
  | .File path =>
    if files.path_exists path = false then .error (.KeyFileNotFound path)
    else
      match files.read path with
      | some data => .ok data
      | none => .error (.KeyFileNotFound path)
  | .Memory data => .ok data

/-- The beginnings by which a field of options is known. -/
def OPTION_STARTS : List String :=
  ["cert-authority", "no-", "permit-", "from=", "command=", "environment=", "tunnel=",
    "principals="]

def KEY_TYPE_STARTS : List String := ["ssh-", "ecdsa-"]

def starts_with_one_of (starts : List String) (s : List Char) : Bool :=
  starts.any fun start => start.toList.isPrefixOf s

section

variable {KeyData ε : Type} [SshKey KeyData]

/-- The key field, which must be there, and the options that were before it. -/
def parse_key_field (parts : List (List Char)) (key_type_idx : Nat) (options : List String) :
    Outcome ε (Option (Except ConfigError (PublicKey KeyData × List String))) :=
  match parts[key_type_idx + 1]? with
  | none => .error (.panic .indexOutOfBounds)
  | some key_base64 =>
    match SshKey.parse_public_key_base64 (String.ofList key_base64) with
    | some pk => .ok (some (.ok (pk, options)))
    | none => .ok none

def parse_authorized_keys_line (line : List Char) :
    Outcome ε (Option (Except ConfigError (PublicKey KeyData × List String))) :=
  let line := trim line
  if line = [] ∨ line.head? = some '#' then .ok none
  else
    let parts := splitn 4 ' ' line
    match parts with
    | [] => .ok none
    | [_] => .ok none
    | first :: _ =>
      if starts_with_one_of OPTION_STARTS first then
        let options := (first.splitOn ',').map String.ofList
        if parts.length ≤ 1 then .ok none else parse_key_field parts 1 options
      else if starts_with_one_of KEY_TYPE_STARTS first then
        if parts.length ≤ 0 then .ok none else parse_key_field parts 0 []
      else .ok none

/-- The loop of the two loaders over the lines of a file. -/
def load_lines {α : Type} (keep : PublicKey KeyData × List String → Option α) :
    List (List Char) → Outcome ε (List α)
  | [] => .ok []
  | line :: rest => do
    let parsed ← parse_authorized_keys_line line
    let kept ← load_lines keep rest
    match parsed with
    | some (.ok key) => return (keep key).toList ++ kept
    | some (.error _) => return kept
    | none => return kept

def keep_key (key : PublicKey KeyData × List String) : Option (PublicKey KeyData) := some key.1

def keep_entry (key : PublicKey KeyData × List String) : Option (CertAuthorityEntry KeyData) :=
  if key.2 = [] then none else some ⟨key.1, key.2⟩

def load_public_keys (files : FileSystem) (source : KeySource) :
    Outcome ConfigError (List (PublicKey KeyData)) := do
  let data ← ofResult (resolve_bytes files source)
  load_lines keep_key (lines (from_utf8_lossy data).toList)

def load_cert_authority_entries (files : FileSystem) (source : KeySource) :
    Outcome ConfigError (List (CertAuthorityEntry KeyData)) := do
  let data ← ofResult (resolve_bytes files source)
  load_lines keep_entry (lines (from_utf8_lossy data).toList)

end

end Alknet
