import Alknet.Rust.Outcome
import Alknet.Rust.Str
import Mathlib.Data.Vector.Defs

/-! # encryption.rs: AES-256-GCM over Base64 text -/

open Alknet.Rust

namespace Alknet.Secret

/-- The `aes-gcm` and `base64` crates. `utf8_error` is the text of a `FromUtf8Error`. -/
structure Cipher where
  encrypt : List.Vector UInt8 32 → List.Vector UInt8 12 → List UInt8 → Except String (List UInt8)
  decrypt : List.Vector UInt8 32 → List.Vector UInt8 12 → List UInt8 → Except String (List UInt8)
  base64_encode : List UInt8 → String
  base64_decode : String → Except String (List UInt8)
  utf8_error : List UInt8 → String

structure EncryptedData where
  key_version : UInt32
  salt : String
  iv : String
  data : String
  deriving DecidableEq, Repr

structure EncryptionKey where
  key_bytes : List.Vector UInt8 32
  key_version : UInt32
  deriving DecidableEq

inductive EncryptionError
  | Encryption (reason : String)
  | Decryption (reason : String)
  | Decoding (reason : String)
  | KeyVersionMismatch (expected actual : UInt32)
  deriving DecidableEq, Repr

def EncryptionError.to_string : EncryptionError → String
  | .Encryption reason => "encryption error: " ++ reason
  | .Decryption reason => "decryption error: " ++ reason
  | .Decoding reason => "base64 decoding error: " ++ reason
  | .KeyVersionMismatch expected actual =>
    "key version mismatch: expected " ++ toString expected ++ ", got " ++ toString actual

/-- `&bytes[..32]` panics when there are fewer bytes. -/
def EncryptionKey.from_derived_bytes (bytes : List UInt8) (key_version : UInt32) :
    Outcome EncryptionError EncryptionKey :=
  if h : 32 ≤ bytes.length then
    .ok ⟨⟨bytes.take 32, by simp [h]⟩, key_version⟩
  else .error (.panic .sliceLength)

/-- `iv_bytes` and `salt_bytes` are what `rand::random` gives. -/
def encrypt (C : Cipher) (iv_bytes : List.Vector UInt8 12) (salt_bytes : List.Vector UInt8 32)
    (plaintext : String) (key : EncryptionKey) : Outcome EncryptionError EncryptedData :=
  match C.encrypt key.key_bytes iv_bytes (as_bytes plaintext) with
  | .error e => .error (.err (.Encryption e))
  | .ok ciphertext => .ok {
      key_version := key.key_version
      salt := C.base64_encode salt_bytes.toList
      iv := C.base64_encode iv_bytes.toList
      data := C.base64_encode ciphertext }

def decrypt (C : Cipher) (encrypted : EncryptedData) (key : EncryptionKey) :
    Outcome EncryptionError String :=
  match C.base64_decode encrypted.iv with
  | .error e => .error (.err (.Decoding e))
  | .ok iv_bytes =>
    -- `Nonce::from_slice` wants exactly 12 bytes, and the data is not decoded before it.
    if h : iv_bytes.length = 12 then
      match C.base64_decode encrypted.data with
      | .error e => .error (.err (.Decoding e))
      | .ok ciphertext =>
        match C.decrypt key.key_bytes ⟨iv_bytes, h⟩ ciphertext with
        | .error e => .error (.err (.Decryption e))
        | .ok plaintext =>
          match from_utf8 plaintext with
          | some text => .ok text
          | none => .error (.err (.Decryption (C.utf8_error plaintext)))
    else .error (.panic .sliceLength)

end Alknet.Secret
