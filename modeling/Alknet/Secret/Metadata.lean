import Alknet.Secret.RoundTrip

/-!
# What of a blob is bound to its key

The decoded `iv` is the nonce of AES-GCM and the decoded `data` its ciphertext, so both are
authenticated. The key version goes into neither, and nothing compares it.
-/

open Alknet.Rust

namespace Alknet.Secret

/-- The nonce and the ciphertext that a blob carries. -/
def Cipher.payload (C : Cipher) (encrypted : EncryptedData) :
    Option (List.Vector UInt8 12 × List UInt8) :=
  match C.base64_decode encrypted.iv, C.base64_decode encrypted.data with
  | .ok iv_bytes, .ok ciphertext =>
    if h : iv_bytes.length = 12 then some (⟨iv_bytes, h⟩, ciphertext) else none
  | _, _ => none

/-- These nonces and ciphertexts were made under the key, each from a text. -/
def Cipher.Issued (C : Cipher) (key_bytes : List.Vector UInt8 32)
    (issued : List (List.Vector UInt8 12 × List UInt8)) : Prop :=
  ∀ nonce ciphertext, (nonce, ciphertext) ∈ issued →
    ∃ text, C.encrypt key_bytes nonce (as_bytes text) = .ok ciphertext

/-- The blob is no forgery: what it carries was issued under the key, or does not decrypt. -/
def Cipher.Unforged (C : Cipher) (key_bytes : List.Vector UInt8 32)
    (issued : List (List.Vector UInt8 12 × List UInt8)) (encrypted : EncryptedData) : Prop :=
  ∀ nonce ciphertext text, C.payload encrypted = some (nonce, ciphertext) →
    C.decrypt key_bytes nonce ciphertext = .ok text → (nonce, ciphertext) ∈ issued

/-- The altered blob carries what was issued for another blob. -/
def Cipher.Swapped (C : Cipher) (issued : List (List.Vector UInt8 12 × List UInt8))
    (blob altered : EncryptedData) : Prop :=
  ∃ pair ∈ issued, C.payload altered = some pair ∧ C.payload blob ≠ some pair

theorem payload_eq_some {C : Cipher} {encrypted : EncryptedData} {nonce : List.Vector UInt8 12}
    {ciphertext : List UInt8} :
    C.payload encrypted = some (nonce, ciphertext) ↔
      C.base64_decode encrypted.iv = .ok nonce.toList ∧
        C.base64_decode encrypted.data = .ok ciphertext := by
  unfold Cipher.payload
  constructor
  · intro h
    split at h
    · next iv_bytes data hiv hdata =>
      split at h
      · cases h
        exact ⟨hiv, hdata⟩
      · cases h
    · cases h
  · rintro ⟨hiv, hdata⟩
    simp only [hiv, hdata]
    exact dif_pos (by simp)

theorem payload_encoded {C : Cipher} (laws : CipherLaws C) (version : UInt32) (salt : String)
    (nonce : List.Vector UInt8 12) (ciphertext : List UInt8) :
    C.payload ⟨version, salt, C.base64_encode nonce.toList, C.base64_encode ciphertext⟩ =
      some (nonce, ciphertext) :=
  payload_eq_some.mpr ⟨laws.base64_round_trip _, laws.base64_round_trip _⟩

/-! ## One call -/

theorem decrypt_ok {C : Cipher} {encrypted : EncryptedData} {key : EncryptionKey} {text : String}
    (h : decrypt C encrypted key = .ok text) :
    ∃ nonce ciphertext plaintext, C.payload encrypted = some (nonce, ciphertext) ∧
      C.decrypt key.key_bytes nonce ciphertext = .ok plaintext := by
  unfold decrypt at h
  cases hiv : C.base64_decode encrypted.iv with
  | error e =>
    rw [hiv] at h
    cases h
  | ok iv_bytes =>
    simp only [hiv] at h
    split at h
    · next hlen =>
      cases hdata : C.base64_decode encrypted.data with
      | error e =>
        simp only [hdata] at h
        cases h
      | ok ciphertext =>
        simp only [hdata] at h
        cases hplain : C.decrypt key.key_bytes ⟨iv_bytes, hlen⟩ ciphertext with
        | error e =>
          simp only [hplain] at h
          cases h
        | ok plaintext =>
          exact ⟨⟨iv_bytes, hlen⟩, ciphertext, plaintext, payload_eq_some.mpr ⟨hiv, hdata⟩, hplain⟩
    · cases h

theorem decrypt_ne_mismatch (C : Cipher) (encrypted : EncryptedData) (key : EncryptionKey)
    (expected actual : UInt32) :
    decrypt C encrypted key ≠ .error (.err (.KeyVersionMismatch expected actual)) := by
  unfold decrypt
  split
  · simp
  · split
    · split
      · simp
      · split
        · simp
        · split <;> simp
    · simp

theorem decrypt_call_version (env : Env) (handle : SecretServiceHandle) (clock : Clock)
    (encrypted : EncryptedData) (version : UInt32) :
    handle.call env clock (.decrypt { encrypted with key_version := version }) =
      handle.call env clock (.decrypt encrypted) := by
  have hkey : ∀ inner, SecretServiceInner.with_encryption_key env clock version
      (decrypt env.cipher { encrypted with key_version := version }) inner =
      SecretServiceInner.with_encryption_key env clock encrypted.key_version
        (decrypt env.cipher encrypted) inner := by
    intro inner
    unfold SecretServiceInner.with_encryption_key
    split
    · rfl
    · next key after hkey =>
      unfold EncryptionKey.from_derived_bytes
      by_cases hlen : 32 ≤ key.private_key.length
      · simp only [dif_pos hlen]
        rfl
      · simp only [dif_neg hlen]
  have hbody : SecretServiceInner.decrypt env clock { encrypted with key_version := version } =
      SecretServiceInner.decrypt env clock encrypted :=
    congrArg SecretServiceInner.unless_locked (funext hkey)
  simp only [SecretServiceHandle.call, hbody]

/-! ## The binding -/

/-- The altered blob decrypts only if the version is that of the key and the nonce and the
ciphertext are those of the blob. Another version is reported. -/
structure Bound (C : Cipher) (blob altered : EncryptedData) (key : EncryptionKey) : Prop where
  unchanged : ∀ text, decrypt C altered key = .ok text →
    altered.key_version = key.key_version ∧
      C.base64_decode altered.iv = C.base64_decode blob.iv ∧
      C.base64_decode altered.data = C.base64_decode blob.data
  reported : altered.key_version ≠ key.key_version → ∃ expected actual,
    decrypt C altered key = .error (.err (.KeyVersionMismatch expected actual))

/-- **Blobs and their metadata.** The nonce and the ciphertext are bound, and the version is not. -/
theorem decrypt_bound_iff {C : Cipher} (laws : CipherLaws C) {key : EncryptionKey}
    {issued : List (List.Vector UInt8 12 × List UInt8)} (hissued : C.Issued key.key_bytes issued)
    {iv_bytes : List.Vector UInt8 12} {salt_bytes : List.Vector UInt8 32} {plaintext : String}
    {blob : EncryptedData} (hblob : encrypt C iv_bytes salt_bytes plaintext key = .ok blob)
    {altered : EncryptedData} (hforge : C.Unforged key.key_bytes issued altered)
    {key' : EncryptionKey} (hbytes : key'.key_bytes = key.key_bytes) :
    Bound C blob altered key' ↔
      altered.key_version = key'.key_version ∧ ¬ C.Swapped issued blob altered := by
  obtain ⟨data, -, -, hiv, hdata⟩ := encrypt_ok laws hblob
  have hpayload : C.payload blob = some (iv_bytes, data) := payload_eq_some.mpr ⟨hiv, hdata⟩
  constructor
  · intro h
    refine ⟨?_, ?_⟩
    · by_contra hversion
      obtain ⟨expected, actual, hreport⟩ := h.reported hversion
      exact decrypt_ne_mismatch C altered key' expected actual hreport
    -- what was issued for another blob decrypts to the text of that blob
    · rintro ⟨⟨nonce, ciphertext⟩, hmem, haltered, hother⟩
      obtain ⟨text, htext⟩ := hissued nonce ciphertext hmem
      obtain ⟨hiv', hdata'⟩ := payload_eq_some.mp haltered
      have hdecrypts : decrypt C altered key' = .ok text := by
        rw [decrypt_decoded hiv' hdata', hbytes]
        exact laws.decrypt_encrypt _ _ _ _ htext
      obtain ⟨-, hsame_iv, hsame_data⟩ := h.unchanged text hdecrypts
      exact hother (payload_eq_some.mpr ⟨hsame_iv.symm.trans hiv', hsame_data.symm.trans hdata'⟩)
  · rintro ⟨hversion, hswapped⟩
    refine ⟨fun text htext => ⟨hversion, ?_⟩, fun hne => absurd hversion hne⟩
    obtain ⟨nonce, ciphertext, plain, haltered, hplain⟩ := decrypt_ok htext
    rw [hbytes] at hplain
    have hmem := hforge nonce ciphertext plain haltered hplain
    have hsame : C.payload blob = some (nonce, ciphertext) := by
      by_contra hother
      exact hswapped ⟨(nonce, ciphertext), hmem, haltered, hother⟩
    obtain ⟨hiv', hdata'⟩ := payload_eq_some.mp haltered
    obtain ⟨hiv'', hdata''⟩ := payload_eq_some.mp hsame
    exact ⟨hiv'.trans hiv''.symm, hdata'.trans hdata''.symm⟩

/-! ## Two blobs to look at -/

theorem unforged_of_payload {C : Cipher} {key_bytes : List.Vector UInt8 32}
    {issued : List (List.Vector UInt8 12 × List UInt8)} {encrypted : EncryptedData}
    {pair : List.Vector UInt8 12 × List UInt8} (hpayload : C.payload encrypted = some pair)
    (h : (∃ text, C.decrypt key_bytes pair.1 pair.2 = .ok text) → pair ∈ issued) :
    C.Unforged key_bytes issued encrypted := by
  intro nonce ciphertext text hpayload' htext
  obtain rfl := Option.some.inj (hpayload.symm.trans hpayload')
  exact h ⟨text, htext⟩

/-- A tag of the key and the nonce, then the text. -/
def tagCipher : Cipher where
  encrypt key nonce text := .ok (key.toList ++ nonce.toList ++ text)
  decrypt key nonce ciphertext :=
    if key.toList ++ nonce.toList <+: ciphertext then .ok (ciphertext.drop 44)
    else .error "aead::Error"
  base64_encode := sampleCipher.base64_encode
  base64_decode := sampleCipher.base64_decode
  utf8_error := sampleCipher.utf8_error

theorem tagCipher_laws : CipherLaws tagCipher where
  decrypt_encrypt key nonce text data h := by
    obtain rfl := Except.ok.inj h
    have hlength : (key.toList ++ nonce.toList).length = 44 := by simp
    have htag : key.toList ++ nonce.toList <+: key.toList ++ nonce.toList ++ text :=
      List.prefix_append _ _
    simp only [tagCipher, if_pos htag]
    rw [← hlength, List.drop_left]
  base64_round_trip := sampleCipher_laws.base64_round_trip

def sampleEncryptionKey : EncryptionKey := ⟨List.Vector.replicate 32 42, 1⟩

def sampleNonce (byte : UInt8) : List.Vector UInt8 12 := List.Vector.replicate 12 byte

def sampleText : List UInt8 := List.replicate 32 42 ++ List.replicate 12 0 ++ as_bytes "hi"

/-- What two texts were encrypted to. -/
def sampleIssued : List (List.Vector UInt8 12 × List UInt8) :=
  [(sampleNonce 0, sampleText),
    (sampleNonce 1, List.replicate 32 42 ++ List.replicate 12 1 ++ as_bytes "bye")]

/-- The first of the two blobs, with another version or another nonce. -/
def sampleBlob (version : UInt32) (byte : UInt8) : EncryptedData where
  key_version := version
  salt := tagCipher.base64_encode (List.replicate 32 0)
  iv := tagCipher.base64_encode (sampleNonce byte).toList
  data := tagCipher.base64_encode sampleText

theorem sampleBlob_payload (version : UInt32) (byte : UInt8) :
    tagCipher.payload (sampleBlob version byte) = some (sampleNonce byte, sampleText) :=
  payload_encoded tagCipher_laws version _ (sampleNonce byte) sampleText

theorem sampleBlob_encrypted :
    encrypt tagCipher (sampleNonce 0) (List.Vector.replicate 32 0) "hi" sampleEncryptionKey =
      .ok (sampleBlob 1 0) := rfl

theorem sampleIssued_issued : tagCipher.Issued sampleEncryptionKey.key_bytes sampleIssued := by
  intro nonce ciphertext hmem
  rcases List.mem_cons.mp hmem with heq | hmem
  · cases heq
    exact ⟨"hi", rfl⟩
  · cases List.mem_singleton.mp hmem
    exact ⟨"bye", rfl⟩

theorem decrypt_bound_same_version :
    Bound tagCipher (sampleBlob 1 0) (sampleBlob 1 1) sampleEncryptionKey := by
  have hrefused : ∀ text, tagCipher.decrypt sampleEncryptionKey.key_bytes (sampleNonce 1)
      sampleText ≠ .ok text := by
    rintro text ⟨⟩
  refine (decrypt_bound_iff tagCipher_laws sampleIssued_issued sampleBlob_encrypted
    (unforged_of_payload (sampleBlob_payload 1 1) fun ⟨text, htext⟩ =>
      absurd htext (hrefused text)) rfl).mpr ⟨rfl, ?_⟩
  rintro ⟨pair, hmem, haltered, -⟩
  obtain rfl := Option.some.inj ((sampleBlob_payload 1 1).symm.trans haltered)
  exact absurd hmem (by decide)

theorem decrypt_other_version :
    encrypt tagCipher (sampleNonce 0) (List.Vector.replicate 32 0) "hi" sampleEncryptionKey =
        .ok (sampleBlob 1 0) ∧
      tagCipher.Unforged sampleEncryptionKey.key_bytes sampleIssued (sampleBlob 2 0) ∧
      decrypt tagCipher (sampleBlob 2 0) sampleEncryptionKey = .ok "hi" ∧
      ¬ Bound tagCipher (sampleBlob 1 0) (sampleBlob 2 0) sampleEncryptionKey := by
  refine ⟨sampleBlob_encrypted, unforged_of_payload (sampleBlob_payload 2 0)
    fun _ => List.mem_cons_self, rfl, fun h => ?_⟩
  have hversion := (h.unchanged "hi" rfl).1
  revert hversion
  decide

end Alknet.Secret
