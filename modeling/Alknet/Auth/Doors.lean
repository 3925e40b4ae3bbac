import Alknet.Auth.Certificates

/-!
# The doors of a server

A key is let in by its encoding, by a copy of the encodings and by its fingerprint. The three
indexes are built from one set of keys, whose comments do not matter.
-/

open Alknet.Rust

namespace Alknet

variable {KeyData : Type} [SshKey KeyData]

/-- Keys are encoded, and encodings and fingerprints tell key data apart and nothing else. -/
structure LawfulSshKey (KeyData : Type) [SshKey KeyData] : Prop where
  encodes : ∀ data : KeyData, ∃ bytes, SshKey.encoded data = some bytes
  encoded_inj : ∀ data data' : KeyData, SshKey.encoded data = SshKey.encoded data' → data = data'
  fingerprint_eq_iff : ∀ key key' : PublicKey KeyData,
    SshKey.fingerprint key = SshKey.fingerprint key' ↔ key.key_data = key'.key_data

/-- A key with this data is in the set, whatever its comment. -/
def Holds (keys : Finset (PublicKey KeyData)) (key : PublicKey KeyData) : Prop :=
  ∃ held ∈ keys, held.key_data = key.key_data

theorem encode_key_data_eq_iff (hkeys : LawfulSshKey KeyData) (key key' : PublicKey KeyData) :
    encode_key_data key = encode_key_data key' ↔ key.key_data = key'.key_data := by
  obtain ⟨bytes, hbytes⟩ := hkeys.encodes key.key_data
  obtain ⟨bytes', hbytes'⟩ := hkeys.encodes key'.key_data
  constructor
  · intro h
    rw [encode_key_data, encode_key_data, hbytes, hbytes', Option.getD_some, Option.getD_some] at h
    exact hkeys.encoded_inj _ _ (by rw [hbytes, hbytes', h])
  · intro h
    rw [encode_key_data, encode_key_data, h]

omit [SshKey KeyData] in
theorem mem_image_iff_holds {β : Type} [DecidableEq β] {index : PublicKey KeyData → β}
    (hindex : ∀ key key', index key = index key' ↔ key.key_data = key'.key_data)
    (keys : Finset (PublicKey KeyData)) (key : PublicKey KeyData) :
    index key ∈ keys.image index ↔ Holds keys key := by
  rw [Finset.mem_image]
  exact exists_congr fun held => and_congr_right fun _ => hindex held key

theorem from_keys_and_ca_encoded [DecidableEq KeyData] {files : FileSystem}
    {keys ca : Option KeySource} {config : ServerAuthConfig KeyData}
    (h : ServerAuthConfig.from_keys_and_ca files keys ca = .ok config) :
    config.encoded_keys = config.authorized_keys.image encode_key_data := by
  rw [from_keys_and_ca_eq] at h
  obtain ⟨authorized_keys, -, h⟩ := bind_eq_ok h
  obtain ⟨cert_authorities, -, h⟩ := bind_eq_ok h
  cases h
  rfl

theorem ite_ok_iff {p : Prop} [Decidable p] {e : AuthError} :
    (if p then .ok () else .error e : Except AuthError Unit) = .ok () ↔ p := by
  split <;> simp_all

/-- **The doors agree.** All of them let in the keys with the data of a loaded key. -/
theorem doors_agree [DecidableEq KeyData] [SshCertificate KeyData] (IpNetwork : Type)
    [ParseNetwork IpNetwork] (hkeys : LawfulSshKey KeyData) {files : FileSystem}
    {keys ca : Option KeySource} {config : ServerAuthConfig KeyData}
    (hload : ServerAuthConfig.from_keys_and_ca files keys ca = .ok config)
    (key : PublicKey KeyData) (cert : Certificate KeyData) (user : String)
    (client_ip : Option IpAddr) (now_secs : UInt64) :
    let policy := AuthPolicy.from_server_auth_config config
    (config.authenticate_publickey key = .ok () ↔ Holds config.authorized_keys key) ∧
    (policy.authenticate_publickey key = .ok () ↔ Holds config.authorized_keys key) ∧
    ((policy.resolve_identity_from_fingerprint (SshKey.fingerprint key)).isSome = true ↔
      Holds config.authorized_keys key) ∧
    config.authenticate_certificate IpNetwork cert user client_ip now_secs =
      policy.authenticate_certificate IpNetwork cert user client_ip now_secs := by
  have hencoded := mem_image_iff_holds (encode_key_data_eq_iff hkeys) config.authorized_keys key
  have hprinted := mem_image_iff_holds hkeys.fingerprint_eq_iff config.authorized_keys key
  refine ⟨?_, ?_, ?_, rfl⟩
  · rw [ServerAuthConfig.authenticate_publickey, from_keys_and_ca_encoded hload, ite_ok_iff]
    exact hencoded
  · exact ite_ok_iff.trans hencoded
  · rw [AuthPolicy.resolve_identity_from_fingerprint, Option.isSome_ite]
    exact hprinted

theorem as_bytes_inj {s t : String} (h : as_bytes s = as_bytes t) : s = t := by
  have hsome := from_utf8_as_bytes s
  rw [h, from_utf8_as_bytes] at hsome
  exact (Option.some.inj hsome).symm

theorem ite_ite_inj {β : Type} {a b : String} {x y : β} {g : String → β} (hxy : x ≠ y)
    (hg : ∀ s t, g s = g t → s = t) (hx : ∀ s, g s ≠ x) (hy : ∀ s, g s ≠ y) {s t : String}
    (h : (if s = a then x else if s = b then y else g s) =
      if t = a then x else if t = b then y else g t) : s = t := by
  grind

theorem textKey_lawful : LawfulSshKey TextKey where
  encodes data := by
    simp only [SshKey.encoded]
    split
    · exact ⟨_, rfl⟩
    · split <;> exact ⟨_, rfl⟩
  encoded_inj := by
    rintro ⟨s⟩ ⟨t⟩ h
    have hbytes : ∀ s t, some (1 :: as_bytes s) = some (1 :: as_bytes t) → s = t :=
      fun s t h => as_bytes_inj (List.cons.inj (Option.some.inj h)).2
    exact congrArg TextKey.mk (ite_ite_inj (by decide) hbytes (by simp [sample_blob])
      (by simp [other_blob]) h)
  fingerprint_eq_iff := by
    rintro ⟨⟨s⟩, -⟩ ⟨⟨t⟩, -⟩
    have htext : ∀ s t : String, "?" ++ s = "?" ++ t → s = t := by
      intro s t h
      simpa [← String.toList_inj] using h
    refine ⟨fun h => ?_, fun h => ?_⟩
    · exact congrArg TextKey.mk (ite_ite_inj (by decide) htext
        (by simp [← String.toList_inj]) (by simp [← String.toList_inj]) h)
    · obtain rfl : s = t := TextKey.mk.inj h
      rfl

/-- Two keys with comments. -/
def sample_keys : String :=
  "ssh-ed25519 " ++ sample_key ++ " alice@laptop\nssh-ed25519 " ++ other_key ++ " bob@desk\n"

theorem doors_agree_sample :
    let _ : SshCertificate TextKey := ⟨fun _ => true⟩
    let _ : ParseNetwork Unit := { contains := fun _ _ => false, from_str := fun _ => none }
    ∃ config : ServerAuthConfig TextKey,
      ServerAuthConfig.from_keys_and_ca no_files (some (.Memory (as_bytes sample_keys))) none =
        .ok config ∧
      config.authenticate_publickey ⟨⟨other_key⟩, "bob"⟩ = .ok () ∧
      config.authenticate_publickey ⟨⟨sample_key⟩, "bob"⟩ = .ok () ∧
      config.authenticate_publickey ⟨⟨"AAAAC3NzaC1lZDI1NTE5"⟩, "bob"⟩ ≠ .ok () ∧
      config.authenticate_certificate Unit host_certificate "alice" none 1000 =
        (AuthPolicy.from_server_auth_config config).authenticate_certificate Unit
          host_certificate "alice" none 1000 := by
  intro _ _
  have hkeys : load_public_keys no_files (.Memory (as_bytes sample_keys)) =
      .ok [(⟨⟨sample_key⟩, ""⟩ : PublicKey TextKey), ⟨⟨other_key⟩, ""⟩] := by
    rw [load_public_keys_eq, load_kept_of_data rfl, from_utf8_lossy_as_bytes]
    decide +kernel
  obtain ⟨config, hload, hheld⟩ : ∃ config : ServerAuthConfig TextKey,
      ServerAuthConfig.from_keys_and_ca no_files (some (.Memory (as_bytes sample_keys))) none =
        .ok config ∧
      config.authorized_keys = {⟨⟨sample_key⟩, ""⟩, ⟨⟨other_key⟩, ""⟩} := by
    simp only [ServerAuthConfig.from_keys_and_ca, hkeys]
    exact ⟨_, rfl, rfl⟩
  have hdoor := fun key => doors_agree Unit textKey_lawful hload key host_certificate "alice" none
    1000
  refine ⟨config, hload, (hdoor _).1.mpr ?_, (hdoor _).1.mpr ?_, fun hopen => ?_,
    (hdoor ⟨⟨sample_key⟩, ""⟩).2.2.2⟩
  · exact ⟨⟨⟨other_key⟩, ""⟩, by simp [hheld], rfl⟩
  · exact ⟨⟨⟨sample_key⟩, ""⟩, by simp [hheld], rfl⟩
  · obtain ⟨held, hmem, hdata⟩ := (hdoor _).1.mp hopen
    rw [hheld, Finset.mem_insert, Finset.mem_singleton] at hmem
    rcases hmem with rfl | rfl <;> exact absurd hdata (by decide)

end Alknet
