import Alknet.Auth.Keys
import Alknet.Lib.FirstMatch

/-!
# Certificates

`check_certificate` looks at one authority, the first with the signing key, and never at the type
of the certificate.
-/

open Alknet.Rust Alknet.Lib

namespace Alknet

/-! ## What a certificate has to meet -/

section

variable (IpNetwork : Type) [ParseNetwork IpNetwork]

/-- One address or network of the list has the client in it. -/
def SourceAllowed (allowed : String) (client_ip : Option IpAddr) : Prop :=
  ∃ ip, client_ip = some ip ∧ ∃ item ∈ allowed.toList.splitOn ',', trim item ≠ [] ∧
    ((∃ cidr : IpNetwork, ParseNetwork.from_str (String.ofList (trim item)) = some cidr ∧
      Network.contains cidr ip = true) ∨
    IpAddr.from_str (String.ofList (trim item)) = some ip)

def OptionAllowed (client_ip : Option IpAddr) (option : String × String) : Prop :=
  option.1 = "force-command" ∨ option.1 = "no-pty" ∨
    option.1 = "source-address" ∧ SourceAllowed IpNetwork option.2 client_ip

/-- The conditions that do not depend on the authority. -/
structure Presentable {KeyData : Type} [SshCertificate KeyData] (cert : Certificate KeyData)
    (user : String) (client_ip : Option IpAddr) (now_secs : UInt64) : Prop where
  verified : SshCertificate.verify_signature cert = true
  started : cert.valid_after ≤ now_secs
  unexpired : now_secs < cert.valid_before
  principal : cert.valid_principals = [] ∨ user ∈ cert.valid_principals
  critical : ∀ option ∈ cert.critical_options, OptionAllowed IpNetwork client_ip option

end

variable {KeyData : Type}

def CertAuthorityEntry.Signs (cert : Certificate KeyData) (entry : CertAuthorityEntry KeyData) :
    Prop :=
  cert.signature_key = entry.public_key.key_data

instance [DecidableEq KeyData] (cert : Certificate KeyData) :
    DecidablePred (CertAuthorityEntry.Signs cert) :=
  fun entry => inferInstanceAs (Decidable (cert.signature_key = entry.public_key.key_data))

/-- The authority asks for no extension that the certificate lacks. -/
def CertAuthorityEntry.Permits (cert : Certificate KeyData) (entry : CertAuthorityEntry KeyData) :
    Prop :=
  "permit-port-forwarding" ∉ entry.options ∨
    ∃ extension ∈ cert.extensions, extension.1 = "permit-port-forwarding"

/-! ## What the checks accept -/

section

variable {IpNetwork : Type} [ParseNetwork IpNetwork] {client_ip : Option IpAddr}

theorem check_source_address_iff {allowed : String} :
    check_source_address IpNetwork allowed client_ip = true ↔
      SourceAllowed IpNetwork allowed client_ip := by
  unfold check_source_address SourceAllowed
  cases client_ip with
  | none => simp
  | some ip =>
    simp only [List.any_eq_true, Bool.and_eq_true, Bool.or_eq_true, decide_eq_true_eq,
      beq_iff_eq, Option.some.injEq, exists_eq_left']
    refine exists_congr fun item => and_congr_right fun _ => and_congr_right fun _ =>
      or_congr ?_ Iff.rfl
    cases (ParseNetwork.from_str (String.ofList (trim item)) : Option IpNetwork) <;> simp

theorem check_critical_options_iff {critical_options : List (String × String)} :
    check_critical_options IpNetwork critical_options client_ip = .ok () ↔
      ∀ option ∈ critical_options, OptionAllowed IpNetwork client_ip option := by
  induction critical_options with
  | nil => simp [check_critical_options]
  | cons option rest ih =>
    obtain ⟨name, data⟩ := option
    rw [List.forall_mem_cons, ← ih, check_critical_options, OptionAllowed,
      ← check_source_address_iff]
    by_cases hsource : name = "source-address"
    · subst hsource
      cases check_source_address IpNetwork data client_ip <;> simp
    · by_cases hcommand : name = "force-command"
      · simp [hcommand]
      · by_cases hpty : name = "no-pty" <;> simp [hsource, hcommand, hpty]

theorem check_extensions_iff {cert : Certificate KeyData} {entry : CertAuthorityEntry KeyData} :
    check_extensions cert entry = .ok () ↔ entry.Permits cert := by
  have hoption : (entry.options.any fun o => o == "permit-port-forwarding") = true ↔
      "permit-port-forwarding" ∈ entry.options := by simp
  have hextension : (cert.extensions.any fun e => e.1 == "permit-port-forwarding") = true ↔
      ∃ e ∈ cert.extensions, e.1 = "permit-port-forwarding" := by
    simp only [List.any_eq_true, beq_iff_eq]
  rw [CertAuthorityEntry.Permits, ← hoption, ← hextension, check_extensions]
  cases entry.options.any fun o => o == "permit-port-forwarding" <;>
    cases cert.extensions.any fun e => e.1 == "permit-port-forwarding" <;> simp

variable [DecidableEq KeyData] [SshCertificate KeyData]
  {entries : List (CertAuthorityEntry KeyData)} {cert : Certificate KeyData} {user : String}
  {now_secs : UInt64}

omit [DecidableEq KeyData] [SshCertificate KeyData] in
theorem both_checks_iff {entry : CertAuthorityEntry KeyData} :
    (do
      check_critical_options IpNetwork cert.critical_options client_ip
      check_extensions cert entry : Except AuthError Unit) = .ok () ↔
    (∀ option ∈ cert.critical_options, OptionAllowed IpNetwork client_ip option) ∧
      entry.Permits cert := by
  rw [← check_critical_options_iff, ← check_extensions_iff]
  cases check_critical_options IpNetwork cert.critical_options client_ip with
  | error e => simp [Bind.bind, Except.bind]
  | ok checked => simp [Bind.bind, Except.bind]

theorem check_certificate_iff :
    check_certificate IpNetwork entries cert user client_ip now_secs = .ok () ↔
      Presentable IpNetwork cert user client_ip now_secs ∧
      ∃ first, IsFirst (CertAuthorityEntry.Signs cert) entries first ∧ first.Permits cert := by
  unfold check_certificate
  cases hfind : entries.find? fun ca => decide (cert.signature_key = ca.public_key.key_data) with
  | none =>
    simp only [reduceCtorEq, false_iff, not_and]
    rintro - ⟨first, hfirst, -⟩
    rw [List.find?_eq_none] at hfind
    exact hfind first hfirst.mem (decide_eq_true hfirst.holds)
  | some entry =>
    have hentry : IsFirst (CertAuthorityEntry.Signs cert) entries entry :=
      find?_eq_some_iff_isFirst.mp hfind
    have hpermits : (∃ first, IsFirst (CertAuthorityEntry.Signs cert) entries first ∧
        first.Permits cert) ↔ entry.Permits cert := by
      constructor
      · rintro ⟨first, hfirst, hpermits⟩
        exact hfirst.unique hentry ▸ hpermits
      · exact fun hpermits => ⟨entry, hentry, hpermits⟩
    rw [hpermits]
    simp only
    by_cases hverified : SshCertificate.verify_signature cert = false
    · rw [if_pos hverified]
      exact iff_of_false (by simp) fun h => by simp [h.1.verified] at hverified
    rw [if_neg hverified]
    by_cases htime : now_secs < cert.valid_after ∨ cert.valid_before ≤ now_secs
    · rw [if_pos htime]
      refine iff_of_false (by simp) fun h => ?_
      rcases htime with hearly | hlate
      · exact UInt64.not_le.mpr hearly h.1.started
      · exact UInt64.not_le.mpr h.1.unexpired hlate
    rw [if_neg htime]
    by_cases hprincipal : cert.valid_principals ≠ [] ∧ user ∉ cert.valid_principals
    · rw [if_pos hprincipal]
      refine iff_of_false (by simp) fun h => ?_
      exact h.1.principal.elim hprincipal.1 hprincipal.2
    rw [if_neg hprincipal, both_checks_iff]
    simp only [not_or, UInt64.not_lt, UInt64.not_le] at htime
    refine and_congr_left fun _ => ⟨fun hcritical => ?_, fun h => h.critical⟩
    exact ⟨by simpa using hverified, htime.1, htime.2, by tauto, hcritical⟩

end

/-! ## Exact acceptance -/

section

variable (IpNetwork : Type) [ParseNetwork IpNetwork] [SshCertificate KeyData]

/-- Only user certificates, under any authority with the signing key. -/
def ExactAcceptance (answer : Except AuthError Unit) (entries : List (CertAuthorityEntry KeyData))
    (cert : Certificate KeyData) (user : String) (client_ip : Option IpAddr)
    (now_secs : UInt64) : Prop :=
  answer = .ok () ↔ cert.cert_type = .User ∧
    Presentable IpNetwork cert user client_ip now_secs ∧
    ∃ entry ∈ entries, entry.Signs cert ∧ entry.Permits cert

/-- A certificate that can be presented meets a first authority that decides rightly. -/
def FirstDecides (entries : List (CertAuthorityEntry KeyData)) (cert : Certificate KeyData)
    (user : String) (client_ip : Option IpAddr) (now_secs : UInt64) : Prop :=
  Presentable IpNetwork cert user client_ip now_secs →
    ∀ first, IsFirst (CertAuthorityEntry.Signs cert) entries first →
      (first.Permits cert ↔ cert.cert_type = .User ∧
        ∃ entry ∈ entries, entry.Signs cert ∧ entry.Permits cert)

variable [DecidableEq KeyData]

theorem check_certificate_exact_iff (entries : List (CertAuthorityEntry KeyData))
    (cert : Certificate KeyData) (user : String) (client_ip : Option IpAddr) (now_secs : UInt64) :
    ExactAcceptance IpNetwork (check_certificate IpNetwork entries cert user client_ip now_secs)
        entries cert user client_ip now_secs ↔
      FirstDecides IpNetwork entries cert user client_ip now_secs := by
  unfold ExactAcceptance FirstDecides
  rw [check_certificate_iff]
  constructor
  · intro hexact hpresentable first hfirst
    constructor
    · intro hpermits
      obtain ⟨htype, -, hentry⟩ := hexact.mp ⟨hpresentable, first, hfirst, hpermits⟩
      exact ⟨htype, hentry⟩
    · rintro ⟨htype, hentry⟩
      obtain ⟨-, first', hfirst', hpermits⟩ := hexact.mpr ⟨htype, hpresentable, hentry⟩
      exact hfirst'.unique hfirst ▸ hpermits
  · intro hdecides
    constructor
    · rintro ⟨hpresentable, first, hfirst, hpermits⟩
      obtain ⟨htype, hentry⟩ := (hdecides hpresentable first hfirst).mp hpermits
      exact ⟨htype, hpresentable, hentry⟩
    · rintro ⟨htype, hpresentable, entry, hmem, hsigns, hpermits⟩
      obtain ⟨first, hfirst⟩ := exists_isFirst ⟨entry, hmem, hsigns⟩
      exact ⟨hpresentable, first, hfirst,
        (hdecides hpresentable first hfirst).mpr ⟨htype, entry, hmem, hsigns, hpermits⟩⟩

/-- **Certificates are accepted exactly** if and only if the first authority with the signing key
permits just the right ones. -/
theorem certificate_acceptance_iff (config : ServerAuthConfig KeyData)
    (policy : AuthPolicy KeyData) (cert : Certificate KeyData) (user : String)
    (client_ip : Option IpAddr) (now_secs : UInt64) :
    (ExactAcceptance IpNetwork
        (config.authenticate_certificate IpNetwork cert user client_ip now_secs)
        config.cert_authorities cert user client_ip now_secs ↔
      FirstDecides IpNetwork config.cert_authorities cert user client_ip now_secs) ∧
    (ExactAcceptance IpNetwork
        (policy.authenticate_certificate IpNetwork cert user client_ip now_secs)
        policy.cert_authorities cert user client_ip now_secs ↔
      FirstDecides IpNetwork policy.cert_authorities cert user client_ip now_secs) :=
  ⟨check_certificate_exact_iff IpNetwork config.cert_authorities cert user client_ip now_secs,
    check_certificate_exact_iff IpNetwork policy.cert_authorities cert user client_ip now_secs⟩

end

/-- A certificate of a host, by an authority that the server trusts for users. -/
def host_certificate : Certificate TextKey where
  cert_type := .Host
  signature_key := ⟨sample_key⟩
  valid_after := 0
  valid_before := 2000
  valid_principals := []
  critical_options := []
  extensions := []

def trusting_config : ServerAuthConfig TextKey where
  authorized_keys := ∅
  cert_authorities := [⟨⟨⟨sample_key⟩, ""⟩, ["cert-authority"]⟩]
  encoded_keys := ∅

theorem host_certificate_accepted :
    let _ : SshCertificate TextKey := ⟨fun _ => true⟩
    let _ : ParseNetwork Unit := { contains := fun _ _ => false, from_str := fun _ => none }
    trusting_config.authenticate_certificate Unit host_certificate "alice" none 1000 = .ok () ∧
      ¬ ExactAcceptance Unit
        (trusting_config.authenticate_certificate Unit host_certificate "alice" none 1000)
        trusting_config.cert_authorities host_certificate "alice" none 1000 := by
  intro _ _
  have haccepted : trusting_config.authenticate_certificate Unit host_certificate "alice" none
      1000 = .ok () := by rfl
  refine ⟨haccepted, fun hexact => ?_⟩
  exact absurd (hexact.mp haccepted).1 (by decide)

end Alknet
