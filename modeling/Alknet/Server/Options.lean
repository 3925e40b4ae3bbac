import Alknet.Code.Server.Options
import Mathlib.Tactic.Common

/-!
# Which options make a server

A listener can be given by a list of listeners or by the flags for a single one. Both ways are
checked alike, and a server that was made has a listener to run.
-/

open Alknet.Rust

namespace Alknet

/-! ## One listener -/

theorem check_tls_iff (texts : TlsTexts) (is_tls stealth : Bool)
    (tls_cert tls_key acme_domain : Option String) :
    check_tls texts is_tls stealth tls_cert tls_key acme_domain = .ok () ↔
      (stealth = true → is_tls = true) ∧
      (is_tls = true → (tls_cert.isSome = true ∨ acme_domain.isSome = true) ∧
        tls_cert.isSome = tls_key.isSome) ∧
      (is_tls = false → tls_cert = none ∧ tls_key = none ∧ acme_domain = none) := by
  unfold check_tls
  cases is_tls <;> cases stealth <;> cases tls_cert <;> cases tls_key <;> cases acme_domain <;>
    simp

theorem is_valid_pair_ssh (transport : TransportKind) : is_valid_pair transport .Ssh = true := by
  cases transport <;> rfl

theorem listener_validate_iff (opts : ServeOptions) :
    opts.listener.validate = .ok () ↔
      check_tls ServeOptions.tls_texts (opts.transport_mode == .Tls) opts.stealth opts.tls_cert
        opts.tls_key opts.acme_domain = .ok () := by
  unfold ServeOptions.listener ListenerConfig.validate StreamListenerConfig.validate
  simp only [is_valid_pair_ssh, if_true]
  rw [check_tls_iff, check_tls_iff]
  cases opts.transport_mode <;> rfl

theorem validate_listeners_iff (listeners : List ListenerConfig) :
    validate_listeners listeners = .ok () ↔ ∀ l ∈ listeners, l.validate = .ok () := by
  induction listeners with
  | nil => exact iff_of_true rfl (by simp)
  | cons listener listeners ih =>
    rw [List.forall_mem_cons, ← ih, validate_listeners]
    cases hfirst : listener.validate with
    | error e => exact iff_of_false (by rintro ⟨⟩) (by simp)
    | ok => exact (and_iff_right rfl).symm

theorem validate_iff (opts : ServeOptions) :
    opts.validate = .ok () ↔ opts.listeners.getD [opts.listener] ≠ [] ∧
      ∀ l ∈ opts.listeners.getD [opts.listener], l.validate = .ok () := by
  unfold ServeOptions.validate
  split
  · rename_i hempty
    rw [hempty]
    exact iff_of_false (by rintro ⟨⟩) (by simp)
  · rename_i listeners hne hsome
    rw [hsome, validate_listeners_iff, Option.getD_some]
    exact (and_iff_right hne).symm
  · rename_i hnone
    rw [hnone, Option.getD_none, List.forall_mem_singleton, listener_validate_iff]
    exact (and_iff_right (by simp)).symm

/-! ## The server -/

variable {KeyData IpNetwork HostKey : Type} [SshKey KeyData] [DecidableEq KeyData]
  [SecretKey HostKey]

/-- **Which servers there are:** those of valid listeners whose keys and proxy can be read. -/
theorem server_new_iff (files : FileSystem) (opts : ServeOptions)
    (server : Server KeyData IpNetwork HostKey) :
    Server.new files opts = .ok server ↔
      (server.listeners = opts.listeners.getD [opts.listener] ∧ server.listeners ≠ [] ∧
        ∀ l ∈ server.listeners, l.validate = .ok ()) ∧
      load_private_key files opts.key = .ok server.host_key ∧
      (∃ auth_config, ServerAuthConfig.from_keys_and_ca files opts.authorized_keys
          opts.cert_authority = .ok auth_config ∧
        server.dynamic = .from_parts (.from_server_auth_config auth_config) (.allow_all IpNetwork)
          ⟨0, 10⟩) ∧
      parse_proxy_config opts.proxy = .ok server.outbound_proxy ∧
      server.connection_limiter = .new opts.max_connections_per_ip ∧
      server.max_auth_attempts = opts.max_auth_attempts := by
  constructor
  · intro h
    obtain ⟨⟨static_config, dynamic⟩, hconfig, hserver⟩ := bind_eq_ok h
    obtain ⟨_, hvalid, hconfig⟩ := bind_eq_ok hconfig
    obtain ⟨host_key, hkey, hconfig⟩ := bind_eq_ok hconfig
    obtain ⟨auth_config, hauth, hconfig⟩ := bind_eq_ok hconfig
    obtain ⟨proxy_config, hproxy, hconfig⟩ := bind_eq_ok hconfig
    cases hconfig
    cases hserver
    have hvalid' := (validate_iff opts).mp (ofResult_eq_ok.mp hvalid)
    exact ⟨⟨rfl, hvalid'⟩, ofResult_eq_ok.mp hkey,
      ⟨auth_config, mapError_eq_ok.mp hauth, rfl⟩, ofResult_eq_ok.mp hproxy, rfl, rfl⟩
  · obtain ⟨host_key, dynamic, connection_limiter, outbound_proxy, listeners, max_auth_attempts⟩ :=
      server
    rintro ⟨⟨rfl, hvalid⟩, hkey, ⟨auth_config, hauth, rfl⟩, hproxy, rfl, rfl⟩
    have hvalid' := (validate_iff opts).mpr hvalid
    simp only [Server.new, StaticConfig.from_serve_options, hvalid', hkey, hauth, hproxy, ofResult,
      Except.mapError]
    rfl

theorem server_run_of_new {files : FileSystem} {opts : ServeOptions}
    {server : Server KeyData IpNetwork HostKey} (h : Server.new files opts = .ok server) :
    ∃ what, server.run = some what ∧
      ∀ kind stealth is_tls, what = .run_stream kind stealth is_tls →
        (stealth && is_tls) = stealth := by
  obtain ⟨⟨-, hne, hvalid⟩, -⟩ := (server_new_iff files opts server).mp h
  unfold Server.run
  split
  · rename_i hempty
    exact absurd hempty hne
  · rename_i config others hlisteners
    refine ⟨_, rfl, ?_⟩
    rintro kind stealth is_tls ⟨⟩
    have hstream : config.validate = .ok () := hvalid (.Stream config) (by simp [hlisteners])
    unfold StreamListenerConfig.validate at hstream
    split at hstream
    · have htls := ((check_tls_iff ..).mp hstream).1
      cases hstealth : config.stealth with
      | false => rfl
      | true => rw [htls hstealth]; rfl
    · cases hstream
  · exact ⟨_, rfl, by rintro _ _ _ ⟨⟩⟩
  · exact ⟨_, rfl, by rintro _ _ _ ⟨⟩⟩

end Alknet
