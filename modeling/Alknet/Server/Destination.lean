import Alknet.Code.Server.DirectTcpip
import Alknet.Rust.NetSpec

/-!
# The destination that the policy sees

The policy is asked about the host as the client spelled it. The spawned task dials the address
that this spelling means. The two agree under every policy exactly when the client used the
address's own text.
-/

open Alknet.Rust Alknet.Lib.Numeral

namespace Alknet

/-! ## Text -/

theorem append_colon_inj {a b c d : List Char} (h : a ++ ':' :: b = c ++ ':' :: d)
    (hb : ':' ∉ b) (hd : ':' ∉ d) : a = c ∧ b = d := by
  rcases List.append_eq_append_iff.mp h with ⟨t, rfl, ht⟩ | ⟨t, rfl, ht⟩
  all_goals
    cases t with
    | nil => simp_all
    | cons x t =>
      simp only [List.cons_append, List.cons.injEq] at ht
      simp_all

theorem colon_notMem_digits {t : List Char} {ds : List Nat}
    (h : t.map (to_digit 10) = ds.map some) : ':' ∉ t := by
  intro hmem
  have : to_digit 10 ':' ∈ ds.map some := h ▸ List.mem_map_of_mem hmem
  rw [show to_digit 10 ':' = none by decide] at this
  simp at this

theorem addr_char_ascii {c : Char} (h : addr_char c) : c.utf8Size = 1 := by
  rw [Char.utf8Size_eq_one_iff]
  simp only [addr_char, Bool.or_eq_true, beq_iff_eq] at h
  rcases h with (h | rfl) | rfl
  · obtain ⟨d, hd⟩ := Option.isSome_iff_exists.mp h
    obtain ⟨hd, -⟩ := Option.filter_eq_some_iff.mp hd
    by_contra hlarge
    have hnot : ∀ x : Char, x.val ≤ 127 → ¬ c ≤ x := fun x hx hle => hlarge (UInt32.le_trans hle hx)
    rw [if_neg fun hc => hnot '9' (by decide) hc.2, if_neg fun hc => hnot 'z' (by decide) hc.2,
      if_neg fun hc => hnot 'Z' (by decide) hc.2] at hd
    simp at hd
  · decide
  · decide

theorem utf8ByteSize_of_all {l : List Char} (h : l.all addr_char) :
    (String.ofList l).utf8ByteSize = l.length := by
  induction l with
  | nil => rfl
  | cons c l ih =>
    rw [List.all_cons, Bool.and_eq_true] at h
    rw [String.ofList_cons, String.utf8ByteSize_append, ih h.2, String.utf8ByteSize_singleton,
      addr_char_ascii h.1, List.length_cons, add_comm]

theorem ipv4_length (addr : Ipv4Addr) : addr.to_chars.length ≤ 15 := by
  have hnum : ∀ octet : UInt8, (show_number 10 octet.toNat).length ≤ 3 := by
    intro octet
    rw [show_number, List.length_map]
    exact numeral_length_le (by decide) (by decide) (by have := octet.toNat_lt; omega)
  have h₀ := hnum (addr.octets.get 0)
  have h₁ := hnum (addr.octets.get 1)
  have h₂ := hnum (addr.octets.get 2)
  have h₃ := hnum (addr.octets.get 3)
  simp only [Ipv4Addr.to_chars, List.length_append, List.length_cons]
  omega

/-! ## IP literals -/

theorem ipv6_of_ipv4 {s : List Char} (h : (read_ipv4_addr s).isSome) : read_ipv6_addr s = none := by
  obtain ⟨⟨addr, rest⟩, hr⟩ := Option.isSome_iff_exists.mp h
  have hgroups : read_groups 8 0 s = (addr.groups, true, rest) := by
    simp [read_groups, read_separator, hr]
  simp [read_ipv6_addr, hgroups, Ipv4Addr.groups]

theorem read_ipv4_addr_show_all (addr : Ipv4Addr) :
    read_ipv4_addr addr.to_chars = some (addr, []) := by
  have hend : ∀ c, ([] : List Char).head? = some c → to_digit 10 c = none := by simp
  have h := read_ipv4_addr_show addr hend
  rwa [List.append_nil] at h

/-- A resolver that asks `dns` for all that is no literal. -/
def Resolver.of_dns (dns : String → UInt16 → Option (List SocketAddr)) : Resolver where
  lookup_host host port :=
    match IpAddr.from_str host with
    | some ip => some [⟨ip, port, 0⟩]
    | none => dns host port
  literal host ip h port := by rw [h]

instance : Inhabited Resolver := ⟨.of_dns fun _ _ => none⟩

/-! ## The address that is dialed -/

/-- The address that a request fixes by itself: `host:port` is a socket address, or the host is an
IP literal. -/
def dialed (host : String) (port : UInt32) : Option SocketAddr :=
  match SocketAddr.from_str (host_port host port) with
  | some addr => some addr
  | none => (IpAddr.from_str host).map fun ip => ⟨ip, port.toUInt16, 0⟩

theorem resolve_target_iff (host : String) (port : UInt32) (addr : SocketAddr) :
    (∀ resolver, resolve_target resolver host port = some addr) ↔
      dialed host port = some addr := by
  unfold resolve_target dialed
  cases hsock : SocketAddr.from_str (host_port host port) with
  | some target => simp
  | none =>
    cases hip : IpAddr.from_str host with
    | some ip =>
      have hliteral : ∀ resolver : Resolver, resolver.lookup_host host port.toUInt16 =
          some [⟨ip, port.toUInt16, 0⟩] := fun resolver => resolver.literal host ip hip _
      simp [hliteral]
    | none =>
      simp only [Option.map_none, reduceCtorEq, iff_false]
      intro h
      have hnothing := h (.of_dns fun _ _ => none)
      simp [Resolver.of_dns, hip] at hnothing

theorem socket_addr_host_port {host : String} {port : UInt32} {target : SocketAddr}
    (h : SocketAddr.from_str (host_port host port) = some target) :
    target.port.toNat = port.toNat ∧
      ((∃ a, target.ip = .V4 a ∧ host.toList = a.to_chars) ∨
        (∃ a, target.ip = .V6 a ∧ host.toList.head? = some '[')) := by
  obtain ⟨name, t, ds, heq, hds, hport, hname⟩ := reads_all read_socket_addr_reads h
  rw [host_port, String.toList_ofList] at heq
  have hshow := map_to_digit_show (by decide : 10 ∈ [10, 16]) port.toNat
  obtain ⟨rfl, rfl⟩ := append_colon_inj heq (colon_notMem_digits hshow) (colon_notMem_digits hds)
  -- the digits of the port read back as the port
  refine ⟨?_, hname⟩
  rw [hport, ← digits_eq_of_map (hshow.symm.trans hds), value_numeral]

theorem dialed_spec {host : String} {port : UInt32} {addr : SocketAddr}
    (h : dialed host port = some addr) :
    addr.port = port.toUInt16 ∧
      (host.toList.head? = some '[' ∨ host.toList.all addr_char) ∧
      (∀ a, addr.ip = .V4 a → host.toList = a.to_chars) := by
  unfold dialed at h
  split at h
  · rename_i target hsock
    obtain rfl := Option.some.inj h
    obtain ⟨hvalue, hname⟩ := socket_addr_host_port hsock
    refine ⟨?_, ?_, ?_⟩
    · apply UInt16.toNat_inj.mp
      have := target.port.toNat_lt
      rw [UInt32.toNat_toUInt16, ← hvalue, Nat.mod_eq_of_lt this]
    · rcases hname with ⟨a, -, ha⟩ | ⟨a, -, ha⟩
      · exact Or.inr (ha ▸ a.to_chars_all)
      · exact Or.inl ha
    · intro a ha
      rcases hname with ⟨a', ha', htext⟩ | ⟨a', ha', -⟩
      · rw [ha'] at ha
        exact (IpAddr.V4.inj ha) ▸ htext
      · simp [ha'] at ha
  · obtain ⟨ip, hip, rfl⟩ := Option.map_eq_some_iff.mp h
    refine ⟨rfl, Or.inr ?_, ?_⟩
    · cases ip with
      | V4 a =>
        rw [reads_all read_ipv4_addr_reads (parse_with_eq_some.mpr (ip_addr_v4 hip))]
        exact a.to_chars_all
      | V6 a =>
        exact (reads_all read_ipv6_addr_reads (parse_with_eq_some.mpr (ip_addr_v6 hip).2)).all
    · rintro a rfl
      exact reads_all read_ipv4_addr_reads (parse_with_eq_some.mpr (ip_addr_v4 hip))

theorem dialed_not_reserved {host : String} {port : UInt32} {addr : SocketAddr}
    (h : dialed host port = some addr) : starts_with host ALKNET_PREFIX = false := by
  -- no address has a `k` in it
  by_contra hstart
  rw [Bool.not_eq_false, starts_with, List.isPrefixOf_iff_prefix] at hstart
  obtain ⟨t, ht⟩ := hstart
  rcases (dialed_spec h).2.1 with hopen | hall
  · rw [← ht] at hopen
    simp [ALKNET_PREFIX] at hopen
  · rw [← ht, List.all_append, Bool.and_eq_true] at hall
    exact absurd hall.1 (by decide)

/-! ## The policy -/

variable {IpNetwork : Type} [Network IpNetwork]

def allowAllBut (IpNetwork : Type) (name : String) : ForwardingPolicy IpNetwork :=
  ⟨.Allow, [⟨.Host name, .Deny, [], []⟩]⟩

theorem check_allowAllBut (name host : String) (hstar : '*' ∉ name.toList) (port : UInt16)
    (identity : Identity) (transport : TransportKind) :
    (allowAllBut IpNetwork name).check host port identity transport =
      decide (name ≠ host) := by
  by_cases h : name = host
  · simp [ForwardingPolicy.check, allowAllBut, check_rules, TargetPattern.matches,
      match_host_pattern, ForwardingRule.matches_principal, ForwardingRule.matches_transport, h]
  · simp [ForwardingPolicy.check, allowAllBut, check_rules, TargetPattern.matches,
      match_host_pattern, h, hstar]

theorem star_notMem_ip (ip : IpAddr) : '*' ∉ ip.to_string.toList := by
  rw [IpAddr.to_string, String.toList_ofList]
  intro hmem
  exact absurd (List.all_eq_true.mp ip.to_chars_all _ hmem) (by decide)

/-- The policy's answer for the address itself, as a handler in that state would ask for it. -/
def allowed (forwarding : ForwardingPolicy IpNetwork) (authenticated_identity : Option Identity)
    (transport : TransportKind) (addr : SocketAddr) : Bool :=
  forwarding.check addr.ip.to_string addr.port (authenticated_identity.getD ⟨"", []⟩) transport

theorem forward_accepted (forwarding : ForwardingPolicy IpNetwork)
    (authenticated_identity : Option Identity) (transport : TransportKind)
    (outbound_proxy : Option ProxyMode) (host : String) (port : UInt32) :
    (forward forwarding authenticated_identity transport outbound_proxy host port).accepted =
      forwarding.check host port.toUInt16 (authenticated_identity.getD ⟨"", []⟩) transport := by
  unfold forward
  simp only
  split
  · rename_i h
    exact h.symm
  · rename_i h
    exact (Bool.not_eq_true _ ▸ h).symm

theorem check_spelling_iff (IpNetwork : Type) [Network IpNetwork] {host : String} {port : UInt32}
    {addr : SocketAddr} (h : dialed host port = some addr) :
    (∀ (forwarding : ForwardingPolicy IpNetwork) (identity : Option Identity) transport,
      forwarding.check host port.toUInt16 (identity.getD ⟨"", []⟩) transport =
        allowed forwarding identity transport addr) ↔ host = addr.ip.to_string := by
  unfold allowed
  rw [(dialed_spec h).1]
  constructor
  · intro hall
    have hbut := hall (allowAllBut IpNetwork addr.ip.to_string) none .Tcp
    rw [check_allowAllBut _ _ (star_notMem_ip _), check_allowAllBut _ _ (star_notMem_ip _)] at hbut
    simp only [ne_eq, not_true_eq_false, decide_false, decide_eq_false_iff_not, not_not] at hbut
    exact hbut.symm
  · intro heq forwarding identity transport
    rw [← heq]

/-- **Canonical hosts.** The policy decides on the address that is dialed exactly when the host is
that address's own text. -/
theorem policy_on_dialed_iff (host : String) (port : UInt32) (addr : SocketAddr)
    (h : dialed host port = some addr) :
    (∀ resolver, resolve_target resolver host port = some addr) ∧
    ((∀ handler : ServerHandler IpNetwork,
        (handler.channel_open_direct_tcpip host port).1.accepted =
          allowed handler.forwarding handler.authenticated_identity handler.transport addr) ↔
      host = addr.ip.to_string) ∧
    ((∀ handler : SshHandler IpNetwork,
        (handler.channel_open_direct_tcpip host port).1.accepted =
          allowed handler.forwarding handler.authenticated_identity handler.transport addr) ↔
      host = addr.ip.to_string) := by
  have hfree := dialed_not_reserved h
  refine ⟨(resolve_target_iff host port addr).mpr h, ?_, ?_⟩
  · rw [← check_spelling_iff IpNetwork h]
    constructor
    · intro hall forwarding identity transport
      have := hall ⟨forwarding, none, false, transport, identity⟩
      simpa [ServerHandler.channel_open_direct_tcpip, hfree, forward_accepted] using this
    · intro hall handler
      simpa [ServerHandler.channel_open_direct_tcpip, hfree, forward_accepted] using hall _ _ _
  · rw [← check_spelling_iff IpNetwork h]
    constructor
    · intro hall forwarding identity transport
      have := hall ⟨forwarding, none, transport, identity, false, false, false⟩
      simpa [SshHandler.channel_open_direct_tcpip, hfree, forward_accepted] using this
    · intro hall handler
      simpa [SshHandler.channel_open_direct_tcpip, hfree, forward_accepted] using hall _ _ _

theorem ipv4_dialed_iff (host : String) (port : UInt32) (a : Ipv4Addr) :
    (∃ addr, dialed host port = some addr ∧ addr.ip = .V4 a) ↔
      host = (IpAddr.V4 a).to_string := by
  constructor
  · rintro ⟨addr, h, ha⟩
    rw [IpAddr.to_string, IpAddr.to_chars, ← (dialed_spec h).2.2 a ha, String.ofList_toList]
  · intro hhost
    have hlist : host.toList = a.to_chars := by
      rw [hhost, IpAddr.to_string, String.toList_ofList, IpAddr.to_chars]
    have hread : read_ipv4_addr host.toList = some (a, []) := by
      have hshow := read_ipv4_addr_show_all a
      rwa [← hlist] at hshow
    have hip : IpAddr.from_str host = some (.V4 a) :=
      parse_with_eq_some.mpr (by simp [read_ip_addr, hread])
    cases hsock : SocketAddr.from_str (host_port host port) with
    | none =>
      refine ⟨⟨.V4 a, port.toUInt16, 0⟩, ?_, rfl⟩
      unfold dialed
      simp only [hsock, hip, Option.map_some]
    | some target =>
      have hdial : dialed host port = some target := by
        unfold dialed
        simp only [hsock]
      refine ⟨target, hdial, ?_⟩
      rcases (socket_addr_host_port hsock).2 with ⟨a', ha', htext⟩ | ⟨a', -, hopen⟩
      -- the text of `a'` reads as `a`
      · have hread' := read_ipv4_addr_show_all a'
        rw [← htext, hread] at hread'
        simp only [Option.some.injEq, Prod.mk.injEq, and_true] at hread'
        rw [ha', hread']
      -- no address starts with a bracket
      · have hall := a.to_chars_all
        rw [← hlist] at hall
        have hmem := List.all_eq_true.mp hall '[' (List.mem_of_mem_head? hopen)
        exact absurd hmem (by decide)

/-! ## A bracketed host -/

instance hostNetwork : Network IpAddr := ⟨fun network addr => network == addr⟩

def loopback : Ipv6Addr := .from_groups [0, 0, 0, 0, 0, 0, 0, 1]

def noLoopback : ForwardingPolicy IpAddr :=
  ⟨.Allow, [⟨.Host "::1", .Deny, [], []⟩, ⟨.Cidr (.V6 loopback), .Deny, [], []⟩]⟩

theorem policy_on_dialed_loopback : dialed "::1" 65558 = some ⟨.V6 loopback, 22, 0⟩ ∧
    (∀ handler : ServerHandler IpAddr,
      (handler.channel_open_direct_tcpip "::1" 65558).1.accepted =
        allowed handler.forwarding handler.authenticated_identity handler.transport
          ⟨.V6 loopback, 22, 0⟩) :=
  ⟨by decide, (policy_on_dialed_iff "::1" 65558 ⟨.V6 loopback, 22, 0⟩ (by decide)).2.1.mpr
    (by decide)⟩

theorem bracketed_loopback_reached :
    (∀ resolver, resolve_target resolver "[::1]" 22 = some ⟨.V6 loopback, 22, 0⟩) ∧
    allowed noLoopback none .Tcp ⟨.V6 loopback, 22, 0⟩ = false ∧
    (ServerHandler.channel_open_direct_tcpip ⟨noLoopback, none, false, .Tcp, none⟩ "[::1]" 22).1 =
      ⟨true, some (.proxy "[::1]" 22 .Direct)⟩ ∧
    (SshHandler.channel_open_direct_tcpip ⟨noLoopback, none, .Tcp, none, false, false, false⟩
      "[::1]" 22).1 = ⟨true, some (.proxy "[::1]" 22 .Direct)⟩ := by
  refine ⟨(resolve_target_iff _ _ _).mpr (by decide), by decide, by rfl, by rfl⟩

end Alknet
