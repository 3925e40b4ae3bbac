import Alknet.Code.Socks5.Opener
import Alknet.Rust.NetRoundTrip
import Alknet.Server.Destination
import Alknet.Socks5.Requests

/-!
# From a SOCKS5 request to the address that is dialed

The client's SOCKS5 server writes an address as a text, and the server at the other end of the SSH
session reads that text. Policy and dial are then about what the application asked for. The port
has 16 bits all the way, so nothing is cut off.
-/

open Alknet.Rust

namespace Alknet

/-! ## Texts of addresses -/

theorem from_str_to_string (ip : IpAddr) : IpAddr.from_str ip.to_string = some ip := by
  refine parse_with_eq_some.mpr ?_
  rw [IpAddr.to_string, String.toList_ofList]
  cases ip with
  | V4 addr => simp [IpAddr.to_chars, read_ip_addr, read_ipv4_addr_show_all]
  | V6 addr =>
    have hread : read_ipv6_addr addr.to_chars = some (addr, []) := by
      have hshow := read_ipv6_addr_show addr endsAddr_nil
      rwa [List.append_nil] at hshow
    have hnot : read_ipv4_addr addr.to_chars = none := by
      by_contra hne
      have hnone := ipv6_of_ipv4 (Option.isSome_iff_ne_none.mpr hne)
      rw [hread] at hnone
      cases hnone
    simp [IpAddr.to_chars, read_ip_addr, hnot, hread]

/-- No bracket at the front. A name with one would be read as a socket address. -/
def PlainHost (host : String) : Prop := host.toList.head? ≠ some '['

theorem plainHost_ip (ip : IpAddr) : PlainHost ip.to_string := by
  intro hhead
  rw [IpAddr.to_string, String.toList_ofList] at hhead
  have hchar := List.all_eq_true.mp ip.to_chars_all '[' (List.mem_of_mem_head? hhead)
  exact absurd hchar (by decide)

/-! ## What is dialed for a host and a port -/

/-- The address that a host and a port are for: the literal, or the resolver's first address. -/
def target_of (resolver : Resolver) (host : String) (port : UInt16) : Option SocketAddr :=
  match IpAddr.from_str host with
  | some ip => some ⟨ip, port, 0⟩
  | none => (resolver.lookup_host host port).bind List.head?

theorem socket_addr_plain {host : String} (hplain : PlainHost host) {port : UInt16}
    {addr : SocketAddr} (h : SocketAddr.from_str (host_port host port.toUInt32) = some addr) :
    ∃ ip, IpAddr.from_str host = some ip ∧ addr = ⟨ip, port, 0⟩ := by
  obtain ⟨hport, ⟨a, hip, htext⟩ | ⟨a, -, hbracket⟩⟩ := socket_addr_host_port h
  · refine ⟨.V4 a, ?_, ?_⟩
    · have hhost : host = (IpAddr.V4 a).to_string := by
        rw [IpAddr.to_string, IpAddr.to_chars, ← htext, String.ofList_toList]
      rw [hhost, from_str_to_string]
    · obtain ⟨ip, port', scope_id⟩ := addr
      obtain rfl : ip = .V4 a := hip
      obtain rfl : scope_id = 0 := scope_id_of_from_str h rfl
      have heq : port' = port := by
        apply UInt16.toNat_inj.mp
        simpa using hport
      rw [heq]
  · exact absurd hbracket hplain

theorem resolve_target_plain {host : String} (hplain : PlainHost host) (resolver : Resolver)
    (port : UInt16) :
    resolve_target resolver host port.toUInt32 = target_of resolver host port := by
  unfold resolve_target target_of
  cases hsocket : SocketAddr.from_str (host_port host port.toUInt32) with
  | some addr =>
    obtain ⟨ip, hip, rfl⟩ := socket_addr_plain hplain hsocket
    simp [hip]
  | none =>
    cases hip : IpAddr.from_str host with
    | some ip => simp [resolver.literal host ip hip]
    | none => simp

/-- The address that a request is for. -/
def Requested.target (resolver : Resolver) (port : UInt16) : Requested → Option SocketAddr
  | .ipv4 octets => some ⟨.V4 ⟨octets⟩, port, 0⟩
  | .ipv6 octets => some ⟨.V6 (Ipv6Addr.from_octets octets), port, 0⟩
  | .domain name _ => target_of resolver (from_utf8_lossy name) port

def Requested.Plain : Requested → Prop
  | .domain name _ => PlainHost (from_utf8_lossy name)
  | _ => True

theorem target_of_ip (resolver : Resolver) (ip : IpAddr) (port : UInt16) :
    target_of resolver ip.to_string port = some ⟨ip, port, 0⟩ := by
  rw [target_of, from_str_to_string]

theorem resolve_target_requested {asked : Requested} (hplain : asked.Plain) (resolver : Resolver)
    (port : UInt16) :
    resolve_target resolver asked.address.host port.toUInt32 = asked.target resolver port := by
  cases asked with
  | ipv4 octets | ipv6 octets =>
    exact (resolve_target_plain (plainHost_ip _) resolver port).trans (target_of_ip ..)
  | domain name fits => exact resolve_target_plain hplain resolver port

/-! ## The whole way -/

variable {IpNetwork : Type} [Network IpNetwork]

theorem spawned_eq (handler : ServerHandler IpNetwork) (host : String) (port : UInt16) :
    (handler.channel_open_direct_tcpip host port.toUInt32).1.spawned =
      if starts_with host ALKNET_PREFIX = false ∧ handler.forwarding.check host port
          (handler.authenticated_identity.getD ⟨"", []⟩) handler.transport = true then
        some (.proxy host port.toUInt32 (handler.outbound_proxy.getD .Direct))
      else none := by
  unfold ServerHandler.channel_open_direct_tcpip
  by_cases hreserved : starts_with host ALKNET_PREFIX = true
  · simp [hreserved]
  · rw [if_neg hreserved]
    simp only [forward, Bool.not_eq_true _ ▸ hreserved, true_and, UInt16.toUInt16_toUInt32]
    split
    · rfl
    · rfl

/-- **From the request to the dial.** Policy and dial are about the address and port that the
application asked for. -/
theorem socks5_reaches_target (handler : ServerHandler IpNetwork)
    (resolver : Resolver) (channel : List UInt8) {client : List (List UInt8)} {asking : Asking}
    (hclient : client.flatten = asking.bytes) (hplain : asking.address.Plain) :
    ∃ host, asking.address.Names host ∧
      resolve_target resolver host asking.port.toUInt32 =
        asking.address.target resolver asking.port ∧
      ((handler.channel_open_direct_tcpip host asking.port.toUInt32).1.spawned =
        if starts_with host ALKNET_PREFIX = false ∧ handler.forwarding.check host asking.port
            (handler.authenticated_identity.getD ⟨"", []⟩) handler.transport = true then
          some (.proxy host asking.port.toUInt32 (handler.outbound_proxy.getD .Direct))
        else none) ∧
      handler.serve_socks5_connection channel client =
        if (handler.channel_open_direct_tcpip host asking.port.toUInt32).1.accepted then
          ⟨[(host, asking.port)], asking.payload,
            [0x05, 0x00] ++ [0x05, 0x00, 0x00, 0x01, 0, 0, 0, 0, 0, 0] ++ channel⟩
        else ⟨[(host, asking.port)], [], [0x05, 0x00] ++ Socks5Reply.connection_refused.bytes⟩ := by
  refine ⟨asking.address.address.host, asking.address.names_host,
    resolve_target_requested hplain resolver asking.port, spawned_eq handler _ _, ?_⟩
  unfold ServerHandler.serve_socks5_connection
  split
  · rename_i haccepted
    exact serve_opens hclient channel (by simp [HandleChannelOpener.open_channel, haccepted])
  · rename_i hrefused
    refine serve_refuses (e := .ChannelOpenFailed) hclient channel ?_
    simp [HandleChannelOpener.open_channel, hrefused]

/-- A request for port 22 of `::1`. -/
def askLoopback : Asking where
  greeting := ⟨[0], by decide, by decide⟩
  rsv := 0
  address := .ipv6 ⟨[0, 0, 0, 0, 0, 0, 0, 0, 0, 0, 0, 0, 0, 0, 0, 1], rfl⟩
  port := 22
  payload := [1, 2, 3]

theorem socks5_reaches_target_loopback :
    ∃ host, resolve_target (.of_dns fun _ _ => none) host 22 = some ⟨.V6 loopback, 22, 0⟩ ∧
      (ServerHandler.channel_open_direct_tcpip ⟨noLoopback, none, false, .Tcp, none⟩ host
        22).1.spawned = none ∧
      (ServerHandler.serve_socks5_connection ⟨noLoopback, none, false, .Tcp, none⟩ []
        [[5, 1, 0, 5], askLoopback.bytes.drop 4]).to_client =
        [0x05, 0x00] ++ Socks5Reply.connection_refused.bytes := by
  obtain ⟨host, hnames, htarget, hspawned, hserved⟩ :=
    socks5_reaches_target ⟨noLoopback, none, false, .Tcp, none⟩ (.of_dns fun _ _ => none) []
      (show [[5, 1, 0, 5], askLoopback.bytes.drop 4].flatten = askLoopback.bytes from rfl) trivial
  obtain rfl : host = "::1" := hnames
  refine ⟨"::1", htarget, hspawned, ?_⟩
  rw [hserved]
  rfl

end Alknet
