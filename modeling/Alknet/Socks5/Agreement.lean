import Alknet.Code.Socks5.Server
import Alknet.Code.Server.ChannelProxy
import Alknet.Lib.Tunnel
import Alknet.Server.Destination

/-!
# The SOCKS5 client and the SOCKS5 server agree

`connect_socks5` of the server's proxy code talks to `handle_socks5_connection` of the client's
SOCKS5 server.
-/

open Alknet.Lib Alknet.Lib.Numeral Alknet.Rust

namespace Alknet

/-! ## The text of an address -/

theorem fmt_subslice_length (segments : List UInt16) :
    (fmt_subslice segments).length ≤ 5 * segments.length := by
  have hnum : ∀ segment : UInt16, (show_number 16 segment.toNat).length ≤ 4 := by
    intro segment
    rw [show_number, List.length_map]
    exact numeral_length_le (by decide) (by decide) (by have := segment.toNat_lt; omega)
  cases segments with
  | nil => exact Nat.zero_le _
  | cons first tail =>
    have htail : (tail.flatMap fun segment => ':' :: show_number 16 segment.toNat).length ≤
        5 * tail.length := by
      induction tail with
      | nil => exact Nat.zero_le _
      | cons segment tail ih =>
        have := hnum segment
        simp only [List.flatMap_cons, List.length_append, List.length_cons]
        omega
    have := hnum first
    simp only [fmt_subslice, List.length_append, List.length_cons]
    omega

theorem ipv6_length (addr : Ipv6Addr) : addr.to_chars.length ≤ 100 := by
  have hlength : addr.segments.toList.length = 8 := addr.segments.toList_length
  unfold Ipv6Addr.to_chars
  split
  · rename_i ipv4 _
    have hmapped : "::ffff:".toList.length = 7 := rfl
    have := ipv4_length ipv4
    rw [List.length_append]
    omega
  · dsimp only
    split
    · generalize longest_span addr.segments.toList 0 ⟨0, 0⟩ ⟨0, 0⟩ = zeroes
      have hcolons : "::".toList.length = 2 := rfl
      have hbefore := fmt_subslice_length (addr.segments.toList.take zeroes.start)
      have hafter := fmt_subslice_length (addr.segments.toList.drop (zeroes.start + zeroes.len))
      rw [List.length_take] at hbefore
      rw [List.length_drop] at hafter
      rw [List.length_append, List.length_append]
      omega
    · have := fmt_subslice_length addr.segments.toList
      omega

theorem ip_text_length (ip : IpAddr) : (as_bytes ip.to_string).length < 256 := by
  have hsize : (as_bytes ip.to_string).length = ip.to_chars.length :=
    utf8ByteSize_of_all ip.to_chars_all
  rw [hsize]
  cases ip with
  | V4 addr => exact (ipv4_length addr).trans_lt (by decide)
  | V6 addr => exact (ipv6_length addr).trans_lt (by decide)

/-! ## The replies -/

def Socks5Address.bytes : Socks5Address → List UInt8
  | .Ipv4 addr => 0x01 :: addr.octets.toList
  | .Ipv6 addr => 0x04 :: addr.octets
  | .Domain name => 0x03 :: UInt8.ofNat (as_bytes name).length :: as_bytes name

def Socks5Reply.bytes (reply : Socks5Reply) : List UInt8 :=
  reply.version :: reply.reply :: 0x00 :: (reply.address.bytes ++ u16_to_be_bytes reply.port)

section

variable {κ ρ : Type} {answer : κ → ρ}

theorem write_to_exec (reply : Socks5Reply) :
    (reply.write_to : AsyncIo κ ρ StreamError Unit).run.Exec answer [] reply.bytes []
      (.done (.ok ())) := by
  obtain ⟨version, code, address, port⟩ := reply
  cases address with
  | Ipv4 addr =>
    exact (write_all_exec [version]).seq ((write_all_exec [code]).seq ((write_all_exec [0x00]).seq
      ((write_all_exec [0x01]).seq ((write_all_exec addr.octets.toList).seq (write_all_exec _)))))
  | Ipv6 addr =>
    exact (write_all_exec [version]).seq ((write_all_exec [code]).seq ((write_all_exec [0x00]).seq
      ((write_all_exec [0x04]).seq ((write_all_exec addr.octets).seq (write_all_exec _)))))
  | Domain name =>
    exact (write_all_exec [version]).seq ((write_all_exec [code]).seq ((write_all_exec [0x00]).seq
      ((write_all_exec [0x03]).seq ((write_all_exec [_]).seq
        ((write_all_exec (as_bytes name)).seq (write_all_exec _))))))

/-! ## The client -/

theorem read_exact_list {n : Nat} (bytes : List UInt8) (hlength : bytes.length = n) :
    (read_exact n : AsyncIo κ ρ StreamError _).run.Exec answer bytes [] []
      (.done (.ok ⟨bytes, hlength⟩)) := read_exact_exec ⟨bytes, hlength⟩

theorem connect_greets (target : SocketAddr) :
    (connect_socks5 target).run.Exec answer [] [0x05, 0x01, 0x00] [] (send_request target).run :=
  (adapt_exec _ (write_all_exec _)).next _

theorem connect_asks (target : SocketAddr) :
    (send_request target).run.Exec answer [0x05, 0x00] (connect_req target) [] read_reply.run :=
  (adapt_exec _ (read_exact_list [0x05, 0x00] rfl)).seq ((adapt_exec _ (write_all_exec _)).next _)

theorem connect_accepts :
    (read_reply : AsyncIo κ ρ ChannelProxyError Unit).run.Exec answer
      [0x05, 0x00, 0x00, 0x01, 0, 0, 0, 0, 0, 0] [] [] (.done (.ok ())) :=
  (adapt_exec _ (read_exact_list [0x05, 0x00, 0x00, 0x01] rfl)).seq
    ((adapt_exec _ (read_exact_list [0, 0, 0, 0] rfl)).seq
      ((adapt_exec _ (read_exact_list [0, 0] rfl)).next _))

theorem connect_rejects :
    (read_reply : AsyncIo κ ρ ChannelProxyError Unit).run.Exec answer [0x05, 0x05, 0x00, 0x01] [] []
      (.done (.error .Socks5ProxyRejected)) :=
  (adapt_exec _ (read_exact_list [0x05, 0x05, 0x00, 0x01] rfl)).next _

/-! ## The server -/

theorem read_greeting :
    (Socks5VersionMethod.read_from : AsyncIo κ ρ StreamError _).run.Exec answer [0x05, 0x01, 0x00]
      [] [] (.done (.ok ⟨0x05, [0x00]⟩)) :=
  (read_u8_exec 0x05).seq ((read_u8_exec 0x01).seq ((read_exact_list [0x00] rfl).next _))

theorem read_request (target : SocketAddr) :
    (Socks5Request.read_from : AsyncIo κ ρ StreamError _).run.Exec answer (connect_req target) [] []
      (.done (.ok ⟨0x05, 0x01, .Domain target.ip.to_string, target.port⟩)) := by
  have hsame : (as_bytes target.ip.to_string).length =
      (UInt8.ofNat (as_bytes target.ip.to_string).length).toNat :=
    (UInt8.toNat_ofNat_of_lt' (ip_text_length target.ip)).symm
  -- The name is read back through the lossy decoder, which gives a well-formed text itself.
  have hread : (Socks5Request.read_from : AsyncIo κ ρ StreamError _).run.Exec answer
      (connect_req target) [] []
      (.done (.ok ⟨0x05, 0x01, .Domain (from_utf8_lossy (as_bytes target.ip.to_string)),
        target.port⟩)) :=
    (read_u8_exec 0x05).seq ((read_u8_exec 0x01).seq ((read_u8_exec 0x00).seq
      ((read_u8_exec 0x03).seq ((read_u8_exec _).seq ((read_exact_list _ hsame).seq
        ((read_u16_exec target.port).next _))))))
  rw [from_utf8_lossy_as_bytes] at hread
  exact hread

end

theorem server_greets (answer : String × UInt16 → Except ChannelOpenError Unit) :
    handle_socks5_connection.run.Exec answer [0x05, 0x01, 0x00] [0x05, 0x00] []
      handle_socks5_request.run :=
  (adapt_exec _ read_greeting).seq ((adapt_exec _ (write_all_exec _)).next _)

variable {open_channel : String × UInt16 → Except ChannelOpenError Unit} {target : SocketAddr}

theorem server_opens (hopen : open_channel (target.ip.to_string, target.port) = .ok ()) :
    handle_socks5_request.run.Exec open_channel (connect_req target)
      [0x05, 0x00, 0x00, 0x01, 0, 0, 0, 0, 0, 0] [(target.ip.to_string, target.port)]
      (.done (.ok ())) := by
  have hcall : (call (target.ip.to_string, target.port) : Socks5Io _).run.Exec open_channel [] []
      [(target.ip.to_string, target.port)] (.done (.ok (.ok ()))) := hopen ▸ call_exec _
  rw [← List.append_nil (connect_req target)]
  exact (adapt_exec _ (read_request target)).seq (hcall.seq (adapt_exec _ (write_to_exec _)))

theorem server_refuses {e : ChannelOpenError}
    (hopen : open_channel (target.ip.to_string, target.port) = .error e) :
    handle_socks5_request.run.Exec open_channel (connect_req target)
      [0x05, 0x05, 0x00, 0x01, 0, 0, 0, 0, 0, 0] [(target.ip.to_string, target.port)]
      (.shutdown (.done (.error .ChannelOpenFailed))) := by
  have hcall : (call (target.ip.to_string, target.port) : Socks5Io _).run.Exec open_channel [] []
      [(target.ip.to_string, target.port)] (.done (.ok (.error e))) := hopen ▸ call_exec _
  rw [← List.append_nil (connect_req target)]
  have hreply : (send_error_reply .connection_refused).run.Exec open_channel []
      Socks5Reply.connection_refused.bytes [] (.shutdown (.done (.ok ()))) :=
    (adapt_exec _ (write_to_exec _)).next _
  exact (adapt_exec _ (read_request target)).seq (hcall.seq (hreply.bind _))

/-! ## The two together -/

def Socks5Outcome : Side → Type
  | .left => Except ChannelProxyError Unit
  | .right => Except Socks5Error Unit

/-- The client is on the left, the server on the right. -/
abbrev Socks5Run :=
  Duplex UInt8 (String × UInt16) (Except ChannelOpenError Unit) Socks5Outcome

/-- Both sides run, and the channel has not been asked for. -/
def socks5_at
    (client : AsyncIo (String × UInt16) (Except ChannelOpenError Unit) ChannelProxyError Unit)
    (server : Socks5Io Unit) (to_client to_server : List UInt8) : Socks5Run :=
  .of ⟨owned client, [], false⟩ ⟨owned server, [], false⟩ to_client to_server

def socks5_start (target : SocketAddr) : Socks5Run :=
  socks5_at (connect_socks5 target) handle_socks5_connection [] []

/-- The side goes on with the tunnel. -/
def socks5_open : ∀ side, Socks5Outcome side → Bool
  | .left, result => Except.isOk result
  | .right, result => Except.isOk result

/-- The state at the end of every run. -/
def socks5_end (target : SocketAddr) : Except ChannelOpenError Unit → Socks5Run
  | .ok () => .of ⟨.done (.ok ()), [], false⟩
      ⟨.done (.ok ()), [(target.ip.to_string, target.port)], false⟩ [] []
  | .error _ => .of ⟨.done (.error .Socks5ProxyRejected), [], true⟩
      ⟨.done (.error .ChannelOpenFailed), [(target.ip.to_string, target.port)], true⟩
      [0, 0, 0, 0, 0, 0] []

section

variable {client client' : AsyncIo (String × UInt16) (Except ChannelOpenError Unit)
    ChannelProxyError Unit} {server server' : Socks5Io Unit} {input output : List UInt8}

theorem client_moves (h : client.run.Exec open_channel input output [] client'.run) :
    Reaches (Duplex.step open_channel) (socks5_at client server input [])
      (socks5_at client' server [] output) :=
  Duplex.reaches_left (h.bind drop_on_error) (List.append_nil input).symm

theorem server_moves (h : server.run.Exec open_channel input output [] server'.run) :
    Reaches (Duplex.step open_channel) (socks5_at client server [] input)
      (socks5_at client server' output []) :=
  Duplex.reaches_right (h.bind drop_on_error) (List.append_nil input).symm

end

theorem socks5_requests :
    Reaches (Duplex.step open_channel) (socks5_start target)
      (socks5_at read_reply handle_socks5_request [] (connect_req target)) :=
  ((client_moves (connect_greets target)).trans (server_moves (server_greets open_channel))).trans
    (client_moves (connect_asks target))

theorem socks5_opens (hopen : open_channel (target.ip.to_string, target.port) = .ok ()) :
    Reaches (Duplex.step open_channel)
      (socks5_at read_reply handle_socks5_request [] (connect_req target))
      (socks5_end target (.ok ())) := by
  have hserver := (server_opens hopen).bind drop_on_error
  refine (Duplex.reaches_right hserver (List.append_nil _).symm).trans ?_
  exact Duplex.reaches_left (connect_accepts.bind drop_on_error) rfl

theorem socks5_refuses {e : ChannelOpenError}
    (hopen : open_channel (target.ip.to_string, target.port) = .error e) :
    Reaches (Duplex.step open_channel)
      (socks5_at read_reply handle_socks5_request [] (connect_req target))
      (socks5_end target (.error e)) := by
  -- behind the code of the reply the address and the port are left unread
  have hserver := (server_refuses hopen).bind drop_on_error
  refine (Duplex.reaches_right hserver (List.append_nil _).symm).trans ?_
  -- The server shuts the stream down behind its reply and again when it drops it.
  refine (Duplex.reaches_shutdown_right false).trans
    ((Duplex.reaches_shutdown_right true).trans ?_)
  refine Reaches.trans ?_ (Duplex.reaches_shutdown_left false)
  exact Duplex.reaches_left (connect_rejects.bind drop_on_error) rfl

theorem socks5_ends (open_channel : String × UInt16 → Except ChannelOpenError Unit)
    (target : SocketAddr) :
    Reaches (Duplex.step open_channel) (socks5_start target)
      (socks5_end target (open_channel (target.ip.to_string, target.port))) := by
  cases hopen : open_channel (target.ip.to_string, target.port) with
  | ok => exact socks5_requests.trans (socks5_opens hopen)
  | error e => exact socks5_requests.trans (socks5_refuses hopen)

theorem socks5_end_last (outcome : Except ChannelOpenError Unit) (side : Side) :
    (socks5_end target outcome).step open_channel side = none := by
  cases outcome <;> cases side <;> rfl

theorem socks5_end_complete : (socks5_end target (.ok ())).Complete socks5_open where
  is_open side := by cases side <;> rfl
  empty side := by cases side <;> rfl
  alive side := by cases side <;> rfl

/-- **Client and server agree** however they are scheduled, and the tunnel is whole. -/
theorem socks5_agree (open_channel : String × UInt16 → Except ChannelOpenError Unit)
    (target : SocketAddr) :
    (∃ bound, ∀ schedule s,
      run (Duplex.step open_channel) (socks5_start target) schedule = some s →
        schedule.length ≤ bound ∧
        ((∀ side, s.step open_channel side = none) →
          (s.party .right).calls = [(target.ip.to_string, target.port)] ∧
          (s.party .left).proc = .done
            (match open_channel (target.ip.to_string, target.port) with
            | .ok () => .ok ()
            | .error _ => .error .Socks5ProxyRejected))) ∧
    (open_channel (target.ip.to_string, target.port) = .ok () → ∀ steps s,
      run (Tunnel.step open_channel socks5_open) (.start (socks5_start target)) steps = some s →
        ∀ side, s.got side <+: s.sent side.other ∧
          (s.duplex.is_open socks5_open side = true →
            s.sent side.other = s.got side ++ s.duplex.inbox side)) := by
  obtain ⟨schedule, hschedule⟩ := socks5_ends open_channel target
  refine ⟨⟨schedule.length, fun other s hother => ?_⟩, fun hopen steps s hsteps side => ?_⟩
  · obtain ⟨rest, hrest, hlength⟩ :=
      run_descends Duplex.step_commutes (socks5_end_last _) hschedule hother
    refine ⟨by omega, fun hlast => ?_⟩
    obtain rfl := run_of_last hlast hrest
    cases open_channel (target.ip.to_string, target.port) <;> exact ⟨rfl, rfl⟩
  · rw [hopen] at hschedule
    exact Tunnel.exact_run socks5_end_complete ⟨schedule, hschedule⟩ hsteps side

end Alknet
