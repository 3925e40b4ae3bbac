import Alknet.Code.Socks5.Protocol

/-!
# A connection of the SOCKS5 server, `socks5/mod.rs`

`open_channel` is a call to the outside. When the channel is open and the reply is written, the
server copies between its client and the channel: that is the end `Ok` here.
-/

open Alknet.Rust Alknet.Lib

namespace Alknet

inductive ChannelOpenError where
  | SessionClosed
  | ChannelOpenFailed
  | ConnectionRefused
deriving DecidableEq

inductive Socks5Error where
  | InvalidVersion (version : UInt8)
  | NoAcceptableAuth
  | UnsupportedCommand (command : UInt8)
  | ChannelOpenFailed
  | Io (source : StreamError)
deriving DecidableEq

/-- The stream of the opened channel is used only by the copy. -/
abbrev Socks5Io (α : Type) :=
  AsyncIo (String × UInt16) (Except ChannelOpenError Unit) Socks5Error α

def Socks5Io.from_io {α : Type}
    (io : AsyncIo (String × UInt16) (Except ChannelOpenError Unit) StreamError α) : Socks5Io α :=
  ExceptT.adapt .Io io

open Socks5Io (from_io)

def send_error_reply (reply : Socks5Reply) : Socks5Io Unit := do
  from_io reply.write_to
  from_io shutdown

/-- `handle_socks5_connection` behind its answer to the greeting. -/
def handle_socks5_request : Socks5Io Unit := do
  let request ← from_io Socks5Request.read_from
  if request.version ≠ 0x05 then throw (.InvalidVersion request.version)
  if request.command ≠ 0x01 then
    send_error_reply .command_not_supported
    throw (.UnsupportedCommand request.command)
  let (host, port) :=
    match request.address with
    | .Ipv4 addr => (IpAddr.to_string (.V4 addr), request.port)
    | .Ipv6 addr => (IpAddr.to_string (.V6 addr), request.port)
    | .Domain name => (name, request.port)
  match ← call (host, port) with
  | .ok () => from_io (Socks5Reply.success (.Ipv4 Socks5Reply.UNSPECIFIED) 0).write_to
  | .error _ =>
    send_error_reply .connection_refused
    throw .ChannelOpenFailed

def handle_socks5_connection : Socks5Io Unit := do
  let vm ← from_io Socks5VersionMethod.read_from
  if vm.version ≠ 0x05 then throw (.InvalidVersion vm.version)
  if 0x00 ∉ vm.methods then
    from_io (write_all [0x05, 0xFF])
    from_io shutdown
    throw .NoAcceptableAuth
  from_io (write_all [0x05, 0x00])
  handle_socks5_request

/-! ## A whole connection -/

/-- The channels that were asked for, and what was sent on the channel and to the client. -/
structure Socks5Served where
  calls : List (String × UInt16)
  to_channel : List UInt8
  to_client : List UInt8
deriving DecidableEq

/-- `handle_socks5_connection` with its `copy_bidirectional`. The bytes of the client come in
chunks. `channel` is what comes on the channel if it is opened. -/
def serve_socks5_connection (open_channel : String × UInt16 → Except ChannelOpenError Unit)
    (channel : List UInt8) (client : List (List UInt8)) : Socks5Served :=
  let ran := handle_socks5_connection.run.drive open_channel pop_chunk client
  match ran.result with
  | .ok () => ⟨Act.calls ran.acts, ran.rest.flatten, Act.written ran.acts ++ channel⟩
  | .error _ => ⟨Act.calls ran.acts, [], Act.written ran.acts⟩

end Alknet
