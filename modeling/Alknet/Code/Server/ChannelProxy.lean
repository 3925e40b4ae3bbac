import Alknet.Rust.AsyncIo
import Alknet.Rust.Net
import Alknet.Rust.Str

/-!
# `connect_socks5`, `server/channel_proxy.rs`

From the connection to the proxy on.
-/

open Alknet.Rust

namespace Alknet

variable {κ ρ : Type}

inductive ChannelProxyError where
  | Socks5HandshakeFailed
  | Socks5ProxyRejected
  | Io (source : StreamError)
deriving DecidableEq

def ChannelProxyError.from_io {α : Type} (io : AsyncIo κ ρ StreamError α) :
    AsyncIo κ ρ ChannelProxyError α := ExceptT.adapt .Io io

open ChannelProxyError (from_io)

/-- The request with the address as a domain name. -/
def connect_req (target : SocketAddr) : List UInt8 :=
  let ip_bytes := as_bytes target.ip.to_string
  [0x05, 0x01, 0x00, 0x03] ++ [UInt8.ofNat ip_bytes.length] ++ ip_bytes ++
    u16_to_be_bytes target.port

/-- `connect_socks5` behind its request. -/
def read_reply : AsyncIo κ ρ ChannelProxyError Unit := do
  let reply_header ← from_io (read_exact 4)
  if reply_header.toList[0]! ≠ 0x05 then throw .Socks5HandshakeFailed
  if reply_header.toList[1]! ≠ 0x00 then throw .Socks5ProxyRejected
  let atyp := reply_header.toList[3]!
  if atyp = 0x01 then
    let _addr ← from_io (read_exact 4)
  else if atyp = 0x04 then
    let _addr ← from_io (read_exact 16)
  else if atyp = 0x03 then
    let len ← from_io read_u8
    let _domain ← from_io (read_exact len.toNat)
  else throw .Socks5HandshakeFailed
  let _port ← from_io (read_exact 2)

/-- `connect_socks5` behind its greeting. -/
def send_request (target : SocketAddr) : AsyncIo κ ρ ChannelProxyError Unit := do
  let resp ← from_io (read_exact 2)
  if resp.toList[0]! ≠ 0x05 ∨ resp.toList[1]! ≠ 0x00 then throw .Socks5HandshakeFailed
  from_io (write_all (connect_req target))
  read_reply

def connect_socks5 (target : SocketAddr) : AsyncIo κ ρ ChannelProxyError Unit := do
  from_io (write_all [0x05, 0x01, 0x00])
  send_request target

end Alknet
