import Alknet.Rust.Net
import Alknet.Rust.Reads
import Alknet.Rust.Str
import Alknet.Rust.Text

/-!
# `connect_http_connect` and `proxy_channel`, `server/channel_proxy.rs`

The outbound connection of `ProxyMode::HttpConnect`, from the connection to the proxy on. Writes
succeed.
-/

open Alknet.Rust

namespace Alknet

variable {IoError : Type}

inductive HttpConnectError (IoError : Type) where
  | HttpConnectHandshakeFailed
  | HttpConnectProxyRejected (status_line : String)
  | Io (source : IoError)

/-- `"{}:{}"` of the address and the port. -/
def authority (target : SocketAddr) : List Char :=
  target.ip.to_chars ++ ':' :: show_number 10 target.port.toNat

def connect_request (target : SocketAddr) : String :=
  String.ofList ("CONNECT ".toList ++ authority target ++ " HTTP/1.1\r\nHost: ".toList ++
    authority target ++ "\r\n\r\n".toList)

/-- `b"\r\n\r\n"` -/
def header_end : List UInt8 := [13, 10, 13, 10]

/-- The loop of `connect_http_connect`, with the response so far. What it leaves of the stream is
the stream that `connect_http_connect` returns. -/
def read_response (closing : Option IoError) : List UInt8 → List (ReadChunk 1024) →
    Except (HttpConnectError IoError) (List UInt8 × Incoming 1024 IoError)
  | _, [] =>
    match closing with
    | none => .error .HttpConnectHandshakeFailed
    | some e => .error (.Io e)
  | response, buf :: reads =>
    let response := response ++ buf.bytes
    if (windows 4 response).any (· == header_end) then .ok (response, ⟨reads, closing⟩)
    else read_response closing response reads

/-- What has been written to the proxy and what is returned. -/
structure HttpConnect (IoError : Type) where
  written : List UInt8
  result : Except (HttpConnectError IoError) (Incoming 1024 IoError)

def connect_http_connect (target : SocketAddr) (stream : Incoming 1024 IoError) :
    HttpConnect IoError where
  written := as_bytes (connect_request target)
  result := do
    let (response, stream) ← read_response stream.closing [] stream.reads
    let response_str := from_utf8_lossy response
    let status_line := (lines response_str.toList).head?.getD []
    if contains "200".toList status_line then return stream
    else throw (.HttpConnectProxyRejected (String.ofList status_line))

/-- What the two copies of `proxy_channel` pass on. -/
structure Relayed where
  client_to_target : List UInt8
  target_to_client : List UInt8
deriving DecidableEq

/-- `proxy_channel` for a channel on which these bytes come. Nothing is copied if there is no
connection. -/
def proxy_channel (channel : List UInt8) (target : SocketAddr) (stream : Incoming 1024 IoError) :
    Option Relayed :=
  match (connect_http_connect target stream).result with
  | .ok outbound => some ⟨channel, outbound.bytes⟩
  | .error _ => none

end Alknet
