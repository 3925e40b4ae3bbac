import Alknet.Rust.Reads
import Alknet.Rust.Str

/-!
# Stealth mode

`detect_protocol` of `server/stealth.rs`, and where `handle_connection` of `server/serve.rs` takes
the connection.
-/

open Alknet.Rust

namespace Alknet

variable {IoError : Type}

/-- `b"SSH-2.0-"` -/
def SSH_BANNER_PREFIX : List UInt8 := as_bytes "SSH-2.0-"

inductive ProtocolDetection where
  | Ssh
  | Http
deriving DecidableEq

def detect_protocol (stream : Incoming 8192 IoError) : ProtocolDetection × BufReader IoError :=
  let (filled, reader) := (BufReader.new stream).fill_buf
  let detection :=
    match filled with
    | .ok buf =>
      if SSH_BANNER_PREFIX.length ≤ buf.length then
        if buf.take SSH_BANNER_PREFIX.length = SSH_BANNER_PREFIX then .Ssh else .Http
      else if buf ≠ [] then
        if SSH_BANNER_PREFIX.isPrefixOf buf then .Ssh else .Http
      else .Http
    | .error _ => ProtocolDetection.Http
  (detection, reader)

/-- Where a connection goes. -/
inductive Handled (IoError : Type) where
  | handle_http_stealth (reader : BufReader IoError)
  | run_stream (reader : BufReader IoError)

/-- `handle_connection`. A stream that was not looked at is one with an empty buffer before it. -/
def handle_connection (stealth transport_is_tls : Bool) (stream : Incoming 8192 IoError) :
    Handled IoError :=
  if stealth && transport_is_tls then
    let (protocol, reader) := detect_protocol stream
    match protocol with
    | .Http => .handle_http_stealth reader
    | .Ssh => .run_stream reader
  else .run_stream (BufReader.new stream)

end Alknet
