import Alknet.Code.Call.Frame
import Alknet.Rust.Outcome
import Alknet.Rust.Str

/-! # The raw framing session, `interface/raw_framing.rs` -/

open Alknet.Lib.Chunked Alknet.Rust

namespace Alknet

inductive AuthState where
  | Pending
  | Authenticated (identity : Identity)
  | Failed

structure RawFramingSession where
  reader : Reader UInt8 IoError
  written : List UInt8
  auth_state : AuthState

def RawFramingSession.new (stream : List (Event UInt8 IoError)) : RawFramingSession :=
  ⟨⟨stream, []⟩, [], .Pending⟩

/-! ## Frames -/

/-- The frame at the front of the buffer. One whose body is not an envelope stays there. -/
def RawFramingSession.next_frame (json : Json) (read_buf : List UInt8) :
    Option (Except String EventEnvelope × List UInt8) :=
  match decode_with_remainder json read_buf with
  | .ok (envelope, consumed) => some (.ok envelope, read_buf.drop consumed)
  | .error (.TooShort _ _) => none
  | .error (.Incomplete _ _) => none
  | .error (.Json e) => some (.error ("frame JSON decode error: " ++ e), read_buf)

/-- The errors are the texts of the source's `anyhow` errors. -/
def raw_result : Got (Except String EventEnvelope) IoError → Option (Except String EventEnvelope)
  | .item r => some r
  | .ended => some (.error "stream closed while reading frame")
  | .fault e => some (.error e.message)
  | .dropped => none

/-- `read_frame`, dropped at its read number `budget + 1`, if it comes to that. -/
def RawFramingSession.read_frame (json : Json) (budget : Nat) (reader : Reader UInt8 IoError) :
    Option (Except String EventEnvelope) × Reader UInt8 IoError :=
  let (got, reader) := reader.read (next_frame json) budget
  (raw_result got, reader)

/-! ## The session -/

/-- The token that an envelope carries: its payload, if that is a string. -/
def token_of (envelope : EventEnvelope) : AuthToken :=
  ⟨as_bytes (envelope.payload.as_str.getD "")⟩

/-- `recv`, dropped like its `read_frame`. A dropped call has no result. The answers of the
identity provider are those at the time of the call. -/
def RawFramingSession.recv (json : Json) (resolve_from_token : AuthToken → Option Identity)
    (budget : Nat) (session : RawFramingSession) :
    Option (Option InterfaceEvent) × RawFramingSession :=
  match session.auth_state with
  | .Failed => (some none, session)
  | .Authenticated identity =>
    match read_frame json budget session.reader with
    | (none, reader) => (none, { session with reader })
    | (some (.error _), reader) => (some none, { session with reader })
    | (some (.ok envelope), reader) =>
      (some (some ⟨envelope, some identity⟩), { session with reader })
  | .Pending =>
    match read_frame json budget session.reader with
    | (none, reader) => (none, { session with reader })
    | (some (.error _), reader) => (some none, { session with reader, auth_state := .Failed })
    | (some (.ok envelope), reader) =>
      match resolve_from_token (token_of envelope) with
      | some identity =>
        (some (some ⟨envelope, some identity⟩),
          { session with reader, auth_state := .Authenticated identity })
      | none => (some none, { session with reader, auth_state := .Failed })

/-- `recv` with an identity provider that may panic, as `ConfigIdentityProvider` may. -/
def RawFramingSession.recv_or_panic (json : Json)
    (resolve_from_token : AuthToken → Outcome Empty (Option Identity)) (budget : Nat)
    (session : RawFramingSession) :
    Outcome Empty (Option (Option InterfaceEvent) × RawFramingSession) :=
  match session.auth_state with
  | .Failed => .ok (some none, session)
  | .Authenticated identity =>
    match read_frame json budget session.reader with
    | (none, reader) => .ok (none, { session with reader })
    | (some (.error _), reader) => .ok (some none, { session with reader })
    | (some (.ok envelope), reader) =>
      .ok (some (some ⟨envelope, some identity⟩), { session with reader })
  | .Pending =>
    match read_frame json budget session.reader with
    | (none, reader) => .ok (none, { session with reader })
    | (some (.error _), reader) => .ok (some none, { session with reader, auth_state := .Failed })
    | (some (.ok envelope), reader) => do
      match ← resolve_from_token (token_of envelope) with
      | some identity =>
        return (some (some ⟨envelope, some identity⟩),
          { session with reader, auth_state := .Authenticated identity })
      | none => return (some none, { session with reader, auth_state := .Failed })

/-- How far the writer gets with a frame. -/
inductive WriteFate where
  | written
  | failed (n : Nat) (e : String)

def RawFramingSession.send (json : Json) (envelope : EventEnvelope) (fate : WriteFate)
    (session : RawFramingSession) : Except String Unit × RawFramingSession :=
  match session.auth_state with
  | .Failed => (.error "session authentication failed", session)
  | _ =>
    let frame := encode json envelope
    match fate with
    | .written => (.ok (), { session with written := session.written ++ frame })
    | .failed n e => (.error e, { session with written := session.written ++ frame.take n })

inductive SessionCall where
  | recv (resolve_from_token : AuthToken → Option Identity) (budget : Nat)
  | send (envelope : EventEnvelope) (fate : WriteFate)

inductive SessionReply where
  | event (event : Option InterfaceEvent)
  | dropped
  | sent (result : Except String Unit)

def RawFramingSession.call (json : Json) (call : SessionCall) (session : RawFramingSession) :
    SessionReply × RawFramingSession :=
  match call with
  | .recv resolve_from_token budget =>
    match session.recv json resolve_from_token budget with
    | (some event, session) => (.event event, session)
    | (none, session) => (.dropped, session)
  | .send envelope fate =>
    match session.send json envelope fate with
    | (result, session) => (.sent result, session)

def RawFramingSession.run (json : Json) : List SessionCall → RawFramingSession →
    List SessionReply × RawFramingSession
  | [], session => ([], session)
  | call :: calls, session =>
    let (reply, session) := session.call json call
    let (replies, session) := run json calls session
    (reply :: replies, session)

end Alknet
