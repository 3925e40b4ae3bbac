import Alknet.Code.Auth
import Alknet.Lib.Chunked

/-!
# Event envelopes and their frames

`call/envelope.rs` and `call/frame.rs`. The JSON text of an envelope is `serde_json`'s, which is a
parameter.
-/

open Alknet.Lib.Chunked

namespace Alknet

/-- `serde_json::Value`. Numbers and the keys of objects are kept as their text. -/
inductive Value where
  | null
  | bool (value : Bool)
  | number (text : String)
  | string (text : String)
  | array (items : List Value)
  | object (fields : List (String × Value))

def Value.as_str : Value → Option String
  | .string text => some text
  | _ => none

structure EventEnvelope where
  type : String
  id : String
  payload : Value

/-- An envelope and who sent it, `interface/session.rs`. -/
structure InterfaceEvent where
  envelope : EventEnvelope
  identity : Option Identity

/-- `serde_json` on envelopes. Its error is kept as its text. -/
structure Json where
  to_vec : EventEnvelope → List UInt8
  from_slice : List UInt8 → Except String EventEnvelope

/-! ## Encoding and decoding -/

def to_be_bytes (n : UInt32) : List UInt8 :=
  [(n >>> 24).toUInt8, (n >>> 16).toUInt8, (n >>> 8).toUInt8, n.toUInt8]

/-- `u32::from_be_bytes` of the first four bytes, `as usize`. -/
def length_of (data : List UInt8) : Nat :=
  (data.take 4).foldl (fun acc byte => 256 * acc + byte.toNat) 0

/-- The cast of the length wraps for a body of 4 GiB or more. -/
def encode (json : Json) (envelope : EventEnvelope) : List UInt8 :=
  let body := json.to_vec envelope
  to_be_bytes (UInt32.ofNat body.length) ++ body

inductive FrameDecodeError where
  | TooShort (expected actual : Nat)
  | Incomplete (expected actual : Nat)
  | Json (e : String)

def decode_with_remainder (json : Json) (data : List UInt8) :
    Except FrameDecodeError (EventEnvelope × Nat) :=
  if data.length < 4 then .error (.TooShort 4 data.length)
  else
    let total := 4 + length_of data
    if data.length < total then .error (.Incomplete total data.length)
    else
      match json.from_slice ((data.take total).drop 4) with
      | .ok envelope => .ok (envelope, total)
      | .error e => .error (.Json e)

/-! ## Reader and writer -/

inductive ErrorKind where
  | InvalidData
  | Other
deriving DecidableEq

structure IoError where
  kind : ErrorKind
  message : String

abbrev FrameFramedReader := Reader UInt8 IoError

/-- The frame at the front of the buffer, if it is all there. It is drained whether or not its body
is an envelope. -/
def FrameFramedReader.next_frame (json : Json) (buf : List UInt8) :
    Option (Except String EventEnvelope × List UInt8) :=
  if 4 ≤ buf.length then
    let total := 4 + length_of buf
    if total ≤ buf.length then some (json.from_slice ((buf.take total).drop 4), buf.drop total)
    else none
  else none

/-- What `read_frame` makes of the end of its loop. A dropped call has no result. -/
def frame_result : Got (Except String EventEnvelope) IoError →
    Option (Except IoError (Option EventEnvelope))
  | .item (.ok envelope) => some (.ok (some envelope))
  | .item (.error e) => some (.error ⟨.InvalidData, e⟩)
  | .ended => some (.ok none)
  | .fault e => some (.error e)
  | .dropped => none

/-- `read_frame`. The future is dropped at its read number `budget + 1`, if it comes to that. -/
def FrameFramedReader.read_frame (json : Json) (budget : Nat) (reader : FrameFramedReader) :
    Option (Except IoError (Option EventEnvelope)) × FrameFramedReader :=
  let (got, reader) := reader.read (next_frame json) budget
  (frame_result got, reader)

/-- The bytes that have gone to the stream. -/
structure FrameFramedWriter where
  stream : List UInt8

/-- `write_frame` on a stream that takes what it is given. -/
def FrameFramedWriter.write_frame (json : Json) (writer : FrameFramedWriter)
    (envelope : EventEnvelope) : FrameFramedWriter :=
  ⟨writer.stream ++ encode json envelope⟩

end Alknet
