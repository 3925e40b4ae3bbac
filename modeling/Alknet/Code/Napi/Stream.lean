import Alknet.Lib.Pipe
import Alknet.Lib.Turns

/-!
# The streams of the Node.js package, `connect.rs` and `serve.rs` of `alknet-napi`

An `AlknetStream` at the client and an `AlknetServerStream` at the server are the two ends of an SSH
channel, with the same methods. The halves of a stream are behind a mutex each, and a call keeps it
until it returns. So the two directions have nothing in common, and this is one of them: the calls
of `write` and `close` at one end, and those of `read` at the other. A program need not wait for one
call before it makes the next, and the calls are tasks that come to the mutex in any order.

Neither half remembers that the end was sent, so a `write` after `close` goes to the SSH library as
any other. What becomes of its bytes there is left open. Both stream objects are kept: the end that
the drop of one of them sends is left out.
-/

open Alknet.Lib

namespace Alknet

inductive WriteCall where
  | write (data : List UInt8)
  | close
deriving DecidableEq

/-- What the call has to send. -/
def WriteCall.data : WriteCall → List UInt8
  | .write data => data
  | .close => []

structure AlknetStream where
  writes : Turns WriteCall (Except String Unit) UInt8
  reads : Turns UInt32 (Except String (List UInt8)) UInt8
  /-- The channel, from one end to the other. It is closed when the end was sent. -/
  pipe : Pipe UInt8
  /-- What was written after the end was sent. -/
  late : List UInt8
  /-- The session has ended. -/
  lost : Bool

/-- What the call does that has the mutex of the writing half. -/
inductive WriteStep where
  /-- `write_all` gets rid of some bytes, or returns. -/
  | send (n : Nat)
  | written
  /-- After the end was sent, the SSH library takes bytes that it does not send. -/
  | discard (n : Nat)
  /-- `shutdown` sends the end, or returns. -/
  | shutdown
  | shut
  | failed (e : String)
deriving DecidableEq

/-- What the call does that has the mutex of the reading half. -/
inductive ReadStep where
  | receive (n : Nat)
  | end_of_stream
  | failed (e : String)
deriving DecidableEq

inductive StreamStep where
  /-- The program makes a call. -/
  | write (data : List UInt8)
  | close
  | read (size : UInt32)
  /-- One of the calls that wait for a mutex gets it. -/
  | lock_write (i : Nat)
  | lock_read (i : Nat)
  | writing (i : WriteStep)
  | reading (i : ReadStep)
  /-- The session ends. Of the bytes on the way some still come through. -/
  | lose (n : Nat)
deriving DecidableEq

namespace AlknetStream

def new : AlknetStream := ⟨.new, .new, .new, [], false⟩

/-- What `read` makes of the bytes that came into its buffer. -/
def read_result (size : UInt32) (bytes : List UInt8) : List UInt8 :=
  let buf := bytes ++ List.replicate (size.toNat - bytes.length) 0
  if bytes.length = 0 then [] else buf.take bytes.length

def write_error (call : WriteCall) (e : String) : String :=
  match call with
  | .write _ => "write failed: " ++ e
  | .close => "close failed: " ++ e

/-- The SSH library takes bytes of the call. -/
def sent (s : AlknetStream) (turn : Turn WriteCall UInt8) (bytes : List UInt8) : AlknetStream :=
  { s with
    writes := s.writes.move turn bytes
    late := if s.pipe.closed then s.late ++ bytes else s.late }

/-- Bytes go on their way until `window` of them wait to be read. Once the session has ended they
go nowhere. -/
def send (window : Nat) (s : AlknetStream) (turn : Turn WriteCall UInt8) (bytes : List UInt8) :
    Option AlknetStream :=
  if s.lost then some (s.sent turn bytes)
  else if s.pipe.waiting.length + bytes.length ≤ window then
    some { s.sent turn bytes with pipe := s.pipe.push bytes }
  else none

def write_step (window : Nat) (s : AlknetStream) (turn : Turn WriteCall UInt8) :
    WriteStep → Option AlknetStream
  | .send n =>
    let left := turn.call.data.drop turn.part.length
    if 0 < n ∧ n ≤ left.length then s.send window turn (left.take n) else none
  | .discard n =>
    let left := turn.call.data.drop turn.part.length
    if s.pipe.closed ∧ 0 < n ∧ n ≤ left.length then some (s.sent turn (left.take n)) else none
  | .written =>
    match turn.call with
    | .write data =>
      if data.length ≤ turn.part.length then
        some { s with writes := s.writes.finish turn (.ok ()) }
      else none
    | .close => none
  | .shutdown =>
    match turn.call with
    | .write _ => none
    -- to send the end once more changes nothing
    | .close => if s.pipe.closed then none else some { s with pipe := s.pipe.close }
  | .shut =>
    match turn.call with
    | .write _ => none
    | .close =>
      if s.pipe.closed then some { s with writes := s.writes.finish turn (.ok ()) } else none
  | .failed e => some { s with writes := s.writes.finish turn (.error (write_error turn.call e)) }

/-- A buffer of size zero waits for bytes too, and takes none of them. -/
def read_step (s : AlknetStream) (turn : Turn UInt32 UInt8) : ReadStep → Option AlknetStream
  | .receive n =>
    if s.pipe.waiting ≠ [] ∧ n ≤ s.pipe.waiting.length ∧ n ≤ turn.call.toNat ∧
        (n = 0 → turn.call = 0) then
      let bytes := s.pipe.waiting.take n
      some { s with
        reads := s.reads.serve turn bytes (.ok (read_result turn.call bytes))
        pipe := s.pipe.take n }
    else none
  | .end_of_stream =>
    if s.pipe.waiting = [] ∧ (s.pipe.closed || s.lost) then
      some { s with reads := s.reads.finish turn (.ok (read_result turn.call [])) }
    else none
  | .failed e => some { s with reads := s.reads.finish turn (.error ("read failed: " ++ e)) }

/-- `none` for a step that is not possible. -/
def step (window : Nat) (s : AlknetStream) : StreamStep → Option AlknetStream
  | .write data => some { s with writes := s.writes.add (.write data) }
  | .close => some { s with writes := s.writes.add .close }
  | .read size => some { s with reads := s.reads.add size }
  | .lock_write i => (s.writes.start i).map fun writes => { s with writes }
  | .lock_read i => (s.reads.start i).map fun reads => { s with reads }
  | .writing i => s.writes.present.bind fun turn => s.write_step window turn i
  | .reading i => s.reads.present.bind fun turn => s.read_step turn i
  | .lose n =>
    if s.lost then none
    else some { s with pipe := { s.pipe with waiting := s.pipe.waiting.take n }, lost := true }

end AlknetStream

end Alknet
