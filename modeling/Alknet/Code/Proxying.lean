import Alknet.Lib.Pipe

/-!
# Proxied connections

`proxy_local_to_remote` and `handle_forwarded_channel` of `client/forward.rs`, the end of
`handle_socks5_connection` in `socks5/mod.rs`, and `proxy_channel` of `server/channel_proxy.rs`. A
connection of an application goes through the client, an SSH channel and the server to its target.
The client and the server each copy both directions, and all four copies run at the same time.
-/

open Alknet.Lib

namespace Alknet

/-- A direction, under the name that `proxy_channel` has for it. -/
inductive Direction where
  | client_to_target
  | target_to_client
deriving DecidableEq

def Direction.other : Direction → Direction
  | .client_to_target => .target_to_client
  | .target_to_client => .client_to_target

/-- The streams that a connection is made of, from the application to the target. -/
inductive Link where
  | local_stream
  | ssh_stream
  | outbound
deriving DecidableEq

inductive Hop where
  | client
  | server
deriving DecidableEq

/-- The stream that a hop reads for a direction. -/
def Hop.input : Hop → Direction → Link
  | .client, .client_to_target => .local_stream
  | .client, .target_to_client => .ssh_stream
  | .server, .client_to_target => .ssh_stream
  | .server, .target_to_client => .outbound

/-- The stream that a hop writes for a direction. -/
def Hop.output : Hop → Direction → Link
  | .client, .client_to_target => .ssh_stream
  | .client, .target_to_client => .local_stream
  | .server, .client_to_target => .outbound
  | .server, .target_to_client => .ssh_stream

/-- How a function copies between its two streams. -/
inductive Proxying where
  /-- `tokio::join!` of two `io::copy`. Nothing is shut down, and the streams are dropped when both
  copies have ended. -/
  | join
  /-- Two tasks, each of them an `io::copy` and then a `shutdown` of what it wrote to. -/
  | tasks
  /-- `tokio::io::copy_bidirectional`. It shuts down a direction that is done and returns at the
  first error. -/
  | bidirectional
deriving DecidableEq

namespace Proxying

def proxy_local_to_remote : Proxying := .join
def handle_forwarded_channel : Proxying := .join
def handle_socks5_connection : Proxying := .bidirectional
def proxy_channel : Proxying := .tasks

end Proxying

/-- The buffer of `tokio::io::copy`. -/
def COPY_CAPACITY : Nat := 8192

structure ProxiedConnection where
  pipe : Link → Direction → Pipe UInt8
  copy : Hop → Direction → Copy UInt8
  returned : Hop → Bool

def ProxiedConnection.new : ProxiedConnection where
  pipe := fun _ _ => .new
  copy := fun _ _ => .new
  returned := fun _ => false

inductive ProxyStep where
  /-- The application or the target sends, closes its side, or reads. -/
  | send (direction : Direction) (bytes : List UInt8)
  | close (direction : Direction)
  | receive (direction : Direction) (n : Nat)
  | copy (hop : Hop) (direction : Direction) (step : CopyStep)
  | shutdown (hop : Hop) (direction : Direction)
  | drop_streams (hop : Hop)
deriving DecidableEq

namespace ProxiedConnection

def set_pipe (link : Link) (direction : Direction) (pipe : Pipe UInt8) (c : ProxiedConnection) :
    ProxiedConnection :=
  { c with pipe := fun l d => if l = link ∧ d = direction then pipe else c.pipe l d }

def set_copy (hop : Hop) (direction : Direction) (copy : Copy UInt8) (c : ProxiedConnection) :
    ProxiedConnection :=
  { c with copy := fun h d => if h = hop ∧ d = direction then copy else c.copy h d }

def input (c : ProxiedConnection) (hop : Hop) (direction : Direction) : Pipe UInt8 :=
  c.pipe (hop.input direction) direction

def output (c : ProxiedConnection) (hop : Hop) (direction : Direction) : Pipe UInt8 :=
  c.pipe (hop.output direction) direction

def close_output (hop : Hop) (direction : Direction) (c : ProxiedConnection) : ProxiedConnection :=
  c.set_pipe (hop.output direction) direction (c.output hop direction).close

/-- The first and the last hop of a direction. -/
def first_hop : Direction → Hop
  | .client_to_target => .client
  | .target_to_client => .server

def last_hop : Direction → Hop
  | .client_to_target => .server
  | .target_to_client => .client

/-- Where the bytes of a direction come from, and where they go to. -/
def source (c : ProxiedConnection) (direction : Direction) : Pipe UInt8 :=
  c.input (first_hop direction) direction

def sink (c : ProxiedConnection) (direction : Direction) : Pipe UInt8 :=
  c.output (last_hop direction) direction

def has_failed (c : ProxiedConnection) (hop : Hop) : Bool :=
  c.copy hop .client_to_target = .failed || c.copy hop .target_to_client = .failed

/-- The copies of a hop are still polled. -/
def is_copying (proxying : Proxying) (c : ProxiedConnection) (hop : Hop) : Bool :=
  match proxying with
  | .bidirectional => !c.returned hop && !c.has_failed hop
  | _ => !c.returned hop

/-- A direction of a hop has come to its `shutdown`. -/
def shuts_down (proxying : Proxying) (c : ProxiedConnection) (hop : Hop) (direction : Direction) :
    Bool :=
  match proxying with
  | .join => false
  | .tasks => (c.copy hop direction).ended
  | .bidirectional => c.copy hop direction = .done

/-- A hop has come to its end. -/
def is_through (proxying : Proxying) (c : ProxiedConnection) (hop : Hop) : Bool :=
  match proxying with
  | .join => (c.copy hop .client_to_target).ended && (c.copy hop .target_to_client).ended
  | .tasks => (c.output hop .client_to_target).closed && (c.output hop .target_to_client).closed
  | .bidirectional =>
    c.has_failed hop ||
      (c.output hop .client_to_target).closed && (c.output hop .target_to_client).closed

/-- The server always runs `proxy_channel`. -/
def proxying (client : Proxying) : Hop → Proxying
  | .client => client
  | .server => .proxy_channel

/-- A stream takes bytes until `window` of them wait to be read. -/
def step (client : Proxying) (window : Nat) (c : ProxiedConnection) :
    ProxyStep → Option ProxiedConnection
  | .send direction bytes =>
    let pipe := c.source direction
    if pipe.closed = false ∧ pipe.waiting.length + bytes.length ≤ window then
      some (c.set_pipe ((first_hop direction).input direction) direction (pipe.push bytes))
    else none
  | .close direction =>
    let pipe := c.source direction
    some (c.set_pipe ((first_hop direction).input direction) direction pipe.close)
  | .receive direction n =>
    let pipe := c.sink direction
    if 0 < n ∧ n ≤ pipe.waiting.length then
      some (c.set_pipe ((last_hop direction).output direction) direction (pipe.take n))
    else none
  | .copy hop direction i =>
    if c.is_copying (proxying client hop) hop then
      match (c.copy hop direction).step COPY_CAPACITY window (c.input hop direction)
          (c.output hop direction) i with
      | some (input, copy, output) =>
        some (((c.set_pipe (hop.input direction) direction input).set_copy hop direction
          copy).set_pipe (hop.output direction) direction output)
      | none => none
    else none
  | .shutdown hop direction =>
    if c.returned hop = false ∧ (c.output hop direction).closed = false ∧
        c.shuts_down (proxying client hop) hop direction then
      some (c.close_output hop direction)
    else none
  | .drop_streams hop =>
    if c.returned hop = false ∧ c.is_through (proxying client hop) hop then
      let dropped := (c.close_output hop .client_to_target).close_output hop .target_to_client
      some { dropped with returned := fun h => if h = hop then true else c.returned h }
    else none

end ProxiedConnection

end Alknet
