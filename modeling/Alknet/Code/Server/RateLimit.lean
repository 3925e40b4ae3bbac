import Alknet.Rust.Net
import Mathlib.Data.List.AList

/-!
# The connection limiter, `server/rate_limit.rs`, and the handlers that keep it

The limiter is behind a mutex, so each of its functions is one step. A handler's `new` asks first
and counts afterwards. Other handlers may be dropped in between.
-/

open Alknet.Rust

namespace Alknet

structure ConnectionRateLimiter where
  max_per_ip : Nat
  active : AList fun _ : IpAddr => Nat

namespace ConnectionRateLimiter

def new (max_per_ip : Nat) : ConnectionRateLimiter := ⟨max_per_ip, ∅⟩

def check (limiter : ConnectionRateLimiter) (ip : IpAddr) : Bool :=
  if limiter.max_per_ip = 0 then true
  else decide ((limiter.active.lookup ip).getD 0 < limiter.max_per_ip)

def on_connect (ip : IpAddr) (limiter : ConnectionRateLimiter) : ConnectionRateLimiter :=
  { limiter with active := limiter.active.insert ip ((limiter.active.lookup ip).getD 0 + 1) }

def on_disconnect (ip : IpAddr) (limiter : ConnectionRateLimiter) : ConnectionRateLimiter :=
  match limiter.active.lookup ip with
  | none => limiter
  | some count =>
    if count > 1 then { limiter with active := limiter.active.insert ip (count - 1) }
    else { limiter with active := limiter.active.erase ip }

end ConnectionRateLimiter

/-! ## The handlers -/

/-- The fields of a handler that its `drop` reads. -/
structure Connection where
  remote_addr : Option SocketAddr
  connection_allowed : Bool
deriving DecidableEq

/-- The first half of `new`. A connection without an address is not limited. -/
def ask_limiter (limiter : ConnectionRateLimiter) (remote_addr : Option SocketAddr) : Connection :=
  match remote_addr with
  | some addr => ⟨remote_addr, limiter.check addr.ip⟩
  | none => ⟨none, true⟩

/-- The second half of `new`. -/
def count_in (connection : Connection) (limiter : ConnectionRateLimiter) :
    ConnectionRateLimiter :=
  match connection.remote_addr, connection.connection_allowed with
  | some addr, true => limiter.on_connect addr.ip
  | _, _ => limiter

def count_out (connection : Connection) (limiter : ConnectionRateLimiter) :
    ConnectionRateLimiter :=
  match connection.remote_addr, connection.connection_allowed with
  | some addr, true => limiter.on_disconnect addr.ip
  | _, _ => limiter

/-- What `new` and `drop` of a handler type do with the limiter. -/
structure HandlerHooks where
  new_check : ConnectionRateLimiter → Option SocketAddr → Connection
  new_connect : Connection → ConnectionRateLimiter → ConnectionRateLimiter
  drop : Connection → ConnectionRateLimiter → ConnectionRateLimiter

def ServerHandler.hooks : HandlerHooks := ⟨ask_limiter, count_in, count_out⟩

def SshHandler.hooks : HandlerHooks := ⟨ask_limiter, count_in, count_out⟩

def NapiServerHandler.hooks : HandlerHooks := ⟨ask_limiter, count_in, count_out⟩

inductive HandlerKind where
  | ServerHandler
  | SshHandler
  | NapiServerHandler

def HandlerKind.hooks : HandlerKind → HandlerHooks
  | .ServerHandler => ServerHandler.hooks
  | .SshHandler => SshHandler.hooks
  | .NapiServerHandler => NapiServerHandler.hooks

/-! ## Accept loops -/

/-- The limiter, the handler that an accept loop is creating, and the handlers that live. -/
structure Connections where
  limiter : ConnectionRateLimiter
  creating : Option (HandlerKind × Connection)
  live : List (HandlerKind × Connection)

def Connections.new (max_per_ip : Nat) : Connections := ⟨.new max_per_ip, none, []⟩

inductive ConnectionStep where
  /-- `new` asks the limiter. -/
  | check (kind : HandlerKind) (remote_addr : Option SocketAddr)
  /-- The `new` that asked counts itself in and returns. -/
  | connect
  | drop (i : Nat)

/-- `none` for a step that is not possible. The accept loop makes one handler after the other. -/
def Connections.step (s : Connections) : ConnectionStep → Option Connections
  | .check kind remote_addr =>
    match s.creating with
    | none => some { s with creating := some (kind, kind.hooks.new_check s.limiter remote_addr) }
    | some _ => none
  | .connect =>
    match s.creating with
    | none => none
    | some (kind, connection) =>
      some ⟨kind.hooks.new_connect connection s.limiter, none, s.live ++ [(kind, connection)]⟩
  | .drop i =>
    match s.live[i]? with
    | none => none
    | some (kind, connection) =>
      some { s with limiter := kind.hooks.drop connection s.limiter, live := s.live.eraseIdx i }

end Alknet
