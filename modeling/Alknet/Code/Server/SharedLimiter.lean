import Alknet.Code.Server.RateLimit

/-!
# One limiter for several accept loops

`ConnectionRateLimiter` may be used by several threads, and a handler is made from whatever loop has
a connection. Each loop makes one handler after the other.
-/

open Alknet.Rust

namespace Alknet

/-- The limiter, the handlers in creation between their two halves, and the handlers that live. -/
structure SharedLimiter where
  limiter : ConnectionRateLimiter
  creating : List (HandlerKind × Connection)
  live : List (HandlerKind × Connection)

inductive SharedLimiterStep where
  /-- In some loop, `new` asks the limiter. -/
  | check (kind : HandlerKind) (remote_addr : Option SocketAddr)
  /-- One `new` that asked counts itself in and returns. -/
  | connect (i : Nat)
  | drop (i : Nat)

namespace SharedLimiter

def new (max_per_ip : Nat) : SharedLimiter := ⟨.new max_per_ip, [], []⟩

/-- `none` for a step that is not possible. -/
def step (loops : Nat) (s : SharedLimiter) : SharedLimiterStep → Option SharedLimiter
  | .check kind remote_addr =>
    if s.creating.length < loops then
      some { s with
        creating := s.creating ++ [(kind, kind.hooks.new_check s.limiter remote_addr)] }
    else none
  | .connect i =>
    s.creating[i]?.map fun entry =>
      ⟨entry.1.hooks.new_connect entry.2 s.limiter, s.creating.eraseIdx i, s.live ++ [entry]⟩
  | .drop i =>
    s.live[i]?.map fun entry =>
      { s with limiter := entry.1.hooks.drop entry.2 s.limiter, live := s.live.eraseIdx i }

end SharedLimiter

end Alknet
