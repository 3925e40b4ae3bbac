import Alknet.Code.Auth
import Alknet.Code.Server.RateLimit

/-!
# `auth_publickey` of the three handlers

The attempt limiter of `server/rate_limit.rs` and the authentication of `ServerHandler`,
`SshHandler` and `NapiServerHandler`. They differ in what they log. The counter wraps as a `usize`
does.
-/

namespace Alknet

structure AuthAttemptLimiter where
  max_attempts : UInt64
  failures : UInt64

namespace AuthAttemptLimiter

def new (max_attempts : UInt64) : AuthAttemptLimiter := ⟨max_attempts, 0⟩

def check (limiter : AuthAttemptLimiter) : Bool :=
  if limiter.max_attempts = 0 then true else decide (limiter.failures < limiter.max_attempts)

def on_failure (limiter : AuthAttemptLimiter) : AuthAttemptLimiter :=
  { limiter with failures := limiter.failures + 1 }

end AuthAttemptLimiter

inductive Auth where
  | Accept
  | Reject
deriving DecidableEq

/-- The fields of a handler that `auth_publickey` changes. -/
structure Authentication where
  auth_limiter : AuthAttemptLimiter
  authenticated_identity : Option Identity

def Authentication.new (max_auth_attempts : UInt64) : Authentication :=
  ⟨.new max_auth_attempts, none⟩

/-- The answer to an attempt, and the fingerprint that the identity provider was asked about. -/
structure Attempted where
  auth : Auth
  asked : Option String
deriving DecidableEq

section

-- A key and the text of its SHA-256 fingerprint, from `ssh_key`.
variable {PublicKey : Type} (fingerprint : PublicKey → String)

/-- A presented key, and the identity provider as it answers at that moment. -/
structure Attempt (PublicKey : Type) where
  public_key : PublicKey
  resolve_from_fingerprint : String → Option Identity

def authenticate (attempt : Attempt PublicKey) (handler : Authentication) :
    Attempted × Authentication :=
  if handler.auth_limiter.check then
    let print := fingerprint attempt.public_key
    match attempt.resolve_from_fingerprint print with
    | some id => (⟨.Accept, some print⟩, { handler with authenticated_identity := some id })
    | none =>
      (⟨.Reject, some print⟩, { handler with auth_limiter := handler.auth_limiter.on_failure })
  else (⟨.Reject, none⟩, handler)

def ServerHandler.auth_publickey (attempt : Attempt PublicKey) (handler : Authentication) :
    Attempted × Authentication :=
  authenticate fingerprint attempt handler

def SshHandler.auth_publickey (attempt : Attempt PublicKey) (handler : Authentication) :
    Attempted × Authentication :=
  authenticate fingerprint attempt handler

def NapiServerHandler.auth_publickey (attempt : Attempt PublicKey) (handler : Authentication) :
    Attempted × Authentication :=
  authenticate fingerprint attempt handler

def HandlerKind.auth_publickey (kind : HandlerKind) (attempt : Attempt PublicKey)
    (handler : Authentication) : Attempted × Authentication :=
  match kind with
  | .ServerHandler => ServerHandler.auth_publickey fingerprint attempt handler
  | .SshHandler => SshHandler.auth_publickey fingerprint attempt handler
  | .NapiServerHandler => NapiServerHandler.auth_publickey fingerprint attempt handler

/-- The answers to a sequence of attempts, and the handler after them. -/
def HandlerKind.attempts (kind : HandlerKind) (attempts : List (Attempt PublicKey))
    (handler : Authentication) : List Attempted × Authentication :=
  attempts.foldl
    (fun (answers, handler) attempt =>
      let (answer, handler) := kind.auth_publickey fingerprint attempt handler
      (answers ++ [answer], handler))
    ([], handler)

end

end Alknet
