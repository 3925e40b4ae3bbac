import Alknet.Code.Config.DynamicConfig

/-!
# The HTTP door, `http/auth.rs` and `http/router.rs`, and `auth/auth_protocol.rs`

The only route finds nothing, and `auth_middleware` is a layer around it. Both the middleware and
the auth service ask the identity provider with the configuration that it loads at that time.
-/

open Alknet.Rust

namespace Alknet

inductive HttpStatus where
  | UNAUTHORIZED
  | NOT_FOUND
deriving DecidableEq

/-- What the door uses of `http` and `axum`. -/
structure Axum (Request HeaderValue : Type) where
  /-- `HeaderMap::get` for `Authorization` -/
  authorization : Request → Option HeaderValue
  /-- `HeaderValue::to_str`, without its error -/
  to_str : HeaderValue → Option String
  /-- The request with an `IdentityExt` -/
  insert : Request → Identity → Request
  /-- `Router::fallback` with this handler and then `Router::layer` with this middleware -/
  layer {ρ : Type} : (Request → ρ) → ((Request → ρ) → Request → ρ) → Request → ρ

/-- What `http` and `axum` say of that: a text is of ASCII characters, and a layer is what a request
comes to first. -/
structure Axum.Documented {Request HeaderValue : Type} (axum : Axum Request HeaderValue) :
    Prop where
  ascii : ∀ value text, axum.to_str value = some text → ∀ c ∈ text.toList, c.toNat < 128
  layered : ∀ {ρ : Type} (fallback : Request → ρ) (middleware : (Request → ρ) → Request → ρ),
    axum.layer fallback middleware = middleware fallback

def BEARER : String := "Bearer "

section

variable {Request HeaderValue ε : Type} (axum : Axum Request HeaderValue)
  (resolve_from_token : AuthToken → Outcome ε (Option Identity))

/-- `&h[7..]` is behind the seven ASCII characters that `h` starts with. -/
def auth_middleware (next : Request → Outcome ε HttpStatus) (request : Request) :
    Outcome ε HttpStatus :=
  match (axum.authorization request).bind axum.to_str with
  | none => .ok .UNAUTHORIZED
  | some h =>
    if starts_with h BEARER then do
      match ← resolve_from_token ⟨as_bytes (String.ofList (h.toList.drop 7))⟩ with
      | some identity => next (axum.insert request identity)
      | none => return .UNAUTHORIZED
    else .ok .UNAUTHORIZED

def default_404 (_request : Request) : Outcome ε HttpStatus := .ok .NOT_FOUND

def build_router : Request → Outcome ε HttpStatus :=
  axum.layer default_404 (auth_middleware axum resolve_from_token)

end

section

variable {ε : Type} (resolve_from_token : AuthToken → Outcome ε (Option Identity))

inductive AuthResult where
  | Ok (identity : Identity)
  | Denied (reason : String)
deriving DecidableEq

def AuthServiceImpl.verify_token (token : AuthToken) : Outcome ε AuthResult := do
  match ← resolve_from_token token with
  | some identity => return .Ok identity
  | none => return .Denied "token verification failed"

end

end Alknet
