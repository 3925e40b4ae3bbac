import Alknet.Code.Auth
import Mathlib.Data.List.AList

/-!
# Operations and who may invoke them, `call/registry.rs` and `call/spec.rs`

`V` is `serde_json::Value`. A handler may do anything with what it gets, so a call of `invoke` also
says which handlers it ran.
-/

namespace Alknet

/-- `Identity` with its field `resources`: the actions that are granted for each resource type. -/
structure ResourceIdentity extends Identity where
  resources : AList fun _ : String => List String

structure AccessControl where
  required_scopes : List String
  required_scopes_any : Option (List String)
  resource_type : Option String
  resource_action : Option String
deriving DecidableEq

namespace AccessControl

def check_scopes (self : AccessControl) (identity : Identity) : Bool :=
  self.required_scopes.all identity.scopes.contains

def check_scopes_any (self : AccessControl) (identity : Identity) : Bool :=
  match self.required_scopes_any with
  | some any => any.any identity.scopes.contains
  | none => true

def check_resource (self : AccessControl) (identity : ResourceIdentity) : Bool :=
  match self.resource_type with
  | some res_type =>
    match identity.resources.lookup res_type with
    | some actions =>
      match self.resource_action with
      | some action => actions.contains action
      | none => true
    | none => false
  | none => true

/-- The three parts of `check`, each of which may return `false`. -/
def check (self : AccessControl) (identity : ResourceIdentity) : Bool :=
  self.check_scopes identity.toIdentity && self.check_scopes_any identity.toIdentity &&
    self.check_resource identity

def has_restrictions (self : AccessControl) : Bool :=
  !self.required_scopes.isEmpty || self.required_scopes_any.isSome || self.resource_type.isSome

end AccessControl

variable {V Env : Type}

/-- The fields that decide who may invoke the operation. -/
structure OperationSpec where
  name : String
  access_control : AccessControl
deriving DecidableEq

structure CallError where
  code : String
  message : String
  retryable : Bool
deriving DecidableEq

structure ResponseEnvelope (V : Type) where
  request_id : String
  result : Except CallError V

def ResponseEnvelope.err (request_id code message : String) (retryable : Bool) :
    ResponseEnvelope V :=
  ⟨request_id, .error ⟨code, message, retryable⟩⟩

/-- `Env` is `OperationEnv`, which only handlers use. -/
structure OperationContext (V Env : Type) where
  request_id : String
  parent_request_id : Option String
  identity : Option ResourceIdentity
  metadata : AList fun _ : String => V
  env : Env
  trusted : Bool

def Handler (V Env : Type) : Type := V → OperationContext V Env → ResponseEnvelope V

structure OperationRegistry (V Env : Type) where
  operations : AList fun _ : String => OperationSpec × Handler V Env

/-- The response, and the handlers that ran for it with what they got. -/
structure Invoked (V Env : Type) where
  response : ResponseEnvelope V
  ran : List (Handler V Env × V × OperationContext V Env)

def Handler.call (handler : Handler V Env) (input : V) (context : OperationContext V Env) :
    Invoked V Env :=
  ⟨handler input context, [(handler, input, context)]⟩

namespace OperationRegistry

def new : OperationRegistry V Env := ⟨∅⟩

def register (self : OperationRegistry V Env) (spec : OperationSpec) (handler : Handler V Env) :
    OperationRegistry V Env :=
  ⟨self.operations.insert spec.name (spec, handler)⟩

def lookup (self : OperationRegistry V Env) (name : String) :
    Option (OperationSpec × Handler V Env) :=
  self.operations.lookup name

def invoke (self : OperationRegistry V Env) (name : String) (input : V)
    (context : OperationContext V Env) : Invoked V Env :=
  match self.lookup name with
  | some (spec, handler) =>
    if context.trusted then handler.call input context
    else
      match context.identity with
      | some identity =>
        if spec.access_control.check identity then handler.call input context
        else ⟨.err context.request_id "FORBIDDEN" "access denied" false, []⟩
      | none =>
        if spec.access_control.has_restrictions then
          ⟨.err context.request_id "FORBIDDEN" "authentication required" false, []⟩
        else handler.call input context
  | none =>
    ⟨.err context.request_id "NOT_FOUND" ("operation not found: " ++ name) false, []⟩

end OperationRegistry

end Alknet
