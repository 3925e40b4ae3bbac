import Alknet.Code.Call.Services

/-!
# Operations that invoke operations, `call/env.rs` and `call/registry.rs`

A handler gets its `OperationEnv` with the context, and may invoke other operations there while it
runs. A handler of that kind is a program that makes one call after the other. There is no limit to
how deep the calls may be nested, other than the stack, so the depth is a parameter.
-/

namespace Alknet

/-- A handler returns, or it calls `ctx.env.invoke` and goes on with the response. -/
inductive HandlerBody where
  | finish (response : ResponseEnvelope Value)
  | invoke (ns operation : String) (input : Value) (next : ResponseEnvelope Value → HandlerBody)

variable {C : Type}

/-- A call of `OperationRegistry::invoke`, and the closure that it ran. -/
structure NestedCall (C : Type) where
  name : String
  input : Value
  context : OperationContext Value (OperationEnv C)
  ran : Option (Closure C)

/-- The response, and the calls that were made for it, in the order in which they began. -/
structure NestedAnswer (C : Type) where
  response : ResponseEnvelope Value
  calls : List (NestedCall C)

def HandlerBody.exec (invoke : String → String → Value → Option (NestedAnswer C)) :
    HandlerBody → Option (NestedAnswer C)
  | .finish response => some ⟨response, []⟩
  | .invoke ns operation input next =>
    (invoke ns operation input).bind fun first =>
      ((next first.response).exec invoke).map fun rest =>
        ⟨rest.response, first.calls ++ rest.calls⟩

/-- What the closures do. The two of `services.rs` invoke nothing. -/
def Closure.body (body : C → Value → OperationContext Value (OperationEnv C) → HandlerBody) :
    Closure C → Value → OperationContext Value (OperationEnv C) → HandlerBody
  | .services_list_handler, input, ctx => .finish (Alknet.services_list_handler input ctx)
  | .services_schema_handler, input, ctx => .finish (Alknet.services_schema_handler input ctx)
  | .other closure, input, ctx => body closure input ctx

/-- The message with which `invoke` turns a caller away. -/
def AccessControl.refusal {V Env : Type} (access : AccessControl)
    (context : OperationContext V Env) : Option String :=
  if context.trusted then none
  else
    match context.identity with
    | some identity => if access.check identity then none else some "access denied"
    | none => if access.has_restrictions then some "authentication required" else none

/-- `OperationRegistry::invoke`. `none` if the calls are nested deeper than `depth`. -/
def ServiceRegistry.invoke
    (body : C → Value → OperationContext Value (OperationEnv C) → HandlerBody) :
    Nat → ServiceRegistry C → String → Value → OperationContext Value (OperationEnv C) →
      Option (NestedAnswer C)
  | 0, _, _, _, _ => none
  | depth + 1, self, name, input, context =>
    match self.lookup name with
    | some (spec, closure) =>
      match spec.access_control.refusal context with
      | some message =>
        some ⟨.err context.request_id "FORBIDDEN" message false, [⟨name, input, context, none⟩]⟩
      | none =>
        -- `OperationEnv::invoke` for each call of the handler
        let nested (ns operation : String) (input : Value) : Option (NestedAnswer C) :=
          let callee := OperationEnv.operation_name ns operation
          ServiceRegistry.invoke body depth context.env.registry callee input
            (context.env.context callee)
        ((closure.body body input context).exec nested).map fun answered =>
          ⟨answered.response, ⟨name, input, context, some closure⟩ :: answered.calls⟩
    | none =>
      some ⟨.err context.request_id "NOT_FOUND" ("operation not found: " ++ name) false,
        [⟨name, input, context, none⟩]⟩

/-- `OperationEnv::invoke`. -/
def OperationEnv.invoke_nested
    (body : C → Value → OperationContext Value (OperationEnv C) → HandlerBody) (depth : Nat)
    (self : OperationEnv C) (ns operation : String) (input : Value) : Option (NestedAnswer C) :=
  let name := operation_name ns operation
  self.registry.invoke body depth name input (self.context name)

/-! ## The three ways that a call can go -/

section

variable {body : C → Value → OperationContext Value (OperationEnv C) → HandlerBody} {depth : Nat}
  {registry : ServiceRegistry C} {name : String} {input : Value}
  {context : OperationContext Value (OperationEnv C)} {spec : ServiceSpec} {closure : Closure C}

theorem ServiceRegistry.invoke_of_unregistered (h : registry.lookup name = none) :
    registry.invoke body (depth + 1) name input context =
      some ⟨.err context.request_id "NOT_FOUND" ("operation not found: " ++ name) false,
        [⟨name, input, context, none⟩]⟩ := by
  rw [invoke, h]

theorem ServiceRegistry.invoke_of_refused (h : registry.lookup name = some (spec, closure))
    {message : String} (hrefusal : spec.access_control.refusal context = some message) :
    registry.invoke body (depth + 1) name input context =
      some ⟨.err context.request_id "FORBIDDEN" message false,
        [⟨name, input, context, none⟩]⟩ := by
  rw [invoke, h]
  simp only [hrefusal]

theorem ServiceRegistry.invoke_of_admitted (h : registry.lookup name = some (spec, closure))
    (hrefusal : spec.access_control.refusal context = none) :
    registry.invoke body (depth + 1) name input context =
      ((closure.body body input context).exec (context.env.invoke_nested body depth)).map
        fun answered =>
          ⟨answered.response, ⟨name, input, context, some closure⟩ :: answered.calls⟩ := by
  rw [invoke, h]
  simp only [hrefusal]
  rfl

end

end Alknet
