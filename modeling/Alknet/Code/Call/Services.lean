import Alknet.Code.Call.Frame
import Alknet.Code.Call.Registry
import Alknet.Code.Config.DynamicConfig

/-!
# Service discovery, `call/services.rs` and `call/env.rs`

A handler may use the registry it is registered in, through the context that it gets. So the
registry holds closures: one of the two handlers of `services.rs`, or some other one. What the
others do is a parameter.
-/

namespace Alknet

def Value.get (self : Value) (key : String) : Option Value :=
  match self with
  | .object fields => fields.lookup key
  | _ => none

def ResponseEnvelope.ok {V : Type} (request_id : String) (value : V) : ResponseEnvelope V :=
  ⟨request_id, .ok value⟩

inductive OperationType where
  | Query
  | Mutation
  | Subscription
deriving DecidableEq

/-- Its `{:?}` in lower case. -/
def OperationType.lower : OperationType → String
  | .Query => "query"
  | .Mutation => "mutation"
  | .Subscription => "subscription"

/-- `OperationSpec` with the fields that discovery shows. `ns` is `namespace`. -/
structure ServiceSpec extends OperationSpec where
  ns : String
  op_type : OperationType
  input_schema : Value
  output_schema : Value

/-- A handler, as the registry holds it. -/
inductive Closure (C : Type) where
  | services_list_handler
  | services_schema_handler
  | other (closure : C)

/-- The order in which a `HashMap` visits its values, which nothing is known about. -/
structure HashOrder (α : Type) where
  visit : List α → List α
  perm : ∀ values, (visit values).Perm values

/-- `OperationRegistry` with the whole specs. -/
structure ServiceRegistry (C : Type) where
  operations : AList fun _ : String => ServiceSpec × Closure C
  order : HashOrder ServiceSpec

structure OperationEnv (C : Type) where
  registry : ServiceRegistry C
  credential_provider : String → Option CredentialSet

variable {C : Type}

namespace ServiceRegistry

def new (order : HashOrder ServiceSpec) : ServiceRegistry C := ⟨∅, order⟩

def register (self : ServiceRegistry C) (spec : ServiceSpec) (handler : Closure C) :
    ServiceRegistry C :=
  { self with operations := self.operations.insert spec.name (spec, handler) }

def lookup (self : ServiceRegistry C) (name : String) : Option (ServiceSpec × Closure C) :=
  self.operations.lookup name

def list_operations (self : ServiceRegistry C) : List ServiceSpec :=
  self.order.visit (self.operations.entries.map fun entry => entry.2.1)

end ServiceRegistry

/-! ## The two operations -/

def unrestricted : AccessControl where
  required_scopes := []
  required_scopes_any := none
  resource_type := none
  resource_action := none

/-- An object with the field `type` only. -/
def type_schema (type : String) : Value := .object [("type", .string type)]

def services_list_spec : ServiceSpec where
  name := "/services/list"
  ns := "services"
  op_type := .Query
  input_schema := .object [("type", .string "object"), ("properties", .object [])]
  output_schema := .object [("type", .string "array"),
    ("items", .object [("type", .string "object"),
      ("properties", .object [("name", type_schema "string"),
        ("namespace", type_schema "string"), ("op_type", type_schema "string")])])]
  access_control := unrestricted

def services_schema_spec : ServiceSpec where
  name := "/services/schema"
  ns := "services"
  op_type := .Query
  input_schema := .object [("type", .string "object"),
    ("properties", .object [("name", type_schema "string")]),
    ("required", .array [.string "name"])]
  output_schema := .object [("type", .string "object"),
    ("properties", .object [("name", type_schema "string"),
      ("namespace", type_schema "string"), ("op_type", type_schema "string"),
      ("input_schema", type_schema "object"), ("output_schema", type_schema "object")])]
  access_control := unrestricted

def register_default_operations (registry : ServiceRegistry C) : ServiceRegistry C :=
  (registry.register services_list_spec .services_list_handler).register
    services_schema_spec .services_schema_handler

/-- One item of the list. -/
def list_item (spec : ServiceSpec) : Value :=
  .object [("name", .string spec.name), ("namespace", .string spec.ns),
    ("op_type", .string spec.op_type.lower)]

/-- What the schema operation says about an operation. -/
def schema_item (spec : ServiceSpec) : Value :=
  .object [("name", .string spec.name), ("namespace", .string spec.ns),
    ("op_type", .string spec.op_type.lower), ("input_schema", spec.input_schema),
    ("output_schema", spec.output_schema)]

def OperationEnv.registry_ref (self : OperationEnv C) : ServiceRegistry C := self.registry

def services_list_handler : Handler Value (OperationEnv C) := fun _input ctx =>
  let ops := ctx.env.registry_ref.list_operations.map list_item
  .ok ctx.request_id (.object [("operations", .array ops)])

def services_schema_handler : Handler Value (OperationEnv C) := fun input ctx =>
  match (input.get "name").bind Value.as_str with
  | none => .err ctx.request_id "INVALID_INPUT" "missing required field: name" false
  | some name =>
    match ctx.env.registry_ref.lookup name with
    | some (spec, _) => .ok ctx.request_id (schema_item spec)
    | none => .err ctx.request_id "NOT_FOUND" ("operation not found: " ++ name) false

/-! ## Invoking an operation from inside -/

/-- What a closure does. `run` says it for the others. -/
def Closure.handler (run : C → Handler Value (OperationEnv C)) :
    Closure C → Handler Value (OperationEnv C)
  | .services_list_handler => Alknet.services_list_handler
  | .services_schema_handler => Alknet.services_schema_handler
  | .other closure => run closure

/-- The registry, with each closure as what it does. -/
def ServiceRegistry.toOperationRegistry (run : C → Handler Value (OperationEnv C))
    (self : ServiceRegistry C) : OperationRegistry Value (OperationEnv C) where
  operations := ⟨self.operations.entries.map
      (.map id fun _ op => (op.1.toOperationSpec, op.2.handler run)),
    .map₂ _ _ self.operations.nodupKeys⟩

namespace OperationEnv

/-- `SecretStoreCredentialProvider` has no credentials. -/
def «local» (registry : ServiceRegistry C) : OperationEnv C := ⟨registry, fun _ => none⟩

def with_credential_provider (registry : ServiceRegistry C)
    (credential_provider : String → Option CredentialSet) : OperationEnv C :=
  ⟨registry, credential_provider⟩

def credentials (self : OperationEnv C) (service : String) : Option CredentialSet :=
  self.credential_provider service

/-- The name that `invoke` looks up, `namespace` being `ns`. -/
def operation_name (ns operation : String) : String := "/" ++ ns ++ "/" ++ operation

/-- The context of an operation that is invoked from inside. -/
def context (self : OperationEnv C) (name : String) : OperationContext Value (OperationEnv C) where
  request_id := "env" ++ name
  parent_request_id := none
  identity := none
  metadata := ∅
  env := self
  trusted := true

def invoke (run : C → Handler Value (OperationEnv C)) (self : OperationEnv C)
    (ns operation : String) (input : Value) : Invoked Value (OperationEnv C) :=
  let name := operation_name ns operation
  (self.registry.toOperationRegistry run).invoke name input (self.context name)

end OperationEnv

end Alknet
