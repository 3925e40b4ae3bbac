import Alknet.Call.Registry
import Alknet.Code.Call.Services
import Alknet.Lib.LastWins

/-!
# What discovery shows is what can be invoked

The list, the schemas and the dispatch each read the registry in their own way. All three show, of
each name, the registration that came last.
-/

namespace Alknet

open Lib.LastWins

variable {C : Type}

/-! ## Registrations -/

/-- A spec and the handler it was registered with. -/
abbrev Registration (C : Type) := ServiceSpec × Closure C

def Registration.name (op : Registration C) : String := op.1.name

namespace ServiceRegistry

/-- The registry after these calls of `register`. -/
def registered (order : HashOrder ServiceSpec) (ops : List (Registration C)) : ServiceRegistry C :=
  ops.foldl (fun registry op => registry.register op.1 op.2) (new order)

theorem operations_registered (order : HashOrder ServiceSpec) (ops : List (Registration C)) :
    (registered order ops).operations = collect Registration.name ops :=
  foldl_eq_collect operations (fun _ _ => rfl) rfl ops

theorem lookup_registered_eq_some {order : HashOrder ServiceSpec} {ops : List (Registration C)}
    {name : String} {op : Registration C} :
    (registered order ops).lookup name = some op ↔
      Latest Registration.name ops op ∧ op.name = name := by
  rw [lookup, operations_registered]
  exact lookup_collect

theorem mem_list_operations {order : HashOrder ServiceSpec} {ops : List (Registration C)}
    {spec : ServiceSpec} :
    spec ∈ (registered order ops).list_operations ↔
      ∃ op, Latest Registration.name ops op ∧ op.1 = spec := by
  unfold list_operations
  rw [(HashOrder.perm _ _).mem_iff, List.mem_map, operations_registered]
  constructor
  · rintro ⟨entry, hentry, rfl⟩
    exact ⟨entry.2, (mem_entries_collect.mp hentry).1, rfl⟩
  · rintro ⟨op, hlatest, rfl⟩
    exact ⟨⟨op.name, op⟩, mem_entries_collect.mpr ⟨hlatest, rfl⟩, rfl⟩

theorem nodup_list_operations (order : HashOrder ServiceSpec) (ops : List (Registration C)) :
    ((registered order ops).list_operations.map (·.name)).Nodup := by
  have hperm := ((registered order ops).order.perm
    ((registered order ops).operations.entries.map fun entry => entry.2.1)).map
      fun spec => spec.name
  refine hperm.nodup_iff.mpr ?_
  rw [List.map_map, operations_registered]
  exact nodup_key_collect Registration.name ops

theorem lookup_toOperationRegistry (run : C → Handler Value (OperationEnv C))
    (registry : ServiceRegistry C) (name : String) :
    (registry.toOperationRegistry run).lookup name =
      (registry.lookup name).map fun op => (op.1.toOperationSpec, op.2.handler run) :=
  List.dlookup_map₂ name

theorem register_default_operations_latest (order : HashOrder ServiceSpec)
    (ops : List (Registration C)) :
    ∃ ops', register_default_operations (registered order ops) = registered order ops' ∧
      Latest Registration.name ops' (services_list_spec, .services_list_handler) ∧
      Latest Registration.name ops' (services_schema_spec, .services_schema_handler) := by
  refine ⟨ops ++ [(services_list_spec, .services_list_handler),
    (services_schema_spec, .services_schema_handler)], ?_,
    ⟨ops, _, rfl, by simp [Registration.name, services_list_spec, services_schema_spec]⟩,
    ⟨ops ++ [_], [], (List.append_assoc ops [_] [_]).symm, by simp⟩⟩
  unfold registered
  rw [List.foldl_append]
  rfl

end ServiceRegistry

/-! ## The three operations -/

namespace OperationEnv

/-- The environment of a registry, with any credentials. -/
def of_registrations (order : HashOrder ServiceSpec)
    (credential_provider : String → Option CredentialSet) (ops : List (Registration C)) :
    OperationEnv C :=
  with_credential_provider (.registered order ops) credential_provider

section Invoke

variable {run : C → Handler Value (OperationEnv C)} {order : HashOrder ServiceSpec}
  {credential_provider : String → Option CredentialSet} {ops : List (Registration C)}
  {ns operation : String}

theorem invoke_of_latest {op : Registration C} (hlatest : Latest Registration.name ops op)
    (hname : op.name = operation_name ns operation) (input : Value) :
    (of_registrations order credential_provider ops).invoke run ns operation input =
      (op.2.handler run).call input
        ((of_registrations order credential_provider ops).context
          (operation_name ns operation)) := by
  have hlookup : (ServiceRegistry.registered order ops).lookup (operation_name ns operation) =
      some op :=
    ServiceRegistry.lookup_registered_eq_some.mpr ⟨hlatest, hname⟩
  refine OperationRegistry.invoke_of_admits ⟨op.1.toOperationSpec, ?_, .inl rfl⟩ input
  rw [ServiceRegistry.lookup_toOperationRegistry]
  exact congrArg (Option.map _) hlookup

theorem invoke_of_unregistered (h : ∀ op ∈ ops, op.name ≠ operation_name ns operation)
    (input : Value) :
    ((of_registrations order credential_provider ops).invoke run ns operation input).ran = [] := by
  refine (OperationRegistry.invoke_of_not_admits ?_ input).1
  rintro handler ⟨spec, hlookup, -⟩
  rw [ServiceRegistry.lookup_toOperationRegistry, Option.map_eq_some_iff] at hlookup
  obtain ⟨op, hop, -⟩ := hlookup
  obtain ⟨hlatest, hname⟩ := ServiceRegistry.lookup_registered_eq_some.mp hop
  exact h op hlatest.mem hname

end Invoke

/-- The list shows the name. -/
def Listed (items : List Value) (name : String) : Prop :=
  ∃ item ∈ items, item.get "name" = some (.string name)

/-- The items of a list, one for each name that is registered, about the last registration. -/
structure Lists (ops : List (Registration C)) (items : List Value) : Prop where
  nodup : (items.map fun item => item.get "name").Nodup
  listed_iff : ∀ name, Listed items name ↔ ∃ op ∈ ops, op.name = name
  mem_iff : ∀ item, item ∈ items ↔ ∃ op, Latest Registration.name ops op ∧ item = list_item op.1

/-- The schema of a name is there when it is listed, and says the same about it. -/
def SchemaAgrees (run : C → Handler Value (OperationEnv C)) (env : OperationEnv C)
    (items : List Value) : Prop :=
  ∀ input name, input.get "name" = some (.string name) →
    ((∃ value, (env.invoke run "services" "schema" input).response.result = .ok value) ↔
      Listed items name) ∧
    ∀ value, (env.invoke run "services" "schema" input).response.result = .ok value →
      ∃ item ∈ items, item.get "name" = some (.string name) ∧
        ∀ field ∈ ["name", "namespace", "op_type"], value.get field = item.get field

/-- A handler runs when its name is listed: the last one registered under the name. It gets an
environment with the same registry. -/
def DispatchAgrees (run : C → Handler Value (OperationEnv C)) (env : OperationEnv C)
    (ops : List (Registration C)) (items : List Value) : Prop :=
  ∀ ns operation input,
    ((env.invoke run ns operation input).ran ≠ [] ↔
      Listed items (operation_name ns operation)) ∧
    ∀ op, Latest Registration.name ops op → op.name = operation_name ns operation →
      env.invoke run ns operation input =
        (op.2.handler run).call input (env.context (operation_name ns operation))

theorem get_name_list_item (spec : ServiceSpec) :
    (list_item spec).get "name" = some (.string spec.name) := rfl

theorem lists_list_operations (order : HashOrder ServiceSpec) (ops : List (Registration C)) :
    Lists ops ((ServiceRegistry.registered order ops).list_operations.map list_item) := by
  have hmem : ∀ item,
      item ∈ (ServiceRegistry.registered order ops).list_operations.map list_item ↔
        ∃ op, Latest Registration.name ops op ∧ item = list_item op.1 := by
    intro item
    rw [List.mem_map]
    constructor
    · rintro ⟨spec, hspec, rfl⟩
      obtain ⟨op, hlatest, rfl⟩ := ServiceRegistry.mem_list_operations.mp hspec
      exact ⟨op, hlatest, rfl⟩
    · rintro ⟨op, hlatest, rfl⟩
      exact ⟨op.1, ServiceRegistry.mem_list_operations.mpr ⟨op, hlatest, rfl⟩, rfl⟩
  refine ⟨?_, fun name => ?_, hmem⟩
  · have hnames := (ServiceRegistry.nodup_list_operations order ops).map
      (f := fun name => some (Value.string name)) fun a b h => by simpa using h
    rw [List.map_map] at hnames ⊢
    exact hnames
  · rw [← exists_latest_iff]
    constructor
    · rintro ⟨item, hitem, hname⟩
      obtain ⟨op, hlatest, rfl⟩ := (hmem item).mp hitem
      rw [get_name_list_item, Option.some.injEq, Value.string.injEq] at hname
      exact ⟨op, hlatest, hname⟩
    · rintro ⟨op, hlatest, rfl⟩
      exact ⟨list_item op.1, (hmem _).mpr ⟨op, hlatest, rfl⟩, rfl⟩

theorem services_schema_handler_eq_ok {input value : Value} {name : String}
    {ctx : OperationContext Value (OperationEnv C)}
    (hinput : input.get "name" = some (.string name)) :
    (services_schema_handler input ctx).result = .ok value ↔
      ∃ op, ctx.env.registry_ref.lookup name = some op ∧ value = schema_item op.1 := by
  unfold services_schema_handler
  rw [hinput]
  dsimp only [Option.bind_some, Value.as_str]
  cases ctx.env.registry_ref.lookup name with
  | none => simp [ResponseEnvelope.err]
  | some op => simp [ResponseEnvelope.ok, eq_comm]

section Discovery

variable {run : C → Handler Value (OperationEnv C)} {order : HashOrder ServiceSpec}
  {credential_provider : String → Option CredentialSet} {ops : List (Registration C)}
  {items : List Value}

theorem schemaAgrees_of_lists
    (hschema : Latest Registration.name ops (services_schema_spec, .services_schema_handler))
    (hlists : Lists ops items) :
    SchemaAgrees run (of_registrations order credential_provider ops) items := by
  intro input name hinput
  have hok : ∀ value, ((of_registrations order credential_provider ops).invoke run
      "services" "schema" input).response.result = .ok value ↔
        ∃ op, (Latest Registration.name ops op ∧ op.name = name) ∧ value = schema_item op.1 := by
    intro value
    rw [invoke_of_latest hschema rfl input]
    exact (services_schema_handler_eq_ok hinput).trans (exists_congr fun op =>
      and_congr_left' ServiceRegistry.lookup_registered_eq_some)
  constructor
  · rw [hlists.listed_iff, ← exists_latest_iff]
    constructor
    · rintro ⟨value, hvalue⟩
      obtain ⟨op, hop, -⟩ := (hok value).mp hvalue
      exact ⟨op, hop⟩
    · rintro ⟨op, hop⟩
      exact ⟨_, (hok _).mpr ⟨op, hop, rfl⟩⟩
  · intro value hvalue
    obtain ⟨op, ⟨hlatest, rfl⟩, rfl⟩ := (hok value).mp hvalue
    refine ⟨list_item op.1, (hlists.mem_iff _).mpr ⟨op, hlatest, rfl⟩, rfl, ?_⟩
    simp only [List.forall_mem_cons]
    exact ⟨rfl, rfl, rfl, nofun⟩

theorem dispatchAgrees_of_lists (hlists : Lists ops items) :
    DispatchAgrees run (of_registrations order credential_provider ops) ops items := by
  intro ns operation input
  refine ⟨?_, fun op hlatest hname => invoke_of_latest hlatest hname input⟩
  rw [hlists.listed_iff, ← exists_latest_iff]
  constructor
  · intro hran
    by_contra hnot
    rw [exists_latest_iff] at hnot
    exact hran (invoke_of_unregistered (fun op hop hname => hnot ⟨op, hop, hname⟩) input)
  · rintro ⟨op, hlatest, hname⟩
    rw [invoke_of_latest hlatest hname]
    exact List.cons_ne_nil _ _

end Discovery

theorem discovery_consistent (run : C → Handler Value (OperationEnv C))
    (order : HashOrder ServiceSpec) (credential_provider : String → Option CredentialSet)
    (ops : List (Registration C))
    (hlist : Latest Registration.name ops (services_list_spec, .services_list_handler))
    (hschema : Latest Registration.name ops (services_schema_spec, .services_schema_handler)) :
    ∃ items,
      (∀ input, ((of_registrations order credential_provider ops).invoke run
        "services" "list" input).response =
          .ok "env/services/list" (.object [("operations", .array items)])) ∧
      Lists ops items ∧
      SchemaAgrees run (of_registrations order credential_provider ops) items ∧
      DispatchAgrees run (of_registrations order credential_provider ops) ops items := by
  have hlists := lists_list_operations order ops
  refine ⟨_, fun input => ?_, hlists, schemaAgrees_of_lists hschema hlists,
    dispatchAgrees_of_lists hlists⟩
  rw [invoke_of_latest hlist rfl input]
  rfl

/-- An operation that is not one of the two. -/
def sample_operation (op_type : OperationType) : Registration Unit :=
  (⟨⟨"/files/read", unrestricted⟩, "files", op_type, .null, .null⟩, .other ())

def sample_registrations : List (Registration Unit) :=
  [sample_operation .Query, (services_list_spec, .services_list_handler),
    (services_schema_spec, .services_schema_handler)] ++ [sample_operation .Mutation]

theorem discovery_consistent_overwritten :
    ∃ items, Lists sample_registrations items ∧
      list_item (sample_operation .Mutation).1 ∈ items ∧
      list_item (sample_operation .Query).1 ∉ items := by
  obtain ⟨items, -, hlists, -, -⟩ := discovery_consistent (fun _ _ ctx => .ok ctx.request_id .null)
    ⟨id, fun _ => .rfl⟩ (fun _ => none) sample_registrations
    ⟨[sample_operation .Query], _, rfl, by decide⟩ ⟨[sample_operation .Query, _], _, rfl, by decide⟩
  have hlast : list_item (sample_operation .Mutation).1 ∈ items :=
    (hlists.mem_iff _).mpr ⟨_, latest_concat_self, rfl⟩
  refine ⟨items, hlists, hlast, fun hfirst => ?_⟩
  have heq := List.inj_on_of_nodup_map hlists.nodup hfirst hlast rfl
  simp [list_item, sample_operation, OperationType.lower] at heq

end OperationEnv

end Alknet
