import Alknet.Code.Call.Nested
import Alknet.Call.Registry
import Alknet.Call.Services

/-!
# Who is asked when operations invoke operations

Access control is for the outermost call only. Whatever handlers do, each operation that they invoke
runs if it is registered, for nobody in particular: nothing of the caller reaches it. Calls that are
nested in a cycle never return.
-/

namespace Alknet

open OperationEnv

variable {C : Type} {body : C → Value → OperationContext Value (OperationEnv C) → HandlerBody}

/-! ## Access -/

theorem AccessControl.refusal_eq_none {V Env : Type} {access : AccessControl}
    {context : OperationContext V Env} :
    access.refusal context = none ↔
      context.trusted = true ∨ access.Accepts context.authority := by
  unfold refusal OperationContext.authority
  by_cases htrusted : context.trusted = true
  · rw [if_pos htrusted]
    exact iff_of_true rfl (.inl htrusted)
  · rw [if_neg htrusted, or_iff_right htrusted]
    cases context.identity with
    | some identity => simp [← check_iff]
    | none => simp [← has_restrictions_iff]

theorem AccessControl.refusal_context (access : AccessControl) (env : OperationEnv C)
    (name : String) : access.refusal (env.context name) = none :=
  refusal_eq_none.mpr (.inl rfl)

/-! ## The calls that are made -/

/-- A call from inside: the operation runs if it is registered, and it gets the context that all
calls of that name get. -/
structure Inside (env : OperationEnv C) (call : NestedCall C) : Prop where
  name : ∃ ns operation, call.name = operation_name ns operation
  context : call.context = env.context call.name
  ran : call.ran = (env.registry.lookup call.name).map Prod.snd

theorem exec_calls {invoke : String → String → Value → Option (NestedAnswer C)}
    {P : NestedCall C → Prop}
    (hinvoke : ∀ ns operation input answered, invoke ns operation input = some answered →
      ∀ call ∈ answered.calls, P call)
    {program : HandlerBody} {answered : NestedAnswer C} (h : program.exec invoke = some answered) :
    ∀ call ∈ answered.calls, P call := by
  induction program generalizing answered with
  | finish response =>
    cases h
    exact nofun
  | invoke ns operation input next ih =>
    obtain ⟨first, hfirst, h⟩ := Option.bind_eq_some_iff.mp h
    obtain ⟨rest, hrest, rfl⟩ := Option.map_eq_some_iff.mp h
    exact List.forall_mem_append.mpr
      ⟨hinvoke ns operation input first hfirst, ih first.response hrest⟩

theorem invoke_calls {depth : Nat} {registry : ServiceRegistry C} {name : String} {input : Value}
    {context : OperationContext Value (OperationEnv C)} {answered : NestedAnswer C}
    {P : NestedCall C → Prop}
    (hnested : ∀ d < depth, ∀ ns operation input answered,
      context.env.invoke_nested body d ns operation input = some answered →
      ∀ call ∈ answered.calls, P call)
    (h : registry.invoke body depth name input context = some answered) :
    ∃ ran inner, answered.calls = ⟨name, input, context, ran⟩ :: inner ∧
      (∀ closure, ran = some closure ↔ ∃ spec, registry.lookup name = some (spec, closure) ∧
        (context.trusted = true ∨ spec.access_control.Accepts context.authority)) ∧
      ∀ call ∈ inner, P call := by
  cases depth with
  | zero => cases h
  | succ depth =>
    cases hlookup : registry.lookup name with
    | none =>
      rw [ServiceRegistry.invoke_of_unregistered hlookup] at h
      cases h
      refine ⟨none, [], rfl, fun closure => ⟨nofun, ?_⟩, nofun⟩
      rintro ⟨spec, hsome, -⟩
      cases hsome
    | some op =>
      obtain ⟨spec, closure⟩ := op
      cases hrefusal : spec.access_control.refusal context with
      | some message =>
        rw [ServiceRegistry.invoke_of_refused hlookup hrefusal] at h
        cases h
        refine ⟨none, [], rfl, fun closure => ⟨nofun, ?_⟩, nofun⟩
        rintro ⟨spec', hsome, hadmits⟩
        cases hsome
        rw [AccessControl.refusal_eq_none.mpr hadmits] at hrefusal
        cases hrefusal
      | none =>
        rw [ServiceRegistry.invoke_of_admitted hlookup hrefusal] at h
        obtain ⟨inner, hinner, rfl⟩ := Option.map_eq_some_iff.mp h
        refine ⟨some closure, inner.calls, rfl, fun closure' => ⟨?_, ?_⟩,
          exec_calls (hnested depth (Nat.lt_succ_self depth)) hinner⟩
        · rintro ⟨⟩
          exact ⟨spec, rfl, AccessControl.refusal_eq_none.mp hrefusal⟩
        · rintro ⟨spec', hsome, -⟩
          cases hsome
          rfl

theorem invoke_nested_inside (env : OperationEnv C) (depth : Nat) (ns operation : String)
    (input : Value) (answered : NestedAnswer C)
    (h : env.invoke_nested body depth ns operation input = some answered) :
    ∀ call ∈ answered.calls, Inside env call := by
  induction depth using Nat.strong_induction_on generalizing ns operation input answered with
  | h depth ih =>
    obtain ⟨ran, inner, hcalls, hran, hinner⟩ := invoke_calls ih h
    rw [hcalls]
    refine List.forall_mem_cons.mpr ⟨⟨⟨ns, operation, rfl⟩, rfl, ?_⟩, hinner⟩
    -- the context is trusted, so what is registered runs
    refine Option.ext fun closure => (hran closure).trans ?_
    rw [Option.map_eq_some_iff]
    constructor
    · rintro ⟨spec, hlookup, -⟩
      exact ⟨(spec, closure), hlookup, rfl⟩
    · rintro ⟨⟨spec, closure'⟩, hlookup, rfl⟩
      exact ⟨spec, hlookup, .inl rfl⟩

/-! ## More room changes nothing -/

theorem exec_mono {invoke invoke' : String → String → Value → Option (NestedAnswer C)}
    (hinvoke : ∀ ns operation input answered, invoke ns operation input = some answered →
      invoke' ns operation input = some answered)
    {program : HandlerBody} {answered : NestedAnswer C} (h : program.exec invoke = some answered) :
    program.exec invoke' = some answered := by
  induction program generalizing answered with
  | finish response => exact h
  | invoke ns operation input next ih =>
    obtain ⟨first, hfirst, h⟩ := Option.bind_eq_some_iff.mp h
    obtain ⟨rest, hrest, rfl⟩ := Option.map_eq_some_iff.mp h
    refine Option.bind_eq_some_iff.mpr ⟨first, hinvoke ns operation input first hfirst, ?_⟩
    exact Option.map_eq_some_iff.mpr ⟨rest, ih first.response hrest, rfl⟩

theorem invoke_succ {depth : Nat} {registry : ServiceRegistry C} {name : String} {input : Value}
    {context : OperationContext Value (OperationEnv C)} {answered : NestedAnswer C}
    (h : registry.invoke body depth name input context = some answered) :
    registry.invoke body (depth + 1) name input context = some answered := by
  induction depth generalizing registry name input context answered with
  | zero => cases h
  | succ depth ih =>
    cases hlookup : registry.lookup name with
    | none =>
      rw [ServiceRegistry.invoke_of_unregistered hlookup] at h ⊢
      exact h
    | some op =>
      obtain ⟨spec, closure⟩ := op
      cases hrefusal : spec.access_control.refusal context with
      | some message =>
        rw [ServiceRegistry.invoke_of_refused hlookup hrefusal] at h ⊢
        exact h
      | none =>
        rw [ServiceRegistry.invoke_of_admitted hlookup hrefusal] at h ⊢
        obtain ⟨inner, hinner, rfl⟩ := Option.map_eq_some_iff.mp h
        have hmono := exec_mono (fun ns operation input answered => ih) hinner
        exact Option.map_eq_some_iff.mpr ⟨inner, hmono, rfl⟩

theorem invoke_mono {depth depth' : Nat} (hle : depth ≤ depth') {registry : ServiceRegistry C}
    {name : String} {input : Value} {context : OperationContext Value (OperationEnv C)}
    {answered : NestedAnswer C}
    (h : registry.invoke body depth name input context = some answered) :
    registry.invoke body depth' name input context = some answered := by
  induction hle with
  | refl => exact h
  | step _ ih => exact invoke_succ ih

/-! ## Handlers as functions -/

theorem exists_handlers
    (body : C → Value → OperationContext Value (OperationEnv C) → HandlerBody) :
    ∃ run : C → Handler Value (OperationEnv C), ∀ closure input ctx depth answered,
      (body closure input ctx).exec (ctx.env.invoke_nested body depth) = some answered →
      run closure input ctx = answered.response := by
  have hone : ∀ closure input ctx, ∃ response, ∀ depth answered,
      (body closure input ctx).exec (ctx.env.invoke_nested body depth) = some answered →
      response = answered.response := by
    intro closure input ctx
    by_cases hreturns : ∃ depth answered,
        (body closure input ctx).exec (ctx.env.invoke_nested body depth) = some answered
    · obtain ⟨depth, answered, h⟩ := hreturns
      refine ⟨answered.response, fun depth' answered' h' => ?_⟩
      -- with room for both they are the same
      have hleft := exec_mono (fun _ _ _ _ => invoke_mono (le_max_left depth depth')) h
      have hright := exec_mono (fun _ _ _ _ => invoke_mono (le_max_right depth depth')) h'
      rw [Option.some.inj (hleft.symm.trans hright)]
    · exact ⟨.ok ctx.request_id .null,
        fun depth answered h => absurd ⟨depth, answered, h⟩ hreturns⟩
  choose run hrun using hone
  exact ⟨run, hrun⟩

theorem OperationRegistry.invoke_of_refusal {V Env : Type} {registry : OperationRegistry V Env}
    {name : String} {spec : OperationSpec} {handler : Handler V Env}
    (hlookup : registry.lookup name = some (spec, handler)) {context : OperationContext V Env}
    {message : String} (hrefusal : spec.access_control.refusal context = some message) (input : V) :
    registry.invoke name input context =
      ⟨.err context.request_id "FORBIDDEN" message false, []⟩ := by
  unfold AccessControl.refusal at hrefusal
  obtain ⟨htrusted, hrefusal⟩ := Option.ite_none_left_eq_some.mp hrefusal
  unfold OperationRegistry.invoke
  rw [hlookup]
  dsimp only
  rw [if_neg htrusted]
  cases hid : context.identity with
  | some identity =>
    simp only [hid] at hrefusal ⊢
    obtain ⟨hcheck, hmessage⟩ := Option.ite_none_left_eq_some.mp hrefusal
    rw [if_neg hcheck, ← Option.some.inj hmessage]
  | none =>
    simp only [hid] at hrefusal ⊢
    obtain ⟨hrestricted, hmessage⟩ := Option.ite_none_right_eq_some.mp hrefusal
    rw [if_pos hrestricted, ← Option.some.inj hmessage]

theorem invoke_response {run : C → Handler Value (OperationEnv C)}
    (hrun : ∀ closure input ctx depth answered,
      (body closure input ctx).exec (ctx.env.invoke_nested body depth) = some answered →
      run closure input ctx = answered.response)
    {depth : Nat} {registry : ServiceRegistry C} {name : String} {input : Value}
    {context : OperationContext Value (OperationEnv C)} {answered : NestedAnswer C}
    (h : registry.invoke body depth name input context = some answered) :
    ((registry.toOperationRegistry run).invoke name input context).response =
      answered.response := by
  have hlookup' := ServiceRegistry.lookup_toOperationRegistry run registry name
  cases depth with
  | zero => cases h
  | succ depth =>
    cases hlookup : registry.lookup name with
    | none =>
      rw [ServiceRegistry.invoke_of_unregistered hlookup] at h
      rw [hlookup] at hlookup'
      cases h
      unfold OperationRegistry.invoke
      rw [hlookup']
      rfl
    | some op =>
      obtain ⟨spec, closure⟩ := op
      rw [hlookup] at hlookup'
      cases hrefusal : spec.access_control.refusal context with
      | some message =>
        rw [ServiceRegistry.invoke_of_refused hlookup hrefusal] at h
        cases h
        rw [OperationRegistry.invoke_of_refusal hlookup' hrefusal]
      | none =>
        rw [ServiceRegistry.invoke_of_admitted hlookup hrefusal] at h
        obtain ⟨inner, hinner, rfl⟩ := Option.map_eq_some_iff.mp h
        rw [OperationRegistry.invoke_of_admits
          ⟨spec.toOperationSpec, hlookup', AccessControl.refusal_eq_none.mp hrefusal⟩]
        cases closure with
        | services_list_handler | services_schema_handler =>
          cases hinner
          rfl
        | other closure => exact hrun closure input context depth inner hinner

/-! ## When calls return -/

/-- The program invokes only operations with this property. -/
def HandlerBody.Calls (P : String → Prop) : HandlerBody → Prop
  | .finish _ => True
  | .invoke ns operation _ next =>
    P (operation_name ns operation) ∧ ∀ response, (next response).Calls P

/-- Each operation invokes only operations of lower rank. -/
def Layered (body : C → Value → OperationContext Value (OperationEnv C) → HandlerBody)
    (registry : ServiceRegistry C) (rank : String → Nat) : Prop :=
  ∀ name spec closure, registry.lookup name = some (spec, closure) →
    ∀ input ctx, (closure.body body input ctx).Calls fun callee => rank callee < rank name

/-- Each of these operations begins by invoking one of them. -/
def Cyclic (body : C → Value → OperationContext Value (OperationEnv C) → HandlerBody)
    (registry : ServiceRegistry C) (names : Set String) : Prop :=
  ∀ name ∈ names, ∃ spec closure, registry.lookup name = some (spec, closure) ∧
    ∀ input ctx, ∃ ns operation input' next,
      closure.body body input ctx = .invoke ns operation input' next ∧
        operation_name ns operation ∈ names

theorem exec_returns {invoke : String → String → Value → Option (NestedAnswer C)}
    {P : String → Prop}
    (hinvoke : ∀ ns operation input, P (operation_name ns operation) →
      ∃ answered, invoke ns operation input = some answered)
    {program : HandlerBody} (h : program.Calls P) :
    ∃ answered, program.exec invoke = some answered := by
  induction program with
  | finish response => exact ⟨_, rfl⟩
  | invoke ns operation input next ih =>
    obtain ⟨first, hfirst⟩ := hinvoke ns operation input h.1
    obtain ⟨rest, hrest⟩ := ih first.response (h.2 first.response)
    refine ⟨⟨rest.response, first.calls ++ rest.calls⟩, ?_⟩
    refine Option.bind_eq_some_iff.mpr ⟨first, hfirst, ?_⟩
    exact Option.map_eq_some_iff.mpr ⟨rest, hrest, rfl⟩

theorem Layered.returns {env : OperationEnv C} {rank : String → Nat}
    (h : Layered body env.registry rank) {depth : Nat} {name : String} (hdepth : rank name < depth)
    (input : Value) {context : OperationContext Value (OperationEnv C)} (henv : context.env = env) :
    ∃ answered, env.registry.invoke body depth name input context = some answered := by
  induction depth generalizing name input context with
  | zero => exact absurd hdepth (Nat.not_lt_zero _)
  | succ depth ih =>
    cases hlookup : env.registry.lookup name with
    | none => exact ⟨_, ServiceRegistry.invoke_of_unregistered hlookup⟩
    | some op =>
      obtain ⟨spec, closure⟩ := op
      cases hrefusal : spec.access_control.refusal context with
      | some message => exact ⟨_, ServiceRegistry.invoke_of_refused hlookup hrefusal⟩
      | none =>
        have hnested : ∀ ns operation input', rank (operation_name ns operation) < rank name →
            ∃ answered,
              context.env.invoke_nested body depth ns operation input' = some answered := by
          intro ns operation input' hlower
          rw [henv]
          exact ih (by omega) input' rfl
        obtain ⟨inner, hinner⟩ := exec_returns hnested (h name spec closure hlookup input context)
        rw [ServiceRegistry.invoke_of_admitted hlookup hrefusal, hinner]
        exact ⟨_, rfl⟩

theorem Cyclic.never_returns {env : OperationEnv C} {names : Set String}
    (h : Cyclic body env.registry names) {depth : Nat} {name : String} (hname : name ∈ names)
    (input : Value) {context : OperationContext Value (OperationEnv C)} (henv : context.env = env)
    (hadmits : ∀ spec closure, env.registry.lookup name = some (spec, closure) →
      spec.access_control.refusal context = none) :
    env.registry.invoke body depth name input context = none := by
  induction depth generalizing name input context with
  | zero => rfl
  | succ depth ih =>
    obtain ⟨spec, closure, hlookup, hbegins⟩ := h name hname
    obtain ⟨ns, operation, input', next, hbody, hcallee⟩ := hbegins input context
    have hnested : context.env.invoke_nested body depth ns operation input' = none := by
      rw [henv]
      exact ih hcallee input' rfl fun spec closure _ => spec.access_control.refusal_context env _
    rw [ServiceRegistry.invoke_of_admitted hlookup (hadmits spec closure hlookup), hbody]
    refine Option.map_eq_none_iff.mpr (Option.bind_eq_none_iff.mpr fun first hfirst => ?_)
    rw [hnested] at hfirst
    cases hfirst

/-- **Nested calls** run whatever is registered, in a context that has nothing of the caller. -/
theorem nested_calls (body : C → Value → OperationContext Value (OperationEnv C) → HandlerBody) :
    ∃ run : C → Handler Value (OperationEnv C),
      ∀ (name : String) (input : Value) (context : OperationContext Value (OperationEnv C)),
      (∀ (registry : ServiceRegistry C) (depth : Nat) (answered : NestedAnswer C),
        registry.invoke body depth name input context = some answered →
        answered.response =
          ((registry.toOperationRegistry run).invoke name input context).response ∧
        (∀ depth', depth ≤ depth' →
          registry.invoke body depth' name input context = some answered) ∧
        ∃ ran inner, answered.calls = ⟨name, input, context, ran⟩ :: inner ∧
          (∀ closure, ran = some closure ↔ ∃ spec, registry.lookup name = some (spec, closure) ∧
            (context.trusted = true ∨ spec.access_control.Accepts context.authority)) ∧
          ∀ call ∈ inner, Inside context.env call) ∧
      (∀ rank depth, Layered body context.env.registry rank → rank name < depth →
        ∃ answered, context.env.registry.invoke body depth name input context = some answered) ∧
      ∀ names, Cyclic body context.env.registry names → name ∈ names →
        (∀ spec closure, context.env.registry.lookup name = some (spec, closure) →
          context.trusted = true ∨ spec.access_control.Accepts context.authority) →
        ∀ depth, context.env.registry.invoke body depth name input context = none := by
  obtain ⟨run, hrun⟩ := exists_handlers body
  refine ⟨run, fun name input context => ⟨fun registry depth answered h => ⟨?_, ?_, ?_⟩, ?_, ?_⟩⟩
  · exact (invoke_response hrun h).symm
  · exact fun depth' hle => invoke_mono hle h
  · exact invoke_calls (fun d _ => invoke_nested_inside context.env d) h
  · exact fun rank depth hlayered hdepth => hlayered.returns hdepth input rfl
  · intro names hcyclic hname hadmits depth
    exact hcyclic.never_returns hname input rfl fun spec closure hlookup =>
      AccessControl.refusal_eq_none.mpr (hadmits spec closure hlookup)

/-- The first operation asks for nothing and invokes the second, which asks for a scope. -/
def sampleNested : Bool → Value → OperationContext Value (OperationEnv Bool) → HandlerBody
  | true, input, _ => .invoke "keys" "read" input .finish
  | false, _, ctx => .finish (.ok ctx.request_id .null)

def sampleNestedEnv : OperationEnv Bool :=
  let open_spec : ServiceSpec := { services_list_spec with name := "/open/read" }
  let keys_spec : ServiceSpec := { services_list_spec with
    name := "/keys/read"
    access_control := { unrestricted with required_scopes := ["keys"] } }
  .local (((ServiceRegistry.new ⟨id, fun _ => .rfl⟩).register open_spec (.other true)).register
    keys_spec (.other false))

/-- Without an identity the second operation cannot be invoked, but through the first it can. -/
example :
    let context : OperationContext Value (OperationEnv Bool) :=
      { sampleNestedEnv.context "" with trusted := false }
    let ran (name : String) : Option (List (String × Bool)) :=
      (sampleNestedEnv.registry.invoke sampleNested 2 name .null context).map fun answered =>
        answered.calls.map fun call => (call.name, call.ran.isSome)
    ran "/keys/read" = some [("/keys/read", false)] ∧
      ran "/open/read" = some [("/open/read", true), ("/keys/read", true)] := by
  decide +kernel

end Alknet
