import Alknet.Code.Call.Registry
import Mathlib.Data.Set.Basic

/-!
# Who may invoke an operation

What a caller may do is a set of scopes, a set of resource types and a set of actions on them. An
access control asks for some of each, so more never hurts. A caller without an identity has the
empty sets.
-/

namespace Alknet

/-! ## What a caller has and what an operation asks for -/

structure Authority where
  scopes : Set String
  resource_types : Set String
  actions : Set (String × String)

namespace Authority

def empty : Authority := ⟨∅, ∅, ∅⟩

instance : LE Authority :=
  ⟨fun a b => a.scopes ⊆ b.scopes ∧ a.resource_types ⊆ b.resource_types ∧ a.actions ⊆ b.actions⟩

end Authority

def ResourceIdentity.authority (identity : ResourceIdentity) : Authority where
  scopes := { scope | scope ∈ identity.scopes }
  resource_types := { res_type | res_type ∈ identity.resources }
  actions := { grant | ∃ actions, identity.resources.lookup grant.1 = some actions ∧
    grant.2 ∈ actions }

def OperationContext.authority {V Env : Type} (context : OperationContext V Env) : Authority :=
  match context.identity with
  | some identity => identity.authority
  | none => .empty

/-- An identity with no scopes and no resources. -/
def ResourceIdentity.empty (id : String) : ResourceIdentity := ⟨⟨id, []⟩, ∅⟩

theorem ResourceIdentity.authority_empty (id : String) : (empty id).authority = .empty := by
  simp [authority, empty, Authority.empty]

namespace AccessControl

/-- The authority has all that the operation asks for. -/
structure Accepts (access : AccessControl) (authority : Authority) : Prop where
  scopes : ∀ scope ∈ access.required_scopes, scope ∈ authority.scopes
  scopes_any : ∀ any, access.required_scopes_any = some any →
    ∃ scope ∈ any, scope ∈ authority.scopes
  resource : ∀ res_type, access.resource_type = some res_type →
    res_type ∈ authority.resource_types ∧
      ∀ action, access.resource_action = some action → (res_type, action) ∈ authority.actions

theorem Accepts.mono {access : AccessControl} {a b : Authority} (h : access.Accepts a)
    (hab : a ≤ b) : access.Accepts b := by
  obtain ⟨hscopes, htypes, hactions⟩ := hab
  refine ⟨fun scope hscope => hscopes (h.scopes scope hscope), fun any hany => ?_,
    fun res_type htype => ⟨htypes (h.resource res_type htype).1, fun action haction =>
      hactions ((h.resource res_type htype).2 action haction)⟩⟩
  obtain ⟨scope, hmem, hscope⟩ := h.scopes_any any hany
  exact ⟨scope, hmem, hscopes hscope⟩

theorem check_scopes_iff (access : AccessControl) (identity : ResourceIdentity) :
    access.check_scopes identity.toIdentity ↔
      ∀ scope ∈ access.required_scopes, scope ∈ identity.authority.scopes := by
  simp [check_scopes, ResourceIdentity.authority]

theorem check_scopes_any_iff (access : AccessControl) (identity : ResourceIdentity) :
    access.check_scopes_any identity.toIdentity ↔
      ∀ any, access.required_scopes_any = some any →
        ∃ scope ∈ any, scope ∈ identity.authority.scopes := by
  unfold check_scopes_any
  cases access.required_scopes_any with
  | none => simp
  | some any => simp [ResourceIdentity.authority]

theorem check_resource_iff (access : AccessControl) (identity : ResourceIdentity) :
    access.check_resource identity ↔
      ∀ res_type, access.resource_type = some res_type →
        res_type ∈ identity.authority.resource_types ∧
          ∀ action, access.resource_action = some action →
            (res_type, action) ∈ identity.authority.actions := by
  unfold check_resource
  cases access.resource_type with
  | none => simp
  | some res_type =>
    simp only [Option.some.injEq, forall_eq', ResourceIdentity.authority, Set.mem_ofPred_eq,
      ← AList.lookup_isSome]
    cases identity.resources.lookup res_type with
    | none => simp
    | some actions => cases access.resource_action <;> simp

theorem check_iff (access : AccessControl) (identity : ResourceIdentity) :
    access.check identity ↔ access.Accepts identity.authority := by
  unfold check
  rw [Bool.and_eq_true, Bool.and_eq_true, check_scopes_iff, check_scopes_any_iff,
    check_resource_iff, and_assoc]
  exact ⟨fun ⟨hscopes, hany, hresource⟩ => ⟨hscopes, hany, hresource⟩,
    fun h => ⟨h.scopes, h.scopes_any, h.resource⟩⟩

theorem has_restrictions_iff (access : AccessControl) :
    access.has_restrictions = false ↔ access.Accepts .empty := by
  unfold has_restrictions
  simp only [Bool.or_eq_false_iff, Bool.not_eq_false', List.isEmpty_iff, Option.isSome_eq_false_iff,
    Option.isNone_iff_eq_none]
  constructor
  · rintro ⟨⟨hscopes, hany⟩, hresource⟩
    exact ⟨by simp [hscopes], by simp [hany], by simp [hresource]⟩
  · intro h
    refine ⟨⟨List.eq_nil_iff_forall_not_mem.mpr h.scopes, Option.eq_none_iff_forall_ne_some.mpr ?_⟩,
      Option.eq_none_iff_forall_ne_some.mpr fun res_type htype => (h.resource res_type htype).1⟩
    intro any hany
    obtain ⟨scope, -, hscope⟩ := h.scopes_any any hany
    exact hscope

end AccessControl

/-! ## The registry -/

namespace OperationRegistry

variable {V Env : Type}

/-- The operation with this handler is registered under the name, and the context may invoke it. -/
def Admits (registry : OperationRegistry V Env) (name : String) (context : OperationContext V Env)
    (handler : Handler V Env) : Prop :=
  ∃ spec, registry.lookup name = some (spec, handler) ∧
    (context.trusted ∨ spec.access_control.Accepts context.authority)

/-- The response of a call that ran no handler. -/
def Refusal (registry : OperationRegistry V Env) (name : String)
    (context : OperationContext V Env) (response : ResponseEnvelope V) : Prop :=
  ∃ code message, response = .err context.request_id code message false ∧
    ((code = "NOT_FOUND" ∧ registry.lookup name = none) ∨
      (code = "FORBIDDEN" ∧ registry.lookup name ≠ none))

theorem invoke_of_admits {registry : OperationRegistry V Env} {name : String}
    {context : OperationContext V Env} {handler : Handler V Env}
    (h : registry.Admits name context handler) (input : V) :
    registry.invoke name input context = handler.call input context := by
  obtain ⟨spec, hlookup, hadmits⟩ := h
  unfold invoke
  rw [hlookup]
  dsimp only
  split
  · rfl
  · next htrusted =>
    have haccepts := hadmits.resolve_left htrusted
    unfold OperationContext.authority at haccepts
    cases hid : context.identity with
    | some identity =>
      rw [hid] at haccepts
      exact if_pos ((AccessControl.check_iff _ _).mpr haccepts)
    | none =>
      rw [hid] at haccepts
      exact if_neg (by simp [(AccessControl.has_restrictions_iff _).mpr haccepts])

theorem invoke_of_not_admits {registry : OperationRegistry V Env} {name : String}
    {context : OperationContext V Env} (h : ∀ handler, ¬ registry.Admits name context handler)
    (input : V) :
    (registry.invoke name input context).ran = [] ∧
      registry.Refusal name context (registry.invoke name input context).response := by
  unfold invoke
  cases hlookup : registry.lookup name with
  | none => exact ⟨rfl, "NOT_FOUND", _, rfl, .inl ⟨rfl, hlookup⟩⟩
  | some op =>
    obtain ⟨spec, handler⟩ := op
    have hrefused : ¬ (context.trusted = true ∨ spec.access_control.Accepts context.authority) :=
      fun hadmits => h handler ⟨spec, hlookup, hadmits⟩
    obtain ⟨htrusted, haccepts⟩ := not_or.mp hrefused
    have hforbidden : ∀ message, registry.Refusal name context
        (.err context.request_id "FORBIDDEN" message false) := fun message =>
      ⟨"FORBIDDEN", message, rfl, .inr ⟨rfl, by simp [hlookup]⟩⟩
    unfold OperationContext.authority at haccepts
    dsimp only
    rw [if_neg htrusted]
    cases hid : context.identity with
    | some identity =>
      rw [hid] at haccepts
      dsimp only
      rw [if_neg (mt (AccessControl.check_iff _ _).mp haccepts)]
      exact ⟨rfl, hforbidden _⟩
    | none =>
      rw [hid] at haccepts
      dsimp only
      have hrestricted : spec.access_control.has_restrictions = true :=
        Bool.of_not_eq_false (mt (AccessControl.has_restrictions_iff _).mp haccepts)
      rw [if_pos hrestricted]
      exact ⟨rfl, hforbidden _⟩

/-- The call runs this handler, and returns what it returns. -/
def Runs (registry : OperationRegistry V Env) (name : String) (input : V)
    (context : OperationContext V Env) (handler : Handler V Env) : Prop :=
  registry.invoke name input context = handler.call input context

theorem runs_iff (registry : OperationRegistry V Env) (name : String) (input : V)
    (context : OperationContext V Env) (handler : Handler V Env) :
    registry.Runs name input context handler ↔ registry.Admits name context handler := by
  constructor
  · intro hinvoke
    by_contra hnot
    by_cases hother : ∃ other, registry.Admits name context other
    · obtain ⟨other, hother⟩ := hother
      have hran := congrArg Invoked.ran (hinvoke.symm.trans (invoke_of_admits hother input))
      simp only [Handler.call, List.cons.injEq, Prod.mk.injEq, and_true] at hran
      exact hnot (hran ▸ hother)
    · have hran := (invoke_of_not_admits (not_exists.mp hother) input).1
      rw [hinvoke] at hran
      cases hran
  · exact fun h => invoke_of_admits h input

theorem invoke_access_control (registry : OperationRegistry V Env) (name : String) (input : V)
    (context : OperationContext V Env) :
    (∀ handler, registry.Runs name input context handler ↔
      registry.Admits name context handler) ∧
    ((∀ handler, ¬ registry.Admits name context handler) →
      (registry.invoke name input context).ran = [] ∧
        registry.Refusal name context (registry.invoke name input context).response) ∧
    (∀ handler id,
      registry.Runs name input { context with identity := none, trusted := false } handler ↔
        registry.Runs name input
          { context with identity := some (.empty id), trusted := false } handler) ∧
    ∀ (handler : Handler V Env) (identity identity' : ResourceIdentity),
      identity.authority ≤ identity'.authority →
      registry.Runs name input { context with identity := some identity } handler →
      registry.Runs name input { context with identity := some identity' } handler := by
  refine ⟨fun handler => runs_iff registry name input context handler,
    fun h => invoke_of_not_admits h input, fun handler id => ?_,
    fun handler identity identity' hle => ?_⟩
  · rw [runs_iff, runs_iff]
    simp only [Admits, OperationContext.authority, ResourceIdentity.authority_empty]
  · rw [runs_iff, runs_iff]
    rintro ⟨spec, hlookup, htrusted | haccepts⟩
    · exact ⟨spec, hlookup, .inl htrusted⟩
    · exact ⟨spec, hlookup, .inr (haccepts.mono hle)⟩

end OperationRegistry

end Alknet
