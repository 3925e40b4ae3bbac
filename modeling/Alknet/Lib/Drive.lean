import Alknet.Lib.Duplex

/-!
# A program alone with its input

A program runs on an input that comes in chunks and then ends. What it does does not depend on the
chunks. A program that only reads is a parser: `Parses` says which items it takes.
-/

namespace Alknet.Lib

inductive Act (β κ : Type) where
  | write (item : β)
  | shutdown
  | call (query : κ)

/-- How a program ended, what it did until then, and what it left of its input. -/
structure Ran (σ β κ α : Type) where
  result : α
  acts : List (Act β κ)
  rest : σ

variable {σ τ β κ ρ α α' ε : Type}

/-- The items that were sent. What is written behind a shutdown is lost. -/
def Act.written : List (Act β κ) → List β
  | [] => []
  | .write item :: acts => item :: written acts
  | .shutdown :: _ => []
  | .call _ :: acts => written acts

def Act.calls : List (Act β κ) → List κ
  | [] => []
  | .call query :: acts => query :: calls acts
  | _ :: acts => calls acts

@[simp] theorem Act.written_nil : Act.written ([] : List (Act β κ)) = [] := rfl

@[simp] theorem Act.written_write (item : β) (acts : List (Act β κ)) :
    Act.written (.write item :: acts) = item :: Act.written acts := rfl

@[simp] theorem Act.written_shutdown (acts : List (Act β κ)) :
    Act.written (.shutdown :: acts) = [] := rfl

@[simp] theorem Act.written_call (query : κ) (acts : List (Act β κ)) :
    Act.written (.call query :: acts) = Act.written acts := rfl

@[simp] theorem Act.written_append (items : List β) (acts : List (Act β κ)) :
    Act.written (items.map .write ++ acts) = items ++ Act.written acts := by
  induction items with
  | nil => rfl
  | cons item items ih => exact congrArg (item :: ·) ih

@[simp] theorem Act.calls_nil : Act.calls ([] : List (Act β κ)) = [] := rfl

@[simp] theorem Act.calls_write (item : β) (acts : List (Act β κ)) :
    Act.calls (.write item :: acts) = Act.calls acts := rfl

@[simp] theorem Act.calls_shutdown (acts : List (Act β κ)) :
    Act.calls (.shutdown :: acts) = Act.calls acts := rfl

@[simp] theorem Act.calls_call (query : κ) (acts : List (Act β κ)) :
    Act.calls (.call query :: acts) = query :: Act.calls acts := rfl

@[simp] theorem Act.calls_append (items : List β) (acts : List (Act β κ)) :
    Act.calls (items.map .write ++ acts) = Act.calls acts := by
  induction items with
  | nil => rfl
  | cons item items ih => exact ih

namespace Ran

/-- The program did something else before. -/
def after (acts : List (Act β κ)) (ran : Ran σ β κ α) : Ran σ β κ α :=
  { ran with acts := acts ++ ran.acts }

def map (f : σ → τ) (ran : Ran σ β κ α) : Ran τ β κ α := ⟨ran.result, ran.acts, f ran.rest⟩

end Ran

namespace Proc

/-- A run on an input that `pop` takes the items from. -/
def drive (answer : κ → ρ) (pop : σ → Option (β × σ)) : Proc β κ ρ α → σ → Ran σ β κ α
  | .done result, input => ⟨result, [], input⟩
  | .read eof next, input =>
    match pop input with
    | none => eof.drive answer pop input
    | some (item, rest) => (next item).drive answer pop rest
  | .write item next, input => (next.drive answer pop input).after [.write item]
  | .shutdown next, input => (next.drive answer pop input).after [.shutdown]
  | .call query next, input => ((next (answer query)).drive answer pop input).after [.call query]

variable {answer : κ → ρ} {pop : σ → Option (β × σ)}

theorem drive_bind (p : Proc β κ ρ α) (f : α → Proc β κ ρ α') (input : σ) :
    (p >>= f).drive answer pop input =
      ((f (p.drive answer pop input).result).drive answer pop
        (p.drive answer pop input).rest).after (p.drive answer pop input).acts := by
  show (p.bind f).drive answer pop input = _
  induction p generalizing input with
  | done result => rfl
  | read eof next iheof ihnext =>
    cases hpop : pop input with
    | none => simp only [Proc.bind, drive, hpop, iheof]
    | some popped => simp only [Proc.bind, drive, hpop, ihnext]
  | write item next ih => simp only [Proc.bind, drive, ih, Ran.after, List.append_assoc]
  | shutdown next ih => simp only [Proc.bind, drive, ih, Ran.after, List.append_assoc]
  | call query next ih => simp only [Proc.bind, drive, ih, Ran.after, List.append_assoc]

theorem drive_next {x : ExceptT ε (Proc β κ ρ) α} {input rest : σ} {a : α}
    {acts : List (Act β κ)} (h : x.run.drive answer pop input = ⟨.ok a, acts, rest⟩)
    (f : α → ExceptT ε (Proc β κ ρ) α') :
    (x >>= f).run.drive answer pop input = ((f a).run.drive answer pop rest).after acts := by
  rw [ExceptT.run_bind, drive_bind, h]

theorem drive_fails {x : ExceptT ε (Proc β κ ρ) α} {input rest : σ} {e : ε}
    {acts : List (Act β κ)} (h : x.run.drive answer pop input = ⟨.error e, acts, rest⟩)
    (f : α → ExceptT ε (Proc β κ ρ) α') :
    (x >>= f).run.drive answer pop input = ⟨.error e, acts, rest⟩ := by
  rw [ExceptT.run_bind, drive_bind, h]
  exact congrArg (Ran.mk _ · _) (List.append_nil acts)

theorem drive_adapt {ε' : Type} (f : ε → ε') {x : ExceptT ε (Proc β κ ρ) α} {input rest : σ}
    {result : Except ε α} {acts : List (Act β κ)}
    (h : x.run.drive answer pop input = ⟨result, acts, rest⟩) :
    (ExceptT.adapt f x).run.drive answer pop input = ⟨result.mapError f, acts, rest⟩ := by
  show (x.run >>= fun r => .done (r.mapError f)).drive answer pop input = _
  rw [drive_bind, h]
  exact congrArg (Ran.mk _ · _) (List.append_nil acts)

theorem drive_map {pop' : τ → Option (β × τ)} {view : σ → τ}
    (hpop : ∀ input, pop' (view input) = (pop input).map (Prod.map id view)) (p : Proc β κ ρ α)
    (input : σ) : p.drive answer pop' (view input) = (p.drive answer pop input).map view := by
  induction p generalizing input with
  | done result => rfl
  | read eof next iheof ihnext =>
    cases hitem : pop input with
    | none => simp only [drive, hpop, hitem, Option.map_none, iheof]
    | some popped => simp only [drive, hpop, hitem, Option.map_some, Prod.map, id, ihnext]
  | write item next ih => simp only [drive, ih, Ran.after, Ran.map]
  | shutdown next ih => simp only [drive, ih, Ran.after, Ran.map]
  | call query next ih => simp only [drive, ih, Ran.after, Ran.map]

end Proc

/-! ## Chunks -/

def pop_item : List β → Option (β × List β)
  | [] => none
  | item :: rest => some (item, rest)

def pop_chunk : List (List β) → Option (β × List (List β))
  | [] => none
  | [] :: chunks => pop_chunk chunks
  | (item :: chunk) :: chunks => some (item, chunk :: chunks)

theorem pop_item_flatten (chunks : List (List β)) :
    pop_item chunks.flatten = (pop_chunk chunks).map (Prod.map id List.flatten) := by
  induction chunks with
  | nil => rfl
  | cons chunk chunks ih =>
    cases chunk with
    | nil => exact ih
    | cons item chunk => rfl

theorem Proc.drive_flatten (answer : κ → ρ) (p : Proc β κ ρ α) (chunks : List (List β)) :
    p.drive answer pop_item chunks.flatten =
      (p.drive answer pop_chunk chunks).map List.flatten := drive_map pop_item_flatten p chunks

/-! ## Programs that only read -/

/-- The program takes the items that `wire` gives for its result, and fails on all other input. -/
structure Parses (answer : κ → ρ) (x : ExceptT ε (Proc β κ ρ) α) (wire : α → List β → Prop) :
    Prop where
  accepts : ∀ a used rest, wire a used →
    x.run.drive answer pop_item (used ++ rest) = ⟨.ok a, [], rest⟩
  rejects : ∀ input, (∀ a used rest, wire a used → input ≠ used ++ rest) →
    ∃ e rest, x.run.drive answer pop_item input = ⟨.error e, [], rest⟩

namespace Parses

variable {answer : κ → ρ} {x : ExceptT ε (Proc β κ ρ) α} {wire wire' : α → List β → Prop}

theorem accepts_or_rejects (hx : Parses answer x wire) (input : List β) :
    (∃ a used rest, wire a used ∧ input = used ++ rest ∧
      x.run.drive answer pop_item input = ⟨.ok a, [], rest⟩) ∨
    ∃ e rest, x.run.drive answer pop_item input = ⟨.error e, [], rest⟩ := by
  by_cases h : ∃ a used rest, wire a used ∧ input = used ++ rest
  · obtain ⟨a, used, rest, hwire, rfl⟩ := h
    exact .inl ⟨a, used, rest, hwire, rfl, hx.accepts a used rest hwire⟩
  · exact .inr (hx.rejects input fun a used rest hwire heq => h ⟨a, used, rest, hwire, heq⟩)

theorem pure (a : α) :
    Parses answer (Pure.pure a : ExceptT ε (Proc β κ ρ) α) fun b used => b = a ∧ used = [] where
  accepts := by
    rintro _ _ rest ⟨rfl, rfl⟩
    rfl
  rejects input h := absurd rfl (h a [] input ⟨rfl, rfl⟩)

theorem throw (e : ε) :
    Parses answer (throw e : ExceptT ε (Proc β κ ρ) α) fun _ _ => False where
  accepts _ _ _ h := h.elim
  rejects input _ := ⟨e, input, rfl⟩

theorem bind {f : α → ExceptT ε (Proc β κ ρ) α'} {wires : α → α' → List β → Prop}
    (hx : Parses answer x wire) (hf : ∀ a, Parses answer (f a) (wires a)) :
    Parses answer (x >>= f) fun b used =>
      ∃ a first second, wire a first ∧ wires a b second ∧ used = first ++ second where
  accepts := by
    rintro b _ rest ⟨a, first, second, hfirst, hsecond, rfl⟩
    rw [List.append_assoc, Proc.drive_next (hx.accepts a first _ hfirst),
      (hf a).accepts b second rest hsecond]
    rfl
  rejects := by
    intro input h
    rcases hx.accepts_or_rejects input with ⟨a, first, rest, hfirst, rfl, hok⟩ | ⟨e, left, hfail⟩
    · have hrest : ∀ b second behind, wires a b second → rest ≠ second ++ behind := by
        rintro b second behind hsecond rfl
        exact h b (first ++ second) behind ⟨a, first, second, hfirst, hsecond, rfl⟩
          (List.append_assoc _ _ _).symm
      obtain ⟨e, left, hfail⟩ := (hf a).rejects rest hrest
      refine ⟨e, left, ?_⟩
      rw [Proc.drive_next hok, hfail]
      rfl
    · exact ⟨e, left, Proc.drive_fails hfail f⟩

theorem adapt {ε' : Type} (f : ε → ε') (hx : Parses answer x wire) :
    Parses answer (ExceptT.adapt f x) wire where
  accepts a used rest h := Proc.drive_adapt f (hx.accepts a used rest h)
  rejects input h := by
    obtain ⟨e, rest, hfail⟩ := hx.rejects input h
    exact ⟨f e, rest, Proc.drive_adapt f hfail⟩

theorem congr (hx : Parses answer x wire) (h : ∀ a used, wire' a used ↔ wire a used) :
    Parses answer x wire' where
  accepts a used rest hwire := hx.accepts a used rest ((h a used).mp hwire)
  rejects input hnone := hx.rejects input fun a used rest hwire =>
    hnone a used rest ((h a used).mpr hwire)

end Parses

end Alknet.Lib
