import Mathlib.Data.List.Forall2

/-!
# How a Rust call ends

A call returns `Ok`, returns `Err`, or panics. A panic is not a value that the
caller sees, but it matters here: a panic under a write guard poisons the lock.
-/

namespace Alknet.Rust

inductive Panic
  | poisonedLock
  | arithmeticOverflow
  | unwrapOnErr
  | sliceLength
  | charBoundary
  | indexOutOfBounds
  deriving DecidableEq, Repr

inductive Fault (ε : Type)
  | err (e : ε)
  | panic (cause : Panic)
  deriving DecidableEq, Repr

/-- `Result<α, ε>`, or a panic. -/
abbrev Outcome (ε α : Type) := Except (Fault ε) α

/-- The `From` conversion that `?` puts on an error. A panic passes through. -/
def Fault.into {ε ε' : Type} (conv : ε → ε') : Fault ε → Fault ε'
  | .err e => .err (conv e)
  | .panic cause => .panic cause

/-- A `Result` of code that never panics. -/
def ofResult {ε α : Type} : Except ε α → Outcome ε α
  | .ok a => .ok a
  | .error e => .error (.err e)

/-- The call gave its caller a value, `Ok` or `Err`. -/
def Returns {ε α : Type} (r : Outcome ε α) : Prop := ∀ cause, r ≠ .error (.panic cause)

def returned {ε α : Type} : Outcome ε α → Bool
  | .error (.panic _) => false
  | _ => true

@[simp] theorem returned_iff {ε α : Type} (r : Outcome ε α) : returned r = true ↔ Returns r := by
  rcases r with (e | c) | a <;> simp [returned, Returns]

@[simp] theorem returns_ok {ε α : Type} (a : α) : Returns (.ok a : Outcome ε α) := by
  intro cause h
  cases h

@[simp] theorem returns_err {ε α : Type} (e : ε) : Returns (.error (.err e) : Outcome ε α) := by
  intro cause h
  cases h

@[simp] theorem not_returns_panic {ε α : Type} (c : Panic) :
    ¬ Returns (.error (.panic c) : Outcome ε α) := fun h => h c rfl

@[simp] theorem into_err {ε ε' : Type} (conv : ε → ε') (e : ε) :
    Fault.into conv (.err e) = .err (conv e) := rfl

@[simp] theorem into_panic {ε ε' : Type} (conv : ε → ε') (c : Panic) :
    Fault.into conv (.panic c) = .panic c := rfl

theorem returns_into {ε ε' α β : Type} (conv : ε → ε') (f : Fault ε) :
    Returns (.error (f.into conv) : Outcome ε' α) ↔ Returns (.error f : Outcome ε β) := by
  cases f <;> simp

theorem ofResult_returns {ε α : Type} (r : Except ε α) : Returns (ofResult r) := by
  cases r <;> simp [ofResult]

theorem ofResult_eq_ok {ε α : Type} {r : Except ε α} {a : α} :
    ofResult r = .ok a ↔ r = .ok a := by
  cases r <;> simp [ofResult]

theorem mapError_eq_ok {ε ε' α : Type} {f : ε → ε'} {r : Except ε α} {a : α} :
    r.mapError f = .ok a ↔ r = .ok a := by
  cases r <;> simp [Except.mapError]

theorem pure_returns {ε α : Type} (a : α) : Returns (pure a : Outcome ε α) := returns_ok a

theorem bind_returns {ε α β : Type} {r : Outcome ε α} {f : α → Outcome ε β}
    (hf : ∀ a, Returns (f a)) : Returns (r >>= f) ↔ Returns r := by
  rcases r with (e | c) | a
  · simp [Bind.bind, Except.bind]
  · simp [Bind.bind, Except.bind]
  · simpa [Bind.bind, Except.bind] using hf a

theorem bind_eq_ok {ε α β : Type} {r : Except ε α} {f : α → Except ε β} {b : β}
    (h : r >>= f = .ok b) : ∃ a, r = .ok a ∧ f a = .ok b := by
  cases r with
  | error e => cases h
  | ok a => exact ⟨a, rfl, h⟩

theorem mapM_eq_ok {ε α β : Type} {f : α → Except ε β} {as : List α} {bs : List β} :
    as.mapM f = .ok bs ↔ List.Forall₂ (fun a b => f a = .ok b) as bs := by
  induction as generalizing bs with
  | nil => cases bs <;> simp [pure, Except.pure]
  | cons a as ih =>
    rw [List.mapM_cons]
    constructor
    · intro h
      obtain ⟨b, hb, hrest⟩ := bind_eq_ok h
      obtain ⟨bs', hbs', hpure⟩ := bind_eq_ok hrest
      obtain rfl := Except.ok.inj hpure
      exact .cons hb (ih.mp hbs')
    · rintro (_ | ⟨hb, hbs⟩)
      rw [hb, ih.mpr hbs]
      rfl

@[simp] theorem returns_map {ε α β : Type} (f : α → β) (r : Outcome ε α) :
    Returns (r.map f) ↔ Returns r := by
  rcases r with (e | c) | a <;> simp [Except.map]

end Alknet.Rust
