import Alknet.Lib.Run
import Mathlib.Logic.Function.Basic
import Mathlib.Tactic.Common

/-!
# Two programs at the two ends of a stream

A program reads and writes item by item, so a run of two programs is any way to cut what they send
into chunks. It may ask for something outside and it may shut down its sending side. What is sent
waits in order until the other side reads it. All runs of two programs have the same outcome.
-/

namespace Alknet.Lib

/-- A program that ends with an `α`. `eof` is how it goes on at the end of its input. -/
inductive Proc (β κ ρ α : Type) where
  | done (result : α)
  | read (eof : Proc β κ ρ α) (next : β → Proc β κ ρ α)
  | write (item : β) (next : Proc β κ ρ α)
  | shutdown (next : Proc β κ ρ α)
  | call (query : κ) (next : ρ → Proc β κ ρ α)

namespace Proc

variable {β κ ρ α α' ε : Type}

def bind : Proc β κ ρ α → (α → Proc β κ ρ α') → Proc β κ ρ α'
  | done result, f => f result
  | read eof next, f => read (eof.bind f) fun item => (next item).bind f
  | write item next, f => write item (next.bind f)
  | shutdown next, f => shutdown (next.bind f)
  | call query next, f => call query fun reply => (next reply).bind f

instance : Monad (Proc β κ ρ) where
  pure := done
  bind := bind

/-- The program runs to another program while it reads `input`, writes `output` and makes
`calls`. -/
inductive Exec (answer : κ → ρ) :
    Proc β κ ρ α → List β → List β → List κ → Proc β κ ρ α → Prop where
  | refl (p : Proc β κ ρ α) : Exec answer p [] [] [] p
  | read {eof q : Proc β κ ρ α} {next : β → Proc β κ ρ α} {item : β} {input output : List β}
      {calls : List κ} (h : Exec answer (next item) input output calls q) :
      Exec answer (.read eof next) (item :: input) output calls q
  | write {next q : Proc β κ ρ α} {item : β} {input output : List β} {calls : List κ}
      (h : Exec answer next input output calls q) :
      Exec answer (.write item next) input (item :: output) calls q
  | call {next : ρ → Proc β κ ρ α} {q : Proc β κ ρ α} {query : κ} {input output : List β}
      {calls : List κ} (h : Exec answer (next (answer query)) input output calls q) :
      Exec answer (.call query next) input output (query :: calls) q

variable {answer : κ → ρ} {p q r : Proc β κ ρ α} {input input' output output' : List β}
  {calls calls' : List κ}

theorem Exec.trans (h : Exec answer p input output calls q)
    (h' : Exec answer q input' output' calls' r) :
    Exec answer p (input ++ input') (output ++ output') (calls ++ calls') r := by
  induction h with
  | refl => exact h'
  | read _ ih => exact .read (ih h')
  | write _ ih => exact .write (ih h')
  | call _ ih => exact .call (ih h')

theorem Exec.bind (h : Exec answer p input output calls q) (f : α → Proc β κ ρ α') :
    Exec answer (p >>= f) input output calls (q >>= f) := by
  induction h with
  | refl => exact .refl _
  | read _ ih => exact .read ih
  | write _ ih => exact .write ih
  | call _ ih => exact .call ih

theorem Exec.next {x : ExceptT ε (Proc β κ ρ) α} {a : α}
    (h : Exec answer x.run input output calls (.done (.ok a)))
    (f : α → ExceptT ε (Proc β κ ρ) α') :
    Exec answer (x >>= f).run input output calls (f a).run := h.bind _

theorem Exec.seq {x : ExceptT ε (Proc β κ ρ) α} {a : α}
    (h : Exec answer x.run input output calls (.done (.ok a)))
    {f : α → ExceptT ε (Proc β κ ρ) α'} {q : Proc β κ ρ (Except ε α')}
    (h' : Exec answer (f a).run input' output' calls' q) :
    Exec answer (x >>= f).run (input ++ input') (output ++ output') (calls ++ calls') q :=
  (h.next f).trans h'

end Proc

/-! ## Two ends -/

inductive Side where
  | left
  | right
deriving DecidableEq

def Side.other : Side → Side
  | .left => .right
  | .right => .left

theorem Side.other_of_ne {i j : Side} (h : i ≠ j) : j = i.other := by
  cases i <;> cases j <;> first | rfl | exact absurd rfl h

theorem Side.other_ne (i : Side) : i.other ≠ i := by cases i <;> decide

theorem Side.other_other (i : Side) : i.other.other = i := by cases i <;> rfl

/-- A program, what it has asked for, and whether it has shut down its sending side. -/
structure Party (β κ ρ α : Type) where
  proc : Proc β κ ρ α
  calls : List κ
  shut : Bool

/-- One step with this input, and with no more to come if `ended`. The result has the input that is
left and the items that were sent. What is written after the shutdown is lost. -/
def Party.step {β κ ρ α : Type} (answer : κ → ρ) (party : Party β κ ρ α) (input : List β)
    (ended : Bool) : Option (Party β κ ρ α × List β × List β) :=
  match party.proc with
  | .done _ => none
  | .read eof next =>
    match input with
    | item :: input => some ({ party with proc := next item }, input, [])
    | [] => if ended then some ({ party with proc := eof }, [], []) else none
  | .write item next =>
    some ({ party with proc := next }, input, if party.shut then [] else [item])
  | .shutdown next => some ({ party with proc := next, shut := true }, input, [])
  | .call query next =>
    some ({ party with proc := next (answer query), calls := party.calls ++ [query] }, input, [])

theorem Party.step_shut {β κ ρ α : Type} {answer : κ → ρ} {party party' : Party β κ ρ α}
    {input rest sent : List β} {ended : Bool}
    (h : party.step answer input ended = some (party', rest, sent)) (hshut : party.shut = true) :
    party'.shut = true ∧ sent = [] := by
  unfold Party.step at h
  grind

theorem Party.step_extend {β κ ρ α : Type} {answer : κ → ρ} {party party' : Party β κ ρ α}
    {input rest sent : List β} {ended : Bool}
    (h : party.step answer input ended = some (party', rest, sent)) {more : List β} {ended' : Bool}
    (hmore : ended = true → more = []) (hended : ended = true → ended' = true) :
    party.step answer (input ++ more) ended' = some (party', rest ++ more, sent) := by
  unfold Party.step at h ⊢
  cases hproc : party.proc with
  | done => simp [hproc] at h
  | read eof next =>
    cases input with
    | nil =>
      cases ended with
      | false => simp [hproc] at h
      | true => simp_all
    | cons item input => simp_all
  | write | shutdown | call => simp_all

structure Duplex (β κ ρ : Type) (α : Side → Type) where
  party : ∀ side, Party β κ ρ (α side)
  inbox : Side → List β

namespace Duplex

variable {β κ ρ : Type} {α : Side → Type} {answer : κ → ρ}

/-- One side has moved: it has `rest` left to read, and it has sent `sent`. -/
def put (s : Duplex β κ ρ α) (side : Side) (party : Party β κ ρ (α side)) (rest sent : List β) :
    Duplex β κ ρ α where
  party := Function.update s.party side party
  inbox := fun other => if other = side then rest else s.inbox other ++ sent

def step (answer : κ → ρ) (s : Duplex β κ ρ α) (side : Side) : Option (Duplex β κ ρ α) :=
  ((s.party side).step answer (s.inbox side) (s.party side.other).shut).map
    fun (party, rest, sent) => s.put side party rest sent

theorem step_some {s s' : Duplex β κ ρ α} {side : Side} :
    s.step answer side = some s' ↔ ∃ party rest sent,
      (s.party side).step answer (s.inbox side) (s.party side.other).shut =
        some (party, rest, sent) ∧ s' = s.put side party rest sent := by
  simp only [step, Option.map_eq_some_iff, Prod.exists]
  constructor
  · rintro ⟨party, rest, sent, h, rfl⟩
    exact ⟨party, rest, sent, h, rfl⟩
  · rintro ⟨party, rest, sent, h, rfl⟩
    exact ⟨party, rest, sent, h, rfl⟩

@[simp] theorem put_party (s : Duplex β κ ρ α) (side : Side) (party : Party β κ ρ (α side))
    (rest sent : List β) : (s.put side party rest sent).party side = party := by
  simp [put]

theorem put_party_ne (s : Duplex β κ ρ α) {side other : Side} (hne : other ≠ side)
    (party : Party β κ ρ (α side)) (rest sent : List β) :
    (s.put side party rest sent).party other = s.party other := Function.update_of_ne hne _ _

@[simp] theorem put_inbox (s : Duplex β κ ρ α) (side : Side) (party : Party β κ ρ (α side))
    (rest sent : List β) : (s.put side party rest sent).inbox side = rest := by
  simp [put]

theorem put_inbox_ne (s : Duplex β κ ρ α) {side other : Side} (hne : other ≠ side)
    (party : Party β κ ρ (α side)) (rest sent : List β) :
    (s.put side party rest sent).inbox other = s.inbox other ++ sent := if_neg hne

theorem put_self (s : Duplex β κ ρ α) (side : Side) :
    s.put side (s.party side) (s.inbox side) [] = s := by
  unfold put
  congr 1
  · simp
  · funext other
    split <;> simp_all

theorem put_put (s : Duplex β κ ρ α) (side : Side) (party party' : Party β κ ρ (α side))
    (rest rest' sent sent' : List β) :
    (s.put side party rest sent).put side party' rest' sent' =
      s.put side party' rest' (sent ++ sent') := by
  unfold put
  congr 1
  · simp
  · funext other
    split <;> simp_all

theorem put_put_other (s : Duplex β κ ρ α) (side : Side) (party : Party β κ ρ (α side))
    (party' : Party β κ ρ (α side.other)) (rest rest' sent sent' : List β) :
    (s.put side party rest sent).put side.other party' (rest' ++ sent) sent' =
      (s.put side.other party' rest' sent').put side party (rest ++ sent') sent := by
  unfold put
  congr 1
  · exact Function.update_comm (by cases side <;> decide) _ _ _
  · funext other
    cases side <;> cases other <;> simp [Side.other]

/-- **All runs agree.** -/
theorem step_commutes : Commutes (step answer : Duplex β κ ρ α → Side → Option _) := by
  intro s i j a b hne ha hb
  obtain rfl := Side.other_of_ne hne
  obtain ⟨party, rest, sent, hparty, rfl⟩ := step_some.mp ha
  obtain ⟨party', rest', sent', hparty', rfl⟩ := step_some.mp hb
  rw [Side.other_other] at hparty'
  refine ⟨_, step_some.mpr ⟨party', rest' ++ sent, sent', ?_, rfl⟩, step_some.mpr
    ⟨party, rest ++ sent', sent, ?_, put_put_other ..⟩⟩
  · rw [put_party_ne _ hne.symm, put_inbox_ne _ hne.symm, Side.other_other, put_party]
    exact Party.step_extend hparty' (fun hshut => (Party.step_shut hparty hshut).2)
      fun hshut => (Party.step_shut hparty hshut).1
  · rw [put_party_ne _ hne, put_inbox_ne _ hne, put_party]
    exact Party.step_extend hparty (fun hshut => (Party.step_shut hparty' hshut).2)
      fun hshut => (Party.step_shut hparty' hshut).1

theorem reaches_after {s : Duplex β κ ρ α} {side : Side} {party party' : Party β κ ρ (α side)}
    {rest rest' output : List β} (sent : List β)
    (hstep : (s.party side).step answer (s.inbox side) (s.party side.other).shut =
      some (party, rest, sent))
    (hrest : Reaches (step answer) (s.put side party rest sent)
      ((s.put side party rest sent).put side party' rest' output)) :
    Reaches (step answer) s (s.put side party' rest' (sent ++ output)) := by
  rw [put_put] at hrest
  exact (Reaches.single (step_some.mpr ⟨party, rest, sent, hstep, rfl⟩)).trans hrest

theorem reaches_exec {side : Side} {p q : Proc β κ ρ (α side)} {input output : List β}
    {calls : List κ} (h : p.Exec answer input output calls q) {s : Duplex β κ ρ α}
    {before : List κ} {rest : List β} (hparty : s.party side = ⟨p, before, false⟩)
    (hinbox : s.inbox side = input ++ rest) :
    Reaches (step answer) s (s.put side ⟨q, before ++ calls, false⟩ rest output) := by
  induction h generalizing s before with
  | refl p =>
    refine ⟨[], ?_⟩
    rw [List.append_nil, ← hparty, ← List.nil_append rest, ← hinbox, put_self]
    rfl
  | read _ ih =>
    refine reaches_after [] ?_ (ih (put_party ..) (put_inbox ..))
    rw [hparty, hinbox]
    rfl
  | @write _ _ item _ _ _ _ ih =>
    refine reaches_after [item] ?_ (ih (put_party ..) (put_inbox ..))
    rw [hparty, hinbox]
    rfl
  | @call _ _ query _ _ calls _ ih =>
    rw [show before ++ query :: calls = (before ++ [query]) ++ calls by simp]
    refine reaches_after [] ?_ (ih (put_party ..) (put_inbox ..))
    rw [hparty, hinbox]
    rfl

/-! ## The state as its four parts -/

def of (left : Party β κ ρ (α .left)) (right : Party β κ ρ (α .right))
    (to_left to_right : List β) : Duplex β κ ρ α where
  party | .left => left | .right => right
  inbox | .left => to_left | .right => to_right

variable {left left' : Party β κ ρ (α .left)} {right right' : Party β κ ρ (α .right)}
  {to_left to_right : List β}

theorem of_put_left (rest sent : List β) :
    (of left right to_left to_right).put .left left' rest sent =
      of left' right rest (to_right ++ sent) := by
  unfold of put
  congr 1 <;> funext side <;> cases side <;> simp

theorem of_put_right (rest sent : List β) :
    (of left right to_left to_right).put .right right' rest sent =
      of left right' (to_left ++ sent) rest := by
  unfold of put
  congr 1 <;> funext side <;> cases side <;> simp

variable {input output rest : List β} {calls before : List κ}

theorem reaches_left {p q : Proc β κ ρ (α .left)} (h : p.Exec answer input output calls q)
    (hinput : to_left = input ++ rest) :
    Reaches (step answer) (of ⟨p, before, false⟩ right to_left to_right)
      (of ⟨q, before ++ calls, false⟩ right rest (to_right ++ output)) := by
  rw [← of_put_left]
  exact reaches_exec h rfl hinput

theorem reaches_right {p q : Proc β κ ρ (α .right)} (h : p.Exec answer input output calls q)
    (hinput : to_right = input ++ rest) :
    Reaches (step answer) (of left ⟨p, before, false⟩ to_left to_right)
      (of left ⟨q, before ++ calls, false⟩ (to_left ++ output) rest) := by
  rw [← of_put_right]
  exact reaches_exec h rfl hinput

theorem reaches_shutdown_left (shut : Bool) {p : Proc β κ ρ (α .left)} :
    Reaches (step answer) (of ⟨.shutdown p, before, shut⟩ right to_left to_right)
      (of ⟨p, before, true⟩ right to_left to_right) := by
  refine Reaches.single (i := .left) (step_some.mpr ⟨_, _, _, rfl, ?_⟩)
  rw [of_put_left, List.append_nil]
  rfl

theorem reaches_shutdown_right (shut : Bool) {p : Proc β κ ρ (α .right)} :
    Reaches (step answer) (of left ⟨.shutdown p, before, shut⟩ to_left to_right)
      (of left ⟨p, before, true⟩ to_left to_right) := by
  refine Reaches.single (i := .right) (step_some.mpr ⟨_, _, _, rfl, ?_⟩)
  rw [of_put_right, List.append_nil]
  rfl

end Duplex

end Alknet.Lib
