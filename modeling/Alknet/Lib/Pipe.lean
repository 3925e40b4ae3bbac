import Mathlib.Data.List.Infix

/-!
# Copying from one stream to another

A pipe is a one-way stream. A copy moves items from one pipe to the next through a buffer, until its
input has ended or something fails. Copies in a row work at the same time: each one sees its input
fill and its output drain. What a copy has put out is then always the beginning of what it has
taken in, and a row in which no copy can go on has delivered everything.
-/

namespace Alknet.Lib

variable {β : Type}

/-- What was taken out, what waits to be taken, and whether the writer has closed the pipe. -/
structure Pipe (β : Type) where
  taken : List β
  waiting : List β
  closed : Bool

namespace Pipe

def new : Pipe β := ⟨[], [], false⟩

/-- All that was ever put in. -/
def put (pipe : Pipe β) : List β := pipe.taken ++ pipe.waiting

/-- The reader has come to the end. -/
def ended (pipe : Pipe β) : Bool := pipe.waiting.isEmpty && pipe.closed

def take (n : Nat) (pipe : Pipe β) : Pipe β :=
  { pipe with taken := pipe.taken ++ pipe.waiting.take n, waiting := pipe.waiting.drop n }

def push (items : List β) (pipe : Pipe β) : Pipe β :=
  { pipe with waiting := pipe.waiting ++ items }

def close (pipe : Pipe β) : Pipe β := { pipe with closed := true }

theorem ended_iff {pipe : Pipe β} : pipe.ended = true ↔ pipe.waiting = [] ∧ pipe.closed = true := by
  unfold ended
  rw [Bool.and_eq_true, List.isEmpty_iff]

theorem put_of_waiting_nil {pipe : Pipe β} (h : pipe.waiting = []) : pipe.put = pipe.taken := by
  rw [put, h, List.append_nil]

theorem put_push (pipe : Pipe β) (items : List β) : (pipe.push items).put = pipe.put ++ items :=
  (List.append_assoc ..).symm

/-! ## What a writer and a reader may do -/

/-- The pipe as its writer may leave it: nothing is put in once it is closed. -/
structure Fills (p q : Pipe β) : Prop where
  taken : q.taken = p.taken
  put : p.put <+: q.put
  closed : p.closed = true → q = p

/-- The pipe as its reader may leave it. -/
structure Drains (p q : Pipe β) : Prop where
  taken : p.taken <+: q.taken
  put : q.put = p.put
  closed : q.closed = p.closed

theorem Fills.rfl {p : Pipe β} : Fills p p := ⟨.refl _, List.prefix_rfl, fun _ => .refl _⟩

theorem Drains.rfl {p : Pipe β} : Drains p p := ⟨List.prefix_rfl, .refl _, .refl _⟩

theorem fills_push {p : Pipe β} (h : p.closed = false) (items : List β) :
    Fills p (p.push items) := by
  refine ⟨.refl _, ⟨items, (put_push p items).symm⟩, fun hclosed => ?_⟩
  rw [h] at hclosed
  cases hclosed

theorem fills_close (p : Pipe β) : Fills p p.close := by
  refine ⟨.refl _, List.prefix_rfl, fun h => ?_⟩
  unfold close
  rw [← h]

theorem drains_take (p : Pipe β) (n : Nat) : Drains p (p.take n) := by
  refine ⟨List.prefix_append .., ?_, .refl _⟩
  unfold put take
  rw [List.append_assoc, List.take_append_drop]

theorem Fills.ended {p q : Pipe β} (h : Fills p q) (hended : p.ended = true) : q.ended = true := by
  rw [h.closed (ended_iff.mp hended).2]
  exact hended

end Pipe

/-! ## One copy -/

/-- `read_done` is set once the input has ended. The buffer is still written out then. -/
inductive Copy (β : Type) where
  | copying (buf : List β) (read_done : Bool)
  | done
  | failed
deriving DecidableEq

def Copy.new : Copy β := .copying [] false

def Copy.ended : Copy β → Bool
  | .copying _ _ => false
  | .done => true
  | .failed => true

inductive CopyStep where
  | read (n : Nat)
  | read_end
  | write (n : Nat)
  | finish
  /-- Either stream may fail at any time. What is in the buffer is lost. -/
  | fail
deriving DecidableEq

/-- A step with its input and its output. The buffer holds `capacity` items. The output takes items
until `window` of them wait to be read. -/
def Copy.step (capacity window : Nat) (input : Pipe β) (copy : Copy β) (output : Pipe β) :
    CopyStep → Option (Pipe β × Copy β × Pipe β)
  | .read n =>
    match copy with
    | .copying buf false =>
      if 0 < n ∧ n ≤ input.waiting.length ∧ buf.length + n ≤ capacity then
        some (input.take n, .copying (buf ++ input.waiting.take n) false, output)
      else none
    | _ => none
  | .read_end =>
    match copy with
    | .copying buf false => if input.ended then some (input, .copying buf true, output) else none
    | _ => none
  | .write n =>
    match copy with
    | .copying buf read_done =>
      if 0 < n ∧ n ≤ buf.length ∧ output.waiting.length + n ≤ window ∧ output.closed = false then
        some (input, .copying (buf.drop n) read_done, output.push (buf.take n))
      else none
    | _ => none
  | .finish =>
    match copy with
    | .copying [] true => some (input, .done, output)
    | _ => none
  | .fail =>
    match copy with
    | .copying _ _ => some (input, .failed, output)
    | _ => none

/-- Where the items are that the copy has taken in. -/
def Copy.Carries (input output : Pipe β) : Copy β → Prop
  | .copying buf read_done =>
    output.put ++ buf = input.taken ∧ (read_done = true → input.ended = true)
  | .done => output.put = input.taken ∧ input.ended = true
  | .failed => output.put <+: input.taken

namespace Copy

variable {capacity window : Nat} {copy copy' : Copy β} {input output input' output' : Pipe β}

theorem Carries.isPrefix (h : copy.Carries input output) : output.put <+: input.taken := by
  cases copy with
  | copying buf read_done => exact ⟨buf, h.1⟩
  | done => exact h.1 ▸ List.prefix_rfl
  | failed => exact h

theorem Carries.fills (h : copy.Carries input output) (hfills : input.Fills input') :
    copy.Carries input' output := by
  cases copy with
  | copying buf read_done =>
    exact ⟨h.1.trans hfills.taken.symm, fun hdone => hfills.ended (h.2 hdone)⟩
  | done => exact ⟨h.1.trans hfills.taken.symm, hfills.ended h.2⟩
  | failed =>
    unfold Carries
    rw [hfills.taken]
    exact h

theorem Carries.drains (h : copy.Carries input output) (hdrains : output.Drains output') :
    copy.Carries input output' := by
  cases copy with
  | copying buf read_done => exact ⟨hdrains.put ▸ h.1, h.2⟩
  | done => exact ⟨hdrains.put ▸ h.1, h.2⟩
  | failed =>
    unfold Carries
    rw [hdrains.put]
    exact h

theorem Carries.close (h : copy.Carries input output) : copy.Carries input output.close := by
  cases copy with
  | copying buf read_done => exact h
  | done => exact h
  | failed => exact h

theorem step_cases {i : CopyStep}
    (h : copy.step capacity window input output i = some (input', copy', output')) :
    (∃ buf n, i = .read n ∧ copy = .copying buf false ∧ input' = input.take n ∧
      copy' = .copying (buf ++ input.waiting.take n) false ∧ output' = output) ∨
    (∃ buf, i = .read_end ∧ copy = .copying buf false ∧ input.ended = true ∧ input' = input ∧
      copy' = .copying buf true ∧ output' = output) ∨
    (∃ buf read_done n, i = .write n ∧ copy = .copying buf read_done ∧ output.closed = false ∧
      input' = input ∧ copy' = .copying (buf.drop n) read_done ∧
      output' = output.push (buf.take n)) ∨
    (i = .finish ∧ copy = .copying [] true ∧ input' = input ∧ copy' = .done ∧ output' = output) ∨
    (∃ buf read_done, i = .fail ∧ copy = .copying buf read_done ∧ input' = input ∧
      copy' = .failed ∧ output' = output) := by
  cases i with
  | read n =>
    simp only [step] at h
    split at h
    · rename_i buf
      split at h
      · cases h
        exact .inl ⟨buf, n, rfl, rfl, rfl, rfl, rfl⟩
      · cases h
    · cases h
  | read_end =>
    simp only [step] at h
    split at h
    · rename_i buf
      split at h
      · rename_i hended
        cases h
        exact .inr (.inl ⟨buf, rfl, rfl, hended, rfl, rfl, rfl⟩)
      · cases h
    · cases h
  | write n =>
    simp only [step] at h
    split at h
    · rename_i buf read_done
      split at h
      · rename_i hroom
        cases h
        exact .inr (.inr (.inl ⟨buf, read_done, n, rfl, rfl, hroom.2.2.2, rfl, rfl, rfl⟩))
      · cases h
    · cases h
  | finish =>
    simp only [step] at h
    split at h
    · cases h
      exact .inr (.inr (.inr (.inl ⟨rfl, rfl, rfl, rfl, rfl⟩)))
    · cases h
  | fail =>
    simp only [step] at h
    split at h
    · rename_i buf read_done
      cases h
      exact .inr (.inr (.inr (.inr ⟨buf, read_done, rfl, rfl, rfl, rfl, rfl⟩)))
    · cases h

theorem step_drains {i : CopyStep}
    (h : copy.step capacity window input output i = some (input', copy', output')) :
    input.Drains input' := by
  obtain ⟨buf, n, -, -, rfl, -⟩ | ⟨buf, -, -, -, rfl, -⟩ | ⟨buf, read_done, n, -, -, -, rfl, -⟩ |
    ⟨-, -, rfl, -⟩ | ⟨buf, read_done, -, -, rfl, -⟩ := step_cases h
  · exact Pipe.drains_take input n
  all_goals exact Pipe.Drains.rfl

theorem step_fills {i : CopyStep}
    (h : copy.step capacity window input output i = some (input', copy', output')) :
    output.Fills output' := by
  obtain ⟨buf, n, -, -, -, -, rfl⟩ | ⟨buf, -, -, -, -, -, rfl⟩ |
    ⟨buf, read_done, n, -, -, hopen, -, -, rfl⟩ | ⟨-, -, -, -, rfl⟩ |
    ⟨buf, read_done, -, -, -, -, rfl⟩ := step_cases h
  · exact Pipe.Fills.rfl
  · exact Pipe.Fills.rfl
  · exact Pipe.fills_push hopen _
  · exact Pipe.Fills.rfl
  · exact Pipe.Fills.rfl

theorem step_closed {i : CopyStep}
    (h : copy.step capacity window input output i = some (input', copy', output')) :
    output'.closed = output.closed := by
  obtain ⟨buf, n, -, -, -, -, rfl⟩ | ⟨buf, -, -, -, -, -, rfl⟩ |
    ⟨buf, read_done, n, -, -, -, -, -, rfl⟩ | ⟨-, -, -, -, rfl⟩ |
    ⟨buf, read_done, -, -, -, -, rfl⟩ := step_cases h
  all_goals rfl

theorem step_of_ended {i : CopyStep}
    (h : copy.step capacity window input output i = some (input', copy', output')) :
    copy.ended = false := by
  obtain ⟨buf, n, -, rfl, -⟩ | ⟨buf, -, rfl, -⟩ | ⟨buf, read_done, n, -, rfl, -⟩ |
    ⟨-, rfl, -⟩ | ⟨buf, read_done, -, rfl, -⟩ := step_cases h
  all_goals rfl

theorem Carries.step {i : CopyStep} (hcarries : copy.Carries input output)
    (h : copy.step capacity window input output i = some (input', copy', output')) :
    copy'.Carries input' output' := by
  obtain ⟨buf, n, -, rfl, rfl, rfl, rfl⟩ | ⟨buf, -, rfl, hended, rfl, rfl, rfl⟩ |
    ⟨buf, read_done, n, -, rfl, -, rfl, rfl, rfl⟩ | ⟨-, rfl, rfl, rfl, rfl⟩ |
    ⟨buf, read_done, -, rfl, rfl, rfl, rfl⟩ := step_cases h
  · refine ⟨?_, fun hdone => absurd hdone Bool.false_ne_true⟩
    rw [← List.append_assoc, hcarries.1]
    rfl
  · exact ⟨hcarries.1, fun _ => hended⟩
  · refine ⟨?_, hcarries.2⟩
    rw [← hcarries.1]
    unfold Pipe.put Pipe.push
    simp only [List.append_assoc, List.take_append_drop]
  · exact ⟨(List.append_nil _).symm.trans hcarries.1, hcarries.2 rfl⟩
  · exact hcarries.isPrefix

theorem step_of_waiting {i : CopyStep} (hwaiting : input.waiting = [])
    (hopen : input.closed = false) (hi : i ≠ .fail) :
    (copying [] false).step capacity window input output i = none := by
  cases i with
  | read n =>
    refine if_neg fun h => ?_
    rw [hwaiting, List.length_nil] at h
    omega
  | read_end => simp [step, Pipe.ended, hopen]
  | write n =>
    refine if_neg fun h => ?_
    rw [List.length_nil] at h
    omega
  | finish => rfl
  | fail => exact absurd rfl hi

/-- **A copy that cannot go on** has passed everything on once its output was read. -/
theorem Carries.idle (hcarries : copy.Carries input output) (hcapacity : 0 < capacity)
    (hwindow : 0 < window) (hfailed : copy ≠ .failed) (hread : output.waiting = [])
    (hopen : copy.ended = false → output.closed = false)
    (hidle : copy.ended = false →
      ∀ i, i ≠ .fail → copy.step capacity window input output i = none) :
    input.waiting = [] ∧ output.put = input.put ∧ (copy = .done ↔ input.closed = true) := by
  cases copy with
  | failed => exact absurd rfl hfailed
  | done =>
    obtain ⟨hput, hended⟩ := hcarries
    obtain ⟨hwaiting, hclosed⟩ := Pipe.ended_iff.mp hended
    exact ⟨hwaiting, by rw [hput, Pipe.put_of_waiting_nil hwaiting], by simp [hclosed]⟩
  | copying buf read_done =>
    have hbuf : buf = [] := by
      by_contra hne
      have hpos : 0 < buf.length := List.length_pos_iff.mpr hne
      have hwrite := hidle rfl (.write 1) nofun
      have hroom : output.waiting.length + 1 ≤ window := by rw [hread]; exact hwindow
      simp [Copy.step, hroom, hopen rfl, Nat.succ_le_of_lt hpos] at hwrite
    subst hbuf
    obtain rfl : read_done = false := by
      cases read_done with
      | false => rfl
      | true => exact absurd (hidle rfl .finish nofun) (by simp [Copy.step])
    have hwaiting : input.waiting = [] := by
      by_contra hne
      have hpos : 0 < input.waiting.length := List.length_pos_iff.mpr hne
      have hnone := hidle rfl (.read 1) nofun
      simp [Copy.step, Nat.succ_le_of_lt hpos, Nat.succ_le_of_lt hcapacity] at hnone
    have hclosed : input.closed = false := by
      have hnone := hidle rfl .read_end nofun
      by_contra hne
      have hended : input.ended = true := Pipe.ended_iff.mpr ⟨hwaiting, by simpa using hne⟩
      simp [Copy.step, hended] at hnone
    refine ⟨hwaiting, ?_, by simp [hclosed]⟩
    rw [Pipe.put_of_waiting_nil hwaiting, ← hcarries.1, List.append_nil]

end Copy

end Alknet.Lib
