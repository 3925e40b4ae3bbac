import Alknet.Lib.Drive
import Mathlib.Data.Vector.Basic

/-!
# `AsyncReadExt` and `AsyncWriteExt` of `tokio`

Writes succeed. A read fails only at the end of the input.
-/

open Alknet.Lib

namespace Alknet.Rust

variable {κ ρ ε α : Type}

/-- The `std::io::Error`s of these reads and of the readers over them. -/
inductive StreamError where
  | UnexpectedEof
  | InvalidData (message : String)
deriving DecidableEq

/-- What an `async fn` does with its stream. `κ` and `ρ` are the calls it makes to the outside and
their results. -/
abbrev AsyncIo (κ ρ ε α : Type) := ExceptT ε (Proc UInt8 κ ρ) α

def read_u8 : AsyncIo κ ρ StreamError UInt8 :=
  ExceptT.mk (.read (.done (.error .UnexpectedEof)) fun byte => .done (.ok byte))

def read_exact : (n : Nat) → AsyncIo κ ρ StreamError (List.Vector UInt8 n)
  | 0 => return .nil
  | n + 1 => do
    let byte ← read_u8
    let bytes ← read_exact n
    return byte ::ᵥ bytes

def u16_from_be_bytes (high low : UInt8) : UInt16 := high.toUInt16 * 256 + low.toUInt16

def u16_to_be_bytes (n : UInt16) : List UInt8 := [(n / 256).toUInt8, n.toUInt8]

def read_u16 : AsyncIo κ ρ StreamError UInt16 := do
  let high ← read_u8
  let low ← read_u8
  return u16_from_be_bytes high low

def write_all : List UInt8 → AsyncIo κ ρ StreamError Unit
  | [] => return ()
  | byte :: bytes => ExceptT.mk (.write byte (write_all bytes).run)

def write_u8 (byte : UInt8) : AsyncIo κ ρ StreamError Unit := write_all [byte]

def write_u16 (n : UInt16) : AsyncIo κ ρ StreamError Unit := write_all (u16_to_be_bytes n)

def shutdown : AsyncIo κ ρ StreamError Unit := ExceptT.mk (.shutdown (.done (.ok ())))

/-- A call to the outside. -/
def call (query : κ) : AsyncIo κ ρ ε ρ := ExceptT.mk (.call query fun reply => .done (.ok reply))

def drop_on_error : Except ε α → Proc UInt8 κ ρ (Except ε α)
  | .ok a => .done (.ok a)
  | .error e => .shutdown (.done (.error e))

/-- A function that owns its stream drops it when it returns an error. -/
def owned (io : AsyncIo κ ρ ε α) : Proc UInt8 κ ρ (Except ε α) := io.run >>= drop_on_error

/-! ## What they do -/

variable {answer : κ → ρ}

theorem u16_from_be_bytes_to_be_bytes (n : UInt16) :
    u16_from_be_bytes (n / 256).toUInt8 n.toUInt8 = n := by
  apply UInt16.toNat_inj.mp
  have := n.toNat_lt
  simp [u16_from_be_bytes]
  omega

theorem read_u8_exec (byte : UInt8) :
    (read_u8 : AsyncIo κ ρ StreamError UInt8).run.Exec answer [byte] [] [] (.done (.ok byte)) :=
  .read (.refl _)

theorem read_exact_exec {n : Nat} (bytes : List.Vector UInt8 n) :
    (read_exact n : AsyncIo κ ρ StreamError _).run.Exec answer bytes.toList [] []
      (.done (.ok bytes)) := by
  induction bytes using List.Vector.inductionOn with
  | nil => exact .refl _
  | @cons n byte bytes ih =>
    rw [List.Vector.toList_cons]
    have hrest := Proc.Exec.next ih fun bytes => (return byte ::ᵥ bytes : AsyncIo κ ρ StreamError _)
    exact Proc.Exec.trans ((read_u8_exec byte).next _) hrest

theorem read_u16_exec (n : UInt16) :
    (read_u16 : AsyncIo κ ρ StreamError UInt16).run.Exec answer (u16_to_be_bytes n) [] []
      (.done (.ok n)) := by
  have hread : (read_u16 : AsyncIo κ ρ StreamError UInt16).run.Exec answer (u16_to_be_bytes n) [] []
      (.done (.ok (u16_from_be_bytes (n / 256).toUInt8 n.toUInt8))) := .read (.read (.refl _))
  rwa [u16_from_be_bytes_to_be_bytes] at hread

theorem call_exec (query : κ) :
    (call query : AsyncIo κ ρ ε ρ).run.Exec answer [] [] [query] (.done (.ok (answer query))) :=
  .call (.refl _)

theorem write_all_exec (bytes : List UInt8) :
    (write_all bytes : AsyncIo κ ρ StreamError Unit).run.Exec answer [] bytes []
      (.done (.ok ())) := by
  induction bytes with
  | nil => exact .refl _
  | cons byte bytes ih => exact .write ih

theorem adapt_exec {ε' : Type} (f : ε → ε') {io : AsyncIo κ ρ ε α} {a : α}
    {input output : List UInt8} {calls : List κ}
    (h : io.run.Exec answer input output calls (.done (.ok a))) :
    (ExceptT.adapt f io).run.Exec answer input output calls (.done (.ok a)) := h.bind _

/-! ## What they take -/

theorem u16_to_be_bytes_from_be_bytes (high low : UInt8) :
    u16_to_be_bytes (u16_from_be_bytes high low) = [high, low] := by
  have hhigh := high.toNat_lt
  have hlow := low.toNat_lt
  have hvalue : (u16_from_be_bytes high low).toNat = 256 * high.toNat + low.toNat := by
    simp [u16_from_be_bytes]
    omega
  unfold u16_to_be_bytes
  congr 1
  · apply UInt8.toNat_inj.mp
    simp [hvalue]
    omega
  · congr 1
    apply UInt8.toNat_inj.mp
    simp [hvalue]

theorem read_u8_parses :
    Parses answer (read_u8 : AsyncIo κ ρ StreamError UInt8) fun byte used => used = [byte] where
  accepts := by
    rintro byte _ rest rfl
    rfl
  rejects input h := by
    cases input with
    | nil => exact ⟨_, _, rfl⟩
    | cons byte rest => exact absurd rfl (h byte [byte] rest rfl)

theorem read_exact_parses (n : Nat) :
    Parses answer (read_exact n : AsyncIo κ ρ StreamError _) fun bytes used =>
      used = bytes.toList := by
  induction n with
  | zero =>
    refine (Parses.pure _).congr fun bytes used => ?_
    rw [bytes.eq_nil]
    simp
  | succ n ih =>
    refine (read_u8_parses.bind fun byte => ih.bind fun bytes => Parses.pure _).congr ?_
    intro bytes used
    constructor
    · rintro rfl
      have hsplit : bytes.toList = bytes.head :: bytes.tail.toList := by
        rw [← List.Vector.toList_cons, bytes.cons_head_tail]
      exact ⟨bytes.head, _, _, rfl, ⟨bytes.tail, _, _, rfl, ⟨bytes.cons_head_tail.symm, rfl⟩, rfl⟩,
        by simpa using hsplit⟩
    · rintro ⟨byte, _, _, rfl, ⟨rest, _, _, rfl, ⟨rfl, rfl⟩, rfl⟩, rfl⟩
      simp

theorem read_u16_parses :
    Parses answer (read_u16 : AsyncIo κ ρ StreamError UInt16) fun n used =>
      used = u16_to_be_bytes n := by
  refine (read_u8_parses.bind fun high => read_u8_parses.bind fun low => Parses.pure _).congr ?_
  intro n used
  constructor
  · rintro rfl
    exact ⟨_, _, _, rfl, ⟨_, _, _, rfl, ⟨(u16_from_be_bytes_to_be_bytes n).symm, rfl⟩, rfl⟩, rfl⟩
  · rintro ⟨high, _, _, rfl, ⟨low, _, _, rfl, ⟨rfl, rfl⟩, rfl⟩, rfl⟩
    exact (u16_to_be_bytes_from_be_bytes high low).symm

theorem write_all_drive {σ : Type} (pop : σ → Option (UInt8 × σ)) (bytes : List UInt8)
    (input : σ) :
    (write_all bytes : AsyncIo κ ρ StreamError Unit).run.drive answer pop input =
      ⟨.ok (), bytes.map .write, input⟩ := by
  induction bytes with
  | nil => rfl
  | cons byte bytes ih => exact congrArg (Ran.after [Act.write byte]) ih

end Alknet.Rust
