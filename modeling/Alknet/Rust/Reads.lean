/-!
# Reading what has come of a stream

A read gives some bytes, as many as fit into its buffer, in whatever pieces they come. At the end of
the stream it gives none.
-/

namespace Alknet.Rust

/-- What one read into a buffer of this size gives. -/
structure ReadChunk (size : Nat) where
  bytes : List UInt8
  nonempty : bytes ≠ []
  fits : bytes.length ≤ size

/-- What the reads of a stream will give, and then its end or an error. -/
structure Incoming (size : Nat) (IoError : Type) where
  reads : List (ReadChunk size)
  closing : Option IoError

variable {size : Nat} {IoError : Type}

def bytes_of (reads : List (ReadChunk size)) : List UInt8 := reads.flatMap (·.bytes)

/-- All that reading to the end gives. -/
def Incoming.bytes (stream : Incoming size IoError) : List UInt8 := bytes_of stream.reads

@[simp] theorem bytes_of_nil : bytes_of ([] : List (ReadChunk size)) = [] := rfl

@[simp] theorem bytes_of_cons (chunk : ReadChunk size) (reads : List (ReadChunk size)) :
    bytes_of (chunk :: reads) = chunk.bytes ++ bytes_of reads := rfl

@[simp] theorem bytes_of_append (reads reads' : List (ReadChunk size)) :
    bytes_of (reads ++ reads') = bytes_of reads ++ bytes_of reads' := List.flatMap_append

/-! ## `BufReader` of `tokio` -/

/-- What is in the buffer and has not been consumed, and the stream behind it. -/
structure BufReader (IoError : Type) where
  buf : List UInt8
  inner : Incoming 8192 IoError

namespace BufReader

def new (inner : Incoming 8192 IoError) : BufReader IoError := ⟨[], inner⟩

/-- The stream is read, once, if the buffer is empty. -/
def fill_buf (reader : BufReader IoError) : Except IoError (List UInt8) × BufReader IoError :=
  if reader.buf = [] then
    match reader.inner.reads, reader.inner.closing with
    | chunk :: reads, closing => (.ok chunk.bytes, ⟨chunk.bytes, ⟨reads, closing⟩⟩)
    | [], none => (.ok [], reader)
    | [], some e => (.error e, reader)
  else (.ok reader.buf, reader)

/-- `read` into a buffer of this size. One that is larger than the reader's own is filled without
it, with the same bytes. -/
def read (room : Nat) (reader : BufReader IoError) :
    Except IoError (List UInt8) × BufReader IoError :=
  match reader.fill_buf with
  | (.ok buf, reader) => (.ok (buf.take room), { reader with buf := buf.drop room })
  | (.error e, reader) => (.error e, reader)

def received : Except IoError (List UInt8) → List UInt8
  | .ok bytes => bytes
  | .error _ => []

/-- What reads into buffers of these sizes give, one after the other. -/
def read_all : (rooms : List Nat) → BufReader IoError → List UInt8
  | [], _ => []
  | room :: rooms, reader => received (reader.read room).1 ++ read_all rooms (reader.read room).2

/-- What is still to be read. -/
def pending (reader : BufReader IoError) : List UInt8 := reader.buf ++ reader.inner.bytes

theorem fill_buf_spec (reader : BufReader IoError) :
    reader.fill_buf.2.pending = reader.pending ∧
      reader.fill_buf.2.buf = received reader.fill_buf.1 ∧
      (received reader.fill_buf.1 = [] → reader.pending = []) := by
  obtain ⟨buf, reads, closing⟩ := reader
  unfold fill_buf
  by_cases hbuf : buf = []
  · subst hbuf
    cases reads with
    | cons chunk reads =>
      exact ⟨rfl, rfl, fun hnil => absurd hnil chunk.nonempty⟩
    | nil => cases closing <;> exact ⟨rfl, rfl, fun _ => rfl⟩
  · rw [if_neg hbuf]
    exact ⟨rfl, rfl, fun hnil => absurd hnil hbuf⟩

theorem read_spec (room : Nat) (reader : BufReader IoError) :
    received (reader.read room).1 ++ (reader.read room).2.pending = reader.pending ∧
      (0 < room → received (reader.read room).1 = [] → reader.pending = []) := by
  obtain ⟨hpending, hbuf, hempty⟩ := fill_buf_spec reader
  unfold read
  cases hfill : reader.fill_buf with
  | mk got reader' =>
    rw [hfill] at hpending hbuf hempty
    cases got with
    | error e => exact ⟨hpending, fun _ _ => hempty rfl⟩
    | ok buf =>
      simp only [received, pending] at hbuf hpending hempty ⊢
      refine ⟨?_, ?_⟩
      · rw [← hpending, hbuf, ← List.append_assoc, List.take_append_drop]
      · intro hroom htake
        rw [List.take_eq_nil_iff] at htake
        exact hempty (htake.resolve_left (by omega))

theorem read_all_eq {rooms : List Nat} {reader : BufReader IoError}
    (hrooms : ∀ room ∈ rooms, 0 < room) (hlen : reader.pending.length ≤ rooms.length) :
    reader.read_all rooms = reader.pending := by
  induction rooms generalizing reader with
  | nil => exact (List.length_eq_zero_iff.mp (by simpa using hlen)).symm
  | cons room rooms ih =>
    obtain ⟨hsplit, hsome⟩ := read_spec room reader
    have hlen' : (reader.read room).2.pending.length ≤ rooms.length := by
      have hsum := congrArg List.length hsplit
      rw [List.length_append] at hsum
      rw [List.length_cons] at hlen
      by_cases hnil : received (reader.read room).1 = []
      · have hdone := hsome (hrooms room (by simp)) hnil
        rw [hdone, List.length_nil] at hsum
        omega
      · have hpos := List.length_pos_iff.mpr hnil
        omega
    rw [read_all, ih (fun room h => hrooms room (by simp [h])) hlen', hsplit]

end BufReader

end Alknet.Rust
