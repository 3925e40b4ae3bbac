import Alknet.Code.Interface.RawFraming
import Mathlib.Tactic

/-!
# Frames in a byte stream

Every byte string is some frames and a residue that is no whole frame. The two readers hand out
the frames one by one, however the string comes in and wherever a call is dropped. They differ at
a body that is not an envelope, and in what they say at the end.
-/

open Alknet.Lib.Chunked Alknet.Rust

namespace Alknet

/-! ## Frames -/

def frame (body : List UInt8) : List UInt8 := to_be_bytes (UInt32.ofNat body.length) ++ body

/-- The first body of a byte string, and what follows its frame. -/
def split_frame (data : List UInt8) : Option (List UInt8 × List UInt8) :=
  if 4 ≤ data.length ∧ 4 + length_of data ≤ data.length then
    some ((data.take (4 + length_of data)).drop 4, data.drop (4 + length_of data))
  else none

theorem to_be_bytes_toNat (n : UInt32) :
    (to_be_bytes n).map UInt8.toNat =
      [n.toNat / 2 ^ 24 % 256, n.toNat / 2 ^ 16 % 256, n.toNat / 2 ^ 8 % 256, n.toNat % 256] := by
  simp only [to_be_bytes, List.map_cons, List.map_nil, UInt32.toNat_toUInt8,
    UInt32.toNat_shiftRight, Nat.shiftRight_eq_div_pow]
  rfl

theorem length_of_be_bytes (n : UInt32) (t : List UInt8) :
    length_of (to_be_bytes n ++ t) = n.toNat := by
  have hn := n.toNat_lt
  have hbytes := to_be_bytes_toNat n
  simp only [to_be_bytes, List.map_cons, List.map_nil, List.cons.injEq, and_true] at hbytes
  obtain ⟨h₀, h₁, h₂, h₃⟩ := hbytes
  simp only [length_of, to_be_bytes, List.cons_append, List.nil_append, List.take_succ_cons,
    List.take_zero, List.foldl_cons, List.foldl_nil, h₀, h₁, h₂, h₃]
  omega

theorem be_bytes_length_of (a b c d : UInt8) (t : List UInt8) :
    to_be_bytes (UInt32.ofNat (length_of (a :: b :: c :: d :: t))) = [a, b, c, d] ∧
      length_of (a :: b :: c :: d :: t) < 2 ^ 32 := by
  have ha := a.toNat_lt
  have hb := b.toNat_lt
  have hc := c.toNat_lt
  have hd := d.toNat_lt
  have hlen : length_of (a :: b :: c :: d :: t) =
      256 * (256 * (256 * a.toNat + b.toNat) + c.toNat) + d.toNat := by
    simp [length_of]
  have hlt : length_of (a :: b :: c :: d :: t) < 2 ^ 32 := by omega
  refine ⟨?_, hlt⟩
  apply List.map_injective_iff.mpr fun _ _ => UInt8.toNat_inj.mp
  rw [to_be_bytes_toNat, UInt32.toNat_ofNat', Nat.mod_eq_of_lt hlt, hlen]
  simp only [List.map_cons, List.map_nil, List.cons.injEq, and_true]
  omega

theorem split_frame_iff {data body rest : List UInt8} :
    split_frame data = some (body, rest) ↔ body.length < 2 ^ 32 ∧ data = frame body ++ rest := by
  constructor
  · intro h
    unfold split_frame at h
    split_ifs at h with hlen
    simp only [Option.some.injEq, Prod.mk.injEq] at h
    obtain ⟨rfl, rfl⟩ := h
    match data, hlen with
    | a :: b :: c :: d :: t, hlen =>
      obtain ⟨hbytes, hlt⟩ := be_bytes_length_of a b c d t
      generalize length_of (a :: b :: c :: d :: t) = n at *
      simp only [List.length_cons] at hlen
      have hbody : ((a :: b :: c :: d :: t).take (4 + n)).drop 4 = t.take n := by
        rw [add_comm]
        rfl
      have hn : (t.take n).length = n := by
        rw [List.length_take]
        omega
      rw [hbody, frame, hn, hbytes]
      refine ⟨hlt, ?_⟩
      rw [add_comm]
      simp
  · rintro ⟨hlt, rfl⟩
    have hlen : length_of (frame body ++ rest) = body.length := by
      rw [frame, List.append_assoc, length_of_be_bytes, UInt32.toNat_ofNat', Nat.mod_eq_of_lt hlt]
    have hframe : (frame body).length = 4 + body.length := by
      simp [frame, to_be_bytes]
      omega
    unfold split_frame
    rw [hlen, if_pos (by rw [List.length_append, hframe]; omega), ← hframe]
    simp [frame, to_be_bytes]

theorem split_frame_append {data body rest : List UInt8} (more : List UInt8)
    (h : split_frame data = some (body, rest)) :
    split_frame (data ++ more) = some (body, rest ++ more) := by
  obtain ⟨hlt, rfl⟩ := split_frame_iff.mp h
  exact split_frame_iff.mpr ⟨hlt, List.append_assoc _ _ _⟩

/-- A byte string as bodies and a residue. -/
structure Framed (bytes : List UInt8) (bodies : List (List UInt8)) (residue : List UInt8) :
    Prop where
  short : ∀ body ∈ bodies, body.length < 2 ^ 32
  eq : bytes = bodies.flatMap frame ++ residue
  whole : split_frame residue = none

theorem exists_framed (bytes : List UInt8) : ∃ bodies residue, Framed bytes bodies residue := by
  induction hn : bytes.length using Nat.strong_induction_on generalizing bytes with
  | _ n ih =>
    cases h : split_frame bytes with
    | none => exact ⟨[], bytes, by simp, rfl, h⟩
    | some found =>
      obtain ⟨hlt, rfl⟩ := split_frame_iff.mp h
      obtain ⟨bodies, residue, hf⟩ :=
        ih found.2.length (by simp [← hn, frame, to_be_bytes]; omega) found.2 rfl
      refine ⟨found.1 :: bodies, residue, ?_, ?_, hf.whole⟩
      · simpa using ⟨hlt, hf.short⟩
      · rw [List.flatMap_cons, List.append_assoc, ← hf.eq]

theorem framed_nil_iff {bytes residue : List UInt8} :
    Framed bytes [] residue ↔ bytes = residue ∧ split_frame residue = none :=
  ⟨fun h => ⟨h.eq, h.whole⟩, fun ⟨heq, hnone⟩ => ⟨by simp, heq, hnone⟩⟩

theorem framed_cons {bytes body residue : List UInt8} {bodies : List (List UInt8)}
    (h : Framed bytes (body :: bodies) residue) :
    ∃ rest, split_frame bytes = some (body, rest) ∧ Framed rest bodies residue := by
  refine ⟨bodies.flatMap frame ++ residue, split_frame_iff.mpr ⟨h.short body (by simp), ?_⟩,
    fun b hb => h.short b (by simp [hb]), rfl, h.whole⟩
  rw [h.eq, List.flatMap_cons, List.append_assoc]

/-! ## The readers' view of a frame -/

theorem framed_next_frame (json : Json) (buf : List UInt8) :
    FrameFramedReader.next_frame json buf =
      (split_frame buf).map fun (body, rest) => (json.from_slice body, rest) := by
  unfold FrameFramedReader.next_frame split_frame
  by_cases h₁ : 4 ≤ buf.length
  · by_cases h₂ : 4 + length_of buf ≤ buf.length <;> simp [h₁, h₂]
  · simp [h₁]

theorem raw_next_frame (json : Json) (buf : List UInt8) :
    RawFramingSession.next_frame json buf =
      (split_frame buf).map fun (body, rest) =>
        match json.from_slice body with
        | .ok envelope => (.ok envelope, rest)
        | .error e => (.error ("frame JSON decode error: " ++ e), buf) := by
  unfold RawFramingSession.next_frame decode_with_remainder split_frame
  by_cases h₁ : 4 ≤ buf.length
  · by_cases h₂ : 4 + length_of buf ≤ buf.length
    · rw [if_neg (by omega)]
      simp only
      rw [if_neg (by omega), if_pos ⟨h₁, h₂⟩]
      cases hjson : json.from_slice ((buf.take (4 + length_of buf)).drop 4) <;> simp [hjson]
    · rw [if_neg (by omega)]
      simp only
      rw [if_pos (by omega), if_neg (by omega)]
      rfl
  · rw [if_pos (by omega), if_neg (by omega)]
    rfl

theorem framed_stable (json : Json) : Stable (FrameFramedReader.next_frame json) := by
  intro x y r rest h
  rw [framed_next_frame] at h ⊢
  obtain ⟨⟨body, rest'⟩, hsplit, he⟩ := Option.map_eq_some_iff.mp h
  simp only [Prod.mk.injEq] at he
  obtain ⟨rfl, rfl⟩ := he
  rw [split_frame_append y hsplit]
  rfl

theorem raw_stable (json : Json) : Stable (RawFramingSession.next_frame json) := by
  intro x y r rest h
  rw [raw_next_frame] at h ⊢
  obtain ⟨⟨body, rest'⟩, hsplit, he⟩ := Option.map_eq_some_iff.mp h
  rw [split_frame_append y hsplit]
  simp only [Option.map_some] at he ⊢
  cases hjson : json.from_slice body with
  | ok envelope =>
    simp only [hjson, Prod.mk.injEq] at he ⊢
    simp [he.1, he.2]
  | error e =>
    simp only [hjson, Prod.mk.injEq] at he ⊢
    simp [he.1, he.2]

theorem framed_next_none {json : Json} {buf : List UInt8} :
    FrameFramedReader.next_frame json buf = none ↔ split_frame buf = none := by
  rw [framed_next_frame, Option.map_eq_none_iff]

theorem raw_next_none {json : Json} {buf : List UInt8} :
    RawFramingSession.next_frame json buf = none ↔ split_frame buf = none := by
  rw [raw_next_frame, Option.map_eq_none_iff]

/-! ## The results of a run -/

def itemResult : Except String EventEnvelope → Except IoError (Option EventEnvelope)
  | .ok envelope => .ok (some envelope)
  | .error e => .error ⟨.InvalidData, e⟩

def bodyResult (json : Json) (body : List UInt8) : Except IoError (Option EventEnvelope) :=
  itemResult (json.from_slice body)

theorem framed_items {json : Json} {rs : List (Except String EventEnvelope)}
    {bytes rest residue : List UInt8} {bodies : List (List UInt8)}
    (hf : Framed bytes bodies residue)
    (h : Items (FrameFramedReader.next_frame json) rs bytes rest) :
    rs <+: bodies.map json.from_slice ∧
      (split_frame rest = none → rs = bodies.map json.from_slice) := by
  induction rs generalizing bytes bodies with
  | nil =>
    obtain rfl : bytes = rest := h
    refine ⟨List.nil_prefix, fun hnone => ?_⟩
    cases bodies with
    | nil => rfl
    | cons body bodies =>
      obtain ⟨_, hsplit, -⟩ := framed_cons hf
      simp [hnone] at hsplit
  | cons r rs ih =>
    obtain ⟨mid, hmid, hitems⟩ := h
    rw [framed_next_frame] at hmid
    cases bodies with
    | nil =>
      obtain ⟨rfl, hnone⟩ := framed_nil_iff.mp hf
      simp [hnone] at hmid
    | cons body bodies =>
      obtain ⟨tail, hsplit, hf'⟩ := framed_cons hf
      simp only [hsplit, Option.map_some, Option.some.injEq, Prod.mk.injEq] at hmid
      obtain ⟨rfl, rfl⟩ := hmid
      obtain ⟨hpre, hall⟩ := ih hf' hitems
      refine ⟨?_, fun hnone => ?_⟩
      · rw [List.map_cons]
        exact (List.prefix_cons_inj _).mpr hpre
      · rw [List.map_cons, hall hnone]

/-- The results for a run of `RawFramingSession::read_frame` up to its first error. -/
def rawResults (json : Json) : List (List UInt8) → List (Except String EventEnvelope)
  | [] => []
  | body :: bodies =>
    match json.from_slice body with
    | .ok envelope => .ok envelope :: rawResults json bodies
    | .error _ => []

/-- That error, which the later calls repeat. -/
def rawStop (json : Json) : List (List UInt8) → String
  | [] => "stream closed while reading frame"
  | body :: bodies =>
    match json.from_slice body with
    | .ok _ => rawStop json bodies
    | .error e => "frame JSON decode error: " ++ e

theorem raw_items {json : Json} {rs : List (Except String EventEnvelope)}
    {bytes rest residue : List UInt8} {bodies : List (List UInt8)}
    (hf : Framed bytes bodies residue)
    (h : Items (RawFramingSession.next_frame json) rs bytes rest) :
    (∃ k, rs <+: rawResults json bodies ++ List.replicate k (.error (rawStop json bodies))) ∧
      (split_frame rest = none →
        rs = rawResults json bodies ∧
          rawStop json bodies = "stream closed while reading frame") := by
  induction rs generalizing bytes bodies with
  | nil =>
    obtain rfl : bytes = rest := h
    refine ⟨⟨0, List.nil_prefix⟩, fun hnone => ?_⟩
    cases bodies with
    | nil => exact ⟨rfl, rfl⟩
    | cons body bodies =>
      obtain ⟨_, hsplit, -⟩ := framed_cons hf
      simp [hnone] at hsplit
  | cons r rs ih =>
    obtain ⟨mid, hmid, hitems⟩ := h
    rw [raw_next_frame] at hmid
    cases bodies with
    | nil =>
      obtain ⟨rfl, hnone⟩ := framed_nil_iff.mp hf
      simp [hnone] at hmid
    | cons body bodies =>
      obtain ⟨tail, hsplit, hf'⟩ := framed_cons hf
      cases hjson : json.from_slice body with
      | ok envelope =>
        simp only [hsplit, Option.map_some, hjson, Option.some.injEq, Prod.mk.injEq] at hmid
        obtain ⟨rfl, rfl⟩ := hmid
        obtain ⟨⟨k, hpre⟩, hall⟩ := ih hf' hitems
        simp only [rawResults, rawStop, hjson, List.cons_append]
        refine ⟨⟨k, (List.prefix_cons_inj _).mpr hpre⟩, fun hnone => ?_⟩
        obtain ⟨hrs, hstop⟩ := hall hnone
        exact ⟨by rw [hrs], hstop⟩
      | error e =>
        -- the buffer is as before, so every later item is the same error
        simp only [hsplit, Option.map_some, hjson, Option.some.injEq, Prod.mk.injEq] at hmid
        obtain ⟨rfl, rfl⟩ := hmid
        obtain ⟨⟨k, hpre⟩, hall⟩ := ih hf hitems
        simp only [rawResults, rawStop, hjson, List.nil_append] at hpre hall ⊢
        refine ⟨⟨k + 1, ?_⟩, fun hnone => ?_⟩
        · rw [List.replicate_succ]
          exact (List.prefix_cons_inj _).mpr hpre
        · obtain ⟨rfl, -⟩ := hall hnone
          obtain rfl : bytes = rest := hitems
          simp [hsplit] at hnone

/-! ## Streams in chunks -/

/-- A stream of non-empty chunks without a fault. -/
def ofChunks (chunks : List { chunk : List UInt8 // chunk ≠ [] }) : Reader UInt8 IoError :=
  ⟨chunks.map fun chunk => .data chunk.1 chunk.2, []⟩

theorem ofChunks_faultless (chunks : List { chunk : List UInt8 // chunk ≠ [] }) :
    Faultless (ofChunks chunks) := by
  intro e he
  simp [ofChunks] at he

theorem ofChunks_pending (chunks : List { chunk : List UInt8 // chunk ≠ [] }) :
    (ofChunks chunks).pending = chunks.flatMap Subtype.val := by
  simp [Reader.pending, ofChunks, List.flatMap_map, Event.bytes]

theorem framed_call (json : Json) : FrameFramedReader.read_frame json =
    Reader.call (FrameFramedReader.next_frame json) frame_result := rfl

theorem raw_call (json : Json) : RawFramingSession.read_frame json =
    Reader.call (RawFramingSession.next_frame json) raw_result := rfl

theorem filterMap_frame_result (rs : List (Except String EventEnvelope)) (k : Nat) :
    (rs.map Got.item ++ List.replicate k Got.ended).filterMap frame_result =
      rs.map itemResult ++ List.replicate k (.ok none) := by
  induction rs with
  | nil => simp [frame_result, List.filterMap_replicate]
  | cons r rs ih =>
    cases r <;> simpa [frame_result, itemResult, List.filterMap_append] using ih

theorem filterMap_raw_result (rs : List (Except String EventEnvelope)) (k : Nat) :
    (rs.map Got.item ++ List.replicate k Got.ended).filterMap raw_result =
      rs ++ List.replicate k (.error "stream closed while reading frame") := by
  induction rs with
  | nil => simp [raw_result, List.filterMap_replicate]
  | cons r rs ih => simpa [raw_result, List.filterMap_append] using ih

variable (json : Json) {chunks : List { chunk : List UInt8 // chunk ≠ [] }}
  {bodies : List (List UInt8)} {residue : List UInt8}

theorem framed_calls (hf : Framed (chunks.flatMap Subtype.val) bodies residue)
    (budgets : List Nat) :
    ∃ k, (calls (FrameFramedReader.read_frame json) budgets (ofChunks chunks)).1 <+:
      bodies.map (bodyResult json) ++ List.replicate k (.ok none) := by
  obtain ⟨rs, k, hdone, hitems, hend⟩ :=
    calls_spec frame_result rfl (framed_stable json) budgets (ofChunks_faultless chunks)
  rw [ofChunks_pending] at hitems
  obtain ⟨hpre, hall⟩ := framed_items hf hitems
  have hmap : bodies.map (bodyResult json) = (bodies.map json.from_slice).map itemResult := by
    rw [List.map_map]
    rfl
  refine ⟨k, ?_⟩
  rw [filterMap_frame_result] at hdone
  rw [framed_call, hdone, hmap]
  rcases Nat.eq_zero_or_pos k with rfl | hk
  · simpa using hpre.map itemResult
  · rw [hall (framed_next_none.mp (hend hk))]

theorem raw_calls (hf : Framed (chunks.flatMap Subtype.val) bodies residue) (budgets : List Nat) :
    ∃ k, (calls (RawFramingSession.read_frame json) budgets (ofChunks chunks)).1 <+:
      rawResults json bodies ++ List.replicate k (.error (rawStop json bodies)) := by
  obtain ⟨rs, k, hdone, hitems, hend⟩ :=
    calls_spec raw_result rfl (raw_stable json) budgets (ofChunks_faultless chunks)
  rw [ofChunks_pending] at hitems
  obtain ⟨⟨m, hpre⟩, hall⟩ := raw_items hf hitems
  rw [filterMap_raw_result] at hdone
  rw [raw_call, hdone]
  rcases Nat.eq_zero_or_pos k with rfl | hk
  · exact ⟨m, by simpa using hpre⟩
  · obtain ⟨hrs, hstop⟩ := hall (raw_next_none.mp (hend hk))
    exact ⟨k, by rw [hrs, hstop]⟩

theorem frame_result_isSome (got : Got (Except String EventEnvelope) IoError) :
    (frame_result got).isSome = !got.isDropped := by
  cases got with
  | item r => cases r <;> rfl
  | _ => rfl

theorem raw_result_isSome (got : Got (Except String EventEnvelope) IoError) :
    (raw_result got).isSome = !got.isDropped := by
  cases got <;> rfl

theorem ofChunks_length (chunks : List { chunk : List UInt8 // chunk ≠ [] }) :
    (ofChunks chunks).stream.length = chunks.length := by
  simp [ofChunks]

/-! ## Complete frames -/

theorem framed_of_bodies (hshort : ∀ body ∈ bodies, body.length < 2 ^ 32)
    (hchunks : chunks.flatMap Subtype.val = bodies.flatMap frame) :
    Framed (chunks.flatMap Subtype.val) bodies [] :=
  ⟨hshort, by simpa using hchunks, rfl⟩

theorem written_frames (json : Json) (envelopes : List EventEnvelope) (writer : FrameFramedWriter) :
    (envelopes.foldl (FrameFramedWriter.write_frame json) writer).stream =
      writer.stream ++ (envelopes.map json.to_vec).flatMap frame := by
  induction envelopes generalizing writer with
  | nil => simp
  | cons envelope envelopes ih =>
    rw [List.foldl_cons, ih, List.map_cons, List.flatMap_cons, ← List.append_assoc]
    rfl

/-- **Stream framing.** Either reader gives the bodies in order, for every cut of the stream and
every pattern of dropped calls. -/
theorem frames_delivered (json : Json) (bodies : List (List UInt8))
    (hshort : ∀ body ∈ bodies, body.length < 2 ^ 32)
    (chunks : List { chunk : List UInt8 // chunk ≠ [] })
    (hchunks : chunks.flatMap Subtype.val = bodies.flatMap frame) :
    (∀ budgets,
      (∃ k, (calls (FrameFramedReader.read_frame json) budgets (ofChunks chunks)).1 <+:
        bodies.map (bodyResult json) ++ List.replicate k (.ok none)) ∧
      (∀ budget, chunks.length < budget →
        ((calls (FrameFramedReader.read_frame json) budgets (ofChunks chunks)).2.read_frame
          json budget).1.isSome)) ∧
    (∀ budgets,
      (∃ k, (calls (RawFramingSession.read_frame json) budgets (ofChunks chunks)).1 <+:
        rawResults json bodies ++ List.replicate k (.error (rawStop json bodies))) ∧
      (∀ budget, chunks.length < budget →
        (RawFramingSession.read_frame json budget
          (calls (RawFramingSession.read_frame json) budgets (ofChunks chunks)).2).1.isSome)) ∧
    (∀ envelopes : List EventEnvelope, bodies.flatMap frame =
        (envelopes.foldl (FrameFramedWriter.write_frame json) ⟨[]⟩).stream →
      (∀ envelope ∈ envelopes, json.from_slice (json.to_vec envelope) = .ok envelope ∧
        (json.to_vec envelope).length < 2 ^ 32) →
      ∀ budgets, ∃ k,
        (calls (FrameFramedReader.read_frame json) budgets (ofChunks chunks)).1 <+:
          envelopes.map (fun envelope => .ok (some envelope)) ++ List.replicate k (.ok none)) := by
  have hf := framed_of_bodies hshort hchunks
  refine ⟨fun budgets => ⟨framed_calls json hf budgets, fun budget h => ?_⟩,
    fun budgets => ⟨raw_calls json hf budgets, fun budget h => ?_⟩, ?_⟩
  · exact call_isSome frame_result_isSome budgets (by rwa [ofChunks_length])
  · exact call_isSome raw_result_isSome budgets (by rwa [ofChunks_length])
  · intro envelopes hwritten hround budgets
    rw [written_frames, List.nil_append] at hwritten
    have hf' : Framed (chunks.flatMap Subtype.val) (envelopes.map json.to_vec) [] := by
      refine framed_of_bodies ?_ (hchunks.trans hwritten)
      intro body hbody
      obtain ⟨envelope, henvelope, rfl⟩ := List.mem_map.mp hbody
      exact (hround envelope henvelope).2
    obtain ⟨k, hpre⟩ := framed_calls json hf' budgets
    have hresults : (envelopes.map json.to_vec).map (bodyResult json) =
        envelopes.map fun envelope => .ok (some envelope) := by
      rw [List.map_map]
      apply List.map_congr_left
      intro envelope henvelope
      simp only [Function.comp, bodyResult, (hround envelope henvelope).1, itemResult]
    exact ⟨k, hresults ▸ hpre⟩

def sampleEnvelope : EventEnvelope := ⟨"call.requested", "1", .string "alk_1"⟩

def sampleText (envelope : EventEnvelope) : String :=
  "\x7b\"type\":\"" ++ envelope.type ++ "\",\"id\":\"" ++ envelope.id ++ "\",\"payload\":" ++
    (match envelope.payload with
      | .string text => "\"" ++ text ++ "\""
      | _ => "null") ++ "\x7d"

def sampleBody : List UInt8 := as_bytes (sampleText sampleEnvelope)

def sampleJson : Json where
  to_vec envelope := as_bytes (sampleText envelope)
  from_slice body :=
    if body = sampleBody then .ok sampleEnvelope
    else .error "expected value at line 1 column 1"

def sampleChunks : List { chunk : List UInt8 // chunk ≠ [] } :=
  [⟨[0, 0], by decide⟩, ⟨(frame sampleBody ++ frame []).drop 2, by decide⟩]

theorem frames_delivered_sample :
    (∃ k, (calls (FrameFramedReader.read_frame sampleJson) [1, 3, 3, 3]
        (ofChunks sampleChunks)).1 <+:
      [.ok (some sampleEnvelope), .error ⟨.InvalidData, "expected value at line 1 column 1"⟩] ++
        List.replicate k (.ok none)) ∧
    (∃ k, (calls (FrameFramedReader.read_frame sampleJson) [2, 2]
        (ofChunks [⟨frame sampleBody, by decide⟩])).1 <+:
      [.ok (some sampleEnvelope)] ++ List.replicate k (.ok none)) := by
  refine ⟨((frames_delivered sampleJson [sampleBody, []] (by decide) sampleChunks
    (by decide)).1 [1, 3, 3, 3]).1, ?_⟩
  refine (frames_delivered sampleJson [sampleBody] (by decide) [⟨frame sampleBody, by decide⟩]
    (by decide)).2.2 [sampleEnvelope] rfl ?_ [2, 2]
  intro envelope henvelope
  obtain rfl := List.mem_singleton.mp henvelope
  exact ⟨rfl, by decide⟩

/-! ## The end of the stream -/

/-- The bytes are whole frames. -/
def OnBoundary (bytes : List UInt8) : Prop :=
  ∃ bodies : List (List UInt8), (∀ body ∈ bodies, body.length < 2 ^ 32) ∧
    bytes = bodies.flatMap frame

theorem onBoundary_iff {bytes : List UInt8} (hf : Framed bytes bodies residue) :
    OnBoundary bytes ↔ residue = [] := by
  constructor
  · rintro ⟨whole, hshort, heq⟩
    induction whole generalizing bytes bodies with
    | nil =>
      cases bodies with
      | nil => exact (framed_nil_iff.mp hf).1.symm.trans heq
      | cons body bodies =>
        obtain ⟨rest, hsplit, -⟩ := framed_cons hf
        rw [heq] at hsplit
        simp [split_frame] at hsplit
    | cons body whole ih =>
      have hsplit : split_frame bytes = some (body, whole.flatMap frame) :=
        split_frame_iff.mpr ⟨hshort body (by simp), heq⟩
      cases bodies with
      | nil =>
        obtain ⟨rfl, hnone⟩ := framed_nil_iff.mp hf
        simp [hnone] at hsplit
      | cons body' bodies =>
        obtain ⟨rest, hsplit', hf'⟩ := framed_cons hf
        rw [hsplit] at hsplit'
        simp only [Option.some.injEq, Prod.mk.injEq] at hsplit'
        exact ih hf' (fun b hb => hshort b (by simp [hb])) hsplit'.2.symm
  · rintro rfl
    exact ⟨bodies, hf.short, by simpa using hf.eq⟩

theorem framed_reaches_none (hf : Framed (chunks.flatMap Subtype.val) bodies residue) :
    .ok none ∈ (calls (FrameFramedReader.read_frame json)
      (List.replicate (bodies.length + 1) (chunks.length + 1)) (ofChunks chunks)).1 := by
  obtain ⟨k, hpre⟩ :=
    framed_calls json hf (List.replicate (bodies.length + 1) (chunks.length + 1))
  have hlen : (calls (FrameFramedReader.read_frame json)
      (List.replicate (bodies.length + 1) (chunks.length + 1)) (ofChunks chunks)).1.length =
      bodies.length + 1 :=
    calls_length frame_result_isSome (by rw [ofChunks_length]; omega) _
  generalize (calls (FrameFramedReader.read_frame json)
    (List.replicate (bodies.length + 1) (chunks.length + 1)) (ofChunks chunks)).1 = rs at *
  have hlast : bodies.length < rs.length := by omega
  have hget := List.IsPrefix.getElem hpre hlast
  rw [List.getElem_append_right (by simp), List.getElem_replicate] at hget
  exact hget ▸ List.getElem_mem hlast

theorem rawResults_length_le (bodies : List (List UInt8)) :
    (rawResults json bodies).length ≤ bodies.length := by
  induction bodies with
  | nil => rfl
  | cons body bodies ih =>
    unfold rawResults
    cases json.from_slice body with
    | ok envelope => simpa using ih
    | error e => simp

/-- **Clean ends.** `FrameFramedReader` reports a clean end whatever is left over, and
`RawFramingSession` an error. -/
theorem clean_end_iff (json : Json) (chunks : List { chunk : List UInt8 // chunk ≠ [] }) :
    ((∀ budgets, .ok none ∈
        (calls (FrameFramedReader.read_frame json) budgets (ofChunks chunks)).1 →
          OnBoundary (chunks.flatMap Subtype.val)) ↔
      OnBoundary (chunks.flatMap Subtype.val)) ∧
    (∀ bodies residue, Framed (chunks.flatMap Subtype.val) bodies residue →
      ∀ budgets i, bodies.length ≤ i →
        (∀ r, (calls (FrameFramedReader.read_frame json) budgets (ofChunks chunks)).1[i]? = some r →
          r = .ok none) ∧
        (∀ r, (calls (RawFramingSession.read_frame json) budgets (ofChunks chunks)).1[i]? = some r →
          ∃ e, r = .error e)) := by
  refine ⟨⟨?_, fun h _ _ => h⟩, fun bodies residue hf budgets i hi => ⟨?_, ?_⟩⟩
  · intro h
    obtain ⟨bodies, residue, hf⟩ := exists_framed (chunks.flatMap Subtype.val)
    exact h _ (framed_reaches_none json hf)
  · intro r hr
    obtain ⟨k, hpre⟩ := framed_calls json hf budgets
    obtain ⟨hlt, rfl⟩ := List.getElem?_eq_some_iff.mp hr
    rw [List.IsPrefix.getElem hpre hlt, List.getElem_append_right (by simpa using hi),
      List.getElem_replicate]
  · intro r hr
    obtain ⟨k, hpre⟩ := raw_calls json hf budgets
    have hlen := rawResults_length_le json bodies
    obtain ⟨hlt, rfl⟩ := List.getElem?_eq_some_iff.mp hr
    rw [List.IsPrefix.getElem hpre hlt, List.getElem_append_right (by omega),
      List.getElem_replicate]
    exact ⟨_, rfl⟩

theorem truncated_end_clean :
    ¬ OnBoundary [0, 0] ∧
    (FrameFramedReader.read_frame sampleJson 2 (ofChunks [⟨[0, 0], by decide⟩])).1 =
      some (.ok none) ∧
    (RawFramingSession.read_frame sampleJson 2 (ofChunks [⟨[0, 0], by decide⟩])).1 =
      some (.error "stream closed while reading frame") := by
  have hf : Framed [0, 0] [] [0, 0] := framed_nil_iff.mpr ⟨rfl, by decide⟩
  exact ⟨by simp [onBoundary_iff hf], rfl, rfl⟩

end Alknet
