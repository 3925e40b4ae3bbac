import Alknet.Code.Napi.Stream
import Alknet.Lib.Run

/-!
# What the streams of the Node.js package deliver

Over every order in which calls are made, come to their mutex and go on. Each `write` goes out in
one piece, and what `read` returns, piece after piece, is the beginning of what was sent up to the
end. The pieces are in the order of the turns at the mutex. Only calls that wait for each other are
sure to keep their order.
-/

open Alknet.Lib

namespace Alknet

/-- A step that comes neither from the program nor from something that goes wrong. -/
def StreamStep.is_own : StreamStep → Bool
  | .lock_write _ | .lock_read _ => true
  | .writing (.failed _) | .reading (.failed _) => false
  | .writing _ | .reading _ => true
  | _ => false

namespace AlknetStream

variable {s s' : AlknetStream} {window : Nat}

theorem read_result_eq (size : UInt32) (bytes : List UInt8) : read_result size bytes = bytes := by
  unfold read_result
  split
  · next h => exact (List.length_eq_zero_iff.mp h).symm
  · exact List.take_left

/-- A `write` that was resolved has sent all its bytes, and any other one only first bytes. -/
structure Wrote (done : Turn WriteCall UInt8 × Except String Unit) : Prop where
  isPrefix : done.1.part <+: done.1.call.data
  all : done.2 = .ok () → done.1.part = done.1.call.data

/-- What a `read` returns is what it took, at most as much as it asked for. -/
structure Got (done : Turn UInt32 UInt8 × Except String (List UInt8)) : Prop where
  bytes : ∀ bytes, done.2 = .ok bytes → done.1.part = bytes ∧ bytes.length ≤ done.1.call.toNat
  error : ∀ e, done.2 = .error e → done.1.part = []

/-- The turn of a `close` has come. -/
def Closing (s : AlknetStream) : Prop := .close ∈ s.writes.calls

/-- What was sent before the end. -/
def before_end (s : AlknetStream) : List UInt8 :=
  s.writes.moved.take (s.writes.moved.length - s.late.length)

structure Kept (s : AlknetStream) : Prop where
  writes : s.writes.Counted
  reads : s.reads.Counted
  late : s.late <:+ s.writes.moved
  in_time : s.pipe.closed = false → s.late = []
  arrives : ∃ came, came.Sublist s.late ∧ s.pipe.put <+: s.before_end ++ came ∧
    (s.lost = false → s.pipe.put = s.before_end ++ came)
  received : s.reads.moved = s.pipe.taken
  sending : ∀ turn, s.writes.present = some turn → turn.part <+: turn.call.data
  reading : ∀ turn, s.reads.present = some turn → turn.part = []
  wrote : ∀ done ∈ s.writes.past, Wrote done
  got : ∀ done ∈ s.reads.past, Got done
  closed : s.pipe.closed = true → s.Closing
  ended : ∀ done ∈ s.reads.past, done.1.call ≠ 0 → done.2 = .ok [] →
    s.lost = true ∨ s.pipe.closed = true ∧ s.before_end <+: s.pipe.taken

theorem before_end_of_append {before : List UInt8} (h : s.writes.moved = before ++ s.late) :
    s.before_end = before := by
  rw [before_end, h, List.length_append, Nat.add_sub_cancel]
  exact List.take_left

theorem before_end_of_late_nil (h : s.late = []) : s.before_end = s.writes.moved :=
  before_end_of_append (by rw [h, List.append_nil])

theorem Kept.before_end_append (h : Kept s) : s.before_end ++ s.late = s.writes.moved :=
  List.suffix_iff_eq_append.mp h.late

theorem Kept.moved_eq (h : Kept s) (hlost : s.lost = false) (hopen : s.pipe.closed = false)
    (hnil : s.pipe.waiting = []) : s.reads.moved = s.writes.moved := by
  obtain ⟨came, hcame, -, hput⟩ := h.arrives
  have hlate := h.in_time hopen
  rw [hlate] at hcame
  have hall := hput hlost
  rw [List.sublist_nil.mp hcame, List.append_nil, before_end_of_late_nil hlate,
    Pipe.put_of_waiting_nil hnil] at hall
  rw [h.received, hall]

theorem kept_new : Kept new where
  writes := Turns.counted_new
  reads := Turns.counted_new
  late := List.suffix_rfl
  in_time := fun _ => rfl
  arrives := ⟨[], .slnil, List.prefix_rfl, fun _ => rfl⟩
  received := rfl
  sending := nofun
  reading := nofun
  wrote := nofun
  got := nofun
  closed := nofun
  ended := nofun

/-! ## The writing half -/

section

variable {turn : Turn WriteCall UInt8}

theorem before_end_congr (hmoved : s'.writes.moved = s.writes.moved) (hlate : s'.late = s.late) :
    s'.before_end = s.before_end := by
  rw [before_end, before_end, hmoved, hlate]

theorem Closing.mono (h : s.Closing) {calls : List WriteCall}
    (hcalls : s'.writes.calls = s.writes.calls ++ calls) : s'.Closing := by
  unfold Closing
  rw [hcalls]
  exact List.mem_append_left _ h

theorem write_step_cases {i : WriteStep} (hstep : s.write_step window turn i = some s') :
    (∃ n pipe, s' = { s.sent turn ((turn.call.data.drop turn.part.length).take n) with pipe } ∧
      (pipe = s.pipe ∧ (s.lost = true ∨ s.pipe.closed = true) ∨
        pipe = s.pipe.push ((turn.call.data.drop turn.part.length).take n) ∧ s.lost = false)) ∨
    (∃ result, s' = { s with writes := s.writes.finish turn result } ∧
      (result = .ok () → turn.call.data.length ≤ turn.part.length)) ∨
    turn.call = .close ∧ s' = { s with pipe := s.pipe.close } := by
  unfold write_step at hstep
  cases i with
  | send n =>
    obtain ⟨-, hsend⟩ := Option.ite_none_right_eq_some.mp hstep
    unfold AlknetStream.send at hsend
    by_cases hlost : s.lost = true
    · rw [if_pos hlost] at hsend
      cases hsend
      exact .inl ⟨n, s.pipe, rfl, .inl ⟨rfl, .inl hlost⟩⟩
    · rw [if_neg hlost] at hsend
      obtain ⟨-, hsend⟩ := Option.ite_none_right_eq_some.mp hsend
      cases hsend
      exact .inl ⟨n, _, rfl, .inr ⟨rfl, Bool.of_not_eq_true hlost⟩⟩
  | discard n =>
    obtain ⟨⟨hclosed, -⟩, hstep⟩ := Option.ite_none_right_eq_some.mp hstep
    cases hstep
    exact .inl ⟨n, s.pipe, rfl, .inl ⟨rfl, .inr hclosed⟩⟩
  | written =>
    cases hcall : turn.call with
    | close => simp only [hcall, reduceCtorEq] at hstep
    | write data =>
      simp only [hcall] at hstep
      obtain ⟨hlength, hstep⟩ := Option.ite_none_right_eq_some.mp hstep
      cases hstep
      exact .inr (.inl ⟨.ok (), rfl, fun _ => hlength⟩)
  | shutdown =>
    cases hcall : turn.call with
    | write data => simp only [hcall, reduceCtorEq] at hstep
    | close =>
      simp only [hcall] at hstep
      obtain ⟨-, hstep⟩ := Option.ite_none_left_eq_some.mp hstep
      cases hstep
      exact .inr (.inr ⟨rfl, rfl⟩)
  | shut =>
    cases hcall : turn.call with
    | write data => simp only [hcall, reduceCtorEq] at hstep
    | close =>
      simp only [hcall] at hstep
      obtain ⟨-, hstep⟩ := Option.ite_none_right_eq_some.mp hstep
      cases hstep
      exact .inr (.inl ⟨.ok (), rfl, fun _ => Nat.zero_le _⟩)
  | failed e =>
    cases hstep
    exact .inr (.inl ⟨_, rfl, nofun⟩)

theorem Kept.sent_cases (h : Kept s) (hturn : s.writes.present = some turn) (bytes : List UInt8) :
    s.pipe.closed = false ∧ s.late = [] ∧ (s.sent turn bytes).late = [] ∧
        (s.sent turn bytes).before_end = s.before_end ++ bytes ∨
      s.pipe.closed = true ∧ (s.sent turn bytes).late = s.late ++ bytes ∧
        (s.sent turn bytes).before_end = s.before_end := by
  have hmoved : (s.sent turn bytes).writes.moved = s.writes.moved ++ bytes :=
    Turns.moved_move hturn bytes
  cases hclosed : s.pipe.closed with
  | false =>
    have hlate := h.in_time hclosed
    have hnone : (s.sent turn bytes).late = [] := by
      simp only [sent, hclosed, hlate, Bool.false_eq_true, if_false]
    refine .inl ⟨rfl, hlate, hnone, ?_⟩
    rw [before_end_of_late_nil hnone, hmoved, before_end_of_late_nil hlate]
  | true =>
    have hlate : (s.sent turn bytes).late = s.late ++ bytes := by
      simp only [sent, hclosed, if_true]
    refine .inr ⟨rfl, hlate, before_end_of_append ?_⟩
    rw [hmoved, hlate, ← List.append_assoc, h.before_end_append]

section

variable {bytes : List UInt8} {pipe : Pipe UInt8}

theorem Kept.sent_arrives (h : Kept s) (hturn : s.writes.present = some turn)
    (hpipe : pipe = s.pipe ∧ (s.lost = true ∨ s.pipe.closed = true) ∨
      pipe = s.pipe.push bytes ∧ s.lost = false) :
    ∃ came, came.Sublist (s.sent turn bytes).late ∧
      pipe.put <+: (s.sent turn bytes).before_end ++ came ∧
      (s.lost = false → pipe.put = (s.sent turn bytes).before_end ++ came) := by
  obtain ⟨came, hcame, hfirst, hall⟩ := h.arrives
  obtain ⟨hopen, hnone, -, hbefore⟩ | ⟨-, hlate, hbefore⟩ := h.sent_cases hturn bytes
  · rw [hnone] at hcame
    rw [List.sublist_nil.mp hcame, List.append_nil] at hfirst hall
    refine ⟨[], List.nil_sublist _, ?_⟩
    rw [hbefore, List.append_nil]
    rcases hpipe with ⟨rfl, hgone⟩ | ⟨rfl, hlost⟩
    · have hlost : s.lost = true := hgone.resolve_right (by rw [hopen]; exact Bool.false_ne_true)
      refine ⟨hfirst.trans (List.prefix_append ..), fun hkept => ?_⟩
      exact absurd (hkept.symm.trans hlost) Bool.false_ne_true
    · have hput : (s.pipe.push bytes).put = s.before_end ++ bytes := by
        rw [Pipe.put_push, hall hlost]
      exact ⟨hput ▸ List.prefix_rfl, fun _ => hput⟩
  · rw [hlate, hbefore]
    rcases hpipe with ⟨rfl, -⟩ | ⟨rfl, hlost⟩
    · exact ⟨came, hcame.trans (List.sublist_append_left ..), hfirst, hall⟩
    · have hput : (s.pipe.push bytes).put = s.before_end ++ (came ++ bytes) := by
        rw [Pipe.put_push, hall hlost, List.append_assoc]
      exact ⟨came ++ bytes, hcame.append (.refl bytes), hput ▸ List.prefix_rfl, fun _ => hput⟩

theorem Kept.send (h : Kept s) (hturn : s.writes.present = some turn)
    (hwithin : turn.part ++ bytes <+: turn.call.data)
    (hpipe : pipe = s.pipe ∧ (s.lost = true ∨ s.pipe.closed = true) ∨
      pipe = s.pipe.push bytes ∧ s.lost = false) :
    Kept { s.sent turn bytes with pipe } := by
  have hsame : pipe.closed = s.pipe.closed ∧ pipe.taken = s.pipe.taken := by
    rcases hpipe with ⟨rfl, -⟩ | ⟨rfl, -⟩ <;> exact ⟨rfl, rfl⟩
  refine { h with
    writes := h.writes.move hturn bytes
    late := ?_
    in_time := fun hopen => ?_
    arrives := h.sent_arrives hturn hpipe
    received := h.received.trans hsame.2.symm
    sending := ?_
    closed := fun hclosed => ?_
    ended := fun done hmem hsize hempty => ?_ }
  · change (s.sent turn bytes).late <:+ (s.writes.move turn bytes).moved
    rw [Turns.moved_move hturn]
    obtain ⟨-, -, hlate, -⟩ | ⟨-, hlate, -⟩ := h.sent_cases hturn bytes
    · rw [hlate]
      exact List.nil_suffix
    · refine ⟨s.before_end, ?_⟩
      rw [hlate, ← List.append_assoc, h.before_end_append]
  · obtain ⟨-, -, hlate, -⟩ | ⟨hclosed, -, -⟩ := h.sent_cases hturn bytes
    · exact hlate
    · exact absurd (hopen.symm.trans (hsame.1.trans hclosed)) Bool.false_ne_true
  · rintro next ⟨⟩
    exact hwithin
  · exact (h.closed (hsame.1.symm.trans hclosed)).mono
      ((Turns.calls_move hturn bytes).trans (List.append_nil _).symm)
  · refine (h.ended done hmem hsize hempty).imp_right fun ⟨hclosed, hread⟩ => ?_
    obtain ⟨hopen, -⟩ | ⟨-, -, hbefore⟩ := h.sent_cases hturn bytes
    · exact absurd (hopen.symm.trans hclosed) Bool.false_ne_true
    · refine ⟨hsame.1.trans hclosed, ?_⟩
      change (s.sent turn bytes).before_end <+: pipe.taken
      rwa [hbefore, hsame.2]

end

theorem Kept.finish_write (h : Kept s) (hturn : s.writes.present = some turn)
    {result : Except String Unit} (hall : result = .ok () → turn.part = turn.call.data) :
    Kept { s with writes := s.writes.finish turn result } := by
  have hmoved := Turns.moved_finish hturn result
  have hbefore : before_end { s with writes := s.writes.finish turn result } = s.before_end :=
    before_end_congr hmoved rfl
  exact {
    writes := h.writes.finish hturn result
    reads := h.reads
    late := hmoved.symm ▸ h.late
    in_time := h.in_time
    arrives := hbefore.symm ▸ h.arrives
    received := h.received
    sending := nofun
    reading := h.reading
    wrote := List.forall_mem_append.mpr
      ⟨h.wrote, List.forall_mem_singleton.mpr ⟨h.sending turn hturn, hall⟩⟩
    got := h.got
    closed := fun hclosed => (h.closed hclosed).mono
      ((Turns.calls_finish hturn result).trans (List.append_nil _).symm)
    ended := hbefore.symm ▸ h.ended }

theorem Kept.shutdown (h : Kept s) (hturn : s.writes.present = some turn)
    (hcall : turn.call = .close) : Kept { s with pipe := s.pipe.close } where
  __ := h
  in_time := nofun
  arrives := h.arrives
  received := h.received
  closed := fun _ => by
    have hmem := Turns.mem_calls hturn
    rwa [hcall] at hmem
  ended := fun done hmem hsize hnone =>
    (h.ended done hmem hsize hnone).imp_right fun hended => ⟨rfl, hended.2⟩

theorem Kept.write_step (h : Kept s) (hturn : s.writes.present = some turn) {i : WriteStep}
    (hstep : s.write_step window turn i = some s') : Kept s' := by
  have hsent := h.sending turn hturn
  obtain ⟨n, pipe, rfl, hpipe⟩ | ⟨result, rfl, hresult⟩ | ⟨hcall, rfl⟩ := write_step_cases hstep
  · refine h.send hturn ?_ hpipe
    -- the rest of the data follows what was sent
    have hdata : turn.part ++ turn.call.data.drop turn.part.length = turn.call.data :=
      List.prefix_iff_eq_append.mp hsent
    have hnext : turn.part ++ (turn.call.data.drop turn.part.length).take n <+:
        turn.part ++ turn.call.data.drop turn.part.length :=
      (List.prefix_append_right_inj turn.part).mpr (List.take_prefix n _)
    rwa [hdata] at hnext
  · exact h.finish_write hturn fun hok => hsent.eq_of_length_le (hresult hok)
  · exact h.shutdown hturn hcall

end

/-! ## The reading half -/

section

variable {turn : Turn UInt32 UInt8}

theorem Kept.seen_end (h : Kept s) (hnil : s.pipe.waiting = []) (hclosed : s.pipe.closed = true) :
    s.lost = true ∨ s.pipe.closed = true ∧ s.before_end <+: s.pipe.taken := by
  by_cases hlost : s.lost = true
  · exact .inl hlost
  · obtain ⟨came, -, -, hput⟩ := h.arrives
    refine .inr ⟨hclosed, came, ?_⟩
    rw [← hput (Bool.of_not_eq_true hlost), Pipe.put_of_waiting_nil hnil]

theorem Kept.finish_read (h : Kept s) (hturn : s.reads.present = some turn)
    {result : Except String (List UInt8)} (hgot : Got (turn, result))
    (hended : result = .ok [] →
      s.lost = true ∨ s.pipe.closed = true ∧ s.before_end <+: s.pipe.taken) :
    Kept { s with reads := s.reads.finish turn result } where
  __ := h
  reads := h.reads.finish hturn result
  received := (Turns.moved_finish hturn result).trans h.received
  reading := nofun
  got := List.forall_mem_append.mpr ⟨h.got, List.forall_mem_singleton.mpr hgot⟩
  closed := h.closed
  ended := List.forall_mem_append.mpr ⟨h.ended, List.forall_mem_singleton.mpr fun _ => hended⟩

theorem Kept.receive (h : Kept s) (hturn : s.reads.present = some turn) {n : Nat}
    (hsome : s.pipe.waiting ≠ []) (hsize : n ≤ turn.call.toNat) (hzero : n = 0 → turn.call = 0) :
    Kept { s with
      reads := s.reads.serve turn (s.pipe.waiting.take n)
        (.ok (read_result turn.call (s.pipe.waiting.take n)))
      pipe := s.pipe.take n } := by
  have hdrains := Pipe.drains_take s.pipe n
  have hpart := h.reading turn hturn
  refine { h with
    reads := h.reads.serve hturn _ _
    arrives := hdrains.put.symm ▸ h.arrives
    received := ?_
    reading := nofun
    got := List.forall_mem_append.mpr ⟨h.got, List.forall_mem_singleton.mpr ⟨?_, nofun⟩⟩
    closed := h.closed
    ended := List.forall_mem_append.mpr ⟨fun done hmem hask hnone => ?_,
      List.forall_mem_singleton.mpr fun hask hnone => ?_⟩ }
  · rw [Turns.moved_serve hturn, h.received]
    rfl
  · rintro bytes ⟨⟩
    rw [read_result_eq, hpart]
    exact ⟨rfl, (List.length_take_le ..).trans hsize⟩
  · exact (h.ended done hmem hask hnone).imp_right fun hended =>
      ⟨hended.1, hended.2.trans hdrains.taken⟩
  · have hbytes : s.pipe.waiting.take n = [] := by
      rw [← read_result_eq turn.call (s.pipe.waiting.take n)]
      exact Except.ok.inj hnone
    rcases List.take_eq_nil_iff.mp hbytes with rfl | hnil
    · exact absurd (hzero rfl) hask
    · exact absurd hnil hsome

theorem Kept.read_step (h : Kept s) (hturn : s.reads.present = some turn) {i : ReadStep}
    (hstep : s.read_step turn i = some s') : Kept s' := by
  unfold AlknetStream.read_step at hstep
  cases i with
  | receive n =>
    obtain ⟨⟨hsome, -, hsize, hzero⟩, hstep⟩ := Option.ite_none_right_eq_some.mp hstep
    cases hstep
    exact h.receive hturn hsome hsize hzero
  | end_of_stream =>
    obtain ⟨⟨hnil, hend⟩, hstep⟩ := Option.ite_none_right_eq_some.mp hstep
    cases hstep
    refine h.finish_read hturn ⟨?_, nofun⟩ fun _ => ?_
    · rintro bytes ⟨⟩
      rw [read_result_eq]
      exact ⟨h.reading turn hturn, Nat.zero_le _⟩
    · rcases (Bool.or_eq_true ..).mp hend with hclosed | hlost
      · exact h.seen_end hnil hclosed
      · exact .inl hlost
  | failed e =>
    cases hstep
    exact h.finish_read hturn ⟨nofun, fun _ _ => h.reading turn hturn⟩ nofun

end

/-! ## Every run -/

theorem Kept.step {i : StreamStep} (h : Kept s) (hstep : s.step window i = some s') : Kept s' := by
  cases i with
  | write data =>
    cases hstep
    exact { h with writes := h.writes.add _ }
  | close =>
    cases hstep
    exact { h with writes := h.writes.add _ }
  | read size =>
    cases hstep
    exact { h with reads := h.reads.add _ }
  | lock_write i =>
    obtain ⟨writes, hstart, rfl⟩ := Option.map_eq_some_iff.mp hstep
    have hmoved := Turns.moved_start hstart
    have hbefore : before_end { s with writes } = s.before_end := before_end_congr hmoved rfl
    obtain ⟨call, hcalls⟩ := Turns.calls_start hstart
    refine { h with
      writes := h.writes.start hstart
      late := hmoved.symm ▸ h.late
      arrives := hbefore.symm ▸ h.arrives
      sending := ?_
      wrote := ?_
      closed := fun hclosed => (h.closed hclosed).mono hcalls
      ended := hbefore.symm ▸ h.ended }
    · obtain ⟨hi, -, rfl⟩ := Turns.start_cases hstart
      rintro turn ⟨⟩
      exact List.nil_prefix
    · obtain ⟨hi, -, rfl⟩ := Turns.start_cases hstart
      exact h.wrote
  | lock_read i =>
    obtain ⟨reads, hstart, rfl⟩ := Option.map_eq_some_iff.mp hstep
    have hmoved := Turns.moved_start hstart
    obtain ⟨hi, -, rfl⟩ := Turns.start_cases hstart
    refine { h with
      reads := h.reads.start hstart
      received := hmoved.trans h.received
      reading := ?_ }
    rintro turn ⟨⟩
    rfl
  | writing i =>
    obtain ⟨turn, hturn, hstep⟩ := Option.bind_eq_some_iff.mp hstep
    exact h.write_step hturn hstep
  | reading i =>
    obtain ⟨turn, hturn, hstep⟩ := Option.bind_eq_some_iff.mp hstep
    exact h.read_step hturn hstep
  | lose n =>
    obtain ⟨-, hstep⟩ := Option.ite_none_left_eq_some.mp hstep
    cases hstep
    obtain ⟨came, hcame, hfirst, -⟩ := h.arrives
    refine { h with arrives := ⟨came, hcame, ?_, nofun⟩, ended := fun _ _ _ _ => .inl rfl }
    exact ((List.prefix_append_right_inj _).mpr (List.take_prefix n _)).trans hfirst

theorem kept_run {steps : List StreamStep} (hrun : run (step window) new steps = some s) : Kept s :=
  run_keeps (fun _ _ _ => Kept.step) kept_new hrun

/-! ## Later calls -/

/-- What is over at either end is over. -/
def Continues (s s' : AlknetStream) : Prop :=
  s.writes.Continues s'.writes ∧ s.reads.Continues s'.reads

theorem continues_write_step {turn : Turn WriteCall UInt8} {i : WriteStep}
    (hstep : s.write_step window turn i = some s') : s.Continues s' := by
  obtain ⟨n, pipe, rfl, -⟩ | ⟨result, rfl, -⟩ | ⟨-, rfl⟩ := write_step_cases hstep
  · exact ⟨Turns.continues_move _, .refl _⟩
  · exact ⟨Turns.continues_finish _, .refl _⟩
  · exact ⟨.refl _, .refl _⟩

theorem continues_read_step {turn : Turn UInt32 UInt8} {i : ReadStep}
    (hstep : s.read_step turn i = some s') : s.Continues s' := by
  unfold read_step at hstep
  cases i with
  | receive n =>
    obtain ⟨-, hstep⟩ := Option.ite_none_right_eq_some.mp hstep
    cases hstep
    exact ⟨.refl _, (Turns.continues_move _).trans (Turns.continues_finish _)⟩
  | end_of_stream =>
    obtain ⟨-, hstep⟩ := Option.ite_none_right_eq_some.mp hstep
    cases hstep
    exact ⟨.refl _, Turns.continues_finish _⟩
  | failed e =>
    cases hstep
    exact ⟨.refl _, Turns.continues_finish _⟩

theorem continues_step {i : StreamStep} (hstep : s.step window i = some s') : s.Continues s' := by
  cases i with
  | write data | close =>
    cases hstep
    exact ⟨Turns.continues_add _, .refl _⟩
  | read size =>
    cases hstep
    exact ⟨.refl _, Turns.continues_add _⟩
  | lock_write i =>
    obtain ⟨writes, hstart, rfl⟩ := Option.map_eq_some_iff.mp hstep
    exact ⟨Turns.continues_start hstart, .refl _⟩
  | lock_read i =>
    obtain ⟨reads, hstart, rfl⟩ := Option.map_eq_some_iff.mp hstep
    exact ⟨.refl _, Turns.continues_start hstart⟩
  | writing i =>
    obtain ⟨turn, -, hstep⟩ := Option.bind_eq_some_iff.mp hstep
    exact continues_write_step hstep
  | reading i =>
    obtain ⟨turn, -, hstep⟩ := Option.bind_eq_some_iff.mp hstep
    exact continues_read_step hstep
  | lose n =>
    obtain ⟨-, hstep⟩ := Option.ite_none_left_eq_some.mp hstep
    cases hstep
    exact ⟨.refl _, .refl _⟩

theorem continues_run {later : List StreamStep} (hrun : run (step window) s later = some s') :
    s.Continues s' := by
  have hstep : ∀ t i t', s.Continues t → step window t i = some t' → s.Continues t' :=
    fun t i t' h hstep => ⟨h.1.trans (continues_step hstep).1, h.2.trans (continues_step hstep).2⟩
  exact run_keeps hstep ⟨.refl _, .refl _⟩ hrun

/-- **A stream of the Node.js package.** What was read is the beginning of what was written before
the end. -/
theorem napi_stream_in_order (window : Nat) {steps : List StreamStep}
    (hrun : run (step window) new steps = some s) :
    s.before_end ++ s.late = s.writes.moved ∧ (s.late ≠ [] → s.Closing) ∧
    (∃ came, came.Sublist s.late ∧ s.reads.moved <+: s.before_end ++ came) ∧
    s.writes.Counted ∧ s.reads.Counted ∧
    (∀ done ∈ s.writes.past, done.1.part <+: done.1.call.data ∧
      (done.2 = .ok () → done.1.part = done.1.call.data)) ∧
    (∀ done ∈ s.reads.past,
      (∀ e, done.2 = .error e → done.1.part = []) ∧
      ∀ bytes, done.2 = .ok bytes → done.1.part = bytes ∧ bytes.length ≤ done.1.call.toNat ∧
        (bytes = [] → done.1.call ≠ 0 →
          s.lost = true ∨ s.Closing ∧ s.before_end <+: s.reads.moved)) ∧
    ∀ later t, run (step window) s later = some t →
      (∀ done ∈ s.writes.past, ∀ turn ∈ t.writes.order, s.writes.count ≤ turn.number →
        [done.1, turn].Sublist t.writes.order) ∧
      ∀ done ∈ s.reads.past, ∀ turn ∈ t.reads.order, s.reads.count ≤ turn.number →
        [done.1, turn].Sublist t.reads.order := by
  have h := kept_run hrun
  refine ⟨h.before_end_append, fun hlate => ?_, ?_, h.writes, h.reads,
    fun done hmem => ⟨(h.wrote done hmem).isPrefix, (h.wrote done hmem).all⟩,
    fun done hmem => ⟨(h.got done hmem).error, fun bytes hbytes => ?_⟩, fun later t hlater => ?_⟩
  · by_contra hnone
    exact hlate (h.in_time (Bool.of_not_eq_true fun hclosed => hnone (h.closed hclosed)))
  · obtain ⟨came, hcame, hfirst, -⟩ := h.arrives
    refine ⟨came, hcame, ?_⟩
    rw [h.received]
    exact (List.prefix_append ..).trans hfirst
  · obtain ⟨hpart, hlength⟩ := (h.got done hmem).bytes bytes hbytes
    refine ⟨hpart, hlength, ?_⟩
    rintro rfl hask
    rw [h.received]
    exact (h.ended done hmem hask hbytes).imp_right fun hended => ⟨h.closed hended.1, hended.2⟩
  · obtain ⟨hwrites, hreads⟩ := continues_run hlater
    exact ⟨fun done hmem turn hturn => hwrites.in_order h.writes hmem hturn,
      fun done hmem turn hturn => hreads.in_order h.reads hmem hturn⟩

/-- Two writes that do not wait for each other, of which the second has its turn first. The last
`read` sees the end before `close` returns. Of a `write` after that nothing comes through. -/
def sampleStream : List StreamStep :=
  [.write [1, 2, 3], .write [4], .lock_write 1, .writing (.send 1), .writing .written,
    .lock_write 0, .writing (.send 2), .read 2, .lock_read 0, .reading (.receive 2),
    .writing (.send 1), .writing .written, .close, .write [5], .lock_write 0, .writing .shutdown,
    .read 8, .read 8, .lock_read 0, .reading (.receive 2), .lock_read 0, .reading .end_of_stream,
    .writing .shut, .lock_write 0, .writing (.discard 1), .writing .written]

theorem napi_stream_in_order_overtaken :
    ∃ s, run (step 3) new sampleStream = some s ∧
      s.reads.past.map Prod.snd = [.ok [4, 1], .ok [2, 3], .ok []] ∧
      s.writes.moved = [4, 1, 2, 3, 5] ∧ s.late = [5] ∧
      s.Closing ∧ s.before_end <+: s.reads.moved := by
  obtain ⟨s, hrun, hshows⟩ := Option.map_eq_some_iff.mp (show
    (run (step 3) new sampleStream).map
        (fun s => (s.lost, s.writes.moved, s.late,
          s.reads.past.map fun done => (done.1.call, done.2))) =
      some (false, [4, 1, 2, 3, 5], [5], [(2, .ok [4, 1]), (8, .ok [2, 3]), (8, .ok [])]) by rfl)
  simp only [Prod.mk.injEq] at hshows
  obtain ⟨hlost, hmoved, hlate, hreads⟩ := hshows
  obtain ⟨-, -, -, -, -, -, hgot, -⟩ := napi_stream_in_order 3 hrun
  have hlast : ((8, .ok []) : UInt32 × Except String (List UInt8)) ∈
      s.reads.past.map fun done => (done.1.call, done.2) := by
    rw [hreads]
    exact List.mem_cons_of_mem _ (List.mem_cons_of_mem _ List.mem_cons_self)
  obtain ⟨done, hmem, hdone⟩ := List.mem_map.mp hlast
  simp only [Prod.mk.injEq] at hdone
  obtain ⟨-, -, hend⟩ := (hgot done hmem).2 [] hdone.2
  have hask : done.1.call ≠ 0 := by
    rw [hdone.1]
    decide
  obtain hgone | hclosing := hend rfl hask
  · rw [hlost] at hgone
    cases hgone
  · refine ⟨s, hrun, ?_, hmoved, hlate, hclosing⟩
    have hresults := congrArg (List.map Prod.snd) hreads
    rwa [List.map_map] at hresults

/-! ## Nothing to do -/

/-- No call can go on by itself. -/
def AtRest (window : Nat) (s : AlknetStream) : Prop := ∀ i, i.is_own = true → s.step window i = none

theorem AtRest.nothing_to_read (h : s.AtRest window) {turn : Turn UInt32 UInt8}
    (hturn : s.reads.present = some turn) : s.pipe.waiting = [] := by
  by_contra hsome
  have hreceive := h (.reading (.receive (min 1 turn.call.toNat))) rfl
  unfold step at hreceive
  rw [hturn] at hreceive
  refine absurd hreceive ?_
  have hlength : 0 < s.pipe.waiting.length := List.length_pos_iff.mpr hsome
  have hmin : min 1 turn.call.toNat ≤ s.pipe.waiting.length ∧
      min 1 turn.call.toNat ≤ turn.call.toNat ∧ (min 1 turn.call.toNat = 0 → turn.call = 0) := by
    refine ⟨by omega, by omega, fun hzero => ?_⟩
    exact UInt32.toNat_inj.mp (by rw [UInt32.toNat_zero]; omega)
  exact (if_pos ⟨hsome, hmin⟩).trans_ne (Option.some_ne_none _)

theorem AtRest.open (h : s.AtRest window) {turn : Turn UInt32 UInt8}
    (hturn : s.reads.present = some turn) : s.pipe.closed = false := by
  by_contra hclosed
  have hend := h (.reading .end_of_stream) rfl
  unfold step at hend
  rw [hturn] at hend
  have hguard : s.pipe.waiting = [] ∧ (s.pipe.closed || s.lost) = true := by
    refine ⟨h.nothing_to_read hturn, ?_⟩
    rw [Bool.of_not_eq_false hclosed, Bool.true_or]
  exact absurd hend ((if_pos hguard).trans_ne (Option.some_ne_none _))

theorem AtRest.no_write_turn (h : s.AtRest window) (hwindow : 0 < window) (hlost : s.lost = false)
    (hnil : s.pipe.waiting = []) (hopen : s.pipe.closed = false) : s.writes.present = none := by
  cases hturn : s.writes.present with
  | none => rfl
  | some turn =>
    have hsend := h (.writing (.send 1)) rfl
    have hwritten := h (.writing .written) rfl
    have hshutdown := h (.writing .shutdown) rfl
    simp only [step, hturn, Option.bind_some, write_step] at hsend hwritten hshutdown
    cases hcall : turn.call with
    | close => simp only [hcall, hopen, Bool.false_eq_true, if_false, reduceCtorEq] at hshutdown
    | write data =>
      simp only [hcall, WriteCall.data] at hsend hwritten
      by_cases hlength : data.length ≤ turn.part.length
      · rw [if_pos hlength] at hwritten
        cases hwritten
      · have hleft : 1 ≤ (data.drop turn.part.length).length := by
          rw [List.length_drop]
          omega
        have hroom : s.pipe.waiting.length + ((data.drop turn.part.length).take 1).length ≤
            window := by
          rw [hnil, List.length_take, List.length_nil]
          omega
        rw [if_pos ⟨Nat.one_pos, hleft⟩, AlknetStream.send, if_neg (by rw [hlost]; exact nofun),
          if_pos hroom] at hsend
        cases hsend

/-- **Nothing is held back.** When no call can go on and a `read` waits, all that was written was
read. -/
theorem napi_stream_at_rest {window : Nat} (hwindow : 0 < window) {steps : List StreamStep}
    (hrun : run (step window) new steps = some s) (hrest : s.AtRest window) (hlost : s.lost = false)
    (hread : s.reads.Pending) :
    ¬ s.writes.Pending ∧ s.reads.moved = s.writes.moved := by
  have hpresent : s.reads.present ≠ none := by
    intro hnone
    have hlock := Option.map_eq_none_iff.mp (hrest (.lock_read 0) rfl)
    have hwaiting := Turns.waiting_eq_nil hlock hnone
    exact hread.elim (· hnone) (· hwaiting)
  obtain ⟨turn, hturn⟩ := Option.ne_none_iff_exists'.mp hpresent
  have hnil := hrest.nothing_to_read hturn
  have hopen := hrest.open hturn
  have hnone := hrest.no_write_turn hwindow hlost hnil hopen
  have hlock := Option.map_eq_none_iff.mp (hrest (.lock_write 0) rfl)
  have hwaiting := Turns.waiting_eq_nil hlock hnone
  exact ⟨fun hpending => hpending.elim (· hnone) (· hwaiting),
    (kept_run hrun).moved_eq hlost hopen hnil⟩

/-- A `read` waits for more than was written. -/
def sampleRest : List StreamStep :=
  [.write [1, 2], .read 8, .lock_write 0, .writing (.send 2), .writing .written, .lock_read 0,
    .reading (.receive 2), .read 8, .lock_read 0]

theorem napi_stream_at_rest_waiting :
    ∃ s, run (step 3) new sampleRest = some s ∧ s.AtRest 3 ∧ s.reads.Pending ∧
      s.reads.moved = s.writes.moved := by
  obtain ⟨s, hrun, hshows⟩ := Option.map_eq_some_iff.mp (show
    (run (step 3) new sampleRest).map
        (fun s => s.writes.present.isNone && s.writes.waiting.isEmpty && s.reads.present.isSome &&
          s.reads.waiting.isEmpty && s.pipe.waiting.isEmpty && !s.pipe.closed && !s.lost) =
      some true by decide +kernel)
  simp only [Bool.and_eq_true, Bool.not_eq_true', List.isEmpty_iff, Option.isNone_iff_eq_none]
    at hshows
  obtain ⟨⟨⟨⟨⟨⟨hnone, hwrites⟩, hpresent⟩, hreads⟩, hnil⟩, hopen⟩, hlost⟩ := hshows
  obtain ⟨turn, hturn⟩ := Option.isSome_iff_exists.mp hpresent
  have hrest : s.AtRest 3 := by
    intro i howns
    cases i with
    | write data | close | read size | lose n => cases howns
    | lock_write i => simp [step, Turns.start, hwrites]
    | lock_read i => simp [step, Turns.start, hreads]
    | writing i => simp [step, hnone]
    | reading i =>
      cases i with
      | failed e => cases howns
      | receive n => simp [step, hturn, read_step, hnil]
      | end_of_stream => simp [step, hturn, read_step, hopen, hlost]
  have hpending : s.reads.Pending := .inl (by rw [hturn]; exact Option.some_ne_none turn)
  exact ⟨s, hrun, hrest, hpending,
    (napi_stream_at_rest (by decide) hrun hrest hlost hpending).2⟩

end AlknetStream

end Alknet
