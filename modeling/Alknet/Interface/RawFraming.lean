import Alknet.Call.Framing

/-!
# Authentication of a raw framing session

The first frame's token decides about the session. Until it resolves nothing is delivered, after
it resolved every event carries its identity, and after it failed the session is dead.
-/

open Alknet.Lib.Chunked Alknet.Rust

namespace Alknet

/-! ## Runs -/

def SessionReply.delivered : SessionReply → Option InterfaceEvent
  | .event e => e
  | _ => none

def delivered (replies : List SessionReply) : List InterfaceEvent :=
  replies.filterMap SessionReply.delivered

theorem RawFramingSession.run_append (json : Json) (before after : List SessionCall)
    (session : RawFramingSession) :
    session.run json (before ++ after) =
      ((session.run json before).1 ++ ((session.run json before).2.run json after).1,
        ((session.run json before).2.run json after).2) := by
  induction before generalizing session with
  | nil => rfl
  | cons call before ih => simp only [List.cons_append, RawFramingSession.run, ih]

theorem run_snoc (json : Json) (before : List SessionCall) (call : SessionCall)
    (session : RawFramingSession) :
    session.run json (before ++ [call]) =
      ((session.run json before).1 ++ [((session.run json before).2.call json call).1],
        ((session.run json before).2.call json call).2) := by
  rw [RawFramingSession.run_append]
  rfl

theorem delivered_snoc (replies : List SessionReply) (reply : SessionReply) :
    delivered (replies ++ [reply]) = delivered replies ++ reply.delivered.toList := by
  rw [delivered, List.filterMap_append]
  cases h : reply.delivered <;> simp [delivered, h]

/-! ## One read -/

theorem raw_error_stays {json : Json} {buf rest : List UInt8} {e : String}
    (h : RawFramingSession.next_frame json buf = some (.error e, rest)) : rest = buf := by
  rw [raw_next_frame] at h
  obtain ⟨⟨body, tail⟩, -, he⟩ := Option.map_eq_some_iff.mp h
  simp only at he
  cases hjson : json.from_slice body with
  | ok envelope => simp [hjson] at he
  | error e' =>
    simp only [hjson, Prod.mk.injEq] at he
    exact he.2.symm

theorem raw_read_spec (json : Json) (budget : Nat) (reader : Reader UInt8 IoError) :
    match (RawFramingSession.read_frame json budget reader).1 with
    | some (.ok envelope) => RawFramingSession.next_frame json reader.pending =
        some (.ok envelope, (RawFramingSession.read_frame json budget reader).2.pending)
    | _ => (RawFramingSession.read_frame json budget reader).2.pending = reader.pending := by
  have hread := read_spec (raw_stable json) budget reader
  rw [raw_call, Reader.call]
  cases hgot : (reader.read (RawFramingSession.next_frame json) budget).1 with
  | item r =>
    rw [hgot] at hread
    cases r with
    | ok envelope => exact hread
    | error e => exact raw_error_stays hread
  | ended =>
    rw [hgot] at hread
    exact hread.2.1
  | fault e =>
    rw [hgot] at hread
    exact hread
  | dropped =>
    rw [hgot] at hread
    exact hread

theorem raw_ok_items {json : Json} {envelopes : List EventEnvelope}
    {bytes rest residue : List UInt8} {bodies : List (List UInt8)}
    (hf : Framed bytes bodies residue)
    (h : Items (RawFramingSession.next_frame json) (envelopes.map .ok) bytes rest) :
    envelopes.map .ok <+: bodies.map json.from_slice := by
  induction envelopes generalizing bytes bodies with
  | nil => exact List.nil_prefix
  | cons envelope envelopes ih =>
    obtain ⟨mid, hmid, hitems⟩ := h
    rw [raw_next_frame] at hmid
    cases bodies with
    | nil =>
      obtain ⟨rfl, hnone⟩ := framed_nil_iff.mp hf
      simp [hnone] at hmid
    | cons body bodies =>
      obtain ⟨tail, hsplit, hf'⟩ := framed_cons hf
      simp only [hsplit, Option.map_some, Option.some.injEq] at hmid
      cases hjson : json.from_slice body with
      | error e => simp [hjson] at hmid
      | ok envelope' =>
        simp only [hjson, Prod.mk.injEq, Except.ok.injEq] at hmid
        obtain ⟨rfl, rfl⟩ := hmid
        rw [List.map_cons, List.map_cons, hjson]
        exact (List.prefix_cons_inj _).mpr (ih hf' hitems)

/-! ## One call -/

variable (json : Json)

theorem recv_pending {session : RawFramingSession} (h : session.auth_state = .Pending)
    (resolve : AuthToken → Option Identity) (budget : Nat) :
    ((session.recv json resolve budget).1 = none ∧
        (session.recv json resolve budget).2.auth_state = .Pending ∧
        (session.recv json resolve budget).2.reader.pending = session.reader.pending) ∨
      ((session.recv json resolve budget).1 = some none ∧
        (session.recv json resolve budget).2.auth_state = .Failed) ∨
      (∃ envelope identity,
        (session.recv json resolve budget).1 = some (some ⟨envelope, some identity⟩) ∧
        resolve (token_of envelope) = some identity ∧
        (session.recv json resolve budget).2.auth_state = .Authenticated identity ∧
        RawFramingSession.next_frame json session.reader.pending =
          some (.ok envelope, (session.recv json resolve budget).2.reader.pending)) := by
  have hread := raw_read_spec json budget session.reader
  unfold RawFramingSession.recv
  rw [h]
  rcases hframe : RawFramingSession.read_frame json budget session.reader with ⟨result, reader⟩
  rw [hframe] at hread
  match result with
  | none => exact Or.inl ⟨rfl, rfl, hread⟩
  | some (.error e) => exact Or.inr (Or.inl ⟨rfl, rfl⟩)
  | some (.ok envelope) =>
    simp only
    cases hresolve : resolve (token_of envelope) with
    | none => exact Or.inr (Or.inl ⟨rfl, rfl⟩)
    | some identity => exact Or.inr (Or.inr ⟨envelope, identity, rfl, hresolve, rfl, hread⟩)

theorem recv_authenticated {session : RawFramingSession} {identity : Identity}
    (h : session.auth_state = .Authenticated identity) (resolve : AuthToken → Option Identity)
    (budget : Nat) :
    (session.recv json resolve budget).2.auth_state = .Authenticated identity ∧
      ((((session.recv json resolve budget).1 = none ∨
          (session.recv json resolve budget).1 = some none) ∧
        (session.recv json resolve budget).2.reader.pending = session.reader.pending) ∨
      (∃ envelope,
        (session.recv json resolve budget).1 = some (some ⟨envelope, some identity⟩) ∧
        RawFramingSession.next_frame json session.reader.pending =
          some (.ok envelope, (session.recv json resolve budget).2.reader.pending))) := by
  have hread := raw_read_spec json budget session.reader
  unfold RawFramingSession.recv
  rw [h]
  rcases hframe : RawFramingSession.read_frame json budget session.reader with ⟨result, reader⟩
  rw [hframe] at hread
  match result with
  | none => exact ⟨rfl, Or.inl ⟨Or.inl rfl, hread⟩⟩
  | some (.error e) => exact ⟨rfl, Or.inl ⟨Or.inr rfl, hread⟩⟩
  | some (.ok envelope) => exact ⟨rfl, Or.inr ⟨envelope, rfl, hread⟩⟩

theorem recv_reply (session : RawFramingSession) (resolve : AuthToken → Option Identity)
    (budget : Nat) :
    (session.call json (.recv resolve budget)).2 = (session.recv json resolve budget).2 ∧
      (session.call json (.recv resolve budget)).1.delivered =
        (session.recv json resolve budget).1.join := by
  unfold RawFramingSession.call
  simp only
  rcases session.recv json resolve budget with ⟨_ | event, session'⟩ <;> exact ⟨rfl, rfl⟩

theorem send_keeps (session : RawFramingSession) (envelope : EventEnvelope) (fate : WriteFate) :
    (session.call json (.send envelope fate)).1.delivered = none ∧
      (session.call json (.send envelope fate)).2.auth_state = session.auth_state ∧
      (session.call json (.send envelope fate)).2.reader = session.reader := by
  unfold RawFramingSession.call RawFramingSession.send
  cases h : session.auth_state <;> cases fate <;> simp [h, SessionReply.delivered]

/-! ## Failed sessions -/

def refusal : SessionCall → SessionReply
  | .recv _ _ => .event none
  | .send _ _ => .sent (.error "session authentication failed")

theorem call_failed {session : RawFramingSession} (h : session.auth_state = .Failed)
    (call : SessionCall) : session.call json call = (refusal call, session) := by
  cases call <;> simp [RawFramingSession.call, RawFramingSession.recv, RawFramingSession.send,
    refusal, h]

theorem run_failed {session : RawFramingSession} (h : session.auth_state = .Failed)
    (calls : List SessionCall) : session.run json calls = (calls.map refusal, session) := by
  induction calls with
  | nil => rfl
  | cons call calls ih => simp [RawFramingSession.run, call_failed json h, ih]

/-- In a session that waits for its first frame, that frame cannot be read or has no identity. -/
def FirstFrameFails (json : Json) (resolve : AuthToken → Option Identity) (budget : Nat)
    (session : RawFramingSession) : Prop :=
  session.auth_state = .Pending ∧
    ((∃ e, (RawFramingSession.read_frame json budget session.reader).1 = some (.error e)) ∨
      (∃ envelope,
        (RawFramingSession.read_frame json budget session.reader).1 = some (.ok envelope) ∧
        resolve (token_of envelope) = none))

theorem call_firstFrameFails {session : RawFramingSession} {resolve : AuthToken → Option Identity}
    {budget : Nat} (h : FirstFrameFails json resolve budget session) :
    (session.call json (.recv resolve budget)).1 = .event none ∧
      (session.call json (.recv resolve budget)).2.auth_state = .Failed ∧
      (session.call json (.recv resolve budget)).2.written = session.written := by
  obtain ⟨hpending, hframe⟩ := h
  rcases hread : RawFramingSession.read_frame json budget session.reader with ⟨result, reader⟩
  rw [hread] at hframe
  rcases hframe with ⟨e, rfl⟩ | ⟨envelope, rfl, hnone⟩
  · simp [RawFramingSession.call, RawFramingSession.recv, hpending, hread]
  · simp [RawFramingSession.call, RawFramingSession.recv, hpending, hread, hnone]

/-! ## Whole runs -/

variable {json} {stream : List (Event UInt8 IoError)}

/-- Some `recv` of the run delivered the first event. It was `first`, and the provider's answer for
its token was `identity` at that call. -/
def Admitted (json : Json) (stream : List (Event UInt8 IoError)) (calls : List SessionCall)
    (first : EventEnvelope) (identity : Identity) : Prop :=
  ∃ before resolve budget after, calls = before ++ .recv resolve budget :: after ∧
    delivered ((RawFramingSession.new stream).run json before).1 = [] ∧
    delivered ((RawFramingSession.new stream).run json (before ++ [.recv resolve budget])).1 =
      [⟨first, some identity⟩] ∧
    resolve (token_of first) = some identity

theorem Admitted.snoc {calls : List SessionCall} {first : EventEnvelope} {identity : Identity}
    (h : Admitted json stream calls first identity) (call : SessionCall) :
    Admitted json stream (calls ++ [call]) first identity := by
  obtain ⟨before, resolve, budget, after, rfl, hrest⟩ := h
  exact ⟨before, resolve, budget, after ++ [call], by simp, hrest⟩

/-- What a run has delivered and consumed, by the state that it is in. -/
def Delivers (json : Json) (stream : List (Event UInt8 IoError)) (calls : List SessionCall) :
    Prop :=
  let (replies, session) := (RawFramingSession.new stream).run json calls
  match session.auth_state with
  | .Pending => delivered replies = [] ∧ session.reader.pending = stream.flatMap Event.bytes
  | .Failed => delivered replies = []
  | .Authenticated identity => ∃ first envelopes, Admitted json stream calls first identity ∧
      delivered replies = (first :: envelopes).map (⟨·, some identity⟩) ∧
      Items (RawFramingSession.next_frame json) ((first :: envelopes).map .ok)
        (stream.flatMap Event.bytes) session.reader.pending

theorem Delivers.quiet {calls : List SessionCall} {call : SessionCall}
    (h : Delivers json stream calls)
    (hreply : (((RawFramingSession.new stream).run json calls).2.call json call).1.delivered = none)
    (hauth : (((RawFramingSession.new stream).run json calls).2.call json call).2.auth_state =
      ((RawFramingSession.new stream).run json calls).2.auth_state)
    (hpending :
      (((RawFramingSession.new stream).run json calls).2.call json call).2.reader.pending =
        ((RawFramingSession.new stream).run json calls).2.reader.pending) :
    Delivers json stream (calls ++ [call]) := by
  unfold Delivers at h ⊢
  rw [run_snoc]
  simp only [delivered_snoc, hreply, hauth, hpending, Option.toList_none, List.append_nil] at h ⊢
  split
  · rename_i hstate
    simpa [hstate] using h
  · rename_i hstate
    simpa [hstate] using h
  · rename_i identity hstate
    rw [hstate] at h
    obtain ⟨first, envelopes, hadmitted, hrest⟩ := h
    exact ⟨first, envelopes, hadmitted.snoc call, hrest⟩

theorem delivers_recv {calls : List SessionCall} (h : Delivers json stream calls)
    (resolve : AuthToken → Option Identity) (budget : Nat) :
    Delivers json stream (calls ++ [.recv resolve budget]) := by
  have hreply := recv_reply json
    ((RawFramingSession.new stream).run json calls).2 resolve budget
  cases hstate : ((RawFramingSession.new stream).run json calls).2.auth_state with
  | Failed =>
    have hcall := call_failed json hstate (.recv resolve budget)
    exact h.quiet (by rw [hcall]; rfl) (by rw [hcall]) (by rw [hcall])
  | Pending =>
    rcases recv_pending json hstate resolve budget with
      ⟨hnone, hauth, hpending⟩ | ⟨hnone, hauth⟩ | ⟨first, identity, hsome, hresolve, hauth, hnext⟩
    · refine h.quiet ?_ ?_ ?_
      · rw [hreply.2, hnone]
        rfl
      · rw [hreply.1, hauth, hstate]
      · rw [hreply.1, hpending]
    · unfold Delivers at h ⊢
      rw [run_snoc]
      simp only [hstate, delivered_snoc, hreply.1, hreply.2, hnone, hauth] at h ⊢
      simp [h.1]
    -- the first frame authenticates the session
    · unfold Delivers at h
      simp only [hstate] at h
      have hfirst : delivered ((RawFramingSession.new stream).run json
          (calls ++ [.recv resolve budget])).1 = [⟨first, some identity⟩] := by
        rw [run_snoc]
        simp [delivered_snoc, hreply.2, hsome, h.1]
      unfold Delivers
      rw [run_snoc] at hfirst ⊢
      simp only [hreply.1, hauth]
      refine ⟨first, [], ⟨calls, resolve, budget, [], rfl, h.1, ?_, hresolve⟩, hfirst, ?_⟩
      · rw [run_snoc]
        exact hfirst
      · exact ⟨_, h.2 ▸ hnext, rfl⟩
  | Authenticated identity =>
    obtain ⟨hauth, ⟨hnone, hpending⟩ | ⟨envelope, hsome, hnext⟩⟩ :=
      recv_authenticated json hstate resolve budget
    · refine h.quiet ?_ ?_ ?_
      · rw [hreply.2]
        rcases hnone with hnone | hnone <;> rw [hnone] <;> rfl
      · rw [hreply.1, hauth, hstate]
      · rw [hreply.1, hpending]
    -- one more frame is taken off the stream
    · unfold Delivers at h ⊢
      rw [run_snoc]
      simp only [hstate] at h
      obtain ⟨first, envelopes, hadmitted, hdelivered, hitems⟩ := h
      simp only [hreply.1, hauth, delivered_snoc, hreply.2, hsome]
      refine ⟨first, envelopes ++ [envelope], hadmitted.snoc _, ?_, ?_⟩
      · simp [hdelivered]
      · have hone : Items (RawFramingSession.next_frame json) ([envelope].map .ok)
            ((RawFramingSession.new stream).run json calls).2.reader.pending _ :=
          ⟨_, hnext, rfl⟩
        simpa using items_append.mpr ⟨_, hitems, hone⟩

theorem delivers (json : Json) (stream : List (Event UInt8 IoError)) (calls : List SessionCall) :
    Delivers json stream calls := by
  induction calls using List.reverseRecOn with
  | nil => exact ⟨rfl, rfl⟩
  | append_singleton calls call ih =>
    cases call with
    | recv resolve budget => exact delivers_recv ih resolve budget
    | send envelope fate =>
      obtain ⟨hreply, hauth, hreader⟩ :=
        send_keeps json ((RawFramingSession.new stream).run json calls).2 envelope fate
      exact ih.quiet hreply hauth (by rw [hreader])

theorem pending_reads_first {bodies : List (List UInt8)} {residue : List UInt8}
    (hf : Framed (stream.flatMap Event.bytes) bodies residue) {calls : List SessionCall}
    (hstate : ((RawFramingSession.new stream).run json calls).2.auth_state = .Pending)
    {budget : Nat} {envelope : EventEnvelope}
    (h : (RawFramingSession.read_frame json budget
      ((RawFramingSession.new stream).run json calls).2.reader).1 = some (.ok envelope)) :
    (bodies.map json.from_slice).head? = some (.ok envelope) := by
  have hrun := delivers json stream calls
  unfold Delivers at hrun
  simp only [hstate] at hrun
  have hread := raw_read_spec json budget ((RawFramingSession.new stream).run json calls).2.reader
  rw [h, hrun.2] at hread
  have hitems : Items (RawFramingSession.next_frame json) ([envelope].map .ok)
      (stream.flatMap Event.bytes) _ := ⟨_, hread, rfl⟩
  obtain ⟨t, ht⟩ := raw_ok_items hf hitems
  rw [← ht]
  rfl

/-- **Session authentication.** All events have the identity that the first frame's token had when
it was received. -/
theorem session_authenticated (json : Json) (stream : List (Event UInt8 IoError))
    (bodies : List (List UInt8)) (residue : List UInt8)
    (hf : Framed (stream.flatMap Event.bytes) bodies residue) (calls : List SessionCall) :
    (delivered ((RawFramingSession.new stream).run json calls).1 = [] ∨
      ∃ first envelopes identity, Admitted json stream calls first identity ∧
        delivered ((RawFramingSession.new stream).run json calls).1 =
          (first :: envelopes).map (⟨·, some identity⟩) ∧
        (first :: envelopes).map .ok <+: bodies.map json.from_slice) ∧
    (∀ before resolve budget after, calls = before ++ .recv resolve budget :: after →
      FirstFrameFails json resolve budget ((RawFramingSession.new stream).run json before).2 →
        ((RawFramingSession.new stream).run json calls).1 =
          ((RawFramingSession.new stream).run json before).1 ++
            .event none :: after.map refusal ∧
        ((RawFramingSession.new stream).run json calls).2.written =
          ((RawFramingSession.new stream).run json before).2.written) ∧
    (∀ before, ((RawFramingSession.new stream).run json before).2.auth_state = .Pending →
      ∀ budget envelope, (RawFramingSession.read_frame json budget
          ((RawFramingSession.new stream).run json before).2.reader).1 = some (.ok envelope) →
        (bodies.map json.from_slice).head? = some (.ok envelope)) := by
  refine ⟨?_, ?_, fun before hstate budget envelope h => pending_reads_first hf hstate h⟩
  · have hrun := delivers json stream calls
    unfold Delivers at hrun
    simp only at hrun
    split at hrun
    · exact Or.inl hrun.1
    · exact Or.inl hrun
    · rename_i identity hstate
      obtain ⟨first, envelopes, hadmitted, hdelivered, hitems⟩ := hrun
      exact Or.inr ⟨first, envelopes, identity, hadmitted, hdelivered, raw_ok_items hf hitems⟩
  · rintro before resolve budget after rfl hfails
    obtain ⟨hreply, hauth, hwritten⟩ := call_firstFrameFails json hfails
    rw [RawFramingSession.run_append, RawFramingSession.run]
    simp only [run_failed json hauth, hreply, hwritten, and_self]

def sampleResolve : AuthToken → Option Identity := fun token =>
  if token = ⟨as_bytes "alk_1"⟩ then some ⟨"alice", []⟩ else none

theorem session_authenticated_sample :
    delivered ((RawFramingSession.new [.data (frame sampleBody) (by decide)]).run sampleJson
      [.recv sampleResolve 2]).1 = [⟨sampleEnvelope, some ⟨"alice", []⟩⟩] ∧
    (delivered ((RawFramingSession.new [.data (frame sampleBody) (by decide)]).run sampleJson
        [.recv sampleResolve 2]).1 = [] ∨
      ∃ first envelopes identity,
        Admitted sampleJson [.data (frame sampleBody) (by decide)] [.recv sampleResolve 2] first
          identity ∧
        delivered ((RawFramingSession.new [.data (frame sampleBody) (by decide)]).run sampleJson
          [.recv sampleResolve 2]).1 = (first :: envelopes).map (⟨·, some identity⟩) ∧
        (first :: envelopes).map .ok <+: [sampleBody].map sampleJson.from_slice) :=
  ⟨rfl, (session_authenticated sampleJson [.data (frame sampleBody) (by decide)] [sampleBody] []
    ⟨by decide, by decide, by decide⟩ [.recv sampleResolve 2]).1⟩

end Alknet
