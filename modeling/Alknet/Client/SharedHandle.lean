import Alknet.Code.Client.SharedHandle
import Alknet.Lib.Run

/-!
# One handle for all

Over every interleaving of connections, answers, closing sessions, reconnects and the shutdown. A
session is replaced only when it has closed, nothing is asked in a session that was replaced, and in
each session the forwards are asked for again until it is found closed. One channel that the peer
does not answer for holds up everybody else.
-/

open Alknet.Lib

namespace Alknet

/-! ## What was asked -/

def SessionRequest.is_forward : SessionRequest → Bool
  | .tcpip_forward _ _ => true
  | _ => false

/-- The forwards that were asked for in a session. -/
def forwards (n : Nat) (asked : List (Nat × SessionRequest)) : List SessionRequest :=
  (asked.filter fun e => e.1 = n ∧ e.2.is_forward).map Prod.snd

theorem forwards_snoc (n : Nat) (asked : List (Nat × SessionRequest)) (e : Nat × SessionRequest) :
    forwards n (asked ++ [e]) =
      forwards n asked ++ if e.1 = n ∧ e.2.is_forward then [e.2] else [] := by
  unfold forwards
  rw [List.filter_append, List.map_append]
  by_cases h : e.1 = n ∧ e.2.is_forward = true
  · simp [h]
  · simp [h]

theorem forwards_start (specs : List PortForwardSpec) :
    forwards 0 (specs.map fun spec => (0, spec.request)) = specs.map PortForwardSpec.request := by
  unfold forwards
  rw [List.filter_eq_self.mpr, List.map_map]
  · rfl
  · intro e he
    obtain ⟨spec, -, rfl⟩ := List.mem_map.mp he
    rfl

theorem forwards_eq_nil {n : Nat} {asked : List (Nat × SessionRequest)}
    (h : ∀ e ∈ asked, e.1 ≠ n) : forwards n asked = [] := by
  unfold forwards
  rw [List.filter_eq_nil_iff.mpr fun e he hmine => h e he (of_decide_eq_true hmine).1]
  rfl

/-- Requests go to the session at hand. Those before it were asked for the forwards, up to the one
that found them closed. -/
structure AskedInTurn (specs : List PortForwardSpec) (session : Nat)
    (asked unsent : List (Nat × SessionRequest)) : Prop where
  ordered : (asked.map Prod.fst).Pairwise (· ≤ ·)
  known : ∀ e ∈ asked, e.1 ≤ session
  unsent_known : ∀ e ∈ unsent, e.1 ≤ session
  registered : ∀ n < session,
    forwards n asked ++ forwards n unsent = specs.map PortForwardSpec.request

section

variable {specs : List PortForwardSpec} {session : Nat}
  {asked unsent : List (Nat × SessionRequest)}

theorem known_snoc (h : ∀ e ∈ asked, e.1 ≤ session) (request : SessionRequest) :
    ∀ e ∈ asked ++ [(session, request)], e.1 ≤ session := by
  intro e he
  rcases List.mem_append.mp he with hold | hnew
  · exact h e hold
  · rw [List.mem_singleton.mp hnew]

theorem forwards_later {n : Nat} (hn : n < session) (request : SessionRequest) :
    forwards n (asked ++ [(session, request)]) = forwards n asked := by
  rw [forwards_snoc, if_neg fun hsame => absurd hsame.1 hn.ne', List.append_nil]

theorem AskedInTurn.ask (h : AskedInTurn specs session asked unsent) (request : SessionRequest) :
    AskedInTurn specs session (asked ++ [(session, request)]) unsent where
  ordered := by
    rw [List.map_append]
    refine List.pairwise_append.mpr ⟨h.ordered, List.pairwise_singleton _ _, fun n hn m hm => ?_⟩
    obtain ⟨e, he, rfl⟩ := List.mem_map.mp hn
    rw [List.mem_singleton.mp hm]
    exact h.known e he
  known := known_snoc h.known request
  unsent_known := h.unsent_known
  registered := by
    intro n hn
    rw [forwards_later hn]
    exact h.registered n hn

theorem AskedInTurn.miss (h : AskedInTurn specs session asked unsent) (request : SessionRequest) :
    AskedInTurn specs session asked (unsent ++ [(session, request)]) where
  ordered := h.ordered
  known := h.known
  unsent_known := known_snoc h.unsent_known request
  registered := by
    intro n hn
    rw [forwards_later hn]
    exact h.registered n hn

theorem AskedInTurn.swap (h : AskedInTurn specs session asked unsent)
    (hdone : forwards session asked ++ forwards session unsent =
      specs.map PortForwardSpec.request) :
    AskedInTurn specs (session + 1) asked unsent where
  ordered := h.ordered
  known := fun e he => (h.known e he).trans (Nat.le_succ session)
  unsent_known := fun e he => (h.unsent_known e he).trans (Nat.le_succ session)
  registered := by
    intro n hn
    rcases Nat.lt_succ_iff_lt_or_eq.mp hn with hlt | rfl
    · exact h.registered n hlt
    · exact hdone

end

/-! ## The invariant -/

/-- The forwards that the monitor has still to ask for. -/
def ReconnectPhase.left : ReconnectPhase → List PortForwardSpec
  | .wait_register spec left => spec :: left
  | .registering left => left
  | _ => []

theorem left_register (specs : List PortForwardSpec) :
    (ReconnectPhase.register specs).left = specs := by
  cases specs <;> rfl

namespace SharedHandle

variable {s s' : SharedHandle} {specs : List PortForwardSpec}

structure Kept (specs : List PortForwardSpec) (s : SharedHandle) : Prop where
  specs_eq : s.remote_specs = specs
  log : AskedInTurn specs s.session s.asked s.unsent
  replaced : ∀ n < s.session, n ∈ s.closed
  suspected : s.monitor = .reconnecting ∨ s.monitor = .wait_swap → s.session ∈ s.closed
  found : ∀ e ∈ s.unsent, e.1 ∈ s.closed
  pending : ∃ left, forwards s.session s.asked ++ forwards s.session s.unsent ++
    left.map PortForwardSpec.request = specs.map PortForwardSpec.request ∧
    (s.monitor ≠ .ended → left = s.monitor.left)
  holding : ∀ i, s.holder = some (.opener i) →
    ∃ opener, s.openers[i]? = some opener ∧ (s.session, opener.request) ∈ s.asked
  opened : ∀ (i : Nat) (opener : Opener) (n : Nat), s.openers[i]? = some opener →
    opener.phase = .opened n →
    (n, opener.request) ∈ s.asked

theorem kept_started (specs : List PortForwardSpec) : Kept specs (ClientSession.started specs) where
  specs_eq := rfl
  log := {
    ordered := by
      unfold ClientSession.started
      rw [List.map_map]
      exact List.pairwise_map.mpr (List.pairwise_of_forall fun _ _ => Nat.le_refl 0)
    known := fun e he => by
      obtain ⟨spec, -, rfl⟩ := List.mem_map.mp he
      exact Nat.le_refl 0
    unsent_known := nofun
    registered := fun n hn => absurd hn (Nat.not_lt_zero n) }
  replaced := fun n hn => absurd hn (Nat.not_lt_zero n)
  suspected := fun h => by rcases h with h | h <;> cases h
  found := nofun
  pending := by
    refine ⟨[], ?_, fun _ => rfl⟩
    rw [List.map_nil, List.append_nil]
    exact (List.append_nil _).trans (forwards_start specs)
  holding := fun i h => by cases h
  opened := fun i opener n h => by simp [ClientSession.started] at h

/-! ## One step -/

theorem Kept.lock_opener (h : Kept specs s) {i : Nat} {opener : Opener}
    (hfree : s.holder = none) (hopener : s.openers[i]? = some opener)
    (hstep : s.lock_opener i opener = some s') : Kept specs s' := by
  unfold SharedHandle.lock_opener at hstep
  split at hstep
  · rename_i hphase
    split at hstep
    · -- on a closed session the open fails at once
      cases hstep
      refine { h with holding := fun j hholder => ?_, opened := fun j other n hother hn => ?_ }
      · rw [hfree] at hholder
        cases hholder
      · rcases getElem?_set_cases hother with ⟨-, rfl⟩ | ⟨-, hold⟩
        · cases hn
        · exact h.opened j other n hold hn
    · cases hstep
      have hasked : (s.session, opener.request) ∈ s.asked ++ [(s.session, opener.request)] :=
        List.mem_append_right _ List.mem_cons_self
      obtain ⟨left, hleft, hmonitor⟩ := h.pending
      refine { h with
        log := h.log.ask opener.request
        pending := ⟨left, ?_, hmonitor⟩
        holding := fun j hholder => ?_
        opened := fun j other n hother hn => ?_ }
      · rw [ask, forwards_snoc, if_neg fun hforward => absurd hforward.2 Bool.false_ne_true,
          List.append_nil]
        exact hleft
      · cases hholder
        exact ⟨_, List.getElem?_set_self (List.getElem?_eq_some_iff.mp hopener).1, hasked⟩
      · rcases getElem?_set_cases hother with ⟨-, rfl⟩ | ⟨-, hold⟩
        · cases hn
        · exact List.mem_append_left _ (h.opened j other n hold hn)
  · cases hstep

theorem register_not_suspected (left : List PortForwardSpec) :
    ¬ (ReconnectPhase.register left = .reconnecting ∨
      ReconnectPhase.register left = .wait_swap) := by
  cases left <;> rintro (h | h) <;> cases h

theorem Kept.pending_left (h : Kept specs s) {phase : ReconnectPhase} (hphase : s.monitor = phase)
    (hended : phase ≠ .ended) :
    forwards s.session s.asked ++ forwards s.session s.unsent ++
      phase.left.map PortForwardSpec.request = specs.map PortForwardSpec.request := by
  obtain ⟨left, hleft, hmonitor⟩ := h.pending
  subst hphase
  rwa [← hmonitor hended]

theorem Kept.monitor (h : Kept specs s) {phase : ReconnectPhase} (hended : s.monitor ≠ .ended)
    (hleft : phase.left = s.monitor.left)
    (hsuspected : phase = .reconnecting ∨ phase = .wait_swap → s.session ∈ s.closed) :
    Kept specs { s with monitor := phase } :=
  { h with
    suspected := hsuspected
    pending := ⟨phase.left, by rw [hleft]; exact h.pending_left rfl hended, fun _ => rfl⟩ }

theorem Kept.check (h : Kept specs s) (hphase : s.monitor = .wait_check) :
    Kept specs { s with monitor := if s.is_closed then .reconnecting else .sleeping } := by
  have hended : s.monitor ≠ .ended := by rw [hphase]; nofun
  cases hclosed : s.is_closed with
  | true => exact h.monitor hended (by rw [hphase]; rfl) fun _ => of_decide_eq_true hclosed
  | false =>
    refine h.monitor hended (by rw [hphase]; rfl) fun hnext => ?_
    rcases hnext with hnext | hnext <;> cases hnext

/-- The session that is replaced has closed, and no forward is left. -/
theorem Kept.swap (h : Kept specs s) (hfree : s.holder = none) (hphase : s.monitor = .wait_swap) :
    Kept specs { s with session := s.session + 1, monitor := .register s.remote_specs } := by
  have hleft := h.pending_left hphase nofun
  change _ ++ [] = _ at hleft
  rw [List.append_nil] at hleft
  exact { h with
    log := h.log.swap hleft
    replaced := fun n hn => by
      rcases Nat.lt_succ_iff_lt_or_eq.mp hn with hlt | rfl
      · exact h.replaced n hlt
      · exact h.suspected (.inr hphase)
    suspected := fun hnext => absurd hnext (register_not_suspected _)
    pending := by
      refine ⟨specs, ?_, fun _ => by rw [left_register, h.specs_eq]⟩
      rw [forwards_eq_nil fun e he => (Nat.lt_succ_of_le (h.log.known e he)).ne,
        forwards_eq_nil fun e he => (Nat.lt_succ_of_le (h.log.unsent_known e he)).ne]
      rfl
    holding := fun i hholder => by
      rw [hfree] at hholder
      cases hholder }

theorem Kept.register (h : Kept specs s) {spec : PortForwardSpec} {left : List PortForwardSpec}
    (hphase : s.monitor = .wait_register spec left) (hopen : s.is_closed = false) :
    Kept specs { s.ask .monitor spec.request with monitor := .registering left } := by
  have hleft := h.pending_left hphase nofun
  rw [ReconnectPhase.left, List.map_cons] at hleft
  have hnone : forwards s.session s.unsent = [] := forwards_eq_nil fun e he hsame =>
    of_decide_eq_false hopen (hsame ▸ h.found e he)
  refine { h with
    log := h.log.ask spec.request
    suspected := fun hnext => by rcases hnext with hnext | hnext <;> cases hnext
    pending := ⟨left, ?_, fun _ => rfl⟩
    holding := fun i hholder => by cases hholder
    opened := fun i opener n hopener hn =>
      List.mem_append_left _ (h.opened i opener n hopener hn) }
  simp only [ask]
  rw [forwards_snoc, if_pos ⟨rfl, rfl⟩, ← hleft, hnone]
  simp only [List.append_assoc, List.singleton_append, List.append_nil]

/-- What is not asked for comes after all that was. -/
theorem Kept.miss (h : Kept specs s) {spec : PortForwardSpec} {left : List PortForwardSpec}
    (hphase : s.monitor = .wait_register spec left) (hclosed : s.is_closed = true) :
    Kept specs { s with
      unsent := s.unsent ++ [(s.session, spec.request)]
      monitor := .register left } := by
  have hleft := h.pending_left hphase nofun
  rw [ReconnectPhase.left, List.map_cons] at hleft
  refine { h with
    log := h.log.miss spec.request
    suspected := fun _ => of_decide_eq_true hclosed
    found := fun e he => ?_
    pending := ⟨left, ?_, fun _ => (left_register left).symm⟩ }
  · rcases List.mem_append.mp he with hold | hnew
    · exact h.found e hold
    · rw [List.mem_singleton.mp hnew]
      exact of_decide_eq_true hclosed
  · simp only
    rw [forwards_snoc, if_pos ⟨rfl, rfl⟩, ← hleft]
    simp only [List.append_assoc, List.singleton_append]

theorem Kept.lock_monitor (h : Kept specs s) (hfree : s.holder = none)
    (hstep : s.lock_monitor = some s') : Kept specs s' := by
  unfold SharedHandle.lock_monitor at hstep
  split at hstep
  · rename_i hphase
    cases hstep
    exact h.check hphase
  · rename_i hphase
    cases hstep
    exact h.swap hfree hphase
  · rename_i spec left hphase
    split at hstep
    · rename_i hclosed
      cases hstep
      exact h.miss hphase hclosed
    · rename_i hopen
      cases hstep
      exact h.register hphase (Bool.not_eq_true _ ▸ hopen)
  · cases hstep

theorem Kept.lock_shutdown (h : Kept specs s) (hstep : s.lock_shutdown = some s') :
    Kept specs s' := by
  unfold SharedHandle.lock_shutdown at hstep
  split at hstep
  · split at hstep
    · cases hstep
      exact { h with }
    · cases hstep
      exact { h with holding := fun i hholder => by cases hholder }
  · cases hstep

theorem Kept.answer (h : Kept specs s) {accepted : Bool} (hstep : s.answer accepted = some s') :
    Kept specs s' := by
  unfold SharedHandle.answer at hstep
  split at hstep
  · cases hstep
  · rename_i i hholder
    obtain ⟨opener, hopener, hasked⟩ := h.holding i hholder
    rw [hopener, Option.map_some] at hstep
    cases hstep
    refine { h with
      holding := fun j hnobody => by cases hnobody
      opened := fun j other n hother hn => ?_ }
    rcases getElem?_set_cases hother with ⟨-, rfl⟩ | ⟨-, hold⟩
    · -- what is opened was asked for in the session that it is opened in
      simp only at hn
      split at hn
      · cases hn
        exact hasked
      · cases hn
    · exact h.opened j other n hold hn
  · split at hstep
    · rename_i rest hphase
      cases hstep
      have hnext : Kept specs { s with monitor := .register rest } :=
        h.monitor (by rw [hphase]; nofun) (by rw [hphase, left_register]; rfl)
          fun hnext => absurd hnext (register_not_suspected rest)
      exact { hnext with holding := fun i hnobody => by cases hnobody }
    · cases hstep
  · cases hstep
    exact { h with holding := fun i hnobody => by cases hnobody }

/-! ## Every run -/

theorem Kept.step (h : Kept specs s) {i : HandleStep} (hstep : s.step i = some s') :
    Kept specs s' := by
  cases i with
  | connect kind host port =>
    cases hstep
    refine { h with
      holding := fun i hholder => ?_
      opened := fun i opener n hopener hn => ?_ }
    · obtain ⟨opener, hopener, hasked⟩ := h.holding i hholder
      exact ⟨opener, (List.getElem?_append_left (List.getElem?_eq_some_iff.mp hopener).1).trans
        hopener, hasked⟩
    · rcases getElem?_snoc_cases hopener with ⟨-, rfl⟩ | hold
      · cases hn
      · exact h.opened i opener n hold hn
  | lock user =>
    obtain ⟨hfree, hstep⟩ := Option.ite_none_right_eq_some.mp hstep
    cases user with
    | opener i =>
      obtain ⟨opener, hopener, hstep⟩ := Option.bind_eq_some_iff.mp hstep
      exact h.lock_opener hfree hopener hstep
    | monitor => exact h.lock_monitor hfree hstep
    | shutdown => exact h.lock_shutdown hstep
  | answer accepted => exact h.answer hstep
  | close n =>
    obtain ⟨-, hstep⟩ := Option.ite_none_right_eq_some.mp hstep
    cases hstep
    exact { h with
      replaced := fun m hm => List.mem_cons_of_mem n (h.replaced m hm)
      found := fun e he => List.mem_cons_of_mem n (h.found e he)
      suspected := fun hphase => List.mem_cons_of_mem n (h.suspected hphase) }
  | wake =>
    obtain ⟨hphase, hstep⟩ := Option.ite_none_right_eq_some.mp hstep
    cases hstep
    refine h.monitor (by rw [hphase]; nofun) ?_ ?_
    · rw [hphase]
      split <;> rfl
    · split <;> exact fun hnext => by rcases hnext with hnext | hnext <;> cases hnext
  | established connected =>
    obtain ⟨hphase, hstep⟩ := Option.ite_none_right_eq_some.mp hstep
    cases hstep
    refine h.monitor (by rw [hphase]; nofun) ?_ fun _ => ?_
    · rw [hphase]
      split <;> rfl
    · exact h.suspected (.inl hphase)
  | send_shutdown =>
    cases hstep
    exact { h with }
  | stop =>
    obtain ⟨-, hstep⟩ := Option.ite_none_right_eq_some.mp hstep
    cases hstep
    obtain ⟨left, hleft, -⟩ := h.pending
    refine { h with
      suspected := fun hphase => by rcases hphase with hphase | hphase <;> cases hphase
      pending := ⟨left, hleft, fun hended => absurd rfl hended⟩
      holding := fun i hholder => ?_ }
    simp only at hholder
    split at hholder
    · cases hholder
    · exact h.holding i hholder

theorem kept_run {steps : List HandleStep}
    (hrun : run step (ClientSession.started specs) steps = some s) : Kept specs s :=
  run_keeps (fun _ _ _ h hstep => h.step hstep) (kept_started specs) hrun

/-- Nothing has come of the wait of others: no request, no other session, no end of the shutdown. -/
structure HeldUp (s s' : SharedHandle) : Prop where
  holder : s'.holder = s.holder
  session : s'.session = s.session
  asked : s'.asked = s.asked
  unsent : s'.unsent = s.unsent
  openers : ∃ waiting, s'.openers = s.openers ++ waiting ∧
    ∀ opener ∈ waiting, opener.phase = .locking
  shutdown : s'.shutdown = .draining → s.shutdown = .draining

theorem HeldUp.step {t : SharedHandle} {i : Nat} (h : HeldUp s t)
    (hholder : s.holder = some (.opener i)) {j : HandleStep} (hj : ∀ accepted, j ≠ .answer accepted)
    (hstep : t.step j = some s') : HeldUp s s' := by
  have hheld : t.holder = some (.opener i) := h.holder.trans hholder
  cases j with
  | connect kind host port =>
    cases hstep
    obtain ⟨waiting, hopeners, hlocking⟩ := h.openers
    refine { h with openers := ⟨waiting ++ [⟨kind, host, port, .locking⟩], ?_, ?_⟩ }
    · simp only [hopeners, List.append_assoc]
    · intro opener hmem
      rcases List.mem_append.mp hmem with hold | hnew
      · exact hlocking opener hold
      · rw [List.mem_singleton.mp hnew]
  | lock user =>
    obtain ⟨hfree, -⟩ := Option.ite_none_right_eq_some.mp hstep
    rw [hheld] at hfree
    cases hfree
  | answer accepted => exact absurd rfl (hj accepted)
  | close _ | wake | established _ =>
    obtain ⟨-, hstep⟩ := Option.ite_none_right_eq_some.mp hstep
    cases hstep
    exact { h with }
  | send_shutdown =>
    cases hstep
    exact { h with }
  | stop =>
    obtain ⟨-, hstep⟩ := Option.ite_none_right_eq_some.mp hstep
    cases hstep
    refine { h with holder := ?_, shutdown := fun hdraining => by cases hdraining }
    simp only [hheld]
    exact hholder.symm

end SharedHandle

end Alknet
