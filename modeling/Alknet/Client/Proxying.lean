import Alknet.Code.Proxying
import Alknet.Lib.Run
import Mathlib.Tactic.Common

/-!
# What a proxied connection delivers

Both directions of a connection, from the application over the client and the server to the target.
Nothing is lost, made up or reordered, whatever the four copies do and in whatever order. Whether
an end learns that the other one has finished sending depends on how the client copies.
-/

open Alknet.Lib

namespace Alknet

namespace ProxiedConnection

variable {client : Proxying} {window : Nat} {c c' : ProxiedConnection}

/-! ## The invariant -/

/-- A stream is closed by a hop only when its copy has ended, or the hop has failed. -/
structure Sound (client : Proxying) (c : ProxiedConnection) : Prop where
  carries : ∀ hop d, (c.copy hop d).Carries (c.input hop d) (c.output hop d)
  closed : ∀ hop d, (c.output hop d).closed = true →
    (c.copy hop d).ended = true ∨ c.has_failed hop = true
  join : ∀ hop d, proxying client hop = .join → (c.output hop d).closed = true →
    ∀ d', (c.copy hop d').ended = true
  returned : ∀ hop d, c.returned hop = true → (c.output hop d).closed = true

theorem Sound.new (client : Proxying) : Sound client new where
  carries := fun _ _ => ⟨rfl, nofun⟩
  closed := fun _ _ => nofun
  join := fun _ _ _ => nofun
  returned := fun _ _ => nofun

theorem Sound.of_ends (h : Sound client c) (hcopy : c'.copy = c.copy)
    (hreturned : c'.returned = c.returned)
    (hinput : ∀ hop d, (c.input hop d).Fills (c'.input hop d))
    (houtput : ∀ hop d, (c.output hop d).Drains (c'.output hop d)) : Sound client c' where
  carries := fun hop d => hcopy ▸ ((h.carries hop d).fills (hinput hop d)).drains (houtput hop d)
  closed := fun hop d hclosed => by
    rw [(houtput hop d).closed] at hclosed
    unfold has_failed
    rw [hcopy]
    exact h.closed hop d hclosed
  join := fun hop d hjoin hclosed => by
    rw [(houtput hop d).closed] at hclosed
    rw [hcopy]
    exact h.join hop d hjoin hclosed
  returned := fun hop d hret => by
    rw [(houtput hop d).closed]
    exact h.returned hop d (hreturned ▸ hret)

theorem Sound.set_source (h : Sound client c) (d : Direction) {pipe : Pipe UInt8}
    (hfills : (c.source d).Fills pipe) :
    Sound client (c.set_pipe ((first_hop d).input d) d pipe) := by
  refine h.of_ends rfl rfl (fun hop d' => ?_) (fun hop d' => ?_)
  · cases d <;> cases hop <;> cases d' <;> first | exact Pipe.Fills.rfl | exact hfills
  · cases d <;> cases hop <;> cases d' <;> exact Pipe.Drains.rfl

theorem Sound.set_sink (h : Sound client c) (d : Direction) {pipe : Pipe UInt8}
    (hdrains : (c.sink d).Drains pipe) :
    Sound client (c.set_pipe ((last_hop d).output d) d pipe) := by
  refine h.of_ends rfl rfl (fun hop d' => ?_) (fun hop d' => ?_)
  · cases d <;> cases hop <;> cases d' <;> exact Pipe.Fills.rfl
  · cases d <;> cases hop <;> cases d' <;> first | exact Pipe.Drains.rfl | exact hdrains

/-! ### A copy -/

section

variable {hop : Hop} {d : Direction} {input output : Pipe UInt8} {copy : Copy UInt8}

/-- The connection after a step of one copy. -/
def with_copy (hop : Hop) (d : Direction) (input output : Pipe UInt8) (copy : Copy UInt8)
    (c : ProxiedConnection) : ProxiedConnection :=
  ((c.set_pipe (hop.input d) d input).set_copy hop d copy).set_pipe (hop.output d) d output

variable (hop d input output copy) in
theorem with_copy_own (c : ProxiedConnection) :
    (c.with_copy hop d input output copy).copy hop d = copy ∧
      (c.with_copy hop d input output copy).input hop d = input ∧
      (c.with_copy hop d input output copy).output hop d = output := by
  cases hop <;> cases d <;> exact ⟨rfl, rfl, rfl⟩

theorem with_copy_other (copy : Copy UInt8) (hop' : Hop) (d' : Direction)
    (hne : ¬ (hop' = hop ∧ d' = d)) (hdrains : (c.input hop d).Drains input)
    (hfills : (c.output hop d).Fills output) :
    (c.with_copy hop d input output copy).copy hop' d' = c.copy hop' d' ∧
      (c.input hop' d').Fills ((c.with_copy hop d input output copy).input hop' d') ∧
      (c.output hop' d').Drains ((c.with_copy hop d input output copy).output hop' d') := by
  cases hop <;> cases d <;> cases hop' <;> cases d' <;>
    first
    | exact absurd ⟨rfl, rfl⟩ hne
    | exact ⟨rfl, Pipe.Fills.rfl, Pipe.Drains.rfl⟩
    | exact ⟨rfl, hfills, Pipe.Drains.rfl⟩
    | exact ⟨rfl, Pipe.Fills.rfl, hdrains⟩

theorem has_failed_with_copy (hrunning : (c.copy hop d).ended = false) {hop' : Hop}
    (hfailed : c.has_failed hop' = true) :
    (c.with_copy hop d input output copy).has_failed hop' = true := by
  have hnot : c.copy hop d ≠ .failed := fun h => by
    rw [h] at hrunning
    cases hrunning
  unfold has_failed at hfailed ⊢
  cases hop <;> cases d <;> cases hop' <;>
    simp_all [with_copy, set_pipe, set_copy]

theorem Sound.copy_step (h : Sound client c) {i : CopyStep} (hreturned : c.returned hop = false)
    (hstep : (c.copy hop d).step COPY_CAPACITY window (c.input hop d) (c.output hop d) i =
      some (input, copy, output)) :
    Sound client (c.with_copy hop d input output copy) := by
  have hrunning := Copy.step_of_ended hstep
  have hother := fun hop' d' hne => with_copy_other copy hop' d' hne
    (Copy.step_drains hstep) (Copy.step_fills hstep)
  obtain ⟨hcopy, hinput, houtput⟩ := with_copy_own hop d input output copy c
  -- no output is closed by the step
  have hclosed : ∀ hop' d', ((c.with_copy hop d input output copy).output hop' d').closed =
      (c.output hop' d').closed := by
    intro hop' d'
    by_cases heq : hop' = hop ∧ d' = d
    · obtain ⟨rfl, rfl⟩ := heq
      rw [houtput]
      exact Copy.step_closed hstep
    · exact (hother hop' d' heq).2.2.closed
  have hended : ∀ hop' d', (c.copy hop' d').ended = true →
      ((c.with_copy hop d input output copy).copy hop' d').ended = true := by
    intro hop' d' hend
    by_cases heq : hop' = hop ∧ d' = d
    · obtain ⟨rfl, rfl⟩ := heq
      rw [hrunning] at hend
      cases hend
    · rw [(hother hop' d' heq).1]
      exact hend
  refine ⟨fun hop' d' => ?_, fun hop' d' hc => ?_, fun hop' d' hjoin hc d'' => ?_,
    fun hop' d' hret => ?_⟩
  · by_cases heq : hop' = hop ∧ d' = d
    · obtain ⟨rfl, rfl⟩ := heq
      rw [hcopy, hinput, houtput]
      exact (h.carries hop' d').step hstep
    · obtain ⟨hsame, hfills, hdrains⟩ := hother hop' d' heq
      rw [hsame]
      exact ((h.carries hop' d').fills hfills).drains hdrains
  · rw [hclosed] at hc
    exact (h.closed hop' d' hc).imp (hended hop' d') (has_failed_with_copy hrunning)
  · rw [hclosed] at hc
    exact hended hop' d'' (h.join hop' d' hjoin hc d'')
  · rw [hclosed]
    exact h.returned hop' d' hret

end

/-! ### Closing -/

section

variable {hop : Hop} {d : Direction}

theorem close_output_own (hop : Hop) (d : Direction) (c : ProxiedConnection) :
    (c.close_output hop d).input hop d = c.input hop d ∧
      (c.close_output hop d).output hop d = (c.output hop d).close := by
  cases hop <;> cases d <;> exact ⟨rfl, rfl⟩

theorem close_output_other {hop' : Hop} {d' : Direction} (hne : ¬ (hop' = hop ∧ d' = d)) :
    (c.input hop' d').Fills ((c.close_output hop d).input hop' d') ∧
      (c.close_output hop d).output hop' d' = c.output hop' d' := by
  cases hop <;> cases d <;> cases hop' <;> cases d' <;>
    first
    | exact absurd ⟨rfl, rfl⟩ hne
    | exact ⟨Pipe.Fills.rfl, rfl⟩
    | exact ⟨Pipe.fills_close _, rfl⟩

theorem Sound.close_output (h : Sound client c)
    (hclosed : (c.copy hop d).ended = true ∨ c.has_failed hop = true)
    (hjoin : proxying client hop = .join → ∀ d', (c.copy hop d').ended = true) :
    Sound client (c.close_output hop d) := by
  -- where nothing is shut down, a stream is closed only once both copies have ended
  refine ⟨fun hop' d' => ?_, fun hop' d' hc => ?_, fun hop' d' hj hc => ?_, fun hop' d' hret => ?_⟩
  · by_cases heq : hop' = hop ∧ d' = d
    · obtain ⟨rfl, rfl⟩ := heq
      obtain ⟨hinput, houtput⟩ := close_output_own hop' d' c
      rw [hinput, houtput]
      exact (h.carries hop' d').close
    · obtain ⟨hfills, houtput⟩ := close_output_other (c := c) heq
      rw [houtput]
      exact (h.carries hop' d').fills hfills
  · by_cases heq : hop' = hop ∧ d' = d
    · obtain ⟨rfl, rfl⟩ := heq
      exact hclosed
    · rw [(close_output_other (c := c) heq).2] at hc
      exact h.closed hop' d' hc
  · by_cases heq : hop' = hop ∧ d' = d
    · obtain ⟨rfl, rfl⟩ := heq
      exact hjoin hj
    · rw [(close_output_other (c := c) heq).2] at hc
      exact h.join hop' d' hj hc
  · by_cases heq : hop' = hop ∧ d' = d
    · obtain ⟨rfl, rfl⟩ := heq
      rw [(close_output_own hop' d' c).2]
      rfl
    · rw [(close_output_other heq).2]
      exact h.returned hop' d' hret

theorem Sound.shutdown (h : Sound client c)
    (hshuts : c.shuts_down (proxying client hop) hop d = true) :
    Sound client (c.close_output hop d) := by
  cases hkind : proxying client hop with
  | join =>
    rw [hkind] at hshuts
    cases hshuts
  | tasks =>
    rw [hkind] at hshuts
    exact h.close_output (.inl hshuts) (fun hjoin => by rw [hkind] at hjoin; cases hjoin)
  | bidirectional =>
    rw [hkind] at hshuts
    have hdone : c.copy hop d = .done := by simpa [shuts_down] using hshuts
    exact h.close_output (.inl (by rw [hdone]; rfl))
      (fun hjoin => by rw [hkind] at hjoin; cases hjoin)

theorem Sound.through (h : Sound client c)
    (hthrough : c.is_through (proxying client hop) hop = true) (d : Direction) :
    (c.copy hop d).ended = true ∨ c.has_failed hop = true := by
  cases hkind : proxying client hop with
  | join =>
    rw [hkind] at hthrough
    have hboth := Bool.and_eq_true_iff.mp hthrough
    cases d with
    | client_to_target => exact .inl hboth.1
    | target_to_client => exact .inl hboth.2
  | tasks =>
    rw [hkind] at hthrough
    have hboth := Bool.and_eq_true_iff.mp hthrough
    cases d with
    | client_to_target => exact h.closed hop _ hboth.1
    | target_to_client => exact h.closed hop _ hboth.2
  | bidirectional =>
    rw [hkind] at hthrough
    rcases Bool.or_eq_true_iff.mp hthrough with hfailed | hclosed
    · exact .inr hfailed
    · have hboth := Bool.and_eq_true_iff.mp hclosed
      cases d with
      | client_to_target => exact h.closed hop _ hboth.1
      | target_to_client => exact h.closed hop _ hboth.2

theorem through_join (hjoin : proxying client hop = .join)
    (hthrough : c.is_through (proxying client hop) hop = true) (d : Direction) :
    (c.copy hop d).ended = true := by
  rw [hjoin] at hthrough
  have hboth := Bool.and_eq_true_iff.mp hthrough
  cases d with
  | client_to_target => exact hboth.1
  | target_to_client => exact hboth.2

theorem Sound.drop_streams (h : Sound client c)
    (hthrough : c.is_through (proxying client hop) hop = true) :
    Sound client { (c.close_output hop .client_to_target).close_output hop .target_to_client with
      returned := fun h => if h = hop then true else c.returned h } := by
  have hjoin : proxying client hop = .join → ∀ d, (c.copy hop d).ended = true :=
    fun hj => through_join hj hthrough
  have hfirst : Sound client (c.close_output hop .client_to_target) :=
    h.close_output (h.through hthrough _) hjoin
  have hboth : Sound client ((c.close_output hop .client_to_target).close_output hop
      .target_to_client) := hfirst.close_output (h.through hthrough .target_to_client) hjoin
  refine ⟨hboth.carries, hboth.closed, hboth.join, fun hop' d' hret => ?_⟩
  by_cases heq : hop' = hop
  · subst heq
    cases hop' <;> cases d' <;> rfl
  · have hret' : c.returned hop' = true := by simpa [heq] using hret
    exact hboth.returned hop' d' hret'

end

/-! ### Runs -/

theorem Sound.step (h : Sound client c) {i : ProxyStep} (hstep : c.step client window i = some c') :
    Sound client c' := by
  cases i with
  | send d bytes =>
    simp only [ProxiedConnection.step] at hstep
    split at hstep
    · rename_i hroom
      cases hstep
      exact h.set_source d (Pipe.fills_push hroom.1 bytes)
    · cases hstep
  | close d =>
    cases hstep
    exact h.set_source d (Pipe.fills_close _)
  | receive d n =>
    simp only [ProxiedConnection.step] at hstep
    split at hstep
    · cases hstep
      exact h.set_sink d (Pipe.drains_take _ n)
    · cases hstep
  | copy hop d i =>
    simp only [ProxiedConnection.step] at hstep
    split at hstep
    · rename_i hcopying
      split at hstep
      · rename_i input copy output hcopy
        cases hstep
        refine h.copy_step ?_ hcopy
        unfold is_copying at hcopying
        split at hcopying <;> simp_all
      · cases hstep
    · cases hstep
  | shutdown hop d =>
    simp only [ProxiedConnection.step] at hstep
    split at hstep
    · rename_i hshuts
      cases hstep
      exact h.shutdown hshuts.2.2
    · cases hstep
  | drop_streams hop =>
    simp only [ProxiedConnection.step] at hstep
    split at hstep
    · rename_i hthrough
      cases hstep
      exact h.drop_streams hthrough.2
    · cases hstep

theorem sound_run {steps : List ProxyStep} (hrun : run (step client window) new steps = some c) :
    Sound client c :=
  run_keeps (fun _ _ _ h hstep => h.step hstep) (Sound.new client) hrun

/-! ## What arrives -/

/-- What an end has sent in a direction, and what the other end has read of it. -/
def sent (c : ProxiedConnection) (d : Direction) : List UInt8 := (c.source d).put

def received (c : ProxiedConnection) (d : Direction) : List UInt8 := (c.sink d).taken

def Faultless (c : ProxiedConnection) : Prop := ∀ hop d, c.copy hop d ≠ .failed

theorem last_input (c : ProxiedConnection) (d : Direction) :
    c.input (last_hop d) d = c.output (first_hop d) d := by
  cases d <;> rfl

theorem first_or_last (hop : Hop) (d : Direction) : hop = first_hop d ∨ hop = last_hop d := by
  cases hop <;> cases d <;> decide

theorem Sound.received_prefix (h : Sound client c) (d : Direction) :
    c.received d <+: c.sent d := by
  have hlast := (h.carries (last_hop d) d).isPrefix
  have hfirst := (h.carries (first_hop d) d).isPrefix
  rw [last_input] at hlast
  calc c.received d <+: (c.sink d).put := List.prefix_append ..
    _ <+: (c.output (first_hop d) d).taken := hlast
    _ <+: (c.output (first_hop d) d).put := List.prefix_append ..
    _ <+: (c.source d).taken := hfirst
    _ <+: c.sent d := List.prefix_append ..

namespace Faultless

variable (hok : c.Faultless)

include hok

theorem not_has_failed (hop : Hop) : c.has_failed hop = false := by
  simp [has_failed, hok hop .client_to_target, hok hop .target_to_client]

theorem done_of_ended {hop : Hop} {d : Direction} (hended : (c.copy hop d).ended = true) :
    c.copy hop d = .done := by
  cases hcopy : c.copy hop d with
  | copying buf read_done =>
    rw [hcopy] at hended
    cases hended
  | done => rfl
  | failed => exact absurd hcopy (hok hop d)

theorem done_of_closed (h : Sound client c) {hop : Hop} {d : Direction}
    (hclosed : (c.output hop d).closed = true) : c.copy hop d = .done := by
  rcases h.closed hop d hclosed with hended | hfailed
  · exact hok.done_of_ended hended
  · rw [hok.not_has_failed hop] at hfailed
    cases hfailed

theorem source_of_done (h : Sound client c) {hop : Hop} {d : Direction}
    (hdone : c.copy hop d = .done) :
    (c.source d).closed = true ∧ (c.output hop d).put = c.sent d := by
  have hfirst : c.copy (first_hop d) d = .done →
      (c.source d).closed = true ∧ (c.output (first_hop d) d).put = c.sent d := by
    intro hcopy
    have hcarries := h.carries (first_hop d) d
    rw [hcopy] at hcarries
    obtain ⟨hput, hended⟩ := hcarries
    obtain ⟨hwaiting, hclosed⟩ := Pipe.ended_iff.mp hended
    exact ⟨hclosed, hput.trans (Pipe.put_of_waiting_nil hwaiting).symm⟩
  rcases first_or_last hop d with rfl | rfl
  · exact hfirst hdone
  · have hcarries := h.carries (last_hop d) d
    rw [hdone, last_input] at hcarries
    obtain ⟨hput, hended⟩ := hcarries
    obtain ⟨hwaiting, hclosed⟩ := Pipe.ended_iff.mp hended
    obtain ⟨hsource, hall⟩ := hfirst (hok.done_of_closed h hclosed)
    rw [Pipe.put_of_waiting_nil hwaiting] at hall
    exact ⟨hsource, hput.trans hall⟩

theorem both_closed (h : Sound client c) (hjoin : client = .join) {d : Direction}
    (hclosed : (c.sink d).closed = true) : (c.source d.other).closed = true := by
  -- where the client shuts nothing down, no end is told of a close before both have closed
  -- the client has closed its output of the direction, or the sink would not be closed
  have hclient : (c.output .client d).closed = true := by
    cases d with
    | target_to_client => exact hclosed
    | client_to_target =>
      have hcarries := h.carries (last_hop .client_to_target) .client_to_target
      rw [hok.done_of_closed h hclosed] at hcarries
      exact (Pipe.ended_iff.mp hcarries.2).2
  have hended := h.join .client d hjoin hclient d.other
  exact (hok.source_of_done h (hok.done_of_ended hended)).1

end Faultless

/-- **In order, and the end last.** What an end has read is the beginning of what the other one has
sent. -/
theorem proxied_in_order (client : Proxying) (window : Nat) {steps : List ProxyStep}
    (hrun : run (step client window) new steps = some c) (d : Direction) :
    c.received d <+: c.sent d ∧
      (c.Faultless → (c.sink d).closed = true →
        (c.sink d).put = c.sent d ∧ (c.source d).closed = true ∧
          (client = .proxy_local_to_remote → (c.source d.other).closed = true)) := by
  have h := sound_run hrun
  refine ⟨h.received_prefix d, fun hok hclosed => ?_⟩
  obtain ⟨hsource, hall⟩ := hok.source_of_done h (hok.done_of_closed h hclosed)
  exact ⟨hall, hsource, fun hjoin => hok.both_closed h hjoin hclosed⟩

theorem faultless_iff :
    c.Faultless ↔ c.has_failed .client = false ∧ c.has_failed .server = false := by
  refine ⟨fun hok => ⟨hok.not_has_failed .client, hok.not_has_failed .server⟩, fun h hop d => ?_⟩
  simp only [has_failed, Bool.or_eq_false_iff, decide_eq_false_iff_not] at h
  cases hop <;> cases d
  · exact h.1.1
  · exact h.1.2
  · exact h.2.1
  · exact h.2.2

/-- An application that sends a byte and closes, and a target that closes too. -/
def both_close : List ProxyStep :=
  [.send .client_to_target [71], .copy .client .client_to_target (.read 1),
    .close .client_to_target, .copy .client .client_to_target (.write 1),
    .copy .client .client_to_target .read_end, .copy .client .client_to_target .finish,
    .close .target_to_client, .copy .server .target_to_client .read_end,
    .copy .server .target_to_client .finish, .shutdown .server .target_to_client,
    .copy .client .target_to_client .read_end, .copy .client .target_to_client .finish,
    .drop_streams .client, .copy .server .client_to_target (.read 1),
    .copy .server .client_to_target (.write 1), .copy .server .client_to_target .read_end,
    .copy .server .client_to_target .finish, .shutdown .server .client_to_target]

theorem proxied_in_order_both_close :
    ∃ c, run (step .proxy_local_to_remote 1) new both_close = some c ∧ c.Faultless ∧
      c.received .client_to_target <+: c.sent .client_to_target ∧
      (c.sink .client_to_target).closed = true ∧ (c.sink .client_to_target).put = [71] := by
  obtain ⟨c, hrun, hshows⟩ := Option.map_eq_some_iff.mp (show
    (run (step .proxy_local_to_remote 1) new both_close).map (fun c =>
      (c.has_failed .client, c.has_failed .server, c.sent .client_to_target,
        (c.sink .client_to_target).closed)) = some (false, false, [71], true) by decide +kernel)
  simp only [Prod.mk.injEq] at hshows
  obtain ⟨hclient, hserver, hsent, hclosed⟩ := hshows
  have hok : c.Faultless := faultless_iff.mpr ⟨hclient, hserver⟩
  obtain ⟨hbefore, hend⟩ := proxied_in_order .proxy_local_to_remote 1 hrun .client_to_target
  exact ⟨c, hrun, hok, hbefore, hclosed, (hend hok hclosed).1.trans hsent⟩

/-! ## Connections that have come to rest -/

/-- Steps that the hops take by themselves, and reads. -/
def moves : ProxyStep → Bool
  | .send _ _ => false
  | .close _ => false
  | .copy _ _ .fail => false
  | _ => true

/-- Nothing moves unless an end sends or closes, or a stream fails. -/
def Quiet (client : Proxying) (window : Nat) (c : ProxiedConnection) : Prop :=
  ∀ i, moves i = true → c.step client window i = none

/-- The copy has nothing to read and nothing to write. -/
def is_idle (c : ProxiedConnection) (hop : Hop) (d : Direction) : Bool :=
  match c.copy hop d with
  | .copying buf read_done =>
    buf.isEmpty && !read_done && (c.input hop d).waiting.isEmpty && !(c.input hop d).closed
  | _ => true

/-- A check that a connection is at rest. -/
def is_resting (client : Proxying) (c : ProxiedConnection) : Bool :=
  [Direction.client_to_target, .target_to_client].all fun d =>
    (c.sink d).waiting.isEmpty && [Hop.client, .server].all fun hop =>
      c.is_idle hop d && !c.shuts_down (proxying client hop) hop d &&
        !c.is_through (proxying client hop) hop

theorem quiet_of_is_resting (h : c.is_resting client = true) : c.Quiet client window := by
  have hall : ∀ d, (c.sink d).waiting = [] ∧ ∀ hop, c.is_idle hop d = true ∧
      c.shuts_down (proxying client hop) hop d = false ∧
      c.is_through (proxying client hop) hop = false := by
    simp only [is_resting, List.all_cons, List.all_nil, Bool.and_true, Bool.and_eq_true,
      List.isEmpty_iff, Bool.not_eq_eq_eq_not, Bool.not_true] at h
    intro d
    cases d with
    | client_to_target =>
      refine ⟨h.1.1, fun hop => ?_⟩
      cases hop with
      | client => exact ⟨h.1.2.1.1.1, h.1.2.1.1.2, h.1.2.1.2⟩
      | server => exact ⟨h.1.2.2.1.1, h.1.2.2.1.2, h.1.2.2.2⟩
    | target_to_client =>
      refine ⟨h.2.1, fun hop => ?_⟩
      cases hop with
      | client => exact ⟨h.2.2.1.1.1, h.2.2.1.1.2, h.2.2.1.2⟩
      | server => exact ⟨h.2.2.2.1.1, h.2.2.2.1.2, h.2.2.2.2⟩
  intro i hmoves
  cases i with
  | send d bytes => cases hmoves
  | close d => cases hmoves
  | receive d n =>
    simp [step, (hall d).1]
    omega
  | copy hop d i =>
    have hnone : (c.copy hop d).step COPY_CAPACITY window (c.input hop d) (c.output hop d) i =
        none := by
      have hidle := ((hall d).2 hop).1
      unfold is_idle at hidle
      split at hidle
      · rename_i buf read_done hcopy
        simp only [Bool.and_eq_true, List.isEmpty_iff, Bool.not_eq_eq_eq_not, Bool.not_true]
          at hidle
        obtain ⟨⟨⟨rfl, rfl⟩, hwaiting⟩, hopen⟩ := hidle
        rw [hcopy]
        exact Copy.step_of_waiting hwaiting hopen (by rintro rfl; cases hmoves)
      · rename_i hended
        cases hcopy : c.copy hop d with
        | copying buf read_done => exact absurd hcopy (hended buf read_done)
        | done => cases i <;> rfl
        | failed => cases i <;> rfl
    simp [step, hnone]
  | shutdown hop d => simp [step, ((hall d).2 hop).2.1]
  | drop_streams hop => simp [step, ((hall .client_to_target).2 hop).2.2]

section

variable (h : Sound client c) (hok : c.Faultless) (hquiet : c.Quiet client window)

include hquiet in
theorem Quiet.sink_read (d : Direction) : (c.sink d).waiting = [] := by
  by_contra hne
  have hnone := hquiet (.receive d (c.sink d).waiting.length) rfl
  simp [step, List.length_pos_iff.mpr hne] at hnone

include h hok in
theorem Sound.not_returned {hop : Hop} {d : Direction} (hended : (c.copy hop d).ended = false) :
    c.returned hop = false := by
  by_contra hne
  have hclosed := h.returned hop d (by simpa using hne)
  rw [hok.done_of_closed h hclosed] at hended
  cases hended

include h hok hquiet in
theorem Quiet.idle_of_read (hwindow : 0 < window) {hop : Hop} {d : Direction}
    (hread : (c.output hop d).waiting = []) :
    (c.input hop d).waiting = [] ∧ (c.output hop d).put = (c.input hop d).put ∧
      (c.copy hop d = .done ↔ (c.input hop d).closed = true) := by
  have hcapacity : 0 < COPY_CAPACITY := by decide
  refine (h.carries hop d).idle hcapacity hwindow (hok hop d) hread
    (fun hended => ?_) (fun hended i hi => ?_)
  · by_contra hne
    rw [hok.done_of_closed h (by simpa using hne)] at hended
    cases hended
  · have hnone := hquiet (.copy hop d i) (by cases i <;> first | rfl | exact absurd rfl hi)
    have hcopying : c.is_copying (proxying client hop) hop = true := by
      unfold is_copying
      rw [h.not_returned hok hended, hok.not_has_failed hop]
      split <;> rfl
    simp only [step, hcopying, if_true] at hnone
    split at hnone
    · cases hnone
    · assumption

include h hok hquiet in
theorem Quiet.idle (hwindow : 0 < window) (hop : Hop) (d : Direction) :
    (c.output hop d).waiting = [] ∧ (c.output hop d).put = (c.input hop d).put ∧
      (c.copy hop d = .done ↔ (c.input hop d).closed = true) := by
  have hlast := Quiet.idle_of_read h hok hquiet hwindow (hquiet.sink_read d)
  rcases first_or_last hop d with rfl | rfl
  · have hread : (c.output (first_hop d) d).waiting = [] := last_input c d ▸ hlast.1
    exact ⟨hread, (Quiet.idle_of_read h hok hquiet hwindow hread).2⟩
  · exact ⟨hquiet.sink_read d, hlast.2⟩

include h hquiet in
theorem Quiet.shut (hop : Hop) {d : Direction} (hkind : proxying client hop ≠ .join)
    (hdone : c.copy hop d = .done) : (c.output hop d).closed = true := by
  by_contra hne
  have hopen : (c.output hop d).closed = false := by simpa using hne
  have hreturned : c.returned hop = false := by
    by_contra hret
    exact hne (h.returned hop d (by simpa using hret))
  have hshuts : c.shuts_down (proxying client hop) hop d = true := by
    unfold shuts_down
    split
    · rename_i hjoin
      exact absurd hjoin hkind
    · rw [hdone]
      rfl
    · rw [hdone]
      rfl
  have hnone := hquiet (.shutdown hop d) rfl
  simp [step, hopen, hreturned, hshuts] at hnone

include h hquiet in
theorem Quiet.dropped (hop : Hop) (hkind : proxying client hop = .join)
    (hdone : ∀ d, c.copy hop d = .done) (d : Direction) : (c.output hop d).closed = true := by
  refine h.returned hop d ?_
  by_contra hret
  have hthrough : c.is_through (proxying client hop) hop = true := by
    rw [hkind]
    unfold is_through
    rw [hdone, hdone]
    rfl
  have hnone := hquiet (.drop_streams hop) rfl
  simp [step, hthrough, hret] at hnone

include h hok hquiet in
theorem Quiet.client_closed (hwindow : 0 < window) {d : Direction}
    (hclosed : (c.source d).closed = true)
    (hboth : client = .join → (c.source d.other).closed = true) :
    (c.output .client d).closed = true := by
  have hidle := Quiet.idle h hok hquiet hwindow
  -- the server shuts down what it is done with, so the client gets to the end of both directions
  have hdone : ∀ d', (c.source d').closed = true → c.copy .client d' = .done := by
    intro d' hsource
    cases d' with
    | client_to_target => exact (hidle .client .client_to_target).2.2.mpr hsource
    | target_to_client =>
      have hserver := (hidle .server .target_to_client).2.2.mpr hsource
      have hshut := Quiet.shut h hquiet .server nofun hserver
      exact (hidle .client .target_to_client).2.2.mpr hshut
  by_cases hjoin : client = .join
  · refine Quiet.dropped h hquiet .client hjoin (fun d' => ?_) d
    cases d <;> cases d' <;> first | exact hdone _ hclosed | exact hdone _ (hboth hjoin)
  · exact Quiet.shut h hquiet .client hjoin (hdone d hclosed)

end

/-- **At rest, everything has arrived,** but not the end if `proxy_local_to_remote` still has an
open side. -/
theorem proxied_at_rest (client : Proxying) {window : Nat} (hwindow : 0 < window)
    {steps : List ProxyStep} (hrun : run (step client window) new steps = some c)
    (hok : c.Faultless) (hquiet : c.Quiet client window) (d : Direction) :
    c.received d = c.sent d ∧
      ((c.sink d).closed = true ↔ (c.source d).closed = true ∧
        (client = .proxy_local_to_remote → (c.source d.other).closed = true)) := by
  have h := sound_run hrun
  have hidle := Quiet.idle h hok hquiet hwindow
  refine ⟨?_, fun hclosed => ?_, fun ⟨hclosed, hboth⟩ => ?_⟩
  · calc c.received d = (c.sink d).put := (Pipe.put_of_waiting_nil (hquiet.sink_read d)).symm
      _ = (c.input (last_hop d) d).put := (hidle (last_hop d) d).2.1
      _ = (c.output (first_hop d) d).put := by rw [last_input]
      _ = c.sent d := (hidle (first_hop d) d).2.1
  · obtain ⟨hsource, -⟩ := hok.source_of_done h (hok.done_of_closed h hclosed)
    exact ⟨hsource, fun hjoin => hok.both_closed h hjoin hclosed⟩
  · have hclient := Quiet.client_closed h hok hquiet hwindow hclosed hboth
    cases d with
    | target_to_client => exact hclient
    | client_to_target =>
      exact Quiet.shut h hquiet .server nofun
        ((hidle .server .client_to_target).2.2.mpr hclient)

/-- An application that sends a byte and closes its side, and a target that waits for the end. -/
def half_closed : List ProxyStep :=
  [.send .client_to_target [71], .close .client_to_target,
    .copy .client .client_to_target (.read 1), .copy .client .client_to_target (.write 1),
    .copy .client .client_to_target .read_end, .copy .client .client_to_target .finish,
    .copy .server .client_to_target (.read 1), .copy .server .client_to_target (.write 1),
    .receive .client_to_target 1]

/-- The target has the byte and is never told that it was the last one. -/
theorem proxied_at_rest_half_closed :
    ∃ c, run (step .proxy_local_to_remote 1) new half_closed = some c ∧ c.Faultless ∧
      c.Quiet .proxy_local_to_remote 1 ∧ c.received .client_to_target = [71] ∧
      (c.source .client_to_target).closed = true ∧ (c.sink .client_to_target).closed ≠ true := by
  obtain ⟨c, hrun, hshows⟩ := Option.map_eq_some_iff.mp (show
    (run (step .proxy_local_to_remote 1) new half_closed).map (fun c =>
      (c.has_failed .client, c.has_failed .server, c.is_resting .proxy_local_to_remote,
        c.sent .client_to_target, (c.source .client_to_target).closed,
        (c.source .target_to_client).closed)) = some (false, false, true, [71], true, false) by
      decide +kernel)
  simp only [Prod.mk.injEq] at hshows
  obtain ⟨hclient, hserver, hresting, hsent, hclosed, hopen⟩ := hshows
  have hok : c.Faultless := faultless_iff.mpr ⟨hclient, hserver⟩
  have hquiet : c.Quiet .proxy_local_to_remote 1 := quiet_of_is_resting hresting
  obtain ⟨hall, hend⟩ :=
    proxied_at_rest .proxy_local_to_remote Nat.one_pos hrun hok hquiet .client_to_target
  refine ⟨c, hrun, hok, hquiet, hall.trans hsent, hclosed, fun hsink => ?_⟩
  have hother := (hend.mp hsink).2 rfl
  rw [show (Direction.client_to_target).other = .target_to_client from rfl, hopen] at hother
  cases hother

end ProxiedConnection

end Alknet
