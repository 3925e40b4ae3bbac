import Alknet.Client.ForwardSpec
import Alknet.Code.Client.Start
import Alknet.Rust.NetRoundTrip

/-!
# How a client starts

With which flags, and against which server. A remote forward does not start with a server of this
repository.
-/

open Alknet.Rust

namespace Alknet

variable {IpNetwork : Type} [Network IpNetwork]

theorem peer_refuses_forwards (peer : PeerHandler IpNetwork) (spec : PortForwardSpec) :
    peer.accepts spec.request = false := by
  cases peer <;> rfl

theorem with_addr_to_string {ε : Type} {text : String} {addr : SocketAddr}
    (h : SocketAddr.from_str text = some addr) :
    Socks5Server.with_addr addr.to_string = (.ok addr : Outcome ε SocketAddr) := by
  unfold Socks5Server.with_addr
  rw [SocketAddr.from_str_to_string h]

theorem build_remote_specs_eq_ok {remote_forwards : List String} {specs : List PortForwardSpec} :
    build_remote_specs remote_forwards = .ok specs ↔
      List.Forall₂ (fun text spec => PortForwardSpec.remote text = .ok spec) remote_forwards
        specs := by
  rw [build_remote_specs, mapM_eq_ok]
  refine iff_of_eq (congrArg (fun R => List.Forall₂ R remote_forwards specs) ?_)
  funext text spec
  cases PortForwardSpec.remote text <;> simp

/-- The other end takes these forwards, one after the other. -/
def TakesAll (accepts : List SessionRequest → SessionRequest → Bool) (asked : List SessionRequest) :
    List PortForwardSpec → Prop
  | [] => True
  | spec :: specs =>
    accepts asked spec.request = true ∧ TakesAll accepts (asked ++ [spec.request]) specs

section

variable {accepts : List SessionRequest → SessionRequest → Bool} {asked : List SessionRequest}

theorem takesAll_append {specs more : List PortForwardSpec} :
    TakesAll accepts asked (specs ++ more) ↔ TakesAll accepts asked specs ∧
      TakesAll accepts (asked ++ specs.map PortForwardSpec.request) more := by
  induction specs generalizing asked with
  | nil => simp [TakesAll]
  | cons spec specs ih =>
    rw [List.cons_append, TakesAll, TakesAll, ih, and_assoc, List.map_cons, List.append_assoc]
    rfl

theorem register_forwards_spec (accepts : List SessionRequest → SessionRequest → Bool)
    (asked : List SessionRequest) {specs : List PortForwardSpec}
    (hremote : ∀ spec ∈ specs, spec.kind = .Remote) :
    (TakesAll accepts asked specs ∧ register_forwards accepts asked specs =
        (.ok (), asked ++ specs.map PortForwardSpec.request)) ∨
      ∃ taken spec after, specs = taken ++ spec :: after ∧ TakesAll accepts asked taken ∧
        accepts (asked ++ taken.map PortForwardSpec.request) spec.request = false ∧
        register_forwards accepts asked specs =
          (.error .ForwardFailed, asked ++ (taken ++ [spec]).map PortForwardSpec.request) := by
  induction specs generalizing asked with
  | nil => exact .inl ⟨trivial, by rw [List.map_nil, List.append_nil]; rfl⟩
  | cons spec specs ih =>
    obtain ⟨hkind, hrest⟩ := List.forall_mem_cons.mp hremote
    have hnew : RemoteForwarder.new spec = .ok spec := if_neg (not_not.mpr hkind)
    unfold register_forwards
    rw [hnew]
    by_cases haccepts : accepts asked spec.request = true
    · simp only [haccepts, if_true]
      rcases ih (asked ++ [spec.request]) hrest with
        ⟨hall, heq⟩ | ⟨taken, refused, after, rfl, htaken, hrefused, heq⟩
      · refine .inl ⟨⟨haccepts, hall⟩, ?_⟩
        rw [heq, List.append_assoc]
        rfl
      · rw [List.append_assoc] at hrefused heq
        exact .inr ⟨spec :: taken, refused, after, rfl, ⟨haccepts, htaken⟩, hrefused, heq⟩
    · simp only [haccepts, Bool.false_eq_true, if_false]
      refine .inr ⟨[], spec, specs, rfl, trivial, ?_, rfl⟩
      rw [List.map_nil, List.append_nil]
      exact Bool.eq_false_iff.mpr haccepts

end

/-- The flags are well formed, and stand for this. -/
structure ClientFlags.Reads (opts : ClientFlags) (started : ClientStarted) : Prop where
  socks5 : SocketAddr.from_str opts.socks5_addr = some started.socks5_listen
  locals : List.Forall₂ (fun text forwarder => PortForwardSpec.local text = .ok forwarder.spec ∧
    forwarder.listener = none) opts.forwards started.local_forwarders
  remotes : List.Forall₂ (fun text spec => PortForwardSpec.remote text = .ok spec)
    opts.remote_forwards started.remote_specs

theorem kinds_of_remote {texts : List String} {specs : List PortForwardSpec}
    (h : List.Forall₂ (fun text spec => PortForwardSpec.remote text = .ok spec) texts specs) :
    ∀ spec ∈ specs, spec.kind = .Remote := by
  induction h with
  | nil => exact nofun
  | cons hspec _ ih => exact List.forall_mem_cons.mpr ⟨kind_of_ok hspec, ih⟩

theorem ClientFlags.Reads.unique {opts : ClientFlags} {started other : ClientStarted}
    (h : opts.Reads started) (h' : opts.Reads other) : other = started := by
  have hlisten := Option.some.inj (h'.socks5.symm.trans h.socks5)
  have hlocals := Except.ok.inj ((build_local_forwarders_eq_ok.mpr h'.locals).symm.trans
    (build_local_forwarders_eq_ok.mpr h.locals))
  have hremotes := Except.ok.inj ((build_remote_specs_eq_ok.mpr h'.remotes).symm.trans
    (build_remote_specs_eq_ok.mpr h.remotes))
  obtain ⟨listen, local_forwarders, remote_specs⟩ := started
  obtain ⟨_, _, _⟩ := other
  cases hlisten
  cases hlocals
  cases hremotes
  rfl

section

variable (accepts : List SessionRequest → SessionRequest → Bool) {opts : ClientFlags}

theorem start_of_reads {started : ClientStarted} (h : opts.Reads started) :
    ClientSession.start accepts opts =
      ((ofResult (register_forwards accepts [] started.remote_specs).1).map fun _ => started,
        (register_forwards accepts [] started.remote_specs).2) := by
  obtain ⟨listen, local_forwarders, remote_specs⟩ := started
  unfold ClientSession.start
  rw [h.socks5]
  simp only [with_addr_to_string h.socks5, build_local_forwarders_eq_ok.mpr h.locals,
    build_remote_specs_eq_ok.mpr h.remotes]
  rcases register_forwards accepts [] remote_specs with ⟨e | u, asked⟩ <;> rfl

theorem start_of_malformed (h : ∀ started, ¬ opts.Reads started) :
    ∃ e, ClientSession.start accepts opts = (.error (.err e), []) := by
  unfold ClientSession.start
  cases hsocks5 : SocketAddr.from_str opts.socks5_addr with
  | none => exact ⟨_, rfl⟩
  | some addr =>
    simp only [with_addr_to_string hsocks5]
    cases hlocals : build_local_forwarders opts.forwards with
    | error e => exact ⟨e, rfl⟩
    | ok local_forwarders =>
      cases hremotes : build_remote_specs opts.remote_forwards with
      | error e => exact ⟨e, rfl⟩
      | ok remote_specs =>
        exact absurd ⟨hsocks5, build_local_forwarders_eq_ok.mp hlocals,
          build_remote_specs_eq_ok.mp hremotes⟩ (h ⟨addr, local_forwarders, remote_specs⟩)

end

/-- **Starting a client** succeeds if and only if the flags are well formed and the other end takes
all remote forwards. -/
theorem client_start (accepts : List SessionRequest → SessionRequest → Bool) (opts : ClientFlags) :
    Returns (ClientSession.start accepts opts).1 ∧
    (∀ started, (ClientSession.start accepts opts).1 = .ok started ↔
      opts.Reads started ∧ TakesAll accepts [] started.remote_specs) ∧
    ((∀ started, ¬ opts.Reads started) → (ClientSession.start accepts opts).2 = []) ∧
    (∀ started, opts.Reads started → ∃ taken, TakesAll accepts [] taken ∧
      (taken = started.remote_specs ∧
          (ClientSession.start accepts opts).2 = taken.map PortForwardSpec.request ∨
        ∃ spec, taken ++ [spec] <+: started.remote_specs ∧
          accepts (taken.map PortForwardSpec.request) spec.request = false ∧
          (ClientSession.start accepts opts).2 =
            (taken ++ [spec]).map PortForwardSpec.request)) ∧
    ((∀ asked request, ∃ peer : PeerHandler IpNetwork, accepts asked request =
        peer.accepts request) → opts.remote_forwards ≠ [] →
      ∃ e, (ClientSession.start accepts opts).1 = .error (.err e)) := by
  by_cases hreads : ∃ started, opts.Reads started
  · obtain ⟨started, hreads⟩ := hreads
    rw [start_of_reads accepts hreads]
    rcases register_forwards_spec accepts []
      (kinds_of_remote hreads.remotes) with
      ⟨hall, heq⟩ | ⟨taken, spec, after, hspecs, htaken, hrefused, heq⟩
    · rw [heq, List.nil_append]
      refine ⟨returns_ok started, fun other => ⟨?_, ?_⟩, fun hnone => absurd hreads (hnone started),
        fun other hother => ⟨started.remote_specs, hall, .inl ⟨?_, rfl⟩⟩, fun hpeer hsome => ?_⟩
      · rintro ⟨⟩
        exact ⟨hreads, hall⟩
      · rintro ⟨hother, -⟩
        rw [hreads.unique hother]
        rfl
      · rw [hreads.unique hother]
      · -- a server of this repository accepts none, so there are none
        cases hspecs : started.remote_specs with
        | nil =>
          have hremotes := hreads.remotes
          rw [hspecs, List.forall₂_nil_right_iff] at hremotes
          exact absurd hremotes hsome
        | cons spec specs =>
          rw [hspecs] at hall
          obtain ⟨peer, hanswer⟩ := hpeer [] spec.request
          rw [peer_refuses_forwards] at hanswer
          exact absurd (hall.1.symm.trans hanswer) Bool.false_ne_true.symm
    · rw [heq, List.nil_append]
      refine ⟨returns_err _, fun other => ⟨nofun, ?_⟩, fun hnone => absurd hreads (hnone started),
        fun other hother => ⟨taken, htaken, .inr ⟨spec, ?_, hrefused, rfl⟩⟩, fun _ _ => ⟨_, rfl⟩⟩
      · rintro ⟨hother, hall⟩
        rw [hreads.unique hother, hspecs, takesAll_append] at hall
        exact absurd (hall.2.1.symm.trans hrefused) Bool.false_ne_true.symm
      · rw [hreads.unique hother, hspecs]
        exact ⟨after, by simp⟩
  · have hnone : ∀ started, ¬ opts.Reads started := not_exists.mp hreads
    obtain ⟨e, heq⟩ := start_of_malformed accepts hnone
    rw [heq]
    exact ⟨returns_err e, fun started => ⟨nofun, fun h => absurd h.1 (hnone started)⟩, fun _ => rfl,
      fun started h => absurd h (hnone started), fun _ _ => ⟨e, rfl⟩⟩

end Alknet
