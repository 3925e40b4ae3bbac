import Alknet.Auth.Keys
import Alknet.Code.Napi.AcceptLoop
import Alknet.Lib.Run
import Alknet.Server.Channels
import Alknet.Server.PublicKey
import Alknet.Server.RateLimit

/-!
# What Node.js gets of the channels

Over every interleaving of connections, requests, the tasks of the connections and the calls from
Node.js. Each channel to a reserved host comes to the registered function once, and in the order in
which its connection opened them, except for those whose turn came before the first registration.
Closing the server ends the accept loop and nothing else.
-/

open Alknet.Rust Alknet.Lib

namespace Alknet

variable {KeyData IpNetwork : Type}

/-! ## Histories -/

def NapiStep.registers (last : Option Nat) : NapiStep KeyData IpNetwork → Option Nat
  | .on_connection callback => some callback
  | _ => last

/-- The function that Node.js registered last. -/
def registered (steps : List (NapiStep KeyData IpNetwork)) : Option Nat :=
  steps.foldl NapiStep.registers none

def NapiStep.reloaded (config : DynamicConfig KeyData IpNetwork) :
    NapiStep KeyData IpNetwork → DynamicConfig KeyData IpNetwork
  | .reload new_config => new_config
  | _ => config

/-- The configuration after some steps. -/
def config_after (config : DynamicConfig KeyData IpNetwork)
    (steps : List (NapiStep KeyData IpNetwork)) : DynamicConfig KeyData IpNetwork :=
  steps.foldl NapiStep.reloaded config

def NapiStep.is_accept : NapiStep KeyData IpNetwork → Bool
  | .accept _ => true
  | _ => false

def NapiStep.is_request : NapiStep KeyData IpNetwork → Bool
  | .request _ _ => true
  | _ => false

/-- A step of a session or of its task. -/
def NapiStep.of_session : NapiStep KeyData IpNetwork → Bool
  | .set_up _ | .set_up_failed _ | .auth_publickey _ _ | .request _ _ | .end_session _
  | .receive _ | .call _ => true
  | _ => false

/-- How many requests there were. -/
def requests (steps : List (NapiStep KeyData IpNetwork)) : Nat := steps.countP NapiStep.is_request

theorem registered_snoc (steps : List (NapiStep KeyData IpNetwork))
    (i : NapiStep KeyData IpNetwork) :
    registered (steps ++ [i]) = i.registers (registered steps) := by
  unfold registered
  rw [List.foldl_append]
  rfl

theorem config_after_snoc (config : DynamicConfig KeyData IpNetwork)
    (steps : List (NapiStep KeyData IpNetwork)) (i : NapiStep KeyData IpNetwork) :
    config_after config (steps ++ [i]) = i.reloaded (config_after config steps) := by
  unfold config_after
  rw [List.foldl_append]
  rfl

theorem requests_snoc (steps : List (NapiStep KeyData IpNetwork))
    (i : NapiStep KeyData IpNetwork) :
    requests (steps ++ [i]) = requests steps + if i.is_request then 1 else 0 := by
  unfold requests
  rw [List.countP_append, List.countP_singleton]

theorem registered_stays {before : List (NapiStep KeyData IpNetwork)}
    (h : (registered before).isSome) (after : List (NapiStep KeyData IpNetwork)) :
    (registered (before ++ after)).isSome := by
  induction after using List.reverseRecOn with
  | nil => rwa [List.append_nil]
  | append_singleton after i ih =>
    rw [← List.append_assoc, registered_snoc]
    cases i with
    | on_connection callback => rfl
    | _ => exact ih

/-- The channel was opened before any function was registered. -/
def Early (steps : List (NapiStep KeyData IpNetwork)) (channel : Nat) : Prop :=
  ∀ before callback after, steps = before ++ .on_connection callback :: after →
    channel < requests before

theorem early_of_unregistered {steps : List (NapiStep KeyData IpNetwork)}
    (h : registered steps = none) (channel : Nat) : Early steps channel := by
  rintro before callback after rfl
  have hlast : (registered (before ++ [.on_connection callback])).isSome := by
    rw [registered_snoc]
    rfl
  have hsome := registered_stays hlast after
  rw [List.append_assoc, List.singleton_append, h] at hsome
  cases hsome

theorem Early.snoc {steps : List (NapiStep KeyData IpNetwork)} {channel : Nat}
    (h : Early steps channel) (hopened : channel < requests steps)
    (i : NapiStep KeyData IpNetwork) : Early (steps ++ [i]) channel := by
  intro before callback after hsteps
  rcases List.eq_nil_or_concat after with rfl | ⟨after', j, rfl⟩
  · -- the registration is the last step
    obtain ⟨rfl, -⟩ := List.append_inj' hsteps rfl
    exact hopened
  · rw [List.concat_eq_append, ← List.cons_append, ← List.append_assoc] at hsteps
    exact h before callback after' (List.append_inj' hsteps rfl).1

/-! ## Channels -/

/-- A channel to a reserved host. -/
def SessionRequest.is_reserved : SessionRequest → Bool
  | .direct_tcpip host _ => starts_with host ALKNET_PREFIX
  | _ => false

/-- The channels to reserved hosts that a session asked for. -/
def offered (i : Nat) (answers : List RelayAnswer) : List Nat :=
  answers.zipIdx.filterMap fun (answer, channel) =>
    if answer.session = i ∧ answer.request.is_reserved then some channel else none

theorem offered_snoc (i : Nat) (answers : List RelayAnswer) (answer : RelayAnswer) :
    offered i (answers ++ [answer]) = offered i answers ++
      if answer.session = i ∧ answer.request.is_reserved then [answers.length] else [] := by
  unfold offered
  rw [List.zipIdx_append, List.filterMap_append]
  by_cases h : answer.session = i ∧ answer.request.is_reserved = true
  · simp [h]
  · simp [h]

theorem offered_spec {i : Nat} {answers : List RelayAnswer} {channel : Nat}
    (h : channel ∈ offered i answers) : ∃ answer, answers[channel]? = some answer ∧
      answer.session = i ∧ answer.request.is_reserved = true := by
  obtain ⟨⟨answer, c⟩, hmem, hsome⟩ := List.mem_filterMap.mp h
  by_cases hmine : answer.session = i ∧ answer.request.is_reserved = true
  · simp only [hmine, and_self, if_true, Option.some.injEq] at hsome
    subst hsome
    exact ⟨answer, List.mk_mem_zipIdx_iff_getElem?.mp hmem, hmine⟩
  · simp [hmine] at hsome

theorem offered_lt {i : Nat} {answers : List RelayAnswer} {channel : Nat}
    (h : channel ∈ offered i answers) : channel < answers.length := by
  obtain ⟨answer, hanswer, -⟩ := offered_spec h
  exact (List.getElem?_eq_some_iff.mp hanswer).1

/-- The channels of a session that came to a registered function. -/
def called_for (i : Nat) (events : List ConnectionEvent) : List Nat :=
  (events.filter (·.session = i)).map (·.channel)

theorem called_for_append (i : Nat) (events events' : List ConnectionEvent) :
    called_for i (events ++ events') = called_for i events ++ called_for i events' := by
  simp [called_for]

def NapiTask.held : NapiTask → List Nat
  | .calling channel => [channel]
  | _ => []

/-- The channels of a session that are on their way. -/
def NapiSession.pending (session : NapiSession) : List Nat := session.task.held ++ session.queue

theorem offered_eq_nil {i : Nat} {answers : List RelayAnswer}
    (h : ∀ answer ∈ answers, answer.session ≠ i) : offered i answers = [] := by
  refine List.eq_nil_iff_forall_not_mem.mpr fun channel hmem => ?_
  obtain ⟨answer, hanswer, hsession, -⟩ := offered_spec hmem
  exact h answer (List.mem_of_getElem? hanswer) hsession

theorem called_for_eq_nil {i : Nat} {events : List ConnectionEvent}
    (h : ∀ event ∈ events, event.session ≠ i) : called_for i events = [] := by
  unfold called_for
  rw [List.filter_eq_nil_iff.mpr fun event hmem => by simpa using h event hmem]
  rfl

namespace NapiServing

variable {s s' : NapiServing KeyData IpNetwork}

theorem info_set {i j : Nat} {session session' : NapiSession} {info : ConnectionInfo}
    (hsession : s.sessions[i]? = some session) (hkeeps : session'.info = session.info)
    (h : (s.sessions.map (·.info))[j]? = some info) :
    ((s.sessions.set i session').map (·.info))[j]? = some info := by
  rw [map_set_eq hsession hkeeps]
  exact h

section

variable [SshKey KeyData] {config : DynamicConfig KeyData IpNetwork}
  {transport : TransportKind} {steps : List (NapiStep KeyData IpNetwork)}

/-! ## The invariant -/

/-- The session presented a key when the configuration had it. -/
def GotIn (config : DynamicConfig KeyData IpNetwork) (steps : List (NapiStep KeyData IpNetwork))
    (i : Nat) : Prop :=
  Happened (fun before j => ∃ key, j = .auth_publickey i key ∧
    SshKey.fingerprint key ∈ (config_after config before).auth.fingerprint_to_key) steps

/-- What a session has to do with the steps so far, the answers and the calls. -/
structure Accounted (config : DynamicConfig KeyData IpNetwork) (transport : TransportKind)
    (steps : List (NapiStep KeyData IpNetwork)) (answers : List RelayAnswer)
    (events : List ConnectionEvent) (i : Nat) (session : NapiSession) : Prop where
  info : session.info =
    ⟨session.connection.remote_addr.map SocketAddr.to_string, transport.to_string⟩
  entered : session.authenticated = true → GotIn config steps i ∧ session.task ≠ .setup
  idle : session.task = .setup ∨ session.task = .finished → session.queue = []
  finished : session.task = .finished → session.ended = true
  channels : ∃ lost, offered i answers = lost ++ called_for i events ++ session.pending ∧
    ∀ channel ∈ lost, Early steps channel

/-- What the state has to do with the steps that led to it. -/
structure Served (config : DynamicConfig KeyData IpNetwork) (transport : TransportKind)
    (steps : List (NapiStep KeyData IpNetwork)) (s : NapiServing KeyData IpNetwork) : Prop where
  kind : s.transport_kind = transport
  dynamic : s.dynamic = config_after config steps
  callback : s.on_connection_tsfn = registered steps
  requests : s.answers.length = requests steps
  sessions : ∀ i session, s.sessions[i]? = some session →
    Accounted config transport steps s.answers s.events i session
  answers : ∀ answer ∈ s.answers, answer.session < s.sessions.length ∧
    GotIn config steps answer.session ∧
    (answer.request.is_reserved = true → answer.accepted = true)
  events : ∀ event ∈ s.events, (s.sessions.map (·.info))[event.session]? = some event.info ∧
    Happened (fun before i => i = .call event.session ∧ registered before = some event.callback)
      steps

theorem Accounted.later {answers : List RelayAnswer} {events : List ConnectionEvent} {i : Nat}
    {session : NapiSession} (h : Accounted config transport steps answers events i session)
    (hrequests : answers.length = requests steps) (j : NapiStep KeyData IpNetwork) :
    Accounted config transport (steps ++ [j]) answers events i session where
  info := h.info
  entered := fun hin => ⟨(h.entered hin).1.snoc j, (h.entered hin).2⟩
  idle := h.idle
  finished := h.finished
  channels := by
    obtain ⟨lost, hoffered, hearly⟩ := h.channels
    refine ⟨lost, hoffered, fun channel hmem => (hearly channel hmem).snoc ?_ j⟩
    rw [← hrequests]
    refine offered_lt (i := i) ?_
    rw [hoffered, List.append_assoc]
    exact List.mem_append_left _ hmem

theorem Accounted.channels_of {answers : List RelayAnswer} {events : List ConnectionEvent} {i : Nat}
    {session session' : NapiSession}
    (h : Accounted config transport steps answers events i session)
    (hpending : session'.pending = session.pending) :
    ∃ lost, offered i answers = lost ++ called_for i events ++ session'.pending ∧
      ∀ channel ∈ lost, Early steps channel := by
  rw [hpending]
  exact h.channels

theorem Served.frame (h : Served config transport steps s) {j : NapiStep KeyData IpNetwork}
    (hrequest : j.is_request = false) (hkind : s'.transport_kind = s.transport_kind)
    (hdynamic : s'.dynamic = j.reloaded s.dynamic)
    (hcallback : s'.on_connection_tsfn = j.registers s.on_connection_tsfn)
    (hanswers : s'.answers = s.answers) (hevents : s'.events = s.events)
    (hinfos : s.sessions.map (·.info) <+: s'.sessions.map (·.info))
    (hsessions : ∀ i session, s'.sessions[i]? = some session →
      Accounted config transport (steps ++ [j]) s.answers s.events i session) :
    Served config transport (steps ++ [j]) s' where
  kind := hkind.trans h.kind
  dynamic := by rw [hdynamic, config_after_snoc, h.dynamic]
  callback := by rw [hcallback, registered_snoc, h.callback]
  requests := by rw [hanswers, requests_snoc, h.requests, hrequest]; rfl
  sessions := by rw [hanswers, hevents]; exact hsessions
  answers := by
    intro answer hmem
    obtain ⟨hlt, hin, haccepted⟩ := h.answers answer (hanswers ▸ hmem)
    have hlength := hinfos.length_le
    rw [List.length_map, List.length_map] at hlength
    exact ⟨Nat.lt_of_lt_of_le hlt hlength, hin.snoc j, haccepted⟩
  events := by
    intro event hmem
    obtain ⟨hinfo, hcalled⟩ := h.events event (hevents ▸ hmem)
    obtain ⟨added, hadded⟩ := hinfos
    rw [← hadded, List.getElem?_append_left (List.getElem?_eq_some_iff.mp hinfo).1]
    exact ⟨hinfo, hcalled.snoc j⟩

theorem Served.sessions_later (h : Served config transport steps s)
    (j : NapiStep KeyData IpNetwork) {i : Nat} {session : NapiSession}
    (hsession : s.sessions[i]? = some session) :
    Accounted config transport (steps ++ [j]) s.answers s.events i session :=
  (h.sessions i session hsession).later h.requests j

theorem Served.outside (h : Served config transport steps s) {j : NapiStep KeyData IpNetwork}
    (hrequest : j.is_request = false) (hkind : s'.transport_kind = s.transport_kind)
    (hdynamic : s'.dynamic = j.reloaded s.dynamic)
    (hcallback : s'.on_connection_tsfn = j.registers s.on_connection_tsfn)
    (hanswers : s'.answers = s.answers) (hevents : s'.events = s.events)
    (hsessions : s'.sessions = s.sessions) : Served config transport (steps ++ [j]) s' := by
  refine h.frame hrequest hkind hdynamic hcallback hanswers hevents ?_ ?_
  · rw [hsessions]
  · rw [hsessions]
    exact fun i session => h.sessions_later j

theorem Served.inside (h : Served config transport steps s) {j : NapiStep KeyData IpNetwork}
    {i : Nat} {session session' : NapiSession} (hsession : s.sessions[i]? = some session)
    (hrequest : j.is_request = false) (hkind : s'.transport_kind = s.transport_kind)
    (hdynamic : s'.dynamic = j.reloaded s.dynamic)
    (hcallback : s'.on_connection_tsfn = j.registers s.on_connection_tsfn)
    (hanswers : s'.answers = s.answers) (hevents : s'.events = s.events)
    (hsessions : s'.sessions = s.sessions.set i session')
    (hinfo : session'.info = session.info)
    (haccounted : Accounted config transport (steps ++ [j]) s.answers s.events i session →
      Accounted config transport (steps ++ [j]) s.answers s.events i session') :
    Served config transport (steps ++ [j]) s' := by
  refine h.frame hrequest hkind hdynamic hcallback hanswers hevents ?_ ?_
  · rw [hsessions, map_set_eq hsession hinfo]
  · intro k other hother
    rw [hsessions] at hother
    rcases getElem?_set_cases hother with ⟨rfl, rfl⟩ | ⟨-, hold⟩
    · exact haccounted (h.sessions_later j hsession)
    · exact h.sessions_later j hold

/-! ## One step -/

theorem Served.connect (h : Served config transport steps s) (hstep : s.connect = some s') :
    Served config transport (steps ++ [.connect]) s' := by
  unfold NapiServing.connect at hstep
  split at hstep
  · rename_i connection hphase
    simp only at hstep
    split at hstep
    · cases hstep
      refine h.frame rfl rfl rfl rfl rfl rfl ?_ fun i session hsession => ?_
      · rw [List.map_append]
        exact List.prefix_append _ _
      · rcases getElem?_snoc_cases hsession with ⟨rfl, rfl⟩ | hold
        · -- nothing was asked by a session with this index before
          have hoffered : offered s.sessions.length s.answers = [] :=
            offered_eq_nil fun answer hmem => (h.answers answer hmem).1.ne
          have hdelivered : called_for s.sessions.length s.events = [] :=
            called_for_eq_nil fun event hmem => by
              have hlt := (List.getElem?_eq_some_iff.mp (h.events event hmem).1).1
              rw [List.length_map] at hlt
              exact hlt.ne
          exact {
            info := by rw [← h.kind]; rfl
            entered := fun hin => by cases hin
            idle := fun _ => rfl
            finished := fun hfinished => by cases hfinished
            channels := ⟨[], by rw [hoffered, hdelivered]; rfl, fun channel hmem => by cases hmem⟩ }
        · exact h.sessions_later _ hold
    · cases hstep
      exact h.outside rfl rfl rfl rfl rfl rfl rfl
  · cases hstep

theorem Served.set_up (h : Served config transport steps s) {i : Nat} {session : NapiSession}
    (hsession : s.sessions[i]? = some session) (htask : session.task = .setup) :
    Served config transport (steps ++ [.set_up i])
      (s.set_session i { session with task := .receiving }) := by
  refine h.inside hsession rfl rfl rfl rfl rfl rfl rfl rfl fun ha => ?_
  exact {
    info := ha.info
    entered := fun hin => absurd htask (ha.entered hin).2
    idle := fun hidle => by rcases hidle with hidle | hidle <;> cases hidle
    finished := fun hfinished => by cases hfinished
    channels := ha.channels_of (by rw [NapiSession.pending, NapiSession.pending, htask]; rfl) }

theorem Served.set_up_failed (h : Served config transport steps s) {i : Nat}
    {session : NapiSession} (hsession : s.sessions[i]? = some session)
    (htask : session.task = .setup) :
    Served config transport (steps ++ [.set_up_failed i])
      ((s.drop_handler session).set_session i
        { session with task := .finished, ended := true }) := by
  refine h.inside hsession rfl rfl rfl rfl rfl rfl rfl rfl fun ha => ?_
  exact {
    info := ha.info
    entered := fun hin => absurd htask (ha.entered hin).2
    idle := fun _ => ha.idle (.inl htask)
    finished := fun _ => rfl
    channels := ha.channels_of (by rw [NapiSession.pending, NapiSession.pending, htask]; rfl) }

theorem Served.auth_publickey (h : Served config transport steps s) {i : Nat}
    {key : PublicKey KeyData} {session : NapiSession} (hsession : s.sessions[i]? = some session)
    (hstep : s.auth_publickey i key session = some s') :
    Served config transport (steps ++ [.auth_publickey i key]) s' := by
  unfold NapiServing.auth_publickey at hstep
  split at hstep
  · cases hstep
  · rename_i hpossible
    cases hstep
    refine h.inside hsession rfl rfl rfl rfl rfl rfl rfl rfl fun ha => ?_
    refine { ha with entered := fun hin => ⟨?_, fun hsetup => hpossible (.inl hsetup)⟩ }
    obtain ⟨id, hid, -⟩ := authenticate_accepted (beq_iff_eq.mp hin)
    refine happened_last ⟨key, rfl, ?_⟩
    rw [← h.dynamic]
    exact (Option.ite_none_right_eq_some.mp hid).1

theorem Served.end_session (h : Served config transport steps s) {i : Nat} {session : NapiSession}
    (hsession : s.sessions[i]? = some session) :
    Served config transport (steps ++ [.end_session i])
      ((s.drop_handler session).set_session i { session with ended := true }) := by
  refine h.inside hsession rfl rfl rfl rfl rfl rfl rfl rfl fun ha => ?_
  exact { ha with finished := fun _ => rfl }

theorem Served.receive (h : Served config transport steps s) {i : Nat} {session : NapiSession}
    (hsession : s.sessions[i]? = some session) (hstep : s.receive i session = some s') :
    Served config transport (steps ++ [.receive i]) s' := by
  unfold NapiServing.receive at hstep
  split at hstep
  · -- the channel is in the task's hands instead of the queue
    rename_i channel queue htask hqueue
    cases hstep
    refine h.inside hsession rfl rfl rfl rfl rfl rfl rfl rfl fun ha => ?_
    refine { ha with
      entered := fun hin => ⟨(ha.entered hin).1, fun hsetup => by cases hsetup⟩
      idle := fun hidle => by rcases hidle with hidle | hidle <;> cases hidle
      finished := fun hfinished => by cases hfinished
      channels := ha.channels_of ?_ }
    rw [NapiSession.pending, NapiSession.pending, htask, hqueue]
    rfl
  · rename_i htask hqueue
    split at hstep
    · rename_i hended
      cases hstep
      refine h.inside hsession rfl rfl rfl rfl rfl rfl rfl rfl fun ha => ?_
      refine { ha with
        entered := fun hin => ⟨(ha.entered hin).1, fun hsetup => by cases hsetup⟩
        idle := fun _ => hqueue
        finished := fun _ => hended
        channels := ha.channels_of ?_ }
      rw [NapiSession.pending, NapiSession.pending, htask]
      rfl
    · cases hstep
  · cases hstep

theorem Served.events_of_unregistered (h : Served config transport steps s)
    (hnone : registered steps = none) : s.events = [] := by
  refine List.eq_nil_iff_forall_not_mem.mpr fun event hmem => ?_
  obtain ⟨before, i, after, hsteps, -, hcallback⟩ := (h.events event hmem).2
  have hsome := registered_stays (Option.isSome_of_mem hcallback) (i :: after)
  rw [← hsteps, hnone] at hsome
  cases hsome

theorem Served.call (h : Served config transport steps s) {i : Nat} {session : NapiSession}
    (hsession : s.sessions[i]? = some session) (hstep : s.call i session = some s') :
    Served config transport (steps ++ [.call i]) s' := by
  unfold NapiServing.call at hstep
  split at hstep
  · rename_i channel htask
    cases hstep
    exact {
      kind := h.kind
      dynamic := by rw [config_after_snoc]; exact h.dynamic
      callback := by rw [registered_snoc]; exact h.callback
      requests := by rw [requests_snoc]; exact h.requests
      sessions := by
        intro j other hother
        rcases getElem?_set_cases hother with ⟨rfl, rfl⟩ | ⟨hne, hold⟩
        · have ha := h.sessions_later (.call i) hsession
          refine { ha with
            entered := fun hin => ⟨(ha.entered hin).1, fun hsetup => by cases hsetup⟩
            idle := fun hidle => by rcases hidle with hidle | hidle <;> cases hidle
            finished := fun hfinished => by cases hfinished
            channels := ?_ }
          obtain ⟨lost, hoffered, hearly⟩ := ha.channels
          simp only [NapiSession.pending, htask, NapiTask.held, set_session, called_for_append]
            at hoffered ⊢
          cases hcallback : s.on_connection_tsfn with
          | some callback => exact ⟨lost, by simp [hoffered, called_for], hearly⟩
          | none =>
            -- nobody is registered, so nothing came to anybody before
            rw [h.callback] at hcallback
            have hnone : s.events = [] := h.events_of_unregistered hcallback
            refine ⟨lost ++ [channel], by simp [hoffered, hnone, called_for], fun c hmem => ?_⟩
            exact early_of_unregistered (by rw [registered_snoc]; exact hcallback) c
        · have ha := h.sessions_later (.call i) hold
          obtain ⟨lost, hoffered, hearly⟩ := ha.channels
          refine { ha with channels := ⟨lost, ?_, hearly⟩ }
          have hothers : called_for j (s.on_connection_tsfn.toList.map fun callback =>
              ConnectionEvent.mk callback i channel session.info) = [] :=
            called_for_eq_nil fun event hmem => by
              obtain ⟨callback, -, rfl⟩ := List.mem_map.mp hmem
              exact hne
          simp only [set_session, called_for_append, hothers, List.append_nil]
          exact hoffered
      answers := by
        intro answer hmem
        rw [set_session, List.length_set]
        obtain ⟨hlt, hgot, hreserved⟩ := h.answers answer hmem
        exact ⟨hlt, hgot.snoc _, hreserved⟩
      events := by
        intro event hmem
        rcases List.mem_append.mp hmem with hold | hnew
        · obtain ⟨hinfo, hcalled⟩ := h.events event hold
          exact ⟨info_set hsession rfl hinfo, hcalled.snoc _⟩
        · obtain ⟨callback, hcallback, rfl⟩ := List.mem_map.mp hnew
          rw [Option.mem_toList, h.callback] at hcallback
          refine ⟨info_set hsession rfl ?_, happened_last ⟨rfl, hcallback⟩⟩
          rw [List.getElem?_map, hsession]
          rfl }
  · cases hstep

variable [Network IpNetwork]

omit [SshKey KeyData] in
theorem answer_reserved (s : NapiServing KeyData IpNetwork) {session : NapiSession}
    (htask : session.task ≠ .finished) (request : SessionRequest) :
    ((s.handler session).answer request).queued = request.is_reserved ∧
      (request.is_reserved = true → ((s.handler session).answer request).accepted = true) := by
  cases request with
  | direct_tcpip host port =>
    unfold NapiServerHandler.answer NapiServerHandler.channel_open_direct_tcpip
      SessionRequest.is_reserved
    by_cases hreserved : starts_with host ALKNET_PREFIX = true
    · simp [hreserved, handler, htask]
    · simp only [hreserved, Bool.false_eq_true, if_false, false_imp_iff, and_true]
      split <;> rfl
  | _ => exact ⟨rfl, fun h => by cases h⟩

theorem Served.request (h : Served config transport steps s) {i : Nat} {request : SessionRequest}
    {session : NapiSession} (hsession : s.sessions[i]? = some session)
    (hstep : s.request i request session = some s') :
    Served config transport (steps ++ [.request i request]) s' := by
  unfold NapiServing.request at hstep
  split at hstep
  · cases hstep
  · rename_i hpossible
    have hin : session.authenticated = true := by
      by_contra hout
      exact hpossible (.inr (Bool.eq_false_iff.mpr hout))
    have hsetup := (h.sessions i session hsession).entered hin
    have htask : session.task ≠ .finished := fun hfinished =>
      hpossible (.inl ((h.sessions i session hsession).finished hfinished))
    obtain ⟨hqueued, haccepted⟩ := answer_reserved s htask request
    cases hstep
    exact {
      kind := h.kind
      dynamic := by rw [config_after_snoc]; exact h.dynamic
      callback := by rw [registered_snoc]; exact h.callback
      requests := by
        rw [requests_snoc, ← h.requests]
        exact List.length_append
      sessions := by
        intro j other hother
        rcases getElem?_set_cases hother with ⟨rfl, rfl⟩ | ⟨hne, hold⟩
        · have ha := h.sessions_later (.request i request) hsession
          obtain ⟨lost, hoffered, hearly⟩ := ha.channels
          refine { ha with
            idle := fun hidle => absurd hidle (not_or.mpr ⟨hsetup.2, htask⟩)
            channels := ⟨lost, ?_, hearly⟩ }
          simp only [set_session, offered_snoc, hoffered, hqueued, true_and,
            NapiSession.pending]
          split <;> simp
        · have ha := h.sessions_later (.request i request) hold
          obtain ⟨lost, hoffered, hearly⟩ := ha.channels
          refine { ha with channels := ⟨lost, ?_, hearly⟩ }
          simp [set_session, offered_snoc, hoffered, hne]
      answers := by
        intro answer hmem
        rw [set_session, List.length_set]
        rcases List.mem_append.mp hmem with hold | hnew
        · obtain ⟨hlt, hgot, hreserved⟩ := h.answers answer hold
          exact ⟨hlt, hgot.snoc _, hreserved⟩
        · obtain rfl := List.mem_singleton.mp hnew
          exact ⟨(List.getElem?_eq_some_iff.mp hsession).1, hsetup.1.snoc _, haccepted⟩
      events := by
        intro event hmem
        obtain ⟨hinfo, hcalled⟩ := h.events event hmem
        exact ⟨info_set hsession rfl hinfo, hcalled.snoc _⟩ }

/-! ## Every run -/

/-- A server that trusts one key. -/
def sampleConfig : DynamicConfig TextKey Empty := .new (.new {⟨⟨sample_key⟩, ""⟩} [])

def with_loop (s : NapiServing KeyData IpNetwork) (phase : AcceptPhase) (shutdown : Watch) :
    NapiServing KeyData IpNetwork :=
  { s with phase := phase, shutdown := shutdown }

omit [SshKey KeyData] [Network IpNetwork] in
theorem on_session_with_loop (s : NapiServing KeyData IpNetwork) (phase : AcceptPhase)
    (shutdown : Watch) (i : Nat) {f g : NapiSession → Option (NapiServing KeyData IpNetwork)}
    (h : ∀ session, g session = (f session).map (·.with_loop phase shutdown)) :
    (s.with_loop phase shutdown).on_session i g =
      (s.on_session i f).map (·.with_loop phase shutdown) := by
  unfold on_session
  rw [Option.map_bind]
  exact congrArg _ (funext h)

theorem session_step_with_loop (s : NapiServing KeyData IpNetwork) (phase : AcceptPhase)
    (shutdown : Watch) {i : NapiStep KeyData IpNetwork} (hi : i.of_session = true) :
    step (s.with_loop phase shutdown) i = (step s i).map (·.with_loop phase shutdown) := by
  -- no step of a session or of its task looks at the loop
  cases i with
  | set_up j | set_up_failed j | end_session j =>
    refine on_session_with_loop s phase shutdown j fun session => ?_
    rw [apply_ite (Option.map _)]
    rfl
  | auth_publickey j key =>
    refine on_session_with_loop s phase shutdown j fun session => ?_
    unfold auth_publickey
    rw [apply_ite (Option.map _)]
    rfl
  | request j request =>
    refine on_session_with_loop s phase shutdown j fun session => ?_
    unfold NapiServing.request
    rw [apply_ite (Option.map _)]
    rfl
  | receive j =>
    refine on_session_with_loop s phase shutdown j fun session => ?_
    unfold receive
    cases session.task <;> cases session.queue <;> try rfl
    rw [apply_ite (Option.map _)]
    rfl
  | call j =>
    refine on_session_with_loop s phase shutdown j fun session => ?_
    unfold call
    cases session.task <;> rfl
  | _ => cases hi

theorem session_run_with_loop (phase : AcceptPhase) (shutdown : Watch)
    {is : List (NapiStep KeyData IpNetwork)} (his : ∀ i ∈ is, i.of_session = true)
    (h : run step s is = some s') :
    run step (s.with_loop phase shutdown) is = some (s'.with_loop phase shutdown) := by
  induction is generalizing s with
  | nil =>
    cases h
    rfl
  | cons i is ih =>
    obtain ⟨hi, his⟩ := List.forall_mem_cons.mp his
    obtain ⟨t, ht, hrest⟩ := Option.bind_eq_some_iff.mp h
    rw [run_cons, session_step_with_loop s phase shutdown hi, ht, Option.map_some, Option.bind_some]
    exact ih his hrest

theorem session_step_frame {i : NapiStep KeyData IpNetwork} (hi : i.of_session = true)
    (h : step s i = some s') : s'.phase = s.phase ∧ s'.shutdown = s.shutdown := by
  have hsame := session_step_with_loop s s.phase s.shutdown hi
  rw [show s.with_loop s.phase s.shutdown = s from rfl, h, Option.map_some] at hsame
  rw [Option.some.inj hsame]
  exact ⟨rfl, rfl⟩

/-- What a step does to the loop. -/
inductive LoopStep : NapiStep KeyData IpNetwork → AcceptPhase → Watch → AcceptPhase → Watch → Prop
  | other {i : NapiStep KeyData IpNetwork} {phase : AcceptPhase} {shutdown : Watch}
      (hclose : i ≠ .close) (hcollect : i ≠ .collect) (haccept : i.is_accept = false) :
      LoopStep i phase shutdown phase shutdown
  | close {phase : AcceptPhase} {shutdown : Watch} :
      LoopStep .close phase shutdown phase (shutdown.send true)
  | collect {phase : AcceptPhase} {shutdown : Watch} :
      LoopStep .collect phase shutdown phase { shutdown with senders := false }
  | check {shutdown : Watch} (hvalue : shutdown.value = false) :
      LoopStep .check .checking shutdown .selecting shutdown
  | stop {shutdown : Watch} (hvalue : shutdown.value = true) :
      LoopStep .check .checking shutdown .stopped shutdown
  | accept {remote_addr : Option SocketAddr} {connection : Connection} {shutdown : Watch} :
      LoopStep (.accept remote_addr) .selecting shutdown (.creating connection) shutdown
  | accept_failed {shutdown : Watch} :
      LoopStep .accept_failed .selecting shutdown .checking shutdown
  | connect {connection : Connection} {shutdown : Watch} :
      LoopStep .connect (.creating connection) shutdown .checking shutdown
  | changed {shutdown : Watch} (hready : shutdown.ready = true) :
      LoopStep .changed .selecting shutdown .stopped shutdown

theorem loop_step {i : NapiStep KeyData IpNetwork} (h : step s i = some s') :
    LoopStep i s.phase s.shutdown s'.phase s'.shutdown := by
  by_cases hsession : i.of_session = true
  · obtain ⟨hphase, hshutdown⟩ := session_step_frame hsession h
    rw [hphase, hshutdown]
    cases i with
    | set_up _ | set_up_failed _ | auth_publickey _ _ | request _ _ | end_session _ | receive _
    | call _ => exact .other nofun nofun rfl
    | _ => cases hsession
  cases i with
  | reload _ | on_connection _ =>
    obtain ⟨-, h⟩ := Option.ite_none_right_eq_some.mp h
    cases h
    exact .other nofun nofun rfl
  | close =>
    obtain ⟨-, h⟩ := Option.ite_none_right_eq_some.mp h
    cases h
    exact .close
  | collect =>
    obtain ⟨-, h⟩ := Option.ite_none_right_eq_some.mp h
    cases h
    exact .collect
  | check =>
    obtain ⟨hphase, h⟩ := Option.ite_none_right_eq_some.mp h
    cases h
    rw [hphase]
    by_cases hvalue : s.shutdown.value = true
    · simp only [hvalue, if_true]
      exact .stop hvalue
    · simp only [hvalue, Bool.false_eq_true, if_false]
      exact .check (Bool.eq_false_iff.mpr hvalue)
  | accept remote_addr =>
    obtain ⟨hphase, h⟩ := Option.ite_none_right_eq_some.mp h
    cases h
    rw [hphase]
    exact .accept
  | accept_failed =>
    obtain ⟨hphase, h⟩ := Option.ite_none_right_eq_some.mp h
    cases h
    rw [hphase]
    exact .accept_failed
  | connect =>
    unfold step NapiServing.connect at h
    cases hphase : s.phase with
    | creating connection =>
      simp only [hphase] at h
      split at h <;> cases h <;> exact .connect
    | _ => simp [hphase] at h
  | changed =>
    obtain ⟨⟨hphase, hready⟩, h⟩ := Option.ite_none_right_eq_some.mp h
    cases h
    rw [hphase]
    exact .changed hready
  | _ => exact absurd rfl hsession

/-- What the loop has been told, and by which steps. -/
structure Told (steps : List (NapiStep KeyData IpNetwork)) (phase : AcceptPhase)
    (shutdown : Watch) : Prop where
  ready : shutdown.ready = true ↔ .close ∈ steps ∨ .collect ∈ steps
  value : shutdown.value = true → .close ∈ steps
  stopped : phase = .stopped → shutdown.ready = true

omit [SshKey KeyData] [Network IpNetwork] in
theorem Told.step {i : NapiStep KeyData IpNetwork} {phase phase' : AcceptPhase}
    {shutdown shutdown' : Watch} (h : Told steps phase shutdown)
    (hstep : LoopStep i phase shutdown phase' shutdown') :
    Told (steps ++ [i]) phase' shutdown' := by
  have hready : shutdown.ready = true → .close ∈ steps ++ [i] ∨ .collect ∈ steps ++ [i] := fun h' =>
    (h.ready.mp h').imp (List.mem_append_left _) (List.mem_append_left _)
  have hvalue : shutdown.value = true → .close ∈ steps ++ [i] := fun h' =>
    List.mem_append_left _ (h.value h')
  cases hstep with
  | close =>
    exact ⟨by simp [Watch.ready, Watch.send], by simp, fun _ => by simp [Watch.ready, Watch.send]⟩
  | collect => exact ⟨by simp [Watch.ready], hvalue, fun _ => by simp [Watch.ready]⟩
  | other hclose hcollect _ =>
    exact ⟨by rw [h.ready]; simp [hclose.symm, hcollect.symm], hvalue, h.stopped⟩
  | stop hstop =>
    exact ⟨by rw [h.ready]; simp, hvalue, fun _ => h.ready.mpr (.inl (h.value hstop))⟩
  | changed hchanged => exact ⟨by rw [h.ready]; simp, hvalue, fun _ => hchanged⟩
  | check _ | accept | accept_failed | connect =>
    exact ⟨by rw [h.ready]; simp, hvalue, nofun⟩

theorem told_run (hrun : run step (new config transport) steps = some s) :
    Told steps s.phase s.shutdown := by
  refine run_history (R := fun steps s => Told steps s.phase s.shutdown) ?_
    (fun before t i t' h hstep => h.step (loop_step hstep)) hrun
  exact ⟨by simp [new, Watch.ready], nofun, nofun⟩

/-- How many connections the loop may still take when it has been told to stop. -/
def room : AcceptPhase → Nat
  | .selecting => 1
  | _ => 0

omit [SshKey KeyData] [Network IpNetwork] in
theorem LoopStep.room_le {i : NapiStep KeyData IpNetwork} {phase phase' : AcceptPhase}
    {shutdown shutdown' : Watch} (h : LoopStep i phase shutdown phase' shutdown')
    (hvalue : shutdown.value = true) : shutdown'.value = true ∧
      (if i.is_accept then 1 else 0) + room phase' ≤ room phase := by
  cases h with
  | other _ _ haccept => exact ⟨hvalue, by rw [haccept]; simp⟩
  | close => exact ⟨rfl, by simp [NapiStep.is_accept]⟩
  | collect => exact ⟨hvalue, by simp [NapiStep.is_accept]⟩
  | check hfalse =>
    rw [hfalse] at hvalue
    cases hvalue
  | stop _ | accept | accept_failed | connect | changed _ =>
    exact ⟨hvalue, by simp [NapiStep.is_accept, room]⟩

theorem accepts_after_close (hvalue : s.shutdown.value = true)
    {is : List (NapiStep KeyData IpNetwork)} (hrun : run step s is = some s') :
    is.countP NapiStep.is_accept ≤ room s.phase := by
  have hroom : s'.shutdown.value = true ∧
      is.countP NapiStep.is_accept + room s'.phase ≤ room s.phase := by
    refine run_history (R := fun is t => t.shutdown.value = true ∧
      is.countP NapiStep.is_accept + room t.phase ≤ room s.phase) ⟨hvalue, by simp⟩
      (fun before t i t' h hstep => ?_) hrun
    obtain ⟨hvalue', hle⟩ := (loop_step hstep).room_le h.1
    rw [List.countP_append, List.countP_singleton]
    exact ⟨hvalue', by omega⟩
  omega

/-- The loop can come to its end in so many steps of its own. -/
def Stops (n : Nat) (s : NapiServing KeyData IpNetwork) : Prop :=
  ∃ is t, is.length ≤ n ∧ (∀ i ∈ is, i = .connect ∨ i = .check ∨ i = .changed) ∧
    run step s is = some t ∧ t.phase = .stopped

theorem Stops.after {n : Nat} {i : NapiStep KeyData IpNetwork} (h : Stops n s')
    (hi : i = .connect ∨ i = .check ∨ i = .changed) (hstep : step s i = some s') :
    Stops (n + 1) s := by
  obtain ⟨is, t, hlength, his, hrun, hstopped⟩ := h
  exact ⟨i :: is, t, Nat.succ_le_succ hlength, List.forall_mem_cons.mpr ⟨hi, his⟩,
    Option.bind_eq_some_iff.mpr ⟨s', hstep, hrun⟩, hstopped⟩

theorem stops_stopped (n : Nat) (hphase : s.phase = .stopped) : Stops n s :=
  ⟨[], s, Nat.zero_le n, nofun, rfl, hphase⟩

theorem stops_selecting (hready : s.shutdown.ready = true) (hphase : s.phase = .selecting) :
    Stops 1 s := by
  refine (stops_stopped 0 ?_).after (.inr (.inr rfl)) (if_pos ⟨hphase, hready⟩)
  rfl

theorem stops_checking (hready : s.shutdown.ready = true) (hphase : s.phase = .checking) :
    Stops 2 s := by
  refine Stops.after ?_ (.inr (.inl rfl)) (if_pos hphase)
  by_cases hvalue : s.shutdown.value = true
  · exact stops_stopped 1 (if_pos hvalue)
  · exact stops_selecting hready (if_neg hvalue)

theorem stops_creating {connection : Connection} (hready : s.shutdown.ready = true)
    (hphase : s.phase = .creating connection) : Stops 3 s := by
  by_cases hallowed : connection.connection_allowed = true
  · refine (stops_checking ?_ ?_).after (.inl rfl) (by
      rw [step, connect, hphase]
      exact if_pos hallowed)
    · exact hready
    · rfl
  · refine (stops_checking ?_ ?_).after (.inl rfl) (by
      rw [step, connect, hphase]
      exact if_neg hallowed)
    · exact hready
    · rfl

theorem stops (hready : s.shutdown.ready = true) : Stops 3 s := by
  cases hphase : s.phase with
  | checking =>
    obtain ⟨is, t, hlength, hrest⟩ := stops_checking hready hphase
    exact ⟨is, t, Nat.le_succ_of_le hlength, hrest⟩
  | selecting =>
    obtain ⟨is, t, hlength, hrest⟩ := stops_selecting hready hphase
    exact ⟨is, t, by omega, hrest⟩
  | creating connection => exact stops_creating hready hphase
  | stopped => exact stops_stopped 3 hphase

/-- **Closing.** The loop stops only after `close` or after Node.js collected the server, and can
then. -/
theorem napi_close (config : DynamicConfig KeyData IpNetwork) (transport : TransportKind)
    (hrun : run step (new config transport) steps = some s) :
    (s.phase = .stopped → .close ∈ steps ∨ .collect ∈ steps) ∧
    (.close ∈ steps ∨ .collect ∈ steps → Stops 3 s) ∧
    (∀ before after, steps = before ++ .close :: after →
      after.countP NapiStep.is_accept ≤ 1) ∧
    ∀ is t, (∀ i ∈ is, i.of_session = true) → run step s is = some t →
      run step (s.with_loop .stopped s.shutdown) is = some (t.with_loop .stopped s.shutdown) := by
  have h := told_run hrun
  refine ⟨fun hphase => h.ready.mp (h.stopped hphase), fun htold => stops (h.ready.mpr htold), ?_,
    fun is t his => session_run_with_loop .stopped s.shutdown his⟩
  rintro before after rfl
  rw [run_append] at hrun
  obtain ⟨t, -, hrest⟩ := Option.bind_eq_some_iff.mp hrun
  obtain ⟨u, hclose, hrest⟩ := Option.bind_eq_some_iff.mp hrest
  obtain ⟨-, hclose⟩ := Option.ite_none_right_eq_some.mp hclose
  cases hclose
  refine (accepts_after_close rfl hrest).trans ?_
  cases t.phase <;> simp [room]

/-- The loop takes a connection when it is told, and its session goes on afterwards. -/
def sampleClosed : List (NapiStep TextKey Empty) :=
  [.on_connection 7, .check, .close, .accept (some (localhost 1)), .connect, .check, .set_up 0]

theorem napi_close_with_session :
    ∃ s, run step (new sampleConfig .Tcp) sampleClosed = some s ∧ s.phase = .stopped ∧
      s.sessions.length = 1 ∧ Stops 3 s ∧
      ∀ is t, (∀ i ∈ is, i.of_session = true) → run step s is = some t →
        run step (s.with_loop .stopped s.shutdown) is = some (t.with_loop .stopped s.shutdown) := by
  obtain ⟨s, hrun, hshows⟩ := Option.map_eq_some_iff.mp (show
    (run step (new sampleConfig .Tcp) sampleClosed).map (fun s => (s.phase, s.sessions.length)) =
      some (.stopped, 1) by decide +kernel)
  obtain ⟨hphase, hsessions⟩ := Prod.mk.inj hshows
  obtain ⟨htold, hstops, -, hgoes⟩ := napi_close sampleConfig .Tcp hrun
  exact ⟨s, hrun, hphase, hsessions, hstops (htold hphase), hgoes⟩

end

end NapiServing

end Alknet
