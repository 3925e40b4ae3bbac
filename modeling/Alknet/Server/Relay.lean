import Alknet.Auth.Keys
import Alknet.Code.Server.Relay
import Alknet.Lib.Run
import Alknet.Server.Channels
import Alknet.Server.Destination
import Alknet.Server.PublicKey
import Alknet.Server.RateLimit

/-!
# What a server relays, and for whom

Over every interleaving of connections, attempts to authenticate, requests, reloads and dials. A
request is answered by the policy in force at that time, for the identity of the key that the
session got in with. Nothing is dialed but what such a request asked for. A reload that takes a key
away does not touch the sessions that are in.
-/

open Alknet.Rust Alknet.Lib

namespace Alknet

variable {KeyData IpNetwork HostKey : Type}

/-! ## Histories -/

def RelayStep.reloaded (config : DynamicConfig KeyData IpNetwork) :
    RelayStep KeyData IpNetwork → DynamicConfig KeyData IpNetwork
  | .reload new_config => new_config
  | _ => config

/-- The configuration after some steps. -/
def in_force (config : DynamicConfig KeyData IpNetwork)
    (steps : List (RelayStep KeyData IpNetwork)) : DynamicConfig KeyData IpNetwork :=
  steps.foldl RelayStep.reloaded config

theorem in_force_snoc (config : DynamicConfig KeyData IpNetwork)
    (steps : List (RelayStep KeyData IpNetwork)) (i : RelayStep KeyData IpNetwork) :
    in_force config (steps ++ [i]) = i.reloaded (in_force config steps) := by
  unfold in_force
  rw [List.foldl_append]
  rfl

/-- The session presented the key when the configuration had it. -/
def Entered [SshKey KeyData] (config : DynamicConfig KeyData IpNetwork)
    (steps : List (RelayStep KeyData IpNetwork)) (session : Nat) (key : PublicKey KeyData) : Prop :=
  ∃ before after, steps = before ++ .auth_publickey session key :: after ∧
    SshKey.fingerprint key ∈ (in_force config before).auth.fingerprint_to_key

theorem Entered.snoc [SshKey KeyData] {config : DynamicConfig KeyData IpNetwork}
    {steps : List (RelayStep KeyData IpNetwork)} {session : Nat} {key : PublicKey KeyData}
    (h : Entered config steps session key) (i : RelayStep KeyData IpNetwork) :
    Entered config (steps ++ [i]) session key := by
  obtain ⟨before, after, rfl, hkey⟩ := h
  exact ⟨before, after ++ [i], by simp, hkey⟩

/-- The identity that a key stands for. -/
def identity_of [SshKey KeyData] (key : PublicKey KeyData) : Identity :=
  ⟨SshKey.fingerprint key, ["relay:connect"]⟩

/-- What a policy says to a request: channels to hosts that it allows, and nothing else. -/
def ForwardingPolicy.relays [Network IpNetwork] (forwarding : ForwardingPolicy IpNetwork)
    (identity : Identity) (transport : TransportKind) : SessionRequest → Bool
  | .direct_tcpip host port =>
    !starts_with host ALKNET_PREFIX && forwarding.check host port.toUInt16 identity transport
  | _ => false

/-- The channel that a task is for. -/
def RelayTask.opened (task : RelayTask) : Nat × SessionRequest :=
  (task.session, .direct_tcpip task.target_host task.target_port)

namespace Relay

variable {relay relay' : Relay KeyData IpNetwork HostKey}

/-! ## One step -/

theorem spawn_frame (relay : Relay KeyData IpNetwork HostKey) (i : Nat) (spawned : Option Spawned) :
    (relay.spawn i spawned).server = relay.server ∧
      (relay.spawn i spawned).transport_kind = relay.transport_kind ∧
      (relay.spawn i spawned).sessions = relay.sessions ∧
      (relay.spawn i spawned).answers = relay.answers ∧
      (relay.spawn i spawned).dials = relay.dials := by
  unfold spawn
  split <;> exact ⟨rfl, rfl, rfl, rfl, rfl⟩

theorem authenticated_spec [SshKey KeyData] {key : PublicKey KeyData} {session : RelaySession}
    (h : (relay.authenticate key session).authenticated = true) :
    SshKey.fingerprint key ∈ relay.server.dynamic.auth.fingerprint_to_key ∧
      (relay.authenticate key session).authentication.authenticated_identity =
        some (identity_of key) := by
  obtain ⟨id, hid, hidentity⟩ := authenticate_accepted (beq_iff_eq.mp h)
  obtain ⟨hmem, hid⟩ := Option.ite_none_right_eq_some.mp hid
  exact ⟨hmem, hidentity.trans hid.symm⟩

theorem answer_accepted [Network IpNetwork] (relay : Relay KeyData IpNetwork HostKey)
    {session : RelaySession} {identity : Identity}
    (h : session.authentication.authenticated_identity = some identity) (request : SessionRequest) :
    ((relay.handler session).answer request).1.accepted =
      relay.server.dynamic.forwarding.relays identity relay.transport_kind request := by
  cases request with
  | direct_tcpip host port =>
    unfold ServerHandler.answer ServerHandler.channel_open_direct_tcpip ForwardingPolicy.relays
    by_cases hreserved : starts_with host ALKNET_PREFIX = true
    · simp [hreserved, handler]
    · simp only [hreserved, Bool.false_eq_true, if_false, forward, handler, h, Option.getD_some]
      split
      · rename_i hallowed
        simp [hallowed]
      · rename_i hdenied
        simp [hdenied, refused]
  | _ => rfl

/-- The task that a request gets when it is accepted. -/
def task_for (i : Nat) (mode : ProxyMode) : SessionRequest → List RelayTask
  | .direct_tcpip host port => [⟨i, host, port, mode, true⟩]
  | _ => []

theorem spawn_tasks [Network IpNetwork] (relay relay' : Relay KeyData IpNetwork HostKey)
    (session : RelaySession) (i : Nat) (request : SessionRequest) :
    (relay'.spawn i ((relay.handler session).answer request).1.spawned).tasks = relay'.tasks ++
      if ((relay.handler session).answer request).1.accepted then
        task_for i (relay.server.outbound_proxy.getD .Direct) request
      else [] := by
  cases request with
  | direct_tcpip host port =>
    unfold ServerHandler.answer ServerHandler.channel_open_direct_tcpip
    by_cases hreserved : starts_with host ALKNET_PREFIX = true
    · simp [hreserved, handler, spawn]
    · simp only [hreserved, Bool.false_eq_true, if_false, forward]
      split
      · rfl
      · simp [refused, spawn]
  | _ => simp [ServerHandler.answer, refused, spawn]

theorem task_for_opened {i : Nat} {mode : ProxyMode} {forwarding : ForwardingPolicy IpNetwork}
    [Network IpNetwork] {identity : Identity} {transport : TransportKind} {request : SessionRequest}
    (h : forwarding.relays identity transport request = true) :
    (task_for i mode request).map RelayTask.opened = [(i, request)] := by
  cases request with
  | direct_tcpip host port => rfl
  | _ => cases h

theorem mode_of_task_for {i : Nat} {mode : ProxyMode} {request : SessionRequest} {task : RelayTask}
    (h : task ∈ task_for i mode request) : task.mode = mode := by
  cases request with
  | direct_tcpip host port =>
    obtain rfl := List.mem_singleton.mp h
    rfl
  | _ => cases h

/-! ## Every run -/

section

variable [SshKey KeyData] [Network IpNetwork] {server : Server KeyData IpNetwork HostKey}
  {transport : TransportKind} {steps : List (RelayStep KeyData IpNetwork)}

/-- A request was answered by the policy in force, for the key that its session got in with. -/
def Decided (config : DynamicConfig KeyData IpNetwork) (transport : TransportKind)
    (steps : List (RelayStep KeyData IpNetwork)) (answer : RelayAnswer) : Prop :=
  ∃ before after key, steps = before ++ .request answer.session answer.request :: after ∧
    Entered config before answer.session key ∧
    answer.accepted = (in_force config before).forwarding.relays (identity_of key) transport
      answer.request

theorem Decided.snoc {config : DynamicConfig KeyData IpNetwork} {answer : RelayAnswer}
    (h : Decided config transport steps answer) (i : RelayStep KeyData IpNetwork) :
    Decided config transport (steps ++ [i]) answer := by
  obtain ⟨before, after, key, rfl, hentered, haccepted⟩ := h
  exact ⟨before, after ++ [i], key, by simp, hentered, haccepted⟩

/-- A session that is in got in with a key, and has that key's identity. -/
def IsIn (config : DynamicConfig KeyData IpNetwork) (steps : List (RelayStep KeyData IpNetwork))
    (i : Nat) (session : RelaySession) : Prop :=
  ∃ key, Entered config steps i key ∧
    session.authentication.authenticated_identity = some (identity_of key)

/-- What the state has to do with the steps that led to it. -/
structure Traced (server : Server KeyData IpNetwork HostKey) (transport : TransportKind)
    (steps : List (RelayStep KeyData IpNetwork)) (relay : Relay KeyData IpNetwork HostKey) :
    Prop where
  config : relay.server.dynamic = in_force server.dynamic steps
  proxy : relay.server.outbound_proxy = server.outbound_proxy
  kind : relay.transport_kind = transport
  sessions : ∀ i session, relay.sessions[i]? = some session → session.authenticated = true →
    IsIn server.dynamic steps i session
  answers : ∀ answer ∈ relay.answers, Decided server.dynamic transport steps answer
  tasks : relay.tasks.map RelayTask.opened =
    (relay.answers.filter (·.accepted)).map fun answer => (answer.session, answer.request)
  modes : ∀ task ∈ relay.tasks, task.mode = server.outbound_proxy.getD .Direct
  dials : ∀ dial ∈ relay.dials, ∃ task resolver, relay.tasks[dial.task]? = some task ∧
    task.pending = false ∧ dial.mode = task.mode ∧
    resolve_target resolver task.target_host task.target_port = some dial.target
  once : (relay.dials.map (·.task)).Nodup

theorem Traced.frame (h : Traced server transport steps relay) {i : RelayStep KeyData IpNetwork}
    (hconfig : relay'.server.dynamic = i.reloaded relay.server.dynamic)
    (hproxy : relay'.server.outbound_proxy = relay.server.outbound_proxy)
    (htransport : relay'.transport_kind = relay.transport_kind)
    (hanswers : relay'.answers = relay.answers) (htasks : relay'.tasks = relay.tasks)
    (hdials : relay'.dials = relay.dials)
    (hsessions : ∀ j session, relay'.sessions[j]? = some session → session.authenticated = true →
      IsIn server.dynamic (steps ++ [i]) j session) :
    Traced server transport (steps ++ [i]) relay' where
  config := by rw [hconfig, in_force_snoc, h.config]
  proxy := hproxy.trans h.proxy
  kind := htransport.trans h.kind
  sessions := hsessions
  answers := fun answer hmem => (h.answers answer (hanswers ▸ hmem)).snoc i
  tasks := by rw [htasks, hanswers, h.tasks]
  modes := fun task hmem => h.modes task (htasks ▸ hmem)
  dials := by rw [hdials, htasks]; exact h.dials
  once := by rw [hdials]; exact h.once

theorem Traced.sessions_snoc (h : Traced server transport steps relay)
    (i : RelayStep KeyData IpNetwork) {j : Nat} {session : RelaySession}
    (hsession : relay.sessions[j]? = some session) (hin : session.authenticated = true) :
    IsIn server.dynamic (steps ++ [i]) j session := by
  obtain ⟨key, hentered, hidentity⟩ := h.sessions j session hsession hin
  exact ⟨key, hentered.snoc i, hidentity⟩

theorem Traced.check (h : Traced server transport steps relay) {remote_addr : Option SocketAddr}
    (hstep : relay.check remote_addr = some relay') :
    Traced server transport (steps ++ [.check remote_addr]) relay' := by
  unfold Relay.check at hstep
  split at hstep
  · cases hstep
    exact h.frame rfl rfl rfl rfl rfl rfl fun j session => h.sessions_snoc _
  · cases hstep

theorem Traced.connect (h : Traced server transport steps relay)
    (hstep : relay.connect = some relay') :
    Traced server transport (steps ++ [.connect]) relay' := by
  unfold Relay.connect at hstep
  split at hstep
  · cases hstep
  · rename_i connection hcreating
    simp only at hstep
    split at hstep
    · cases hstep
      refine h.frame rfl rfl rfl rfl rfl rfl fun j session hsession hin => ?_
      -- a new session is not in
      rcases getElem?_snoc_cases hsession with ⟨-, rfl⟩ | hold
      · cases hin
      · exact h.sessions_snoc _ hold hin
    · cases hstep
      exact h.frame rfl rfl rfl rfl rfl rfl fun j session => h.sessions_snoc _

theorem Traced.auth_publickey (h : Traced server transport steps relay) {i : Nat}
    {key : PublicKey KeyData} (hstep : relay.auth_publickey i key = some relay') :
    Traced server transport (steps ++ [.auth_publickey i key]) relay' := by
  unfold Relay.auth_publickey at hstep
  split at hstep
  · cases hstep
  · split at hstep
    · cases hstep
    · cases hstep
      refine h.frame rfl rfl rfl rfl rfl rfl fun j session hsession hin => ?_
      rcases getElem?_set_cases hsession with ⟨rfl, rfl⟩ | ⟨-, hold⟩
      · obtain ⟨hmem, hidentity⟩ := authenticated_spec hin
        exact ⟨key, ⟨steps, [], rfl, h.config ▸ hmem⟩, hidentity⟩
      · exact h.sessions_snoc _ hold hin

theorem Traced.end_session (h : Traced server transport steps relay) {i : Nat}
    (hstep : relay.end_session i = some relay') :
    Traced server transport (steps ++ [.end_session i]) relay' := by
  unfold Relay.end_session at hstep
  split at hstep
  · cases hstep
  · rename_i session hsession
    split at hstep
    · cases hstep
    · cases hstep
      refine h.frame rfl rfl rfl rfl rfl rfl fun j session' hsession' hin => ?_
      rcases getElem?_set_cases hsession' with ⟨rfl, rfl⟩ | ⟨-, hold⟩
      · obtain ⟨key, hentered, hidentity⟩ := h.sessions i session hsession hin
        exact ⟨key, hentered.snoc _, hidentity⟩
      · exact h.sessions_snoc _ hold hin

theorem Traced.request (h : Traced server transport steps relay) {i : Nat}
    {request : SessionRequest} (hstep : relay.request i request = some relay') :
    Traced server transport (steps ++ [.request i request]) relay' := by
  unfold Relay.request at hstep
  split at hstep
  · cases hstep
  · rename_i session hsession
    split at hstep
    · cases hstep
    · rename_i hauth
      simp only [Bool.or_eq_true, Bool.not_eq_eq_eq_not, Bool.not_true, not_or,
        Bool.not_eq_false] at hauth
      obtain ⟨key, hentered, hidentity⟩ := h.sessions i session hsession hauth.2
      have haccepted := answer_accepted relay hidentity request
      obtain rfl := Option.some.inj hstep
      generalize hanswered : ({ relay with answers := relay.answers ++
        [⟨i, request, ((relay.handler session).answer request).1.accepted⟩] } :
          Relay KeyData IpNetwork HostKey) = answered
      have htasks := spawn_tasks relay answered session i request
      obtain ⟨hserver, hkind, hsessions, hanswers, hdials⟩ := spawn_frame answered i
        ((relay.handler session).answer request).1.spawned
      rw [haccepted] at htasks hanswered
      subst hanswered
      refine ⟨?_, ?_, ?_, fun j session' hsession' hin => ?_, fun answer hmem => ?_, ?_,
        fun task hmem => ?_, fun dial hmem => ?_, ?_⟩
      · rw [hserver, in_force_snoc]
        exact h.config
      · rw [hserver]
        exact h.proxy
      · rw [hkind]
        exact h.kind
      · rw [hsessions] at hsession'
        exact h.sessions_snoc _ hsession' hin
      · rw [hanswers] at hmem
        rcases List.mem_append.mp hmem with hold | hnew
        · exact (h.answers answer hold).snoc _
        · obtain rfl := List.mem_singleton.mp hnew
          exact ⟨steps, [], key, rfl, hentered, h.config ▸ h.kind ▸ rfl⟩
      · rw [htasks, hanswers, List.map_append, List.filter_append, List.map_append, h.tasks]
        congr 1
        split
        · rename_i hyes
          rw [task_for_opened hyes]
          simp [hyes]
        · rename_i hno
          simp [hno]
      · rw [htasks] at hmem
        rcases List.mem_append.mp hmem with hold | hnew
        · exact h.modes task hold
        · split at hnew
          · rw [mode_of_task_for hnew, h.proxy]
          · cases hnew
      · rw [hdials] at hmem
        obtain ⟨task, resolver, htask, hdone, hmode, htarget⟩ := h.dials dial hmem
        refine ⟨task, resolver, ?_, hdone, hmode, htarget⟩
        rw [htasks, List.getElem?_append_left (List.getElem?_eq_some_iff.mp htask).1]
        exact htask
      · rw [hdials]
        exact h.once

theorem Traced.dial (h : Traced server transport steps relay) {i : Nat}
    {resolver : Resolver} (hstep : relay.dial i resolver = some relay') :
    Traced server transport (steps ++ [.dial i resolver]) relay' := by
  unfold Relay.dial at hstep
  split at hstep
  · cases hstep
  · rename_i task htask
    split at hstep
    · rename_i hpending
      obtain rfl := Option.some.inj hstep
      have hlt := (List.getElem?_eq_some_iff.mp htask).1
      -- the tasks that have dialed are not this one
      have hother : ∀ dial ∈ relay.dials, i ≠ dial.task := by
        rintro dial hdial rfl
        obtain ⟨task', -, htask', hdone, -⟩ := h.dials dial hdial
        rw [htask] at htask'
        rw [Option.some.inj htask', hdone] at hpending
        cases hpending
      refine ⟨?_, h.proxy, h.kind, fun j session hsession hin => h.sessions_snoc _ hsession hin,
        fun answer hmem => (h.answers answer hmem).snoc _, ?_, fun task' hmem => ?_,
        fun dial hmem => ?_, ?_⟩
      · rw [in_force_snoc]
        exact h.config
      · exact (map_set_eq (b := { task with pending := false }) htask rfl).trans h.tasks
      · rcases List.mem_or_eq_of_mem_set hmem with hold | rfl
        · exact h.modes task' hold
        · exact h.modes task (List.mem_of_getElem? htask)
      · rcases List.mem_append.mp hmem with hold | hnew
        · obtain ⟨task', resolver', htask', hrest⟩ := h.dials dial hold
          exact ⟨task', resolver', by rw [List.getElem?_set_ne (hother dial hold), htask'], hrest⟩
        · obtain ⟨target, htarget, rfl⟩ := List.mem_map.mp hnew
          exact ⟨{ task with pending := false }, resolver, List.getElem?_set_self hlt, rfl, rfl,
            Option.mem_toList.mp htarget⟩
      · rw [List.map_append, List.map_map]
        refine h.once.append ?_ ?_
        · cases resolve_target resolver task.target_host task.target_port <;> simp
        · rw [List.disjoint_left]
          intro j hold hnew
          obtain ⟨dial, hdial, rfl⟩ := List.mem_map.mp hold
          obtain ⟨target, -, heq⟩ := List.mem_map.mp hnew
          exact hother dial hdial heq
    · cases hstep

end

end Relay

end Alknet
