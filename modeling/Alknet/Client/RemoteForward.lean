import Alknet.Client.ChannelManager
import Alknet.Code.Client.RemoteForward
import Mathlib.Data.Finset.Dedup
import Mathlib.Data.Multiset.Count

/-!
# Remote forwards after a reconnect

A forward is tracked under the port that was asked for, and a cancel names the port that is
listened at. For port 0 these differ: such a forward stays tracked when it is cancelled, and two of
them at one address are tracked as one.
-/

open Alknet.Lib

namespace Alknet

/-! ## The server -/

namespace Session

/-- What the listeners were requested for. -/
def requests (session : Session) : Multiset ForwardRequest :=
  session.listeners.map Listener.request

theorem mem_requests {session : Session} {request : ForwardRequest} :
    request ∈ session.requests ↔ ∃ listener ∈ session.listeners, listener.request = request := by
  simp [requests]

theorem place_of_port {listener : Listener} (h : listener.request.port ≠ 0) :
    listener.place = (listener.request.addr, listener.request.port) := by
  rw [Listener.place, listener.bound_eq h]

theorem eq_of_place {session : Session} {listener listener' : Listener}
    (h : listener ∈ session.listeners) (h' : listener' ∈ session.listeners)
    (hplace : listener.place = listener'.place) : listener = listener' :=
  List.inj_on_of_nodup_map session.distinct h h' hplace

theorem tcpip_forward_spec {session session' : Session} {request : ForwardRequest}
    {bound : UInt32} (h : session.tcpip_forward request bound = some session') :
    session'.requests = request ::ₘ session.requests ∧
      (request.port ≠ 0 → request ∉ session.requests) := by
  unfold tcpip_forward at h
  split at h
  · rename_i hfree
    obtain rfl := Option.some.inj h
    refine ⟨rfl, fun hport hmem => ?_⟩
    obtain ⟨listener, hlistener, rfl⟩ := mem_requests.mp hmem
    have hplace : listener.place = (listener.request.addr, bound) := by
      rw [place_of_port hport, hfree.2.1 hport]
    exact hfree.2.2 (hplace ▸ List.mem_map_of_mem hlistener)
  · cases h

theorem requests_remove {session : Session} {listener : Listener}
    (h : listener ∈ session.listeners) :
    (session.remove listener).requests = session.requests.erase listener.request := by
  have hperm := (List.perm_cons_erase h).map Listener.request
  have hrequests : session.requests = listener.request ::ₘ (session.remove listener).requests :=
    Multiset.coe_eq_coe.mpr hperm
  rw [hrequests, Multiset.erase_cons_head]

theorem listener_at_spec {session : Session} {place : String × UInt32} {listener : Listener}
    (h : session.listener_at place = some listener) :
    listener ∈ session.listeners ∧ listener.place = place :=
  ⟨List.mem_of_find?_eq_some h, by simpa using List.find?_some h⟩

end Session

theorem re_register_forwards_requests {session session' : Session}
    {order : List (ForwardRequest × UInt32)}
    (h : RemoteForwards.re_register_forwards session order = some session') :
    session'.requests = (order.map Prod.fst : Multiset ForwardRequest) + session.requests := by
  induction order generalizing session with
  | nil =>
    obtain rfl := Option.some.inj h
    simp
  | cons fwd order ih =>
    obtain ⟨next, hnext, hrest⟩ := Option.bind_eq_some_iff.mp h
    rw [ih hrest, (Session.tcpip_forward_spec hnext).1, List.map_cons, ← Multiset.cons_coe,
      Multiset.cons_add, Multiset.add_cons]

/-! ## The ledger -/

/-- `live` are the forwards that were requested and not cancelled: a cancel is of the forward whose
listener it names. `picked` are the addresses where port 0 was ever requested. -/
structure ForwardLedger where
  remote : RemoteForwards
  live : Multiset ForwardRequest
  picked : Finset String

namespace ForwardLedger

def new : ForwardLedger := ⟨.new, 0, ∅⟩

/-- What a step makes of the forwards that were requested and not cancelled. -/
def live_after (s : ForwardLedger) : RemoteForwardStep → Multiset ForwardRequest
  | .request_tcpip_forward request _ => request ::ₘ s.live
  | .cancel_tcpip_forward request =>
    ((s.remote.session.listener_at (request.addr, request.port)).map fun listener =>
      s.live.erase listener.request).getD s.live
  | .reconnect _ => s.live

def picked_after (s : ForwardLedger) : RemoteForwardStep → Finset String
  | .request_tcpip_forward request _ =>
    if request.port = 0 then insert request.addr s.picked else s.picked
  | _ => s.picked

def step (s : ForwardLedger) (i : RemoteForwardStep) : Option ForwardLedger :=
  (s.remote.step i).map fun remote => ⟨remote, s.live_after i, s.picked_after i⟩

/-- One listener for each forward that was requested and not cancelled. -/
def Balanced (s : ForwardLedger) : Prop := s.remote.session.requests = s.live

/-- What the client tracks. -/
structure Tracks (s : ForwardLedger) : Prop where
  explicit : ∀ request : ForwardRequest, request.port ≠ 0 →
    s.live.count request = if request ∈ s.remote.forwards then 1 else 0
  picks : ∀ addr, ⟨addr, 0⟩ ∈ s.remote.forwards ↔ addr ∈ s.picked

theorem tracks_new : new.Tracks :=
  ⟨fun _ _ => rfl, fun addr => iff_of_false (Finset.notMem_empty _) (Finset.notMem_empty addr)⟩

theorem balanced_new : new.Balanced := rfl

/-- Wherever port 0 was ever requested, one such forward is left. -/
def OneOfEach (s : ForwardLedger) : Prop :=
  ∀ addr, s.live.count ⟨addr, 0⟩ = if addr ∈ s.picked then 1 else 0

theorem tracked_eq_live_iff {s : ForwardLedger} (h : s.Tracks) :
    s.remote.forwards.val = s.live ↔ s.OneOfEach := by
  have hcount : ∀ request, s.remote.forwards.val.count request =
      if request ∈ s.remote.forwards then 1 else 0 :=
    fun request => Multiset.count_eq_of_nodup s.remote.forwards.nodup
  rw [Multiset.ext]
  constructor
  · intro heq addr
    rw [← heq, hcount]
    simp only [h.picks]
  · rintro hone ⟨addr, port⟩
    rw [hcount]
    by_cases hport : port = 0
    · subst hport
      rw [hone]
      simp only [h.picks]
    · rw [h.explicit _ hport]

/-! ## The steps -/

variable {s s' : ForwardLedger} {request : ForwardRequest}

theorem request_keeps {bound : UInt32} (htracks : s.Tracks) (hbalanced : s.Balanced)
    (hstep : s.step (.request_tcpip_forward request bound) = some s') :
    s'.Tracks ∧ s'.Balanced := by
  obtain ⟨remote, hremote, rfl⟩ := Option.map_eq_some_iff.mp hstep
  obtain ⟨session, hsession, rfl⟩ := Option.map_eq_some_iff.mp hremote
  obtain ⟨hrequests, hfresh⟩ := Session.tcpip_forward_spec hsession
  rw [hbalanced] at hrequests hfresh
  refine ⟨⟨fun other hport => ?_, fun addr => ?_⟩, hrequests⟩
  · show (request ::ₘ s.live).count other =
      if other ∈ insert request s.remote.forwards then 1 else 0
    by_cases hother : other = request
    · subst hother
      have hzero : s.live.count other = 0 := Multiset.count_eq_zero.mpr (hfresh hport)
      rw [Multiset.count_cons_self, hzero, if_pos (Finset.mem_insert_self _ _)]
    · rw [Multiset.count_cons_of_ne hother, htracks.explicit other hport]
      simp only [Finset.mem_insert, hother, false_or]
  · show ⟨addr, 0⟩ ∈ insert request s.remote.forwards ↔
      addr ∈ if request.port = 0 then insert request.addr s.picked else s.picked
    rw [Finset.mem_insert, htracks.picks]
    obtain ⟨addr', port⟩ := request
    by_cases hport : port = 0
    · simp [hport]
    · simp [hport, Ne.symm hport]

theorem request_of_place {listener : Listener} (hport : listener.request.port ≠ 0)
    (hplace : listener.place = (request.addr, request.port)) : listener.request = request := by
  rw [Session.place_of_port hport] at hplace
  obtain ⟨haddr, hport⟩ := Prod.mk.inj hplace
  cases hrequest : listener.request
  simp_all

theorem count_cancelled {listener : Listener} (htracks : s.Tracks) (hbalanced : s.Balanced)
    (hport : request.port ≠ 0) (hmem : listener ∈ s.remote.session.listeners)
    (hplace : listener.place = (request.addr, request.port)) :
    (s.live.erase listener.request).count request = 0 := by
  by_cases hpicked : listener.request.port = 0
  · -- a listener for `request` itself would be at the same place
    have hnot : request ∉ s.live := by
      rw [← hbalanced, Session.mem_requests]
      rintro ⟨other, hother, rfl⟩
      have heq := Session.eq_of_place hother hmem ((Session.place_of_port hport).trans hplace.symm)
      exact hport (heq ▸ hpicked)
    exact Multiset.count_eq_zero.mpr fun h => hnot (Multiset.mem_of_mem_erase h)
  · rw [request_of_place hpicked hplace, Multiset.count_erase_self, htracks.explicit request hport]
    split_ifs <;> rfl

theorem cancel_keeps (htracks : s.Tracks) (hbalanced : s.Balanced)
    (hstep : s.step (.cancel_tcpip_forward request) = some s') :
    s'.Tracks ∧ s'.Balanced := by
  obtain ⟨remote, hremote, rfl⟩ := Option.map_eq_some_iff.mp hstep
  obtain ⟨session, hsession, rfl⟩ := Option.map_eq_some_iff.mp hremote
  obtain ⟨listener, hlistener, rfl⟩ := Option.map_eq_some_iff.mp hsession
  obtain ⟨hmem, hplace⟩ := Session.listener_at_spec hlistener
  have hlive : s.live_after (.cancel_tcpip_forward request) = s.live.erase listener.request := by
    simp [live_after, hlistener]
  have hbound : request.port ≠ 0 := (Prod.mk.inj hplace).2 ▸ listener.bound_ne_zero
  refine ⟨⟨fun other hport => ?_, fun addr => ?_⟩, ?_⟩
  · show (s.live_after (.cancel_tcpip_forward request)).count other =
      if other ∈ s.remote.forwards.erase request then 1 else 0
    rw [hlive]
    by_cases hother : other = request
    · subst hother
      rw [if_neg (Finset.notMem_erase _ _)]
      exact count_cancelled htracks hbalanced hport hmem hplace
    · have hne : other ≠ listener.request := by
        rintro rfl
        exact hother (request_of_place hport hplace)
      rw [Multiset.count_erase_of_ne hne, htracks.explicit other hport]
      simp only [Finset.mem_erase, ne_eq, hother, not_false_eq_true, true_and]
  · show ⟨addr, 0⟩ ∈ s.remote.forwards.erase request ↔ addr ∈ s.picked
    have hne : (⟨addr, 0⟩ : ForwardRequest) ≠ request := by
      rintro rfl
      exact hbound rfl
    rw [Finset.mem_erase, htracks.picks]
    exact and_iff_right hne
  · show (s.remote.session.remove listener).requests =
      s.live_after (.cancel_tcpip_forward request)
    rw [hlive, Session.requests_remove hmem, hbalanced]

theorem reconnect_keeps {order : List (ForwardRequest × UInt32)} (htracks : s.Tracks)
    (hstep : s.step (.reconnect order) = some s') :
    s'.Tracks ∧ (s'.Balanced ↔ s.OneOfEach) := by
  obtain ⟨remote, hremote, rfl⟩ := Option.map_eq_some_iff.mp hstep
  simp only [RemoteForwards.step] at hremote
  split_ifs at hremote with horder
  obtain ⟨session, hsession, rfl⟩ := Option.map_eq_some_iff.mp hremote
  have hrequests : session.requests = s.remote.forwards.val := by
    rw [re_register_forwards_requests hsession, horder]
    exact add_zero _
  refine ⟨⟨htracks.explicit, htracks.picks⟩, ?_⟩
  rw [← tracked_eq_live_iff htracks, ← hrequests]
  exact Iff.rfl

end ForwardLedger

/-- **Remote forwards survive** if and only if each reconnect finds one port-0 forward left at each
address that had any. -/
theorem remote_forwards_survive_iff (history : List RemoteForwardStep) :
    Throughout ForwardLedger.step ForwardLedger.Balanced .new history ↔
      EachStep ForwardLedger.step
        (fun s i => (∃ order, i = .reconnect order) → s.OneOfEach) .new history := by
  refine throughout_iff_of_inv (fun s i s' htracks hbalanced hstep => ?_)
    ForwardLedger.tracks_new ForwardLedger.balanced_new history
  cases i with
  | request_tcpip_forward request bound =>
    obtain ⟨htracks', hbalanced'⟩ := ForwardLedger.request_keeps htracks hbalanced hstep
    exact ⟨htracks', iff_of_true hbalanced' (by simp)⟩
  | cancel_tcpip_forward request =>
    obtain ⟨htracks', hbalanced'⟩ := ForwardLedger.cancel_keeps htracks hbalanced hstep
    exact ⟨htracks', iff_of_true hbalanced' (by simp)⟩
  | reconnect order =>
    obtain ⟨htracks', hiff⟩ := ForwardLedger.reconnect_keeps htracks hstep
    exact ⟨htracks', hiff.trans ⟨fun h _ => h, fun h => h ⟨order, rfl⟩⟩⟩

/-- A forward for port 0 comes back after its cancel, and the second of two at one address is lost.
-/
theorem remote_forwards_not_kept :
    (run ForwardLedger.step .new
      [.request_tcpip_forward ⟨"0.0.0.0", 0⟩ 4242, .cancel_tcpip_forward ⟨"0.0.0.0", 4242⟩,
        .reconnect [(⟨"0.0.0.0", 0⟩, 5151)]]).map
      (fun s => (s.live, s.remote.session.requests)) = some (0, {⟨"0.0.0.0", 0⟩}) ∧
    (run ForwardLedger.step .new
      [.request_tcpip_forward ⟨"0.0.0.0", 0⟩ 4242, .request_tcpip_forward ⟨"0.0.0.0", 0⟩ 4243,
        .reconnect [(⟨"0.0.0.0", 0⟩, 5151)]]).map
      (fun s => (s.live, s.remote.session.requests)) =
        some ({⟨"0.0.0.0", 0⟩, ⟨"0.0.0.0", 0⟩}, {⟨"0.0.0.0", 0⟩}) := by
  decide +kernel

/-! ## The manager

Every history is one of the concurrent manager, with one call or reconnect at a time. -/

namespace Manager

/-- No call is running, and the monitor sleeps. -/
structure Idle (s : Manager) : Prop where
  returned : ∀ task ∈ s.calls, task.phase = .returned
  sleeping : s.monitor = .sleeping
  handle_free : s.handle_queue = []
  forwards_free : s.forwards_queue = []

/-- The manager while this call is the only one that runs. -/
def alone (s : Manager) (task : CallTask) (handle_queue forwards_queue : List ManagerTask) :
    Manager :=
  { s with
    calls := s.calls ++ [task]
    handle_queue := handle_queue
    forwards_queue := forwards_queue }

variable {s : Manager} {task : CallTask} {handle_queue forwards_queue : List ManagerTask}

theorem alone_call :
    (s.alone task handle_queue forwards_queue).calls[s.calls.length]? = some task :=
  List.getElem?_concat_length

theorem alone_set_call (task' : CallTask) :
    (s.alone task handle_queue forwards_queue).set_call s.calls.length task' =
      s.alone task' handle_queue forwards_queue := by
  simp [alone, set_call]

theorem alone_admits (hidle : s.Idle) {lock : ManagerLock} (hholds : task.holds lock = none)
    (mode : LockMode) : (s.alone task handle_queue forwards_queue).admits lock mode = true := by
  have hreturned : ∀ other ∈ s.calls, (other.holds lock).all mode.compatible = true := by
    intro other hother
    cases lock <;> simp [CallTask.holds, hidle.returned other hother]
  have hmonitor : (MonitorPhase.sleeping.holds lock).all mode.compatible = true := by
    cases lock <;> rfl
  simp only [admits, alone, hidle.sleeping, hmonitor, List.all_append, Bool.and_eq_true,
    List.all_eq_true]
  exact ⟨⟨hreturned, by simp [hholds]⟩, trivial⟩

theorem alone_grant (hidle : s.Idle) {lock : ManagerLock} {mode : LockMode}
    (hqueue : (s.alone task handle_queue forwards_queue).queue lock = [.call s.calls.length])
    (hwants : task.wants = some (lock, mode)) (hholds : task.holds lock = none) :
    (s.alone task handle_queue forwards_queue).step (.grant lock) =
      some ((s.alone task.granted handle_queue forwards_queue).set_queue lock []) := by
  have hwants' : (s.alone task handle_queue forwards_queue).wants (.call s.calls.length) =
      some (lock, mode) := by
    rw [wants, alone_call, Option.bind_some, hwants]
  show (s.alone task handle_queue forwards_queue).grant lock = _
  simp only [grant, hqueue, hwants', true_and, alone_admits hidle hholds mode, if_true]
  rw [resume, set_queue_calls, alone_call, Option.map_some]
  cases lock <;> simp [set_queue, set_call, alone]

theorem reaches_call (hidle : s.Idle) (call : ManagerCall) (hupdate : call.update.isSome)
    (port : UInt32) :
    ∃ s', Reaches step s s' ∧ s'.Idle ∧ s'.forwards = (call.update.getD id) s.forwards := by
  obtain ⟨change, hchange⟩ := Option.isSome_iff_exists.mp hupdate
  rw [hchange, Option.getD_some]
  have hcall : s.step (.call call) =
      some (s.alone ⟨call, .wait_handle, none⟩ [.call s.calls.length] []) := by
    simp [step, enqueue, set_queue, queue, alone, hidle.handle_free, hidle.forwards_free]
  have hhandle : (s.alone ⟨call, .wait_handle, none⟩ [.call s.calls.length] []).step
      (.grant .handle) = some (s.alone ⟨call, .asking, none⟩ [] []) :=
    alone_grant hidle rfl rfl rfl
  have hanswer : (s.alone ⟨call, .asking, none⟩ [] []).step
      (.answer s.calls.length (some port)) =
      some (s.alone ⟨call, .wait_forwards, some (call.result s.is_closed (some port))⟩ []
        [.call s.calls.length]) := by
    show (s.alone ⟨call, .asking, none⟩ [] []).answer _ _ = _
    simp only [answer, alone_call, hchange, alone_set_call]
    rfl
  have hforwards : (s.alone ⟨call, .wait_forwards, some (call.result s.is_closed (some port))⟩ []
      [.call s.calls.length]).step (.grant .forwards) =
      some (s.alone ⟨call, .updating, some (call.result s.is_closed (some port))⟩ [] []) :=
    alone_grant hidle rfl rfl rfl
  have hupdate : (s.alone ⟨call, .updating, some (call.result s.is_closed (some port))⟩ [] []).step
      (.update s.calls.length) =
      some { s.alone ⟨call, .returned, some (call.result s.is_closed (some port))⟩ [] [] with
        forwards := change s.forwards } := by
    show (s.alone ⟨call, .updating, _⟩ [] []).update _ = _
    simp only [update, alone_call, hchange, alone_set_call]
    rfl
  refine ⟨_, ((((Reaches.single hcall).trans (.single hhandle)).trans (.single hanswer)).trans
    (.single hforwards)).trans (.single hupdate), ⟨?_, hidle.sleeping, rfl, rfl⟩, rfl⟩
  intro task htask
  rcases List.mem_append.mp htask with hbefore | hnow
  · exact hidle.returned task hbefore
  · rw [List.mem_singleton.mp hnow]

theorem monitor_grant {lock : ManagerLock} {mode : LockMode}
    (hreturned : ∀ task ∈ s.calls, task.phase = .returned) (hqueue : s.queue lock = [.monitor])
    (hwants : s.monitor.wants = some (lock, mode)) (hholds : s.monitor.holds lock = none) :
    s.step (.grant lock) = some { s.set_queue lock [] with monitor := s.monitor.granted } := by
  have hcalls : ∀ task ∈ s.calls, (task.holds lock).all mode.compatible = true := by
    intro task htask
    cases lock <;> simp [CallTask.holds, hreturned task htask]
  have hadmits : s.admits lock mode = true := by
    simp only [admits, hholds, Bool.and_eq_true, List.all_eq_true]
    exact ⟨hcalls, rfl⟩
  have hwants' : s.wants .monitor = some (lock, mode) := hwants
  show s.grant lock = _
  simp only [grant, hqueue, hwants', true_and, hadmits, if_true]
  simp [resume]

section

variable {is_closed : Bool} {forwards : Finset ForwardRequest} {attempts : UInt32}
  {calls : List CallTask} (hreturned : ∀ task ∈ calls, task.phase = .returned)
include hreturned

theorem reaches_handle (phase : MonitorPhase) {mode : LockMode}
    (hwants : phase.wants = some (.handle, mode)) (hholds : phase.holds .handle = none) :
    Reaches step ⟨is_closed, forwards, attempts, calls, phase, [.monitor], []⟩
      ⟨is_closed, forwards, attempts, calls, phase.granted, [], []⟩ :=
  Reaches.single (monitor_grant
    (s := ⟨is_closed, forwards, attempts, calls, phase, [.monitor], []⟩) hreturned rfl hwants
    hholds)

theorem reaches_forwards (phase : MonitorPhase) {mode : LockMode}
    (hwants : phase.wants = some (.forwards, mode)) (hholds : phase.holds .forwards = none) :
    Reaches step ⟨is_closed, forwards, attempts, calls, phase, [], [.monitor]⟩
      ⟨is_closed, forwards, attempts, calls, phase.granted, [], []⟩ :=
  Reaches.single (monitor_grant
    (s := ⟨is_closed, forwards, attempts, calls, phase, [], [.monitor]⟩) hreturned rfl hwants
    hholds)

end

theorem reaches_reconnect (hidle : s.Idle) :
    ∃ s', Reaches step s s' ∧ s'.Idle ∧ s'.forwards = s.forwards := by
  obtain ⟨is_closed, forwards, attempts, calls, monitor, handle_queue, forwards_queue⟩ := s
  obtain ⟨hreturned, rfl, rfl, rfl⟩ := hidle
  replace hreturned : ∀ task ∈ calls, task.phase = .returned := hreturned
  have hclosed : Reaches step ⟨is_closed, forwards, attempts, calls, .sleeping, [], []⟩
      ⟨true, forwards, attempts, calls, .wait_check, [.monitor], []⟩ :=
    ⟨[.session_closes, .wake], rfl⟩
  have hsession : Reaches step ⟨true, forwards, attempts, calls, .checking, [], []⟩
      ⟨true, forwards, attempts + 1, calls, .wait_swap, [.monitor], []⟩ :=
    ⟨[.check, .establish_session true], rfl⟩
  have hswap : Reaches step ⟨true, forwards, attempts + 1, calls, .swapping, [], []⟩
      ⟨false, forwards, 0, calls, .wait_forwards, [], [.monitor]⟩ := ⟨[.swap], rfl⟩
  have hdone : Reaches step ⟨false, forwards, 0, calls, .looking, [], []⟩
      ⟨false, forwards, 0, calls, .sleeping, [], []⟩ := by
    by_cases hempty : forwards = ∅
    · have hlook : step ⟨false, forwards, 0, calls, .looking, [], []⟩ .look =
          some ⟨false, forwards, 0, calls, .sleeping, [], []⟩ := by
        simp [step, hempty]
      exact .single hlook
    · have hlook : step ⟨false, forwards, 0, calls, .looking, [], []⟩ .look =
          some ⟨false, forwards, 0, calls, .wait_register, [.monitor], []⟩ := by
        simp [step, hempty, enqueue, set_queue, queue]
      exact ((Reaches.single hlook).trans (reaches_handle hreturned .wait_register rfl rfl)).trans
        ⟨[.register], rfl⟩
  have hchecked := hclosed.trans (reaches_handle hreturned .wait_check rfl rfl)
  have hswapped := (hsession.trans (reaches_handle hreturned .wait_swap rfl rfl)).trans hswap
  have hlooking := hswapped.trans (reaches_forwards hreturned .wait_forwards rfl rfl)
  exact ⟨_, (hchecked.trans hlooking).trans hdone, ⟨hreturned, rfl, rfl, rfl⟩, rfl⟩

end Manager

theorem RemoteForwards.reaches_step {s s' : RemoteForwards} {i : RemoteForwardStep}
    (hstep : s.step i = some s') {manager : Manager} (hidle : manager.Idle)
    (hforwards : manager.forwards = s.forwards) :
    ∃ manager', Reaches Manager.step manager manager' ∧ manager'.Idle ∧
      manager'.forwards = s'.forwards := by
  cases i with
  | request_tcpip_forward request bound =>
    obtain ⟨session, -, rfl⟩ := Option.map_eq_some_iff.mp hstep
    rw [track, ← hforwards]
    exact Manager.reaches_call hidle (.request_tcpip_forward request) rfl bound
  | cancel_tcpip_forward request =>
    obtain ⟨session, -, rfl⟩ := Option.map_eq_some_iff.mp hstep
    rw [track, ← hforwards]
    exact Manager.reaches_call hidle (.cancel_tcpip_forward request) rfl 0
  | reconnect order =>
    simp only [step] at hstep
    split_ifs at hstep
    obtain ⟨session, -, rfl⟩ := Option.map_eq_some_iff.mp hstep
    obtain ⟨manager', hreaches, hidle', hsame⟩ := Manager.reaches_reconnect hidle
    exact ⟨manager', hreaches, hidle', hsame.trans hforwards⟩

theorem RemoteForwards.reaches_run {s s' : RemoteForwards} {history : List RemoteForwardStep}
    (hrun : run RemoteForwards.step s history = some s') {manager : Manager} (hidle : manager.Idle)
    (hforwards : manager.forwards = s.forwards) :
    ∃ manager', Reaches Manager.step manager manager' ∧ manager'.Idle ∧
      manager'.forwards = s'.forwards := by
  induction history generalizing s manager with
  | nil => exact ⟨manager, ⟨[], rfl⟩, hidle, Option.some.inj hrun ▸ hforwards⟩
  | cons i history ih =>
    obtain ⟨next, hnext, hrest⟩ := Option.bind_eq_some_iff.mp hrun
    obtain ⟨middle, hmiddle, hidle', hforwards'⟩ := reaches_step hnext hidle hforwards
    obtain ⟨last, hlast, hend⟩ := ih hrest hidle' hforwards'
    exact ⟨last, hmiddle.trans hlast, hend⟩

theorem RemoteForwards.reaches_manager {s : RemoteForwards} {history : List RemoteForwardStep}
    (hrun : run RemoteForwards.step .new history = some s) :
    ∃ manager, Reaches Manager.step ChannelManager.new manager ∧ manager.Idle ∧
      manager.forwards = s.forwards :=
  reaches_run hrun ⟨by simp [ChannelManager.new], rfl, rfl, rfl⟩ rfl

end Alknet
