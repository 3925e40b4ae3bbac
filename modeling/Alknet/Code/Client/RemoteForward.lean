import Alknet.Code.Client.ChannelManager
import Alknet.Lib.Run
import Mathlib.Data.Multiset.Basic

/-!
# Remote forwards, `client/channel_manager.rs`

One call of the manager after the other, and completed reconnects between them. Beside the tracked
forwards of the client there are the listeners that the server has in the session. The server
refuses what it cannot do: then there is no step.
-/

open Alknet.Lib

namespace Alknet

/-! ## The server -/

/-- A listener has the port that was asked for. For port 0 the server picks one. -/
structure Listener where
  request : ForwardRequest
  bound : UInt32
  bound_ne_zero : bound ≠ 0
  bound_eq : request.port ≠ 0 → bound = request.port
deriving DecidableEq

def Listener.place (listener : Listener) : String × UInt32 :=
  (listener.request.addr, listener.bound)

/-- The listeners of one SSH session, each at a place of its own. -/
structure Session where
  listeners : List Listener
  distinct : (listeners.map Listener.place).Nodup

namespace Session

def new : Session := ⟨[], List.nodup_nil⟩

/-- The server listens at `bound` and replies with it. -/
def tcpip_forward (session : Session) (request : ForwardRequest) (bound : UInt32) :
    Option Session :=
  if h : bound ≠ 0 ∧ (request.port ≠ 0 → bound = request.port) ∧
      (request.addr, bound) ∉ session.listeners.map Listener.place then
    some ⟨⟨request, bound, h.1, h.2.1⟩ :: session.listeners,
      List.nodup_cons.mpr ⟨h.2.2, session.distinct⟩⟩
  else none

def listener_at (session : Session) (place : String × UInt32) : Option Listener :=
  session.listeners.find? (·.place = place)

def remove (session : Session) (listener : Listener) : Session :=
  ⟨session.listeners.erase listener,
    session.distinct.sublist (List.erase_sublist.map Listener.place)⟩

/-- A cancel names the port of the listener. -/
def cancel_tcpip_forward (session : Session) (request : ForwardRequest) : Option Session :=
  (session.listener_at (request.addr, request.port)).map session.remove

end Session

/-! ## The client and the server -/

structure RemoteForwards where
  forwards : Finset ForwardRequest
  session : Session

/-- `order` is the order in which the `HashSet` is iterated, with the port that each reply has. -/
inductive RemoteForwardStep where
  | request_tcpip_forward (request : ForwardRequest) (bound : UInt32)
  | cancel_tcpip_forward (request : ForwardRequest)
  | reconnect (order : List (ForwardRequest × UInt32))

namespace RemoteForwards

def new : RemoteForwards := ⟨∅, Session.new⟩

/-- The end of a call that was answered. -/
def track (s : RemoteForwards) (call : ManagerCall) (session : Session) : RemoteForwards :=
  ⟨(call.update.getD id) s.forwards, session⟩

/-- The loop of `re_register_forwards`. The replies are not kept. -/
def re_register_forwards (session : Session) (order : List (ForwardRequest × UInt32)) :
    Option Session :=
  run (fun session (fwd : ForwardRequest × UInt32) => session.tcpip_forward fwd.1 fwd.2) session
    order

def step (s : RemoteForwards) : RemoteForwardStep → Option RemoteForwards
  | .request_tcpip_forward request bound =>
    (s.session.tcpip_forward request bound).map (s.track (.request_tcpip_forward request))
  | .cancel_tcpip_forward request =>
    (s.session.cancel_tcpip_forward request).map (s.track (.cancel_tcpip_forward request))
  | .reconnect order =>
    if (order.map Prod.fst : Multiset ForwardRequest) = s.forwards.val then
      (re_register_forwards .new order).map fun session => { s with session := session }
    else none

end RemoteForwards

end Alknet
