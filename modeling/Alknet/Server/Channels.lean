import Alknet.Code.Napi.Serve
import Alknet.Code.Server.DirectTcpip

/-!
# Where an opened channel goes

The three handlers answer a `direct-tcpip` open with a boolean. `SshHandler` says true exactly when
it handed the channel to somebody. The other two also say true for channels that they drop.
-/

namespace Alknet

variable {IpNetwork : Type} [Network IpNetwork]

/-! ## `SshHandler` over a whole session -/

/-- What happens to a session's handler between two opens, and the opens. -/
inductive SshStep (IpNetwork : Type) where
  | direct_tcpip (host : String) (port : UInt32)
  | reload (forwarding : ForwardingPolicy IpNetwork)
  | authenticated (identity : Identity)

def SshHandler.after (handler : SshHandler IpNetwork) :
    SshStep IpNetwork → SshHandler IpNetwork
  | .direct_tcpip host port => (handler.channel_open_direct_tcpip host port).2
  | .reload forwarding => { handler with forwarding }
  | .authenticated identity => { handler with authenticated_identity := some identity }

/-- The results of the opens of a session. -/
def SshHandler.opens (handler : SshHandler IpNetwork) : List (SshStep IpNetwork) → List Opened
  | [] => []
  | .direct_tcpip host port :: steps =>
    (handler.channel_open_direct_tcpip host port).1 ::
      (handler.after (.direct_tcpip host port)).opens steps
  | step :: steps => (handler.after step).opens steps

def SshHandler.hasBridge (handler : SshHandler IpNetwork) : Bool :=
  handler.bridge_event_tx && handler.bridge_envelope_rx

def Opened.toBridge (opened : Opened) : Bool :=
  match opened.spawned with
  | some (.bridge _) => true
  | _ => false

def Opened.toControlHandler (opened : Opened) : Bool :=
  match opened.spawned with
  | some .handle_channel => true
  | _ => false

/-- The policy of the latest reload. -/
def latestPolicy (forwarding : ForwardingPolicy IpNetwork) :
    List (SshStep IpNetwork) → ForwardingPolicy IpNetwork
  | [] => forwarding
  | .reload forwarding :: steps => latestPolicy forwarding steps
  | _ :: steps => latestPolicy forwarding steps

/-- The identity of the latest authentication. -/
def latestIdentity (identity : Option Identity) : List (SshStep IpNetwork) → Option Identity
  | [] => identity
  | .authenticated identity :: steps => latestIdentity (some identity) steps
  | _ :: steps => latestIdentity identity steps

/-- What an open of `SshHandler` can do. -/
inductive SshHandler.Opens (handler : SshHandler IpNetwork) (host : String) (port : UInt32) :
    Opened × SshHandler IpNetwork → Prop where
  | bridge (hreserved : starts_with host ALKNET_PREFIX)
    (hbridge : handler.bridge_event_tx ∧ handler.bridge_envelope_rx) :
    Opens handler host port (⟨true, some (.bridge handler.authenticated_identity)⟩,
      { handler with bridge_event_tx := false, bridge_envelope_rx := false })
  | control (hreserved : starts_with host ALKNET_PREFIX) (hcontrol : handler.control_handler) :
    Opens handler host port
      (⟨true, some .handle_channel⟩, { handler with control_handler := false })
  | refused (hreserved : starts_with host ALKNET_PREFIX) :
    Opens handler host port (refused, handler)
  | forward (hfree : ¬ starts_with host ALKNET_PREFIX) :
    Opens handler host port (forward handler.forwarding handler.authenticated_identity
      handler.transport handler.outbound_proxy host port, handler)

theorem ssh_opens (handler : SshHandler IpNetwork) (host : String) (port : UInt32) :
    handler.Opens host port (handler.channel_open_direct_tcpip host port) := by
  unfold SshHandler.channel_open_direct_tcpip
  split_ifs with hreserved hbridge hcontrol
  · exact .bridge hreserved hbridge.2
  · exact .control hreserved hcontrol
  · exact .refused hreserved
  · exact .forward hreserved

theorem forward_cases (forwarding : ForwardingPolicy IpNetwork)
    (authenticated_identity : Option Identity) (transport : TransportKind)
    (outbound_proxy : Option ProxyMode) (host : String) (port : UInt32) :
    (forwarding.check host port.toUInt16 (authenticated_identity.getD ⟨"", []⟩) transport = true ∧
      forward forwarding authenticated_identity transport outbound_proxy host port =
        ⟨true, some (.proxy host port (outbound_proxy.getD .Direct))⟩) ∨
    (forwarding.check host port.toUInt16 (authenticated_identity.getD ⟨"", []⟩) transport = false ∧
      forward forwarding authenticated_identity transport outbound_proxy host port = refused) := by
  unfold forward
  cases h : forwarding.check host port.toUInt16 (authenticated_identity.getD ⟨"", []⟩)
      transport with
  | true => exact Or.inl ⟨rfl, by simp [h]⟩
  | false => exact Or.inr ⟨rfl, by simp [h]⟩

theorem open_spends (handler : SshHandler IpNetwork) (host : String) (port : UInt32) :
    (handler.channel_open_direct_tcpip host port).1.toBridge.toNat +
        (handler.channel_open_direct_tcpip host port).2.hasBridge.toNat = handler.hasBridge.toNat ∧
    (handler.channel_open_direct_tcpip host port).1.toControlHandler.toNat +
        (handler.channel_open_direct_tcpip host port).2.control_handler.toNat =
      handler.control_handler.toNat := by
  have hopens := ssh_opens handler host port
  generalize handler.channel_open_direct_tcpip host port = result at hopens
  cases hopens with
  | bridge hreserved hbridge =>
    simp [Opened.toBridge, Opened.toControlHandler, SshHandler.hasBridge, hbridge]
  | control hreserved hcontrol =>
    simp [Opened.toBridge, Opened.toControlHandler, SshHandler.hasBridge, hcontrol]
  | refused hreserved => simp [Opened.toBridge, Opened.toControlHandler, refused]
  | forward hfree =>
    rcases forward_cases handler.forwarding handler.authenticated_identity handler.transport
      handler.outbound_proxy host port with ⟨-, heq⟩ | ⟨-, heq⟩
    · simp [heq, Opened.toBridge, Opened.toControlHandler]
    · simp [heq, Opened.toBridge, Opened.toControlHandler, refused]

theorem opens_spend (handler : SshHandler IpNetwork) (steps : List (SshStep IpNetwork)) :
    (handler.opens steps).countP Opened.toBridge ≤ handler.hasBridge.toNat ∧
      (handler.opens steps).countP Opened.toControlHandler ≤ handler.control_handler.toNat := by
  induction steps generalizing handler with
  | nil => exact ⟨Nat.zero_le _, Nat.zero_le _⟩
  | cons step steps ih =>
    cases step with
    | reload forwarding => exact ih (handler.after (.reload forwarding))
    | authenticated identity => exact ih (handler.after (.authenticated identity))
    | direct_tcpip host port =>
      obtain ⟨hbridge, hcontrol⟩ := ih (handler.after (.direct_tcpip host port))
      obtain ⟨hspent, hspent'⟩ := open_spends handler host port
      have hite : ∀ b : Bool, (if b = true then 1 else 0) = b.toNat := by decide
      simp only [SshHandler.opens, List.countP_cons, hite]
      simp only [SshHandler.after] at hbridge hcontrol ⊢
      omega

theorem after_policy (handler : SshHandler IpNetwork) (steps : List (SshStep IpNetwork)) :
    (steps.foldl SshHandler.after handler).forwarding = latestPolicy handler.forwarding steps ∧
    (steps.foldl SshHandler.after handler).authenticated_identity =
      latestIdentity handler.authenticated_identity steps ∧
    (steps.foldl SshHandler.after handler).transport = handler.transport := by
  induction steps generalizing handler with
  | nil => exact ⟨rfl, rfl, rfl⟩
  | cons step steps ih =>
    have hrest := ih (handler.after step)
    cases step with
    | reload forwarding => exact hrest
    | authenticated identity => exact hrest
    | direct_tcpip host port =>
      have hopens := ssh_opens handler host port
      simp only [SshHandler.after] at hrest
      simp only [List.foldl_cons, SshHandler.after, latestPolicy, latestIdentity]
      generalize handler.channel_open_direct_tcpip host port = result at hrest hopens ⊢
      cases hopens <;> exact hrest

/-- **Routing.** An open is accepted exactly when its channel was handed to somebody, and only a
host that is not reserved is dialed. -/
theorem ssh_routing (handler : SshHandler IpNetwork) (steps : List (SshStep IpNetwork)) :
    (∀ host port,
      let opened := ((steps.foldl SshHandler.after handler).channel_open_direct_tcpip host port).1
      (opened.accepted = true ↔ ∃ consumer, opened.spawned = some consumer) ∧
      (starts_with host ALKNET_PREFIX = true →
        ∀ target port' mode, opened.spawned ≠ some (.proxy target port' mode)) ∧
      (starts_with host ALKNET_PREFIX = false →
        ((∃ mode, opened.spawned = some (.proxy host port mode)) ↔
          (latestPolicy handler.forwarding steps).check host port.toUInt16
            ((latestIdentity handler.authenticated_identity steps).getD ⟨"", []⟩)
            handler.transport = true))) ∧
    (handler.opens steps).countP Opened.toBridge ≤ 1 ∧
    (handler.opens steps).countP Opened.toControlHandler ≤ 1 := by
  obtain ⟨hpolicy, hidentity, htransport⟩ := after_policy handler steps
  obtain ⟨hbridge, hcontrol⟩ := opens_spend handler steps
  refine ⟨?_, hbridge.trans (Bool.toNat_le _), hcontrol.trans (Bool.toNat_le _)⟩
  intro host port
  rw [← hpolicy, ← hidentity, ← htransport]
  generalize steps.foldl SshHandler.after handler = now
  have hopens := ssh_opens now host port
  generalize now.channel_open_direct_tcpip host port = result at hopens
  cases hopens with
  | bridge hreserved hbridge => simp [hreserved]
  | control hreserved hcontrol => simp [hreserved]
  | refused hreserved => simp [hreserved, refused]
  | forward hfree =>
    rcases forward_cases now.forwarding now.authenticated_identity now.transport
      now.outbound_proxy host port with ⟨hcheck, heq⟩ | ⟨hcheck, heq⟩
    · simp [heq, hfree, hcheck]
    · simp [heq, hfree, hcheck, refused]

/-! ## Channels that are dropped -/

inductive Consumer where
  | control_handler
  | channel_queue
  | control_bridge
  | proxy_task
deriving DecidableEq

def Opened.consumer (opened : Opened) : Option Consumer :=
  opened.spawned.map fun
    | .proxy _ _ _ => .proxy_task
    | .bridge _ => .control_bridge
    | .handle_channel => .control_handler

def NapiOpened.consumer (opened : NapiOpened) : Option Consumer :=
  if opened.queued then some .channel_queue else none

/-- An accepted channel has a consumer of the right kind for its host. -/
def Handed (host : String) (accepted : Bool) (consumer : Option Consumer) : Prop :=
  accepted = true →
    if starts_with host ALKNET_PREFIX then
      consumer = some .control_handler ∨ consumer = some .channel_queue
    else consumer = some .proxy_task

/-- **Dropped channels:** which of the accepted ones have no consumer. -/
theorem channels_handed_iff :
    (∀ (handler : ServerHandler IpNetwork) (host : String) (port : UInt32),
      Handed host (handler.channel_open_direct_tcpip host port).1.accepted
          (handler.channel_open_direct_tcpip host port).1.consumer ↔
        ¬ (starts_with host ALKNET_PREFIX = true ∧ handler.control_handler = true)) ∧
    (∀ (handler : NapiServerHandler IpNetwork) (host : String) (port : UInt32),
      Handed host (handler.channel_open_direct_tcpip host port).accepted
          (handler.channel_open_direct_tcpip host port).consumer ↔
        if starts_with host ALKNET_PREFIX then handler.channel_sender = some ⟨true⟩
        else handler.forwarding.check host port.toUInt16
          (handler.authenticated_identity.getD ⟨"", []⟩) handler.transport = false) := by
  refine ⟨fun handler host port => ?_, fun handler host port => ?_⟩
  · unfold ServerHandler.channel_open_direct_tcpip Handed
    cases hreserved : starts_with host ALKNET_PREFIX with
    | true => simp [Opened.consumer]
    | false =>
      rcases forward_cases handler.forwarding handler.authenticated_identity handler.transport
        handler.outbound_proxy host port with ⟨hcheck, heq⟩ | ⟨hcheck, heq⟩
      · simp [heq, Opened.consumer]
      · simp [heq, refused]
  · unfold NapiServerHandler.channel_open_direct_tcpip Handed
    cases hreserved : starts_with host ALKNET_PREFIX with
    | true =>
      rcases handler.channel_sender with _ | ⟨_ | _⟩
      · simp [NapiOpened.consumer]
      · simp [NapiOpened.consumer]
      · simp [NapiOpened.consumer]
    | false =>
      cases hcheck : handler.forwarding.check host port.toUInt16
        (handler.authenticated_identity.getD ⟨"", []⟩) handler.transport with
      | true => simp [hcheck, NapiOpened.consumer]
      | false => simp [hcheck]

instance noNetwork : Network Empty := ⟨fun network _ => network.elim⟩

/-- `alknet-control` with a control handler, and a plain host that the policy allows. -/
theorem channel_dropped :
    ¬ Handed "alknet-control"
      (ServerHandler.channel_open_direct_tcpip
        (⟨⟨.Allow, []⟩, none, true, .Tcp, none⟩ : ServerHandler Empty)
        "alknet-control" 0).1.accepted
      (ServerHandler.channel_open_direct_tcpip
        (⟨⟨.Allow, []⟩, none, true, .Tcp, none⟩ : ServerHandler Empty)
        "alknet-control" 0).1.consumer ∧
    ¬ Handed "example.com"
      (NapiServerHandler.channel_open_direct_tcpip
        (⟨⟨.Allow, []⟩, .Tcp, none, none⟩ : NapiServerHandler Empty)
        "example.com" 80).accepted
      (NapiServerHandler.channel_open_direct_tcpip
        (⟨⟨.Allow, []⟩, .Tcp, none, none⟩ : NapiServerHandler Empty)
        "example.com" 80).consumer := by
  refine ⟨fun h => ?_, fun h => ?_⟩
  · have := h rfl
    revert this
    decide
  · have := h rfl
    revert this
    decide

end Alknet
