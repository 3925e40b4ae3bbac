import Alknet.Code.Interface.Ssh
import Alknet.Server.Channels

/-!
# Which configuration an SSH session obeys

`accept` is given a configuration with a forwarding cell. The session decides on the interface's
own cell, so it obeys the configuration exactly when the two are one cell.
-/

namespace Alknet

variable {Cell IpNetwork : Type}

/-- What happens while a session runs. A `store` changes the cells. -/
inductive SessionEvent (Cell IpNetwork : Type) where
  | direct_tcpip (host : String) (port : UInt32)
  | authenticated (identity : Identity)
  | store (contents : Cell → ForwardingPolicy IpNetwork)

/-- The event as the handler sees it, which loads its own cell. -/
def SessionEvent.at_cell (dynamic : Cell) : SessionEvent Cell IpNetwork → SshStep IpNetwork
  | .direct_tcpip host port => .direct_tcpip host port
  | .authenticated identity => .authenticated identity
  | .store contents => .reload (contents dynamic)

/-- The contents of the cells after the events. -/
def storedAfter (contents : Cell → ForwardingPolicy IpNetwork) :
    List (SessionEvent Cell IpNetwork) → Cell → ForwardingPolicy IpNetwork
  | [] => contents
  | .store contents :: events => storedAfter contents events
  | _ :: events => storedAfter contents events

/-- The identity of the session after the events. -/
def identityAfter (identity : Option Identity) :
    List (SessionEvent Cell IpNetwork) → Option Identity
  | [] => identity
  | .authenticated identity :: events => identityAfter (some identity) events
  | _ :: events => identityAfter identity events

theorem latestPolicy_at_cell (dynamic : Cell) (contents : Cell → ForwardingPolicy IpNetwork)
    (events : List (SessionEvent Cell IpNetwork)) :
    latestPolicy (contents dynamic) (events.map (·.at_cell dynamic)) =
      storedAfter contents events dynamic := by
  induction events generalizing contents with
  | nil => rfl
  | cons event events ih =>
    cases event with
    | direct_tcpip host port => exact ih contents
    | authenticated identity => exact ih contents
    | store contents => exact ih contents

theorem latestIdentity_at_cell (dynamic : Cell) (identity : Option Identity)
    (events : List (SessionEvent Cell IpNetwork)) :
    latestIdentity identity (events.map (·.at_cell dynamic)) = identityAfter identity events := by
  induction events generalizing identity with
  | nil => rfl
  | cons event events ih =>
    cases event with
    | direct_tcpip host port => exact ih identity
    | authenticated identity => exact ih (some identity)
    | store contents => exact ih identity

variable [Network IpNetwork]

/-- The answer to an open of the session after the events. -/
def SshSession.opened (session : SshSession Cell) (contents : Cell → ForwardingPolicy IpNetwork)
    (events : List (SessionEvent Cell IpNetwork)) (host : String) (port : UInt32) : Bool :=
  (((events.map (·.at_cell session.dynamic)).foldl SshHandler.after
    (session.handler contents)).channel_open_direct_tcpip host port).1.accepted

theorem session_opened (session : SshSession Cell) (contents : Cell → ForwardingPolicy IpNetwork)
    (events : List (SessionEvent Cell IpNetwork)) {host : String}
    (hfree : starts_with host ALKNET_PREFIX = false) (port : UInt32) :
    session.opened contents events host port =
      (storedAfter contents events session.dynamic).check host port.toUInt16
        ((identityAfter none events).getD ⟨"", []⟩) session.transport := by
  obtain ⟨hpolicy, hidentity, htransport⟩ := after_policy (session.handler contents)
    (events.map (·.at_cell session.dynamic))
  have hforwarding := hpolicy.trans (latestPolicy_at_cell session.dynamic contents events)
  have hsession := hidentity.trans (latestIdentity_at_cell session.dynamic none events)
  unfold SshSession.opened
  generalize (events.map (·.at_cell session.dynamic)).foldl SshHandler.after
    (session.handler contents) = now at hforwarding hsession htransport
  unfold SshHandler.channel_open_direct_tcpip
  rw [if_neg (by simp [hfree]), ← hforwarding, ← hsession]
  rw [show session.transport = now.transport from htransport.symm]
  rcases forward_cases now.forwarding now.authenticated_identity now.transport now.outbound_proxy
    host port with ⟨hcheck, heq⟩ | ⟨hcheck, heq⟩
  · rw [heq, hcheck]
  · rw [heq, hcheck]
    rfl

/-- The session obeys the policy in this cell, whatever the cells hold. -/
def SshSession.Obeys (IpNetwork : Type) [Network IpNetwork] (session : SshSession Cell)
    (cell : Cell) : Prop :=
  ∀ (contents : Cell → ForwardingPolicy IpNetwork) (events : List (SessionEvent Cell IpNetwork))
    (host : String) (port : UInt32), starts_with host ALKNET_PREFIX = false →
      session.opened contents events host port =
        (storedAfter contents events cell).check host port.toUInt16
          ((identityAfter none events).getD ⟨"", []⟩) session.transport

/-- **The obeyed cell.** A session obeys its configuration's forwarding cell only if that is the
interface's own. -/
theorem accepted_obeys_iff (interface : SshInterface Cell) (ssh_config : SshInterfaceConfig Cell) :
    ∃ session, interface.accept (.Ssh ssh_config) = .ok session ∧
      (session.Obeys IpNetwork ssh_config.forwarding ↔
        ssh_config.forwarding = interface.dynamic) := by
  refine ⟨interface.accept_inner ssh_config none .Tcp, rfl, ?_, ?_⟩
  -- only the configuration's cell allows anything
  · intro hobeys
    by_contra hne
    classical
    let contents : Cell → ForwardingPolicy IpNetwork := fun cell =>
      if cell = ssh_config.forwarding then ⟨.Allow, []⟩ else ⟨.Deny, []⟩
    have hfree : starts_with "example.com" ALKNET_PREFIX = false := by decide
    have hopen := hobeys contents [] "example.com" 80 hfree
    rw [session_opened _ _ _ hfree] at hopen
    have hdynamic : contents interface.dynamic = ⟨.Deny, []⟩ := if_neg (Ne.symm hne)
    have hforwarding : contents ssh_config.forwarding = ⟨.Allow, []⟩ := if_pos rfl
    simp only [storedAfter, SshInterface.accept_inner, hdynamic, hforwarding] at hopen
    simp [ForwardingPolicy.check, check_rules] at hopen
  · rintro heq contents events host port hfree
    rw [session_opened _ _ _ hfree, heq]
    rfl

/-- The interface's cell allows everything and the configuration's cell denies everything. -/
theorem denied_host_opened :
    ∃ session,
      SshInterface.accept ⟨true, ConnectionRateLimiter.new 0, none, 10⟩
        (.Ssh ⟨fun _ => none, false⟩) = .ok session ∧
      ¬ session.Obeys Empty false := by
  refine ⟨_, rfl, fun hobeys => ?_⟩
  have hopen := hobeys (fun cell => if cell then ⟨.Allow, []⟩ else ⟨.Deny, []⟩) [] "example.com" 80
    (by decide)
  revert hopen
  decide

end Alknet
