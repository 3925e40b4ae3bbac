import Alknet.Code.Config.Forwarding

/-! # The Node.js server's handler, `alknet-napi/src/serve.rs` -/

namespace Alknet

/-- An `mpsc::UnboundedSender` of channels. A send fails when the receiver is gone. -/
structure ChannelSender where
  receiver_open : Bool

structure NapiServerHandler (IpNetwork : Type) where
  forwarding : ForwardingPolicy IpNetwork
  transport : TransportKind
  authenticated_identity : Option Identity
  channel_sender : Option ChannelSender

/-- The answer to an open, and whether the channel went to the connection's queue. It is dropped
otherwise. -/
structure NapiOpened where
  accepted : Bool
  queued : Bool

variable {IpNetwork : Type} [Network IpNetwork]

def NapiServerHandler.channel_open_direct_tcpip (handler : NapiServerHandler IpNetwork)
    (host_to_connect : String) (port_to_connect : UInt32) : NapiOpened :=
  if starts_with host_to_connect ALKNET_PREFIX then
    match handler.channel_sender with
    | some tx => ⟨true, tx.receiver_open⟩
    | none => ⟨true, false⟩
  else
    let identity := handler.authenticated_identity.getD ⟨"", []⟩
    if handler.forwarding.check host_to_connect port_to_connect.toUInt16 identity
        handler.transport then
      ⟨true, false⟩
    else ⟨false, false⟩

end Alknet
