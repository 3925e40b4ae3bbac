import Alknet.Code.Server.DirectTcpip
import Alknet.Code.Socks5.Server

/-!
# `HandleChannelOpener`, `socks5/mod.rs`, and the server behind it

The SOCKS5 server of a client opens its channels on the client's SSH session. What the other end of
the session answers is that of the handler there.
-/

namespace Alknet

/-- `direct_tcpip` is the other end's answer to a request to open a channel. -/
def HandleChannelOpener.open_channel (is_closed : Bool) (direct_tcpip : String → UInt32 → Bool) :
    String × UInt16 → Except ChannelOpenError Unit
  | (host, port) =>
    if is_closed then .error .SessionClosed
    else if direct_tcpip host port.toUInt32 then .ok () else .error .ChannelOpenFailed

/-- A connection of the SOCKS5 server of a client whose session is with this handler. -/
def ServerHandler.serve_socks5_connection {IpNetwork : Type} [Network IpNetwork]
    (handler : ServerHandler IpNetwork) (channel : List UInt8) (client : List (List UInt8)) :
    Socks5Served :=
  Alknet.serve_socks5_connection
    (HandleChannelOpener.open_channel false fun host port =>
      (handler.channel_open_direct_tcpip host port).1.accepted)
    channel client

end Alknet
