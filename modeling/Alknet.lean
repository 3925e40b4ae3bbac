import Alknet.Rust.Outcome
import Alknet.Rust.Str
import Alknet.Rust.Watch
import Alknet.Rust.AsyncIo
import Alknet.Lib.Base64
import Alknet.Lib.Run
import Alknet.Lib.Locks
import Alknet.Lib.Lru
import Alknet.Lib.LastWins
import Alknet.Lib.Bip32
import Alknet.Lib.Duplex
import Alknet.Lib.Drive
import Alknet.Lib.Tunnel
import Alknet.Lib.Terminator
import Alknet.Lib.Numeral
import Alknet.Lib.Chunked
import Alknet.Lib.Pipe
import Alknet.Lib.Actor
import Alknet.Rust.Net
import Alknet.Rust.NetSpec
import Alknet.Rust.NetRoundTrip
import Alknet.Code.Auth
import Alknet.Code.Config.Forwarding
import Alknet.Code.Server.DirectTcpip
import Alknet.Code.Server.HttpConnect
import Alknet.Code.Server.Stealth
import Alknet.Code.Call.Frame
import Alknet.Code.Call.Pending
import Alknet.Code.Call.Registry
import Alknet.Code.Call.Services
import Alknet.Code.Interface.RawFraming
import Alknet.Code.Interface.Bridge
import Alknet.Code.Secret.Derivation
import Alknet.Code.Secret.Ethereum
import Alknet.Code.Secret.Encryption
import Alknet.Code.Secret.Cache
import Alknet.Code.Secret.Service
import Alknet.Secret.Cache
import Alknet.Secret.Lru
import Alknet.Secret.Paths
import Alknet.Secret.Lifecycle
import Alknet.Secret.Transparency
import Alknet.Secret.RoundTrip
import Alknet.Secret.Poison
import Alknet.Secret.Capacity
import Alknet.Secret.Passwords
import Alknet.Secret.Metadata
import Alknet.Secret.Bip32
import Alknet.Server.Destination
import Alknet.Call.Framing
import Alknet.Interface.RawFraming
import Alknet.Interface.Bridge
import Alknet.Call.Pending
import Alknet.Call.Registry
import Alknet.Call.Services
import Alknet.Code.Server.RateLimit
import Alknet.Code.Server.PublicKey
import Alknet.Code.Server.Serve
import Alknet.Code.Napi.Serve
import Alknet.Code.Interface.Ssh
import Alknet.Code.Client.Forward
import Alknet.Code.Client.Connect
import Alknet.Code.Client.ChannelManager
import Alknet.Code.Client.RemoteForward
import Alknet.Code.Client.Reconnect
import Alknet.Code.Client.ForwardSpec
import Alknet.Code.Socks5.Protocol
import Alknet.Code.Socks5.Server
import Alknet.Code.Server.ChannelProxy
import Alknet.Server.RateLimit
import Alknet.Server.PublicKey
import Alknet.Server.Channels
import Alknet.Server.HttpConnect
import Alknet.Server.Stealth
import Alknet.Interface.Ssh
import Alknet.Server.Serve
import Alknet.Client.Forward
import Alknet.Client.Connect
import Alknet.Client.ChannelManager
import Alknet.Client.RemoteForward
import Alknet.Client.Reconnect
import Alknet.Client.ForwardSpec
import Alknet.Socks5.Agreement
import Alknet.Socks5.Requests
import Alknet.Lib.Glob
import Alknet.Lib.FirstMatch
import Alknet.Config.HostPattern
import Alknet.Config.Policy
import Alknet.Config.Spelling
import Alknet.Rust.Text
import Alknet.Rust.Decimal
import Alknet.Rust.Utf8
import Alknet.Rust.Reads
import Alknet.Code.Napi.Forwarding
import Alknet.Napi.Forwarding
import Alknet.Code.Auth.Keys
import Alknet.Code.Auth.ServerAuth
import Alknet.Code.Config.DynamicConfig
import Alknet.Code.Napi.Auth
import Alknet.Code.Napi.Reload
import Alknet.Auth.ApiKeys
import Alknet.Auth.Keys
import Alknet.Auth.Certificates
import Alknet.Auth.Doors
import Alknet.Code.Proxying
import Alknet.Client.Proxying
import Alknet.Code.Secret.Actor
import Alknet.Secret.Actor
import Alknet.Code.Socks5.Opener
import Alknet.Socks5.EndToEnd
import Alknet.Code.Server.Options
import Alknet.Server.Options
import Alknet.Code.Napi.Options
import Alknet.Napi.Reload
import Alknet.Code.Server.Relay
import Alknet.Server.Relay
import Alknet.Code.Napi.AcceptLoop
import Alknet.Napi.AcceptLoop
import Alknet.Code.Client.SharedHandle
import Alknet.Client.SharedHandle
import Alknet.Code.Client.Start
import Alknet.Client.Start
import Alknet.Code.Http.Auth
import Alknet.Http.Auth
import Alknet.Lib.Turns
import Alknet.Code.Napi.Stream
import Alknet.Napi.Stream
import Alknet.Code.Call.Nested
import Alknet.Call.Nested
import Alknet.Code.Server.SharedLimiter
import Alknet.Server.SharedLimiter
import Alknet.Code.Interface.Session
import Alknet.Interface.Session
