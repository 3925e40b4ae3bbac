import Alknet.Rust.AsyncIo
import Alknet.Rust.Net
import Alknet.Rust.Str

/-!
# The messages of SOCKS5, `socks5/protocol.rs`
-/

open Alknet.Rust

namespace Alknet

variable {κ ρ : Type}

inductive Socks5Address where
  | Ipv4 (addr : Ipv4Addr)
  | Ipv6 (addr : Ipv6Addr)
  | Domain (name : String)
deriving DecidableEq

structure Socks5VersionMethod where
  version : UInt8
  methods : List UInt8
deriving DecidableEq

def Socks5VersionMethod.read_from : AsyncIo κ ρ StreamError Socks5VersionMethod := do
  let version ← read_u8
  let nmethods ← read_u8
  let methods ← read_exact nmethods.toNat
  return ⟨version, methods.toList⟩

structure Socks5Request where
  version : UInt8
  command : UInt8
  address : Socks5Address
  port : UInt16
deriving DecidableEq

/-- `Ipv6Addr::from([u8; 16])` -/
def Rust.Ipv6Addr.from_octets (octets : List.Vector UInt8 16) : Ipv6Addr :=
  ⟨.ofFn fun i : Fin 8 => u16_from_be_bytes (octets.get ⟨2 * i, by omega⟩)
    (octets.get ⟨2 * i + 1, by omega⟩)⟩

def Rust.Ipv6Addr.octets (addr : Ipv6Addr) : List UInt8 :=
  addr.segments.toList.flatMap u16_to_be_bytes

def Socks5Request.read_from : AsyncIo κ ρ StreamError Socks5Request := do
  let version ← read_u8
  let command ← read_u8
  let _rsv ← read_u8
  let atyp ← read_u8
  let address ←
    if atyp = 0x01 then do
      let octets ← read_exact 4
      pure (Socks5Address.Ipv4 ⟨octets⟩)
    else if atyp = 0x04 then do
      let octets ← read_exact 16
      pure (.Ipv6 (Ipv6Addr.from_octets octets))
    else if atyp = 0x03 then do
      let len ← read_u8
      let domain ← read_exact len.toNat
      pure (.Domain (from_utf8_lossy domain.toList))
    else throw (.InvalidData s!"unsupported address type: {atyp}")
  let port ← read_u16
  return ⟨version, command, address, port⟩

structure Socks5Reply where
  version : UInt8
  reply : UInt8
  address : Socks5Address
  port : UInt16
deriving DecidableEq

namespace Socks5Reply

def UNSPECIFIED : Ipv4Addr := ⟨0 ::ᵥ 0 ::ᵥ 0 ::ᵥ 0 ::ᵥ .nil⟩

def success (address : Socks5Address) (port : UInt16) : Socks5Reply := ⟨0x05, 0x00, address, port⟩

def connection_refused : Socks5Reply := ⟨0x05, 0x05, .Ipv4 UNSPECIFIED, 0⟩

def command_not_supported : Socks5Reply := ⟨0x05, 0x07, .Ipv4 UNSPECIFIED, 0⟩

def write_to (self : Socks5Reply) : AsyncIo κ ρ StreamError Unit := do
  write_u8 self.version
  write_u8 self.reply
  write_u8 0x00
  match self.address with
  | .Ipv4 addr =>
    write_u8 0x01
    write_all addr.octets.toList
  | .Ipv6 addr =>
    write_u8 0x04
    write_all addr.octets
  | .Domain name =>
    write_u8 0x03
    write_u8 (UInt8.ofNat (as_bytes name).length)
    write_all (as_bytes name)
  write_u16 self.port

end Socks5Reply

end Alknet
