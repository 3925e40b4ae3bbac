import Mathlib.Data.Set.Defs

/-! # Who is connected, and over what -/

namespace Alknet

structure Identity where
  id : String
  scopes : List String
deriving DecidableEq

structure AuthToken where
  raw : List UInt8
deriving DecidableEq

inductive TransportKind where
  | Tcp
  | Tls (server_name : Option String)
  | Iroh (endpoint_id : String)
  | WebTransport (server_name : Option String)
deriving DecidableEq

end Alknet
