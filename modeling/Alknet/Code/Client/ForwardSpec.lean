import Alknet.Code.Client.Forward
import Alknet.Rust.Text

/-!
# Port forward specs as text

The parser and the `Display` of `PortForwardSpec` in `client/forward.rs`, and the two functions of
`client/connect.rs` that read the flags `--forward` and `--remote-forward`.
-/

open Alknet.Rust

namespace Alknet

def parse_spec (spec : String) : Except ForwardError (String × UInt16 × String × UInt16) :=
  match spec.toList.splitOn ':' with
  | [bind_addr, bind_port, target_host, target_port] =>
    match parse_u16 bind_port with
    | none => .error (.InvalidSpec spec)
    | some bind_port =>
      match parse_u16 target_port with
      | none => .error (.InvalidSpec spec)
      | some target_port =>
        .ok (String.ofList bind_addr, bind_port, String.ofList target_host, target_port)
  | _ => .error (.InvalidSpec spec)

namespace PortForwardSpec

/-- The body that `local` and `remote` share. -/
def of_kind (kind : PortForwardSpecKind) (spec : String) : Except ForwardError PortForwardSpec :=
  match parse_spec spec with
  | .ok (bind_addr, bind_port, target_host, target_port) =>
    .ok ⟨kind, bind_addr, bind_port, target_host, target_port⟩
  | .error e => .error e

end PortForwardSpec

def PortForwardSpec.local : String → Except ForwardError PortForwardSpec :=
  PortForwardSpec.of_kind .Local

def PortForwardSpec.remote : String → Except ForwardError PortForwardSpec :=
  PortForwardSpec.of_kind .Remote

def PortForwardSpecKind.flag : PortForwardSpecKind → String
  | .Local => "-L"
  | .Remote => "-R"

def PortForwardSpec.to_string (self : PortForwardSpec) : String :=
  self.kind.flag ++ " " ++ self.bind_addr ++ ":" ++
    String.ofList (show_number 10 self.bind_port.toNat) ++ ":" ++ self.target_host ++ ":" ++
    String.ofList (show_number 10 self.target_port.toNat)

/-! ## The flags of the command line -/

/-- Its `{:?}`. -/
def PortForwardSpecKind.debug : PortForwardSpecKind → String
  | .Local => "Local"
  | .Remote => "Remote"

def LocalForwarder.new (spec : PortForwardSpec) : Except ForwardError LocalForwarder :=
  if spec.kind ≠ .Local then .error (.InvalidSpec ("expected local spec, got " ++ spec.kind.debug))
  else .ok ⟨spec, none⟩

/-- `ConnectError`, as far as it is used. `InvalidFlag` is its `Config`. -/
inductive ConnectError where
  | InvalidFlag (name : String)
  | ForwardFailed
deriving DecidableEq

/-- The body of the loop of `build_local_forwarders`. -/
def build_local_forwarder (spec_str : String) : Except ConnectError LocalForwarder :=
  match PortForwardSpec.local spec_str with
  | .error _ => .error (.InvalidFlag ("invalid forward spec: " ++ spec_str))
  | .ok spec =>
    match LocalForwarder.new spec with
    | .error _ => .error .ForwardFailed
    | .ok forwarder => .ok forwarder

def build_local_forwarders (forwards : List String) : Except ConnectError (List LocalForwarder) :=
  forwards.mapM build_local_forwarder

def build_remote_specs (remote_forwards : List String) :
    Except ConnectError (List PortForwardSpec) :=
  remote_forwards.mapM fun spec_str =>
    match PortForwardSpec.remote spec_str with
    | .error _ => .error (.InvalidFlag ("invalid remote forward spec: " ++ spec_str))
    | .ok spec => .ok spec

end Alknet
