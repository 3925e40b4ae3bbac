import Alknet.Code.Client.ForwardSpec
import Alknet.Rust.Decimal
import Alknet.Rust.Outcome

/-!
# The grammar of port forward specs

The parser wants four parts between colons. The documented form with three parts, without an
address to bind to, is never accepted.
-/

open Alknet.Rust

namespace Alknet

/-! ## Four parts -/

theorem splitOn_four {a b c d : List Char} (ha : ':' ∉ a) (hb : ':' ∉ b) (hc : ':' ∉ c)
    (hd : ':' ∉ d) :
    (a ++ ':' :: (b ++ ':' :: (c ++ ':' :: d))).splitOn ':' = [a, b, c, d] := by
  rw [splitOn_append_cons ha, splitOn_append_cons hb, splitOn_append_cons hc, splitOn_of_notMem hd]

theorem parse_spec_of_four {spec bind_addr target_host : String} {port port' : List Char}
    (h : spec.toList.splitOn ':' = [bind_addr.toList, port, target_host.toList, port'])
    {bind_port target_port : UInt16} (hport : parse_u16 port = some bind_port)
    (hport' : parse_u16 port' = some target_port) :
    parse_spec spec = .ok (bind_addr, bind_port, target_host, target_port) := by
  simp only [parse_spec, h, hport, hport', String.ofList_toList]

theorem parse_spec_ok {spec bind_addr target_host : String} {bind_port target_port : UInt16}
    (h : parse_spec spec = .ok (bind_addr, bind_port, target_host, target_port)) :
    ':' ∉ bind_addr.toList ∧ ':' ∉ target_host.toList := by
  unfold parse_spec at h
  split at h
  · next a b c d hsplit =>
    have hparts : ∀ part ∈ [a, b, c, d], ':' ∉ part := fun part hpart =>
      notMem_of_mem_splitOn (hsplit ▸ hpart)
    split at h
    · cases h
    · split at h
      · cases h
      · cases h
        simp only [String.toList_ofList]
        exact ⟨hparts a (by simp), hparts c (by simp)⟩
  · cases h

theorem parse_spec_of_length {spec : String} (h : (spec.toList.splitOn ':').length ≠ 4) :
    parse_spec spec = .error (.InvalidSpec spec) := by
  unfold parse_spec
  split
  · next hsplit =>
    rw [hsplit] at h
    exact absurd rfl h
  · rfl

/-! ## The two documented forms -/

/-- With an address to bind to, the long form, and without one the short form. -/
def spec_text (bind_addr : Option String) (bind_port : UInt16) (target_host : String)
    (target_port : UInt16) : String :=
  let rest := String.ofList (show_number 10 bind_port.toNat) ++ ":" ++ target_host ++ ":" ++
    String.ofList (show_number 10 target_port.toNat)
  match bind_addr with
  | some addr => addr ++ ":" ++ rest
  | none => rest

theorem splitOn_spec_text {bind_addr : Option String} {target_host : String}
    (bind_port target_port : UInt16) (haddr : ∀ addr ∈ bind_addr, ':' ∉ addr.toList)
    (hhost : ':' ∉ target_host.toList) :
    (spec_text bind_addr bind_port target_host target_port).toList.splitOn ':' =
      bind_addr.toList.map String.toList ++ [show_number 10 bind_port.toNat, target_host.toList,
        show_number 10 target_port.toNat] := by
  have hport := notMem_show_number (c := ':') (by decide) bind_port.toNat
  have hport' := notMem_show_number (c := ':') (by decide) target_port.toNat
  have hcolon : ":".toList = [':'] := rfl
  cases bind_addr with
  | none =>
    simp only [spec_text, String.toList_append, String.toList_ofList, hcolon, List.append_assoc,
      List.cons_append, List.nil_append]
    rw [splitOn_append_cons hport, splitOn_append_cons hhost, splitOn_of_notMem hport']
    rfl
  | some addr =>
    simp only [spec_text, String.toList_append, String.toList_ofList, hcolon, List.append_assoc,
      List.cons_append, List.nil_append]
    rw [splitOn_four (haddr addr rfl) hport hhost hport']
    rfl

/-- The text is accepted for these ports, this host and, if it names one, this address. -/
def Accepted (kind : PortForwardSpecKind) (bind_addr : Option String) (bind_port : UInt16)
    (target_host : String) (target_port : UInt16) : Prop :=
  ∃ spec, PortForwardSpec.of_kind kind (spec_text bind_addr bind_port target_host target_port) =
      .ok spec ∧
    spec.bind_port = bind_port ∧ spec.target_host = target_host ∧
    spec.target_port = target_port ∧ ∀ addr ∈ bind_addr, spec.bind_addr = addr

theorem of_kind_long (kind : PortForwardSpecKind) {bind_addr target_host : String}
    (haddr : ':' ∉ bind_addr.toList) (hhost : ':' ∉ target_host.toList)
    (bind_port target_port : UInt16) :
    PortForwardSpec.of_kind kind (spec_text (some bind_addr) bind_port target_host target_port) =
      .ok ⟨kind, bind_addr, bind_port, target_host, target_port⟩ := by
  have hnames : ∀ addr ∈ some bind_addr, ':' ∉ addr.toList := by simpa using haddr
  have hsplit := splitOn_spec_text bind_port target_port hnames hhost
  rw [PortForwardSpec.of_kind, parse_spec_of_four hsplit (parse_u16_show_number bind_port)
    (parse_u16_show_number target_port)]

theorem of_kind_short (kind : PortForwardSpecKind) {target_host : String}
    (hhost : ':' ∉ target_host.toList) (bind_port target_port : UInt16) :
    PortForwardSpec.of_kind kind (spec_text none bind_port target_host target_port) =
      .error (.InvalidSpec (spec_text none bind_port target_host target_port)) := by
  have hnames : ∀ addr ∈ (none : Option String), ':' ∉ addr.toList := by simp
  have hsplit := splitOn_spec_text bind_port target_port hnames hhost
  rw [PortForwardSpec.of_kind, parse_spec_of_length (by rw [hsplit]; simp)]

/-! ## What is printed is read again -/

/-- The `Display` text without `-L` or `-R` and the blank. -/
def PortForwardSpec.without_flag (spec : PortForwardSpec) : String :=
  String.ofList (spec.to_string.toList.drop 3)

theorem without_flag_eq (spec : PortForwardSpec) :
    spec.without_flag =
      spec_text (some spec.bind_addr) spec.bind_port spec.target_host spec.target_port := by
  have hflag : spec.kind.flag.toList.length = 2 := by cases spec.kind <;> rfl
  have hblank : " ".toList = [' '] := rfl
  apply String.toList_injective
  simp only [PortForwardSpec.without_flag, PortForwardSpec.to_string, spec_text,
    String.toList_ofList, String.toList_append, List.append_assoc, hblank]
  rw [List.drop_append, hflag, List.drop_of_length_le (by omega)]
  rfl

def RoundTrips (kind : PortForwardSpecKind) : Prop :=
  ∀ text spec, PortForwardSpec.of_kind kind text = .ok spec →
    PortForwardSpec.of_kind kind spec.without_flag = .ok spec

theorem roundTrips (kind : PortForwardSpecKind) : RoundTrips kind := by
  intro text spec h
  unfold PortForwardSpec.of_kind at h
  split at h
  · next bind_addr bind_port target_host target_port hparse =>
    cases h
    obtain ⟨haddr, hhost⟩ := parse_spec_ok hparse
    rw [without_flag_eq]
    exact of_kind_long kind haddr hhost bind_port target_port
  · cases h

theorem port_forward_specs_iff (kind : PortForwardSpecKind) (bind_addr : Option String)
    (bind_port : UInt16) (target_host : String) (target_port : UInt16)
    (haddr : ∀ addr ∈ bind_addr, ':' ∉ addr.toList) (hhost : ':' ∉ target_host.toList) :
    (Accepted kind bind_addr bind_port target_host target_port ∧ RoundTrips kind) ↔
      bind_addr.isSome := by
  cases bind_addr with
  | none =>
    refine iff_of_false ?_ (by simp)
    rintro ⟨⟨spec, hok, -⟩, -⟩
    rw [of_kind_short kind hhost] at hok
    cases hok
  | some addr =>
    refine iff_of_true ⟨⟨_, of_kind_long kind (haddr addr rfl) hhost _ _, rfl, rfl, rfl, ?_⟩,
      roundTrips kind⟩ rfl
    simp

theorem port_forward_spec_long :
    Accepted .Local (some "127.0.0.1") 5432 "db.internal" 5432 ∧ RoundTrips .Local :=
  (port_forward_specs_iff .Local (some "127.0.0.1") 5432 "db.internal" 5432 (by simp)
    (by decide)).mpr rfl

/-- The command line of the documentation. -/
theorem documented_spec_refused :
    PortForwardSpec.local "5432:db.internal:5432" = .error (.InvalidSpec "5432:db.internal:5432") ∧
      PortForwardSpec.remote "5432:db.internal:5432" =
        .error (.InvalidSpec "5432:db.internal:5432") ∧
      build_local_forwarders ["5432:db.internal:5432"] =
        .error (.InvalidFlag "invalid forward spec: 5432:db.internal:5432") ∧
      ¬ Accepted .Local none 5432 "db.internal" 5432 := by
  refine ⟨by decide, by decide, by decide, ?_⟩
  rintro ⟨spec, hok, -⟩
  rw [of_kind_short .Local (by decide)] at hok
  cases hok

/-! ## The command line -/

theorem kind_of_ok {kind : PortForwardSpecKind} {text : String} {spec : PortForwardSpec}
    (h : PortForwardSpec.of_kind kind text = .ok spec) : spec.kind = kind := by
  unfold PortForwardSpec.of_kind at h
  split at h
  · cases h
    rfl
  · cases h

theorem build_local_forwarder_eq_ok {text : String} {forwarder : LocalForwarder} :
    build_local_forwarder text = .ok forwarder ↔
      PortForwardSpec.local text = .ok forwarder.spec ∧ forwarder.listener = none := by
  unfold build_local_forwarder
  cases hlocal : PortForwardSpec.local text with
  | error e => simp
  | ok spec =>
    have hkind : spec.kind = .Local := kind_of_ok hlocal
    simp only [LocalForwarder.new, hkind, ne_eq, not_true_eq_false, if_false, Except.ok.injEq]
    constructor
    · rintro rfl
      exact ⟨rfl, rfl⟩
    · rintro ⟨rfl, hlistener⟩
      rw [← hlistener]

theorem build_local_forwarders_eq_ok {forwards : List String} {forwarders : List LocalForwarder} :
    build_local_forwarders forwards = .ok forwarders ↔
      List.Forall₂ (fun text forwarder => PortForwardSpec.local text = .ok forwarder.spec ∧
        forwarder.listener = none) forwards forwarders := by
  rw [build_local_forwarders, mapM_eq_ok]
  simp only [build_local_forwarder_eq_ok]

end Alknet
