import Alknet.Socks5.Agreement

/-!
# What a SOCKS5 client asks for, and what it gets

The server opens a channel for a `CONNECT` request and for nothing else. It answers every request
but one with an address type that it does not know.
-/

open Alknet.Rust Alknet.Lib

namespace Alknet

/-! ## The bytes of a request -/

/-- An address as a request has it. -/
inductive Requested where
  | ipv4 (octets : List.Vector UInt8 4)
  | ipv6 (octets : List.Vector UInt8 16)
  | domain (name : List UInt8) (fits : name.length < 256)

namespace Requested

def atyp : Requested → UInt8
  | ipv4 _ => 1
  | ipv6 _ => 4
  | domain _ _ => 3

/-- The bytes behind the address type. -/
def bytes : Requested → List UInt8
  | ipv4 octets => octets.toList
  | ipv6 octets => octets.toList
  | domain name _ => UInt8.ofNat name.length :: name

def address : Requested → Socks5Address
  | ipv4 octets => .Ipv4 ⟨octets⟩
  | ipv6 octets => .Ipv6 (Ipv6Addr.from_octets octets)
  | domain name _ => .Domain (from_utf8_lossy name)

theorem atyp_mem (asked : Requested) : asked.atyp ∈ [(1 : UInt8), 3, 4] := by
  cases asked <;> simp [atyp]

theorem eq_ipv4 {asked : Requested} (h : asked.atyp = 1) : ∃ octets, asked = ipv4 octets := by
  cases asked with
  | ipv4 octets => exact ⟨octets, rfl⟩
  | ipv6 | domain => simp [atyp] at h

theorem eq_ipv6 {asked : Requested} (h : asked.atyp = 4) : ∃ octets, asked = ipv6 octets := by
  cases asked with
  | ipv6 octets => exact ⟨octets, rfl⟩
  | ipv4 | domain => simp [atyp] at h

theorem eq_domain {asked : Requested} (h : asked.atyp = 3) :
    ∃ name fits, asked = domain name fits := by
  cases asked with
  | domain name fits => exact ⟨name, fits, rfl⟩
  | ipv4 | ipv6 => simp [atyp] at h

end Requested

/-- The bytes that a greeting is read from. -/
def Socks5VersionMethod.Wire (vm : Socks5VersionMethod) (used : List UInt8) : Prop :=
  vm.methods.length < 256 ∧ used = vm.version :: UInt8.ofNat vm.methods.length :: vm.methods

/-- The bytes that a request is read from. -/
def Socks5Request.Wire (request : Socks5Request) (used : List UInt8) : Prop :=
  ∃ (rsv : UInt8) (asked : Requested), request.address = asked.address ∧
    used = request.version :: request.command :: rsv :: asked.atyp ::
      (asked.bytes ++ u16_to_be_bytes request.port)

section

variable {κ ρ : Type} {answer : κ → ρ}

theorem read_greeting_parses :
    Parses answer (Socks5VersionMethod.read_from : AsyncIo κ ρ StreamError _)
      Socks5VersionMethod.Wire := by
  refine (read_u8_parses.bind fun version => read_u8_parses.bind fun nmethods =>
    (read_exact_parses nmethods.toNat).bind fun methods => Parses.pure _).congr ?_
  rintro ⟨version, methods⟩ used
  constructor
  · rintro ⟨hfits, rfl⟩
    have hlength : methods.length = (UInt8.ofNat methods.length).toNat :=
      (UInt8.toNat_ofNat_of_lt' hfits).symm
    exact ⟨version, _, _, rfl, ⟨_, _, _, rfl,
      ⟨⟨methods, hlength⟩, _, _, rfl, ⟨rfl, rfl⟩, rfl⟩, rfl⟩, by simp⟩
  · rintro ⟨_, _, _, rfl, ⟨nmethods, _, _, rfl, ⟨methods, _, _, rfl, ⟨heq, rfl⟩, rfl⟩, rfl⟩, rfl⟩
    obtain ⟨rfl, rfl⟩ := Socks5VersionMethod.mk.inj heq
    unfold Socks5VersionMethod.Wire
    rw [methods.toList_length]
    exact ⟨nmethods.toNat_lt, by simp⟩

theorem read_port_parses (version command : UInt8) (address : Socks5Address) :
    Parses answer (do
      let port ← read_u16
      return ⟨version, command, address, port⟩ : AsyncIo κ ρ StreamError Socks5Request)
      fun request used => request = ⟨version, command, address, request.port⟩ ∧
        used = u16_to_be_bytes request.port := by
  refine (read_u16_parses.bind fun port => Parses.pure _).congr fun request used => ?_
  constructor
  · rintro ⟨hrequest, rfl⟩
    exact ⟨request.port, _, _, rfl, ⟨hrequest, rfl⟩, by simp⟩
  · rintro ⟨port, _, _, rfl, ⟨rfl, rfl⟩, rfl⟩
    exact ⟨rfl, by simp⟩

/-- What is read behind an address type. -/
def BodyWire (version command atyp : UInt8) (request : Socks5Request) (used : List UInt8) : Prop :=
  ∃ asked : Requested, asked.atyp = atyp ∧
    request = ⟨version, command, asked.address, request.port⟩ ∧
    used = asked.bytes ++ u16_to_be_bytes request.port

theorem read_ipv4_parses (version command : UInt8) :
    Parses answer (do
      let octets ← read_exact 4
      let port ← read_u16
      return ⟨version, command, .Ipv4 ⟨octets⟩, port⟩ : AsyncIo κ ρ StreamError Socks5Request)
      (BodyWire version command 1) := by
  refine ((read_exact_parses 4).bind fun octets =>
    read_port_parses version command (.Ipv4 ⟨octets⟩)).congr fun request used => ?_
  constructor
  · rintro ⟨asked, hatyp, hrequest, rfl⟩
    obtain ⟨octets, rfl⟩ := Requested.eq_ipv4 hatyp
    exact ⟨octets, _, _, rfl, ⟨hrequest, rfl⟩, rfl⟩
  · rintro ⟨octets, _, _, rfl, ⟨hrequest, rfl⟩, rfl⟩
    exact ⟨.ipv4 octets, rfl, hrequest, rfl⟩

theorem read_ipv6_parses (version command : UInt8) :
    Parses answer (do
      let octets ← read_exact 16
      let port ← read_u16
      return ⟨version, command, .Ipv6 (Ipv6Addr.from_octets octets), port⟩ :
        AsyncIo κ ρ StreamError Socks5Request)
      (BodyWire version command 4) := by
  refine ((read_exact_parses 16).bind fun octets => read_port_parses version command
    (.Ipv6 (Ipv6Addr.from_octets octets))).congr fun request used => ?_
  constructor
  · rintro ⟨asked, hatyp, hrequest, rfl⟩
    obtain ⟨octets, rfl⟩ := Requested.eq_ipv6 hatyp
    exact ⟨octets, _, _, rfl, ⟨hrequest, rfl⟩, rfl⟩
  · rintro ⟨octets, _, _, rfl, ⟨hrequest, rfl⟩, rfl⟩
    exact ⟨.ipv6 octets, rfl, hrequest, rfl⟩

theorem read_domain_parses (version command : UInt8) :
    Parses answer (do
      let len ← read_u8
      let domain ← read_exact len.toNat
      let port ← read_u16
      return ⟨version, command, .Domain (from_utf8_lossy domain.toList), port⟩ :
        AsyncIo κ ρ StreamError Socks5Request)
      (BodyWire version command 3) := by
  refine (read_u8_parses.bind fun len => (read_exact_parses len.toNat).bind fun domain =>
    read_port_parses version command (.Domain (from_utf8_lossy domain.toList))).congr
      fun request used => ?_
  constructor
  · rintro ⟨asked, hatyp, hrequest, rfl⟩
    obtain ⟨name, fits, rfl⟩ := Requested.eq_domain hatyp
    have hlength : name.length = (UInt8.ofNat name.length).toNat :=
      (UInt8.toNat_ofNat_of_lt' fits).symm
    exact ⟨_, _, _, rfl, ⟨⟨name, hlength⟩, _, _, rfl, ⟨hrequest, rfl⟩, rfl⟩, rfl⟩
  · rintro ⟨len, _, _, rfl, ⟨domain, _, _, rfl, ⟨hrequest, rfl⟩, rfl⟩, rfl⟩
    refine ⟨.domain domain.toList (by simpa using len.toNat_lt), rfl, hrequest, ?_⟩
    simp [Requested.bytes]

theorem throw_parses (version command : UInt8) {atyp : UInt8}
    (hatyp : atyp ∉ [(1 : UInt8), 3, 4]) (e : StreamError) :
    Parses answer (throw e : AsyncIo κ ρ StreamError Socks5Request)
      (BodyWire version command atyp) := by
  refine (Parses.throw e).congr fun request used => ?_
  refine iff_of_false ?_ id
  rintro ⟨asked, rfl, -⟩
  exact hatyp asked.atyp_mem

theorem read_request_parses :
    Parses answer (Socks5Request.read_from : AsyncIo κ ρ StreamError _) Socks5Request.Wire := by
  refine (read_u8_parses.bind fun version => read_u8_parses.bind fun command =>
    read_u8_parses.bind fun rsv => read_u8_parses.bind fun atyp =>
    (?_ : Parses answer _ (BodyWire version command atyp))).congr ?_
  · dsimp only
    split_ifs with h₁ h₄ h₃
    · exact h₁ ▸ read_ipv4_parses version command
    · exact h₄ ▸ read_ipv6_parses version command
    · exact h₃ ▸ read_domain_parses version command
    · exact throw_parses version command (by simp [h₁, h₃, h₄]) _
  · rintro ⟨version, command, address, port⟩ used
    constructor
    · rintro ⟨rsv, asked, rfl, rfl⟩
      exact ⟨version, _, _, rfl, ⟨command, _, _, rfl, ⟨rsv, _, _, rfl, ⟨asked.atyp, _, _, rfl,
        ⟨asked, rfl, rfl, rfl⟩, rfl⟩, rfl⟩, rfl⟩, rfl⟩
    · rintro ⟨_, _, _, rfl, ⟨_, _, _, rfl, ⟨rsv, _, _, rfl, ⟨_, _, _, rfl,
        ⟨asked, rfl, heq, rfl⟩, rfl⟩, rfl⟩, rfl⟩, rfl⟩
      obtain ⟨rfl, rfl, rfl, -⟩ := Socks5Request.mk.inj heq
      exact ⟨rsv, asked, rfl, rfl⟩

/-! ## The replies -/

theorem write_to_drive (reply : Socks5Reply) (input : List UInt8) :
    (reply.write_to : AsyncIo κ ρ StreamError Unit).run.drive answer pop_item input =
      ⟨.ok (), reply.bytes.map .write, input⟩ := by
  obtain ⟨version, code, address, port⟩ := reply
  unfold Socks5Reply.write_to
  cases address with
  | Ipv4 addr =>
    simp only [write_u8, write_u16, Proc.drive_next (write_all_drive _ _ _), write_all_drive,
      Ran.after]
    simp [Socks5Reply.bytes, Socks5Address.bytes]
  | Ipv6 addr =>
    simp only [write_u8, write_u16, Proc.drive_next (write_all_drive _ _ _), write_all_drive,
      Ran.after]
    simp [Socks5Reply.bytes, Socks5Address.bytes]
  | Domain name =>
    simp only [write_u8, write_u16, Proc.drive_next (write_all_drive _ _ _), write_all_drive,
      Ran.after]
    simp [Socks5Reply.bytes, Socks5Address.bytes]

end

variable {open_channel : String × UInt16 → Except ChannelOpenError Unit}

theorem from_io_drive {α : Type}
    {io : AsyncIo (String × UInt16) (Except ChannelOpenError Unit) StreamError α} {a : α}
    {input rest : List UInt8} {acts : List (Act UInt8 (String × UInt16))}
    (h : io.run.drive open_channel pop_item input = ⟨.ok a, acts, rest⟩) :
    (Socks5Io.from_io io).run.drive open_channel pop_item input = ⟨.ok a, acts, rest⟩ :=
  Proc.drive_adapt _ h

theorem send_error_reply_drive (open_channel : String × UInt16 → Except ChannelOpenError Unit)
    (reply : Socks5Reply) (input : List UInt8) :
    (send_error_reply reply).run.drive open_channel pop_item input =
      ⟨.ok (), reply.bytes.map .write ++ [.shutdown], input⟩ := by
  unfold send_error_reply
  rw [Proc.drive_next (from_io_drive (write_to_drive reply input))]
  rfl

/-! ## The server -/

/-- The name under which an address is asked for. -/
def Socks5Address.host : Socks5Address → String
  | .Ipv4 addr => IpAddr.to_string (.V4 addr)
  | .Ipv6 addr => IpAddr.to_string (.V6 addr)
  | .Domain name => name

section

variable {request : Socks5Request} {used : List UInt8}
  (hread : ∀ rest, (Socks5Io.from_io Socks5Request.read_from).run.drive open_channel pop_item
    (used ++ rest) = ⟨.ok request, [], rest⟩)
include hread

theorem request_version_drive (hversion : request.version ≠ 0x05) (rest : List UInt8) :
    handle_socks5_request.run.drive open_channel pop_item (used ++ rest) =
      ⟨.error (.InvalidVersion request.version), [], rest⟩ := by
  unfold handle_socks5_request
  rw [Proc.drive_next (hread rest), if_pos hversion]
  rfl

theorem request_command_drive (hversion : request.version = 0x05)
    (hcommand : request.command ≠ 0x01) (rest : List UInt8) :
    handle_socks5_request.run.drive open_channel pop_item (used ++ rest) =
      ⟨.error (.UnsupportedCommand request.command),
        Socks5Reply.command_not_supported.bytes.map .write ++ [.shutdown], rest⟩ := by
  unfold handle_socks5_request
  rw [Proc.drive_next (hread rest), if_neg (not_not_intro hversion), if_pos hcommand,
    Proc.drive_next (send_error_reply_drive open_channel _ rest)]
  rfl

theorem request_opens_drive (hversion : request.version = 0x05)
    (hcommand : request.command = 0x01)
    (hopen : open_channel (request.address.host, request.port) = .ok ()) (rest : List UInt8) :
    handle_socks5_request.run.drive open_channel pop_item (used ++ rest) =
      ⟨.ok (), .call (request.address.host, request.port) ::
        (Socks5Reply.success (.Ipv4 Socks5Reply.UNSPECIFIED) 0).bytes.map .write, rest⟩ := by
  have hcall : (call (request.address.host, request.port) : Socks5Io _).run.drive open_channel
      pop_item rest = ⟨.ok (.ok ()), [.call (request.address.host, request.port)], rest⟩ :=
    hopen ▸ rfl
  obtain ⟨version, command, address, port⟩ := request
  unfold handle_socks5_request
  rw [Proc.drive_next (hread rest), if_neg (not_not_intro hversion),
    if_neg (not_not_intro hcommand)]
  have hwrite : (Socks5Io.from_io (Socks5Reply.success _ 0).write_to).run.drive open_channel
      pop_item rest = _ :=
    from_io_drive (write_to_drive (.success (.Ipv4 Socks5Reply.UNSPECIFIED) 0) rest)
  cases address <;>
    exact (congrArg (Ran.after []) (Proc.drive_next hcall _)).trans
      (congrArg (Ran.after [Act.call _]) hwrite)

theorem request_refuses_drive (hversion : request.version = 0x05)
    (hcommand : request.command = 0x01) {e : ChannelOpenError}
    (hopen : open_channel (request.address.host, request.port) = .error e) (rest : List UInt8) :
    handle_socks5_request.run.drive open_channel pop_item (used ++ rest) =
      ⟨.error .ChannelOpenFailed, .call (request.address.host, request.port) ::
        (Socks5Reply.connection_refused.bytes.map .write ++ [.shutdown]), rest⟩ := by
  have hcall : (call (request.address.host, request.port) : Socks5Io _).run.drive open_channel
      pop_item rest = ⟨.ok (.error e), [.call (request.address.host, request.port)], rest⟩ :=
    hopen ▸ rfl
  obtain ⟨version, command, address, port⟩ := request
  unfold handle_socks5_request
  rw [Proc.drive_next (hread rest), if_neg (not_not_intro hversion),
    if_neg (not_not_intro hcommand)]
  have hreply := Proc.drive_next (send_error_reply_drive open_channel .connection_refused rest)
    fun _ => (throw .ChannelOpenFailed : Socks5Io Unit)
  cases address <;>
    exact (congrArg (Ran.after []) (Proc.drive_next hcall _)).trans
      (congrArg (Ran.after [Act.call _]) hreply)

end

variable (open_channel) in
theorem greeting_parses :
    Parses open_channel (Socks5Io.from_io Socks5VersionMethod.read_from)
      Socks5VersionMethod.Wire := read_greeting_parses.adapt _

variable (open_channel) in
theorem request_parses :
    Parses open_channel (Socks5Io.from_io Socks5Request.read_from) Socks5Request.Wire :=
  read_request_parses.adapt _

variable (open_channel) in
theorem reads_request (version command rsv : UInt8) (asked : Requested) (port : UInt16)
    (rest : List UInt8) :
    (Socks5Io.from_io Socks5Request.read_from).run.drive open_channel pop_item
      ((version :: command :: rsv :: asked.atyp :: (asked.bytes ++ u16_to_be_bytes port)) ++ rest) =
        ⟨.ok ⟨version, command, asked.address, port⟩, [], rest⟩ :=
  (request_parses open_channel).accepts _ _ rest ⟨rsv, asked, rfl, rfl⟩

/-- A greeting that the server accepts. -/
structure Greeting where
  methods : List UInt8
  fits : methods.length < 256
  offered : 0x00 ∈ methods

def Greeting.bytes (greeting : Greeting) : List UInt8 :=
  0x05 :: UInt8.ofNat greeting.methods.length :: greeting.methods

variable (open_channel) in
theorem greeted_drive (greeting : Greeting) (rest : List UInt8) :
    handle_socks5_connection.run.drive open_channel pop_item (greeting.bytes ++ rest) =
      (handle_socks5_request.run.drive open_channel pop_item rest).after
        [.write 0x05, .write 0x00] := by
  have hread := (greeting_parses open_channel).accepts ⟨0x05, greeting.methods⟩ greeting.bytes rest
    ⟨greeting.fits, rfl⟩
  unfold handle_socks5_connection
  rw [Proc.drive_next hread, if_neg (not_not_intro rfl), if_neg (not_not_intro greeting.offered)]
  exact congrArg (Ran.after [])
    (Proc.drive_next (from_io_drive (write_all_drive pop_item [0x05, 0x00] rest)) _)

variable (open_channel) in
theorem not_greeted_drive {input : List UInt8}
    (h : ∀ (greeting : Greeting) rest, input ≠ greeting.bytes ++ rest) :
    ∃ e acts rest, Act.calls acts = [] ∧
      handle_socks5_connection.run.drive open_channel pop_item input =
        ⟨.error e, acts, rest⟩ := by
  rcases (greeting_parses open_channel).accepts_or_rejects input with
    ⟨vm, used, rest, hwire, rfl, hvm⟩ | ⟨e, rest, hfail⟩
  · unfold handle_socks5_connection
    rw [Proc.drive_next hvm]
    by_cases hversion : vm.version = 0x05
    · have hmethods : 0x00 ∉ vm.methods := by
        intro hoffered
        have hused : used = 0x05 :: UInt8.ofNat vm.methods.length :: vm.methods :=
          hversion ▸ hwire.2
        exact h ⟨vm.methods, hwire.1, hoffered⟩ rest (congrArg (· ++ rest) hused)
      rw [if_neg (not_not_intro hversion), if_pos hmethods]
      exact ⟨.NoAcceptableAuth, [.write 0x05, .write 0xFF, .shutdown], rest, rfl, rfl⟩
    · rw [if_pos hversion]
      exact ⟨.InvalidVersion vm.version, [], rest, rfl, rfl⟩
  · exact ⟨e, [], rest, rfl, Proc.drive_fails hfail _⟩

variable (open_channel) in
theorem not_asked_drive {input : List UInt8}
    (h : ∀ (rsv : UInt8) (asked : Requested) (port : UInt16) (payload : List UInt8),
      input ≠ 0x05 :: 0x01 :: rsv :: asked.atyp ::
        (asked.bytes ++ u16_to_be_bytes port ++ payload)) :
    ∃ e acts rest, Act.calls acts = [] ∧
      handle_socks5_request.run.drive open_channel pop_item input = ⟨.error e, acts, rest⟩ := by
  rcases (request_parses open_channel).accepts_or_rejects input with
    ⟨request, used, rest, hwire, rfl, -⟩ | ⟨e, rest, hfail⟩
  · have hrequest := fun rest => (request_parses open_channel).accepts request used rest hwire
    by_cases hversion : request.version = 0x05
    · have hcommand : request.command ≠ 0x01 := by
        intro hcommand
        obtain ⟨rsv, asked, -, rfl⟩ := hwire
        exact h rsv asked request.port rest (by simp [hversion, hcommand])
      exact ⟨_, _, _, by simp, request_command_drive hrequest hversion hcommand rest⟩
    · exact ⟨_, _, _, rfl, request_version_drive hrequest hversion rest⟩
  · exact ⟨e, [], rest, rfl, Proc.drive_fails hfail _⟩

/-! ## A connection -/

variable {client : List (List UInt8)} {acts : List (Act UInt8 (String × UInt16))}
  {input rest : List UInt8}

theorem serve_error (channel : List UInt8) (hclient : client.flatten = input) {e : Socks5Error}
    (h : handle_socks5_connection.run.drive open_channel pop_item input =
      ⟨.error e, acts, rest⟩) :
    serve_socks5_connection open_channel channel client =
      ⟨Act.calls acts, [], Act.written acts⟩ := by
  rw [← hclient, Proc.drive_flatten] at h
  obtain ⟨hresult, hacts, hrest⟩ := Ran.mk.inj h
  simp only [serve_socks5_connection, hresult, hacts]

theorem serve_greeted_ok (greeting : Greeting) (channel : List UInt8)
    (hclient : client.flatten = greeting.bytes ++ input)
    (h : handle_socks5_request.run.drive open_channel pop_item input = ⟨.ok (), acts, rest⟩) :
    serve_socks5_connection open_channel channel client =
      ⟨Act.calls acts, rest, [0x05, 0x00] ++ Act.written acts ++ channel⟩ := by
  have hdrive := greeted_drive open_channel greeting input
  rw [h, ← hclient, Proc.drive_flatten] at hdrive
  obtain ⟨hresult, hacts, hrest⟩ := Ran.mk.inj hdrive
  simp only [serve_socks5_connection, hresult, hacts, hrest]
  rfl

theorem serve_greeted_error (greeting : Greeting) (channel : List UInt8)
    (hclient : client.flatten = greeting.bytes ++ input) {e : Socks5Error}
    (h : handle_socks5_request.run.drive open_channel pop_item input = ⟨.error e, acts, rest⟩) :
    serve_socks5_connection open_channel channel client =
      ⟨Act.calls acts, [], [0x05, 0x00] ++ Act.written acts⟩ :=
  serve_error channel hclient
    ((greeted_drive open_channel greeting input).trans (congrArg (Ran.after _) h))

/-- The bytes of a client that asks for a channel. -/
structure Asking where
  greeting : Greeting
  rsv : UInt8
  address : Requested
  port : UInt16
  payload : List UInt8

def Asking.bytes (asking : Asking) : List UInt8 :=
  asking.greeting.bytes ++ 0x05 :: 0x01 :: asking.rsv :: asking.address.atyp ::
    (asking.address.bytes ++ u16_to_be_bytes asking.port ++ asking.payload)

/-- The text of an address. A domain name is its own text, if it is one. -/
def Requested.Names : Requested → String → Prop
  | ipv4 octets, host => host = IpAddr.to_string (.V4 ⟨octets⟩)
  | ipv6 octets, host => host = IpAddr.to_string (.V6 (Ipv6Addr.from_octets octets))
  | domain name _, host => ∀ text, from_utf8 name = some text → host = text

theorem Requested.names_host (asked : Requested) : asked.Names asked.address.host := by
  cases asked with
  | ipv4 octets => rfl
  | ipv6 octets => rfl
  | domain name fits =>
    intro text htext
    show from_utf8_lossy name = text
    rw [from_utf8_lossy, htext]

section

variable {asking : Asking} (hclient : client.flatten = asking.bytes) (channel : List UInt8)
include hclient

theorem serve_opens (hopen : open_channel (asking.address.address.host, asking.port) = .ok ()) :
    serve_socks5_connection open_channel channel client =
      ⟨[(asking.address.address.host, asking.port)], asking.payload,
        [0x05, 0x00] ++ [0x05, 0x00, 0x00, 0x01, 0, 0, 0, 0, 0, 0] ++ channel⟩ :=
  serve_greeted_ok asking.greeting channel hclient (request_opens_drive
    (reads_request open_channel 0x05 0x01 asking.rsv asking.address asking.port) rfl rfl hopen
    asking.payload)

theorem serve_refuses {e : ChannelOpenError}
    (hopen : open_channel (asking.address.address.host, asking.port) = .error e) :
    serve_socks5_connection open_channel channel client =
      ⟨[(asking.address.address.host, asking.port)], [],
        [0x05, 0x00] ++ Socks5Reply.connection_refused.bytes⟩ :=
  serve_greeted_error asking.greeting channel hclient (request_refuses_drive
    (reads_request open_channel 0x05 0x01 asking.rsv asking.address asking.port) rfl rfl hopen
    asking.payload)

theorem serve_asks :
    (serve_socks5_connection open_channel channel client).calls =
      [(asking.address.address.host, asking.port)] := by
  cases hopen : open_channel (asking.address.address.host, asking.port) with
  | ok => rw [serve_opens hclient channel hopen]
  | error e => rw [serve_refuses hclient channel hopen]

end

theorem serve_not_asking (h : ∀ asking : Asking, client.flatten ≠ asking.bytes)
    (channel : List UInt8) :
    (serve_socks5_connection open_channel channel client).calls = [] := by
  by_cases hgreeting : ∃ (greeting : Greeting) (rest : List UInt8),
      client.flatten = greeting.bytes ++ rest
  · obtain ⟨greeting, rest, heq⟩ := hgreeting
    have hasked : ∀ rsv (asked : Requested) port payload, rest ≠ 0x05 :: 0x01 :: rsv ::
        asked.atyp :: (asked.bytes ++ u16_to_be_bytes port ++ payload) := by
      rintro rsv asked port payload rfl
      exact h ⟨greeting, rsv, asked, port, payload⟩ heq
    obtain ⟨e, acts, left, hcalls, hdrive⟩ := not_asked_drive open_channel hasked
    rw [serve_greeted_error greeting channel heq hdrive]
    exact hcalls
  · obtain ⟨e, acts, left, hcalls, hdrive⟩ := not_greeted_drive open_channel
      fun greeting rest heq => hgreeting ⟨greeting, rest, heq⟩
    rw [serve_error channel rfl hdrive, hcalls]

/-- **The server opens what it is asked for.** -/
theorem handle_socks5_connection_opens
    (open_channel : String × UInt16 → Except ChannelOpenError Unit) (channel : List UInt8)
    (client : List (List UInt8)) :
    (serve_socks5_connection open_channel channel client).calls.length ≤ 1 ∧
    ((serve_socks5_connection open_channel channel client).calls ≠ [] ↔
      ∃ asking : Asking, client.flatten = asking.bytes) ∧
    ∀ asking : Asking, client.flatten = asking.bytes → ∃ host, asking.address.Names host ∧
      (serve_socks5_connection open_channel channel client).calls = [(host, asking.port)] ∧
      (open_channel (host, asking.port) = .ok () →
        (serve_socks5_connection open_channel channel client).to_channel = asking.payload ∧
        (serve_socks5_connection open_channel channel client).to_client =
          [0x05, 0x00] ++ [0x05, 0x00, 0x00, 0x01, 0, 0, 0, 0, 0, 0] ++ channel) := by
  refine ⟨?_, ?_, ?_⟩
  · by_cases hasking : ∃ asking : Asking, client.flatten = asking.bytes
    · obtain ⟨asking, hclient⟩ := hasking
      rw [serve_asks hclient channel]
      simp
    · rw [serve_not_asking (fun asking heq => hasking ⟨asking, heq⟩) channel]
      simp
  · constructor
    · intro hcalls
      by_contra hasking
      exact hcalls (serve_not_asking (fun asking heq => hasking ⟨asking, heq⟩) channel)
    · rintro ⟨asking, hclient⟩
      rw [serve_asks hclient channel]
      simp
  · intro asking hclient
    refine ⟨asking.address.address.host, asking.address.names_host,
      serve_asks hclient channel, fun hopen => ?_⟩
    rw [serve_opens hclient channel hopen]
    exact ⟨rfl, rfl⟩

/-! ## Answers -/

/-- The stream ends before the address and the port are complete. -/
def Cut (atyp : UInt8) (more : List UInt8) : Prop :=
  atyp ∈ [(1 : UInt8), 3, 4] ∧ ∀ (asked : Requested) (port : UInt16) (payload : List UInt8),
    asked.atyp = atyp → more ≠ asked.bytes ++ u16_to_be_bytes port ++ payload

/-- The client got one reply to its request, for a channel if one was opened. -/
def Answered (open_channel : String × UInt16 → Except ChannelOpenError Unit)
    (channel : List UInt8) (served : Socks5Served) : Prop :=
  ∃ reply : Socks5Reply, reply.version = 0x05 ∧
    served.to_client = [0x05, 0x00] ++ reply.bytes ++ (if reply.reply = 0 then channel else []) ∧
    (reply.reply = 0 ↔ ∃ query ∈ served.calls, open_channel query = .ok ())

theorem serve_command (greeting : Greeting) {command : UInt8} (hcommand : command ≠ 0x01)
    (rsv : UInt8) (asked : Requested) (port : UInt16) (payload channel : List UInt8)
    (hclient : client.flatten = greeting.bytes ++ 0x05 :: command :: rsv :: asked.atyp ::
      (asked.bytes ++ u16_to_be_bytes port ++ payload)) :
    serve_socks5_connection open_channel channel client =
      ⟨[], [], [0x05, 0x00] ++ Socks5Reply.command_not_supported.bytes⟩ := by
  have hread := reads_request open_channel 0x05 command rsv asked port
  exact serve_greeted_error greeting channel hclient
    (request_command_drive hread rfl hcommand payload)

theorem serve_unknown (greeting : Greeting) (command rsv : UInt8) {atyp : UInt8}
    (hatyp : atyp ∉ [(1 : UInt8), 3, 4]) (more channel : List UInt8)
    (hclient : client.flatten = greeting.bytes ++ 0x05 :: command :: rsv :: atyp :: more) :
    serve_socks5_connection open_channel channel client = ⟨[], [], [0x05, 0x00]⟩ := by
  have hunread : ∀ (request : Socks5Request) used rest, request.Wire used →
      0x05 :: command :: rsv :: atyp :: more ≠ used ++ rest := by
    rintro request _ rest ⟨rsv', asked, -, rfl⟩ heq
    simp only [List.cons_append, List.cons.injEq] at heq
    exact hatyp (heq.2.2.2.1 ▸ asked.atyp_mem)
  obtain ⟨e, rest, hfail⟩ := (request_parses open_channel).rejects _ hunread
  exact serve_greeted_error greeting channel hclient (Proc.drive_fails hfail _)

theorem answered_asking {asking : Asking} (hclient : client.flatten = asking.bytes)
    (channel : List UInt8) :
    Answered open_channel channel (serve_socks5_connection open_channel channel client) := by
  cases hopen : open_channel (asking.address.address.host, asking.port) with
  | ok =>
    rw [serve_opens hclient channel hopen]
    exact ⟨.success (.Ipv4 Socks5Reply.UNSPECIFIED) 0, rfl, rfl,
      iff_of_true rfl ⟨_, List.mem_singleton.mpr rfl, hopen⟩⟩
  | error e =>
    rw [serve_refuses hclient channel hopen]
    refine ⟨.connection_refused, rfl, rfl, iff_of_false (by decide) ?_⟩
    rintro ⟨query, hquery, hok⟩
    rw [List.mem_singleton.mp hquery] at hok
    exact absurd (hok.symm.trans hopen) (by simp)

/-- **A request is answered** if and only if the server knows its address type. -/
theorem handle_socks5_connection_answers_iff
    (open_channel : String × UInt16 → Except ChannelOpenError Unit) (channel : List UInt8)
    (client : List (List UInt8)) (greeting : Greeting) (command rsv atyp : UInt8)
    (more : List UInt8)
    (hclient : client.flatten = greeting.bytes ++ 0x05 :: command :: rsv :: atyp :: more) :
    (Cut atyp more ∨
      Answered open_channel channel (serve_socks5_connection open_channel channel client)) ↔
    atyp ∈ [(1 : UInt8), 3, 4] := by
  constructor
  · rintro (hcut | ⟨reply, -, hreply, -⟩)
    · exact hcut.1
    · by_contra hatyp
      rw [serve_unknown greeting command rsv hatyp more channel hclient] at hreply
      have hlength := congrArg List.length hreply
      simp [Socks5Reply.bytes] at hlength
  · intro hatyp
    by_cases hwhole : ∃ (asked : Requested) (port : UInt16) (payload : List UInt8),
        asked.atyp = atyp ∧ more = asked.bytes ++ u16_to_be_bytes port ++ payload
    · right
      obtain ⟨asked, port, payload, rfl, rfl⟩ := hwhole
      by_cases hcommand : command = 0x01
      · subst hcommand
        have hasking : client.flatten = Asking.bytes ⟨greeting, rsv, asked, port, payload⟩ :=
          hclient
        exact answered_asking hasking channel
      · rw [serve_command greeting hcommand rsv asked port payload channel hclient]
        exact ⟨.command_not_supported, rfl, rfl, iff_of_false (by decide) (by simp)⟩
    · exact .inl ⟨hatyp, fun asked port payload h heq => hwhole ⟨asked, port, payload, h, heq⟩⟩

theorem bind_request_answered :
    Cut 1 [192, 0, 2, 1, 0, 80] ∨ Answered (fun _ => .ok ()) []
      (serve_socks5_connection (fun _ => .ok ()) [] [[5, 1, 0, 5, 2, 0, 1, 192, 0, 2, 1, 0, 80]]) :=
  (handle_socks5_connection_answers_iff _ [] [[5, 1, 0, 5, 2, 0, 1, 192, 0, 2, 1, 0, 80]]
    ⟨[0], by decide, by decide⟩ 2 0 1 [192, 0, 2, 1, 0, 80] (by decide)).mpr (by decide)

theorem unknown_address_type_not_answered :
    ¬ (Cut 2 [192, 0, 2, 1, 0, 80] ∨ Answered (fun _ => .ok ()) []
      (serve_socks5_connection (fun _ => .ok ()) []
        [[5, 1, 0, 5, 1, 0, 2, 192, 0, 2, 1, 0, 80]])) := by
  have hserved : serve_socks5_connection (fun _ => .ok ()) []
      [[5, 1, 0, 5, 1, 0, 2, 192, 0, 2, 1, 0, 80]] = ⟨[], [], [5, 0]⟩ := by
    decide +kernel
  rintro (hcut | ⟨reply, -, hreply, -⟩)
  · exact absurd hcut.1 (by decide)
  · rw [hserved] at hreply
    have hlength := congrArg List.length hreply
    simp [Socks5Reply.bytes] at hlength

end Alknet
