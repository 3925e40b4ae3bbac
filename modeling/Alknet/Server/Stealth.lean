import Alknet.Code.Server.Stealth
import Mathlib.Data.List.Infix

/-!
# Stealth mode looks at one read

No byte is lost by looking. But a banner that does not come whole in the first read is taken for
HTTP.
-/

open Alknet.Rust

namespace Alknet

variable {IoError : Type}

/-- What the first read of a stream gives. -/
def first_read (stream : Incoming 8192 IoError) : List UInt8 :=
  (stream.reads.head?.map (·.bytes)).getD []

theorem first_read_of_bytes (stream : Incoming 8192 IoError) :
    first_read stream <+: stream.bytes := by
  obtain ⟨reads, closing⟩ := stream
  cases reads with
  | nil => exact List.nil_prefix
  | cons chunk reads => exact List.prefix_append _ _

theorem banner_iff_take (buf : List UInt8) :
    buf.take SSH_BANNER_PREFIX.length = SSH_BANNER_PREFIX ↔ SSH_BANNER_PREFIX <+: buf := by
  rw [List.prefix_iff_eq_take]
  exact eq_comm

theorem detect_protocol_ssh_iff (stream : Incoming 8192 IoError) :
    (detect_protocol stream).1 = .Ssh ↔ SSH_BANNER_PREFIX <+: first_read stream := by
  -- both branches ask whether the read starts with the banner
  obtain ⟨reads, closing⟩ := stream
  cases reads with
  | nil =>
    have hnil : ¬ SSH_BANNER_PREFIX <+: [] := by decide
    refine iff_of_false ?_ hnil
    cases closing <;> exact ProtocolDetection.noConfusion
  | cons chunk reads =>
    show (if _ then if _ then _ else _ else if _ then if _ then _ else _ else _) = _ ↔
      SSH_BANNER_PREFIX <+: chunk.bytes
    by_cases hbanner : SSH_BANNER_PREFIX <+: chunk.bytes
    · refine iff_of_true ?_ hbanner
      rw [if_pos hbanner.length_le, if_pos ((banner_iff_take _).mpr hbanner)]
    · refine iff_of_false ?_ hbanner
      have hstarts : ¬ SSH_BANNER_PREFIX.isPrefixOf chunk.bytes = true :=
        List.isPrefixOf_iff_prefix.not.mpr hbanner
      rw [if_neg ((banner_iff_take _).not.mpr hbanner), if_neg hstarts]
      simp

theorem detect_protocol_pending (stream : Incoming 8192 IoError) :
    (detect_protocol stream).2.pending = stream.bytes :=
  (BufReader.fill_buf_spec (BufReader.new stream)).1

theorem detect_protocol_read_all (stream : Incoming 8192 IoError) {rooms : List Nat}
    (hrooms : ∀ room ∈ rooms, 0 < room) (hlen : stream.bytes.length ≤ rooms.length) :
    (detect_protocol stream).2.read_all rooms = stream.bytes := by
  rw [← detect_protocol_pending] at hlen ⊢
  exact BufReader.read_all_eq hrooms hlen

/-- **The protocol is detected** if and only if a banner comes whole in the first read. -/
theorem detect_protocol_iff (stream : Incoming 8192 IoError) :
    (((detect_protocol stream).1 = .Ssh ↔ SSH_BANNER_PREFIX <+: stream.bytes) ∧
      ∀ rooms : List Nat, (∀ room ∈ rooms, 0 < room) → stream.bytes.length ≤ rooms.length →
        (detect_protocol stream).2.read_all rooms = stream.bytes) ↔
    (SSH_BANNER_PREFIX <+: stream.bytes →
      SSH_BANNER_PREFIX.length ≤ (first_read stream).length) := by
  rw [detect_protocol_ssh_iff]
  have hfirst := first_read_of_bytes stream
  constructor
  · rintro ⟨hssh, -⟩ hbanner
    exact (hssh.mpr hbanner).length_le
  · intro hwhole
    refine ⟨⟨fun h => h.trans hfirst, fun hbanner => ?_⟩,
      fun rooms => detect_protocol_read_all stream⟩
    exact List.prefix_of_prefix_length_le hbanner hfirst (hwhole hbanner)

theorem detect_protocol_split_banner :
    (detect_protocol (⟨[⟨as_bytes "SSH-", by decide, by decide⟩,
      ⟨as_bytes "2.0-OpenSSH_9.0\r\n", by decide, by decide⟩], none⟩ : Incoming 8192 Empty)).1 =
        .Http ∧
    SSH_BANNER_PREFIX <+: as_bytes "SSH-" ++ as_bytes "2.0-OpenSSH_9.0\r\n" := by
  decide +kernel

theorem handle_connection_run_stream_iff (stream : Incoming 8192 IoError) :
    handle_connection true true stream = .run_stream (detect_protocol stream).2 ↔
      SSH_BANNER_PREFIX <+: first_read stream := by
  rw [← detect_protocol_ssh_iff]
  unfold handle_connection
  cases hprotocol : (detect_protocol stream).1 <;> simp [hprotocol]

theorem handle_connection_pending (stealth transport_is_tls : Bool)
    (stream : Incoming 8192 IoError) :
    ∃ reader, reader.pending = stream.bytes ∧
      (handle_connection stealth transport_is_tls stream = .run_stream reader ∨
        handle_connection stealth transport_is_tls stream = .handle_http_stealth reader) := by
  unfold handle_connection
  split_ifs
  · refine ⟨(detect_protocol stream).2, detect_protocol_pending stream, ?_⟩
    cases hprotocol : (detect_protocol stream).1 <;> simp [hprotocol]
  · exact ⟨BufReader.new stream, rfl, .inl rfl⟩

end Alknet
