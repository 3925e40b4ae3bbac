import Alknet.Code.Server.HttpConnect
import Alknet.Lib.Terminator
import Alknet.Rust.NetSpec
import Alknet.Rust.Utf8

/-!
# A tunnel through an HTTP proxy

What comes behind the header in the same read as its last byte is lost. The request names an IPv6
address in a form that does not parse, and any 200 in the status line counts as the status.
-/

open Alknet.Rust Alknet.Lib

namespace Alknet

variable {IoError : Type}

/-! ## The loop -/

theorem any_header_end_iff (response : List UInt8) :
    (windows 4 response).any (· == header_end) = true ↔ header_end <:+: response := by
  rw [← mem_windows_iff]
  simp [header_end]

theorem not_header_end_nil : ¬ header_end <:+: [] := by decide

theorem read_response_complete (closing : Option IoError) {response head tail : List UInt8}
    {reads : List (ReadChunk 1024)} (hfirst : EndsFirst header_end head)
    (hbytes : response ++ bytes_of reads = head ++ tail) (hnot : ¬ header_end <:+: response) :
    ∃ before buf behind, reads = before ++ buf :: behind ∧
      ¬ head <+: response ++ bytes_of before ∧
      head <+: response ++ bytes_of before ++ buf.bytes ∧
      read_response closing response reads =
        .ok (response ++ bytes_of before ++ buf.bytes, ⟨behind, closing⟩) := by
  -- the loop stops at the read that completes the header
  induction reads generalizing response with
  | nil =>
    rw [bytes_of_nil, List.append_nil] at hbytes
    exact absurd (hbytes ▸ hfirst.1.isInfix.trans (List.prefix_append head tail).isInfix) hnot
  | cons buf reads ih =>
    rw [bytes_of_cons, ← List.append_assoc] at hbytes
    have hnow := infix_iff_of_endsFirst hfirst (hbytes ▸ List.prefix_append _ _)
    have hbefore := infix_iff_of_endsFirst hfirst
      (hbytes ▸ (List.prefix_append response buf.bytes).trans (List.prefix_append _ _))
    by_cases hdone : header_end <:+: response ++ buf.bytes
    · refine ⟨[], buf, reads, rfl, ?_, ?_, ?_⟩
      · simpa using hbefore.not.mp hnot
      · simpa using hnow.mp hdone
      · simp only [read_response, (any_header_end_iff _).mpr hdone, if_true, bytes_of_nil,
          List.append_nil]
    · obtain ⟨before, last, behind, rfl, hshort, hlong, hread⟩ := ih hbytes hdone
      refine ⟨buf :: before, last, behind, rfl, ?_, ?_, ?_⟩
      · simpa using hshort
      · simpa using hlong
      · have hgo := (any_header_end_iff _).not.mpr hdone
        simp only [read_response, if_neg hgo, hread, bytes_of_cons, List.append_assoc]

theorem read_response_incomplete (closing : Option IoError) {response : List UInt8}
    {reads : List (ReadChunk 1024)} (hnot : ¬ header_end <:+: response ++ bytes_of reads) :
    ∃ e, read_response closing response reads = .error e := by
  induction reads generalizing response with
  | nil =>
    cases closing with
    | none => exact ⟨_, rfl⟩
    | some e => exact ⟨_, rfl⟩
  | cons buf reads ih =>
    rw [bytes_of_cons, ← List.append_assoc] at hnot
    have hgo := (any_header_end_iff _).not.mpr
      fun h => hnot (h.trans (List.prefix_append _ _).isInfix)
    simp only [read_response, if_neg hgo]
    exact ih hnot

/-! ## The status line -/

/-- The first line of a header. -/
def status_line (head : List UInt8) : List Char :=
  strip_carriage_return (from_utf8_lossy (head.takeWhile (· ≠ 10))).toList

theorem first_line_eq {head : List UInt8} (hend : header_end <:+ head) (behind : List UInt8) :
    (lines (from_utf8_lossy (head ++ behind)).toList).head?.getD [] = status_line head := by
  obtain ⟨line, rest, rfl, hline⟩ :=
    List.eq_append_cons_of_mem (show (10 : UInt8) ∈ head from hend.subset (by decide))
  have hne : ∀ byte ∈ line, decide (byte ≠ 10) = true := by
    intro byte hbyte
    simpa using ne_of_mem_of_not_mem hbyte hline
  have htake : (line ++ 10 :: rest).takeWhile (· ≠ 10) = line := by
    rw [List.takeWhile_append_of_pos hne]
    simp
  obtain ⟨more, hlines⟩ := lines_from_utf8_lossy hline (rest ++ behind)
  rw [status_line, htake, List.append_assoc, List.cons_append, hlines]
  rfl

/-- The line is `HTTP/`, a version and the status code 200, and then nothing or a blank and the
reason phrase. -/
def Status200 (line : List Char) : Prop :=
  ∃ major minor rest, line = "HTTP/".toList ++ major :: '.' :: minor :: " 200".toList ++ rest ∧
    major.isDigit ∧ minor.isDigit ∧ (rest = [] ∨ rest.head? = some ' ')

theorem Status200.contains {line : List Char} (h : Status200 line) :
    "200".toList <:+: line := by
  obtain ⟨major, minor, rest, rfl, -⟩ := h
  exact ⟨"HTTP/".toList ++ [major, '.', minor, ' '], rest, by simp⟩

theorem connect_http_connect_complete (target : SocketAddr) {stream : Incoming 1024 IoError}
    {head tail : List UInt8} (hbytes : stream.bytes = head ++ tail)
    (hfirst : EndsFirst header_end head) :
    ∃ before buf behind, stream.reads = before ++ buf :: behind ∧ ¬ head <+: bytes_of before ∧
      head <+: bytes_of before ++ buf.bytes ∧
      (connect_http_connect target stream).result =
        if contains "200".toList (status_line head) then .ok ⟨behind, stream.closing⟩
        else .error (.HttpConnectProxyRejected (String.ofList (status_line head))) := by
  have hread : [] ++ bytes_of stream.reads = head ++ tail := hbytes
  obtain ⟨before, buf, behind, hreads, hshort, hlong, hread⟩ :=
    read_response_complete stream.closing hfirst hread not_header_end_nil
  rw [List.nil_append] at hshort hlong hread
  refine ⟨before, buf, behind, hreads, hshort, hlong, ?_⟩
  obtain ⟨more, hmore⟩ := hlong
  unfold connect_http_connect
  simp only [hread, ← hmore, first_line_eq hfirst.1, bind, Except.bind]
  rfl

/-! ## What is behind the header -/

theorem completes_iff {before behind : List (ReadChunk 1024)} {buf : ReadChunk 1024}
    {head : List UInt8} (hshort : ¬ head <+: bytes_of before)
    (hlong : head <+: bytes_of before ++ buf.bytes) :
    bytes_of before ++ buf.bytes = head ↔
      ∃ n, bytes_of ((before ++ buf :: behind).take n) = head := by
  constructor
  · intro heq
    refine ⟨before.length + 1, ?_⟩
    rw [List.take_length_add_append, bytes_of_append]
    simpa using heq
  · rintro ⟨n, hn⟩
    by_cases hle : n ≤ before.length
    · -- these reads are some of those that do not have all of `head`
      rw [List.take_append_of_le_length hle] at hn
      have htake : bytes_of before = bytes_of (before.take n) ++ bytes_of (before.drop n) := by
        rw [← bytes_of_append, List.take_append_drop]
      exact absurd (htake ▸ hn ▸ List.prefix_append head _) hshort
    · obtain ⟨m, rfl⟩ : ∃ m, n = before.length + (m + 1) := ⟨n - before.length - 1, by omega⟩
      rw [List.take_length_add_append, List.take_succ_cons, bytes_of_append, bytes_of_cons,
        ← List.append_assoc] at hn
      have hge : bytes_of before ++ buf.bytes <+: head := hn ▸ List.prefix_append _ _
      exact hge.eq_of_length_le hlong.length_le

/-- **The tunnel is whole** if and only if some read ends where the header does. -/
theorem connect_http_connect_keeps_iff (target : SocketAddr) (channel : List UInt8)
    (stream : Incoming 1024 IoError) (head tail : List UInt8) (hbytes : stream.bytes = head ++ tail)
    (hfirst : EndsFirst header_end head) (hstatus : Status200 (status_line head)) :
    ∃ returned, (connect_http_connect target stream).result = .ok returned ∧
      (returned.bytes = tail ∧ proxy_channel channel target stream = some ⟨channel, tail⟩ ↔
        ∃ n, bytes_of (stream.reads.take n) = head) := by
  obtain ⟨before, buf, behind, hreads, hshort, hlong, hresult⟩ :=
    connect_http_connect_complete target hbytes hfirst
  rw [if_pos (contains_iff.mpr hstatus.contains)] at hresult
  refine ⟨⟨behind, stream.closing⟩, hresult, ?_⟩
  rw [hreads, ← completes_iff hshort hlong]
  have hwhole : bytes_of before ++ buf.bytes ++ bytes_of behind = head ++ tail := by
    rw [← hbytes, Incoming.bytes, hreads]
    simp
  have hproxy : proxy_channel channel target stream = some ⟨channel, bytes_of behind⟩ := by
    rw [proxy_channel, hresult]
    rfl
  rw [hproxy]
  constructor
  · rintro ⟨htail, -⟩
    rw [← htail] at hwhole
    exact List.append_cancel_right hwhole
  · intro heq
    rw [heq] at hwhole
    have htail : bytes_of behind = tail := List.append_cancel_left hwhole
    exact ⟨htail, by rw [htail]⟩

theorem connect_http_connect_keeps_greeting :
    ∃ returned : Incoming 1024 Empty,
      (connect_http_connect ⟨.V4 ⟨192 ::ᵥ 0 ::ᵥ 2 ::ᵥ 1 ::ᵥ .nil⟩, 22, 0⟩
        ⟨[⟨as_bytes "HTTP/1.1 200 OK\r\n\r\n", by decide, by decide⟩,
          ⟨as_bytes "SSH-2.0-x\r\n", by decide, by decide⟩], none⟩).result = .ok returned ∧
      returned.bytes = as_bytes "SSH-2.0-x\r\n" := by
  obtain ⟨returned, hok, hkeeps⟩ := connect_http_connect_keeps_iff
    ⟨.V4 ⟨192 ::ᵥ 0 ::ᵥ 2 ::ᵥ 1 ::ᵥ .nil⟩, 22, 0⟩ []
    (⟨[⟨as_bytes "HTTP/1.1 200 OK\r\n\r\n", by decide, by decide⟩,
      ⟨as_bytes "SSH-2.0-x\r\n", by decide, by decide⟩], none⟩ : Incoming 1024 Empty)
    (as_bytes "HTTP/1.1 200 OK\r\n\r\n") (as_bytes "SSH-2.0-x\r\n") (by decide +kernel)
    ⟨by decide +kernel, by decide +kernel⟩
    ⟨'1', '1', " OK".toList, by decide +kernel, by decide, by decide, by decide⟩
  exact ⟨returned, hok, (hkeeps.mpr ⟨1, by decide +kernel⟩).1⟩

theorem proxy_channel_loses_greeting :
    proxy_channel [] ⟨.V4 ⟨192 ::ᵥ 0 ::ᵥ 2 ::ᵥ 1 ::ᵥ .nil⟩, 22, 0⟩
      (⟨[⟨as_bytes "HTTP/1.1 200 OK\r\n\r\nSSH-2.0-x\r\n", by decide, by decide⟩], none⟩ :
        Incoming 1024 Empty) = some ⟨[], []⟩ := by
  decide +kernel

/-! ## The handshake -/

namespace HttpConnect

/-- The text reads as this address and port. -/
def Names (text : List Char) (target : SocketAddr) : Prop :=
  ∃ addr, SocketAddr.from_str (String.ofList text) = some addr ∧ addr.ip = target.ip ∧
    addr.port = target.port

/-- The request asks for this target, in its first line and in its `Host` header. -/
def RequestFor (target : SocketAddr) (request : List UInt8) : Prop :=
  ∃ line host, ' ' ∉ line ∧
    request = as_bytes (String.ofList ("CONNECT ".toList ++ line ++
      " HTTP/1.1\r\nHost: ".toList ++ host ++ "\r\n\r\n".toList)) ∧
    Names line target ∧ Names host target

theorem names_authority_iff (target : SocketAddr) :
    Names (authority target) target ↔ ∃ addr, target.ip = .V4 addr := by
  constructor
  · rintro ⟨addr, hread, hip, -⟩
    rw [← hip]
    exact SocketAddr.from_str_bare hread
  · rintro ⟨addr, hip⟩
    have hread := SocketAddr.from_str_v4 addr target.port
    refine ⟨⟨.V4 addr, target.port, 0⟩, ?_, hip.symm, rfl⟩
    rwa [authority, hip]

theorem blank_notMem_authority (target : SocketAddr) : ' ' ∉ authority target := by
  have hall : (authority target).all addr_char := by
    rw [authority, List.all_append, List.all_cons, target.ip.to_chars_all,
      show_number_all (by decide)]
    decide
  intro hmem
  exact absurd (List.all_eq_true.mp hall ' ' hmem) (by decide)

theorem line_unique {line line' rest rest' : List Char} (h : ' ' ∉ line) (h' : ' ' ∉ line')
    (heq : line ++ ' ' :: rest = line' ++ ' ' :: rest') : line = line' := by
  have hsplit := split_once_append h rest
  rw [heq, split_once_append h'] at hsplit
  exact (Prod.mk.inj (Option.some.inj hsplit)).1.symm

theorem requestFor_iff (target : SocketAddr) :
    RequestFor target (as_bytes (connect_request target)) ↔ ∃ addr, target.ip = .V4 addr := by
  rw [← names_authority_iff]
  constructor
  · rintro ⟨line, host, hline, heq, hnames, -⟩
    have htext := congrArg from_utf8 heq
    rw [from_utf8_as_bytes, from_utf8_as_bytes] at htext
    replace htext := String.ofList_inj.mp (Option.some.inj htext)
    simp only [List.append_assoc] at htext
    have hblank : " HTTP/1.1\r\nHost: ".toList = ' ' :: "HTTP/1.1\r\nHost: ".toList := by decide
    have hlines := List.append_cancel_left htext
    rw [hblank, List.cons_append, List.cons_append] at hlines
    rwa [line_unique (blank_notMem_authority target) hline hlines]
  · intro hnames
    exact ⟨authority target, authority target, blank_notMem_authority target, rfl, hnames, hnames⟩

/-- The response has a complete header with this property. -/
def Responds (bytes : List UInt8) (P : List Char → Prop) : Prop :=
  ∃ head tail, bytes = head ++ tail ∧ EndsFirst header_end head ∧ P (status_line head)

theorem ok_iff (target : SocketAddr) (stream : Incoming 1024 IoError) :
    (∃ returned, (connect_http_connect target stream).result = .ok returned) ↔
      Responds stream.bytes ("200".toList <:+: ·) := by
  by_cases hend : header_end <:+: stream.bytes
  · obtain ⟨head, tail, hbytes, hfirst⟩ := exists_endsFirst (by decide) hend
    obtain ⟨before, buf, behind, -, -, -, hresult⟩ :=
      connect_http_connect_complete target hbytes hfirst
    have hresponds : Responds stream.bytes ("200".toList <:+: ·) ↔
        "200".toList <:+: status_line head := by
      constructor
      · rintro ⟨head', tail', hbytes', hfirst', h⟩
        rwa [(endsFirst_unique hfirst hfirst' (hbytes.symm.trans hbytes')).1]
      · exact fun h => ⟨head, tail, hbytes, hfirst, h⟩
    rw [hresponds, hresult, ← contains_iff]
    split_ifs with h
    · exact iff_of_true ⟨_, rfl⟩ h
    · exact iff_of_false (by simp) h
  · constructor
    · rintro ⟨returned, hok⟩
      have hnone : ¬ header_end <:+: [] ++ bytes_of stream.reads := hend
      obtain ⟨e, he⟩ := read_response_incomplete stream.closing hnone
      simp [connect_http_connect, he, bind, Except.bind] at hok
    · rintro ⟨head, tail, hbytes, hfirst, -⟩
      exact absurd (hbytes ▸ hfirst.1.isInfix.trans (List.prefix_append _ _).isInfix) hend

end HttpConnect

open HttpConnect

/-- **The handshake is right** if and only if the target is IPv4 and 200 is only the status code. -/
theorem connect_http_connect_faithful_iff (target : SocketAddr) (stream : Incoming 1024 IoError) :
    (RequestFor target (connect_http_connect target stream).written ∧
      ((∃ returned, (connect_http_connect target stream).result = .ok returned) ↔
        Responds stream.bytes Status200)) ↔
    (∃ addr, target.ip = .V4 addr) ∧
      ¬ Responds stream.bytes fun line => "200".toList <:+: line ∧ ¬ Status200 line := by
  rw [ok_iff]
  refine and_congr (requestFor_iff target) ?_
  constructor
  · rintro hiff ⟨head, tail, hbytes, hfirst, h200, hnot⟩
    obtain ⟨head', tail', hbytes', hfirst', hstatus⟩ :=
      hiff.mp ⟨head, tail, hbytes, hfirst, h200⟩
    rw [(endsFirst_unique hfirst hfirst' (hbytes.symm.trans hbytes')).1] at hnot
    exact hnot hstatus
  · intro honly
    constructor
    · rintro ⟨head, tail, hbytes, hfirst, h200⟩
      refine ⟨head, tail, hbytes, hfirst, ?_⟩
      by_contra hnot
      exact honly ⟨head, tail, hbytes, hfirst, h200, hnot⟩
    · rintro ⟨head, tail, hbytes, hfirst, hstatus⟩
      exact ⟨head, tail, hbytes, hfirst, hstatus.contains⟩

/-- The request for `::1` names no address, and 200 is in a reason phrase. -/
theorem connect_http_connect_not_faithful :
    (∀ stream : Incoming 1024 Empty,
      ¬ RequestFor ⟨.V6 ⟨0 ::ᵥ 0 ::ᵥ 0 ::ᵥ 0 ::ᵥ 0 ::ᵥ 0 ::ᵥ 0 ::ᵥ 1 ::ᵥ .nil⟩, 443, 0⟩
        (connect_http_connect
          ⟨.V6 ⟨0 ::ᵥ 0 ::ᵥ 0 ::ᵥ 0 ::ᵥ 0 ::ᵥ 0 ::ᵥ 0 ::ᵥ 1 ::ᵥ .nil⟩, 443, 0⟩ stream).written) ∧
    (∃ returned : Incoming 1024 Empty,
      (connect_http_connect ⟨.V4 ⟨192 ::ᵥ 0 ::ᵥ 2 ::ᵥ 1 ::ᵥ .nil⟩, 443, 0⟩
        ⟨[⟨as_bytes "HTTP/1.1 502 200 hosts down\r\n\r\n", by decide, by decide⟩],
          none⟩).result = .ok returned) ∧
    ¬ Responds (as_bytes "HTTP/1.1 502 200 hosts down\r\n\r\n") Status200 := by
  have hfirst : EndsFirst header_end (as_bytes "HTTP/1.1 502 200 hosts down\r\n\r\n") :=
    ⟨by decide +kernel, by decide +kernel⟩
  have hline : status_line (as_bytes "HTTP/1.1 502 200 hosts down\r\n\r\n") =
      "HTTP/1.1 502 200 hosts down".toList := by decide +kernel
  refine ⟨fun stream => (requestFor_iff _).not.mpr ?_, (ok_iff _ _).mpr ?_, ?_⟩
  · rintro ⟨addr, hip⟩
    cases hip
  · refine ⟨as_bytes "HTTP/1.1 502 200 hosts down\r\n\r\n", [], by decide +kernel, hfirst, ?_⟩
    rw [hline]
    decide
  · rintro ⟨head, tail, hbytes, hhead, major, minor, rest, hstatus, -⟩
    rw [← (endsFirst_unique hfirst hhead ((List.append_nil _).trans hbytes)).1, hline] at hstatus
    have hcode := congrArg (fun text : List Char => text[9]?) hstatus
    simp at hcode

end Alknet
