import Alknet.Code.Config.DynamicConfig
import Alknet.Code.Interface.RawFraming
import Alknet.Config.HostPattern
import Alknet.Lib.FirstMatch

/-!
# API keys

`resolve_api_key` cuts the token at byte 8 to look for an entry. That panics inside a character. The
first entry found by what was cut off is the only one whose hash is compared.
-/

open Alknet.Rust Alknet.Lib

namespace Alknet

variable {KeyData ε : Type} {sha256 : List UInt8 → List UInt8} {hex_encode : List UInt8 → String}

/-! ## The lookup -/

/-- The entry is for this token, by its whole text. -/
structure ApiKeyEntry.Accepts (sha256 : List UInt8 → List UInt8) (hex_encode : List UInt8 → String)
    (entry : ApiKeyEntry) (token : String) (now_secs : UInt64) : Prop where
  starts : starts_with token entry.prefix_text = true
  hash : entry.hash = "sha256:" ++ hex_encode (sha256 (as_bytes token))
  live : ∀ expires_at, entry.expires_at = some expires_at → now_secs < expires_at

/-- The entry is one that the first eight bytes of the token lead to. -/
structure ApiKeyEntry.Opens (entry : ApiKeyEntry) (token : String) : Prop where
  starts : starts_with token entry.prefix_text = true
  short : entry.prefix_text.utf8ByteSize ≤ 8

/-- What the lookup gives is what the table of keys says. -/
def ExactLookup (sha256 : List UInt8 → List UInt8) (hex_encode : List UInt8 → String)
    (api_keys : List ApiKeyEntry) (token : String) (now_secs : UInt64) (found : Option Identity) :
    Prop :=
  (found.isSome = true ↔ starts_with token API_KEY_PREFIX = true ∧
    ∃ entry ∈ api_keys, entry.Accepts sha256 hex_encode token now_secs) ∧
  ∀ identity, found = some identity → ∃ entry ∈ api_keys,
    entry.Accepts sha256 hex_encode token now_secs ∧ identity = ⟨entry.prefix_text, entry.scopes⟩

theorem check_api_key_eq_some {entry : ApiKeyEntry} {token : String} {now_secs : UInt64}
    {identity : Identity} :
    AuthPolicy.check_api_key sha256 hex_encode entry token now_secs = some identity ↔
      entry.hash = "sha256:" ++ hex_encode (sha256 (as_bytes token)) ∧
      (∀ expires_at, entry.expires_at = some expires_at → now_secs < expires_at) ∧
      identity = ⟨entry.prefix_text, entry.scopes⟩ := by
  unfold AuthPolicy.check_api_key
  by_cases hhash : entry.hash = "sha256:" ++ hex_encode (sha256 (as_bytes token))
  · cases hexpires : entry.expires_at with
    | none => simp [hhash, eq_comm]
    | some expires_at =>
      by_cases hlive : expires_at ≤ now_secs
      · simp [hhash, hlive]
      · simp [hhash, hlive, eq_comm, UInt64.not_le.mp hlive]
  · simp [hhash]

theorem starts_with_slice_iff {token start : String} {part : List Char}
    (h : slice_to (min token.utf8ByteSize 8) token.toList = some part) :
    starts_with (String.ofList part) start = true ↔
      starts_with token start = true ∧ start.utf8ByteSize ≤ 8 := by
  obtain ⟨rest, htoken, hlen⟩ := slice_to_spec h
  rw [starts_with_iff, starts_with_iff, String.toList_ofList, ← byte_len_toList start]
  constructor
  · rintro ⟨tail, rfl⟩
    rw [byte_len_append] at hlen
    exact ⟨⟨tail ++ rest, by rw [htoken, List.append_assoc]⟩, by omega⟩
  · rintro ⟨⟨tail, htail⟩, hshort⟩
    have hlong : byte_len start.toList ≤ byte_len part := by
      rw [hlen, ← byte_len_toList token, htail, byte_len_append]
      omega
    have hstart : start.toList <+: token.toList := ⟨tail, htail.symm⟩
    have hpart : part <+: token.toList := ⟨rest, htoken.symm⟩
    rcases List.prefix_or_prefix_of_prefix hstart hpart with ⟨more, hmore⟩ | ⟨more, hmore⟩
    · exact ⟨more, hmore.symm⟩
    · have hnone : more = [] := by
        rw [← hmore, byte_len_append] at hlong
        exact byte_len_eq_zero.mp (by omega)
      subst hnone
      exact ⟨[], by rw [← hmore]; simp⟩

theorem resolve_api_key_spec {policy : AuthPolicy KeyData} {token : String} {now_secs : UInt64}
    {found : Option Identity}
    (h : policy.resolve_api_key sha256 hex_encode token now_secs =
      (.ok found : Outcome ε (Option Identity))) :
    (starts_with token API_KEY_PREFIX = false ∧ found = none) ∨
    (starts_with token API_KEY_PREFIX = true ∧ (∀ entry ∈ policy.api_keys, ¬ entry.Opens token) ∧
      found = none) ∨
    (starts_with token API_KEY_PREFIX = true ∧ ∃ first,
      IsFirst (·.Opens token) policy.api_keys first ∧
      found = AuthPolicy.check_api_key sha256 hex_encode first token now_secs) := by
  -- a lookup that returns looks at the first entry that the token opens
  unfold AuthPolicy.resolve_api_key at h
  cases hstarts : starts_with token API_KEY_PREFIX with
  | false =>
    rw [if_pos hstarts] at h
    cases h
    exact .inl ⟨rfl, rfl⟩
  | true =>
    rw [if_neg (by simp [hstarts])] at h
    cases hslice : slice_to (min token.utf8ByteSize 8) token.toList with
    | none => simp [hslice] at h
    | some part =>
      have hopens : ∀ entry : ApiKeyEntry,
          starts_with (String.ofList part) entry.prefix_text = true ↔ entry.Opens token :=
        fun entry => (starts_with_slice_iff hslice).trans ⟨fun h => ⟨h.1, h.2⟩, fun h => ⟨h.1, h.2⟩⟩
      simp only [hslice] at h
      cases hfind : policy.api_keys.find? fun e =>
          starts_with (String.ofList part) e.prefix_text with
      | none =>
        simp only [hfind] at h
        cases h
        rw [List.find?_eq_none] at hfind
        exact .inr (.inl ⟨rfl, fun entry hmem => by rw [← hopens]; exact hfind entry hmem, rfl⟩)
      | some first =>
        simp only [hfind] at h
        cases h
        have hfirst := find?_eq_some_iff_isFirst.mp ((by simpa using hfind :
          policy.api_keys.find? (fun e =>
            decide (starts_with (String.ofList part) e.prefix_text = true)) = some first))
        simp only [hopens] at hfirst
        exact .inr (.inr ⟨rfl, first, hfirst, rfl⟩)

theorem resolve_api_key_sound {policy : AuthPolicy KeyData} {token : String} {now_secs : UInt64}
    {identity : Identity}
    (h : policy.resolve_api_key sha256 hex_encode token now_secs =
      (.ok (some identity) : Outcome ε (Option Identity))) :
    starts_with token API_KEY_PREFIX = true ∧ ∃ first,
      IsFirst (·.Opens token) policy.api_keys first ∧
      first.Accepts sha256 hex_encode token now_secs ∧
      identity = ⟨first.prefix_text, first.scopes⟩ := by
  rcases resolve_api_key_spec h with ⟨-, hnone⟩ | ⟨-, -, hnone⟩ | ⟨hstarts, first, hfirst, hfound⟩
  · cases hnone
  · cases hnone
  · obtain ⟨hhash, hlive, hidentity⟩ := check_api_key_eq_some.mp hfound.symm
    exact ⟨hstarts, first, hfirst, ⟨hfirst.holds.starts, hhash, hlive⟩, hidentity⟩

/-- **The lookup of API keys** is exact if and only if the first entry that a token opens accepts it
whenever some entry does. -/
theorem api_key_lookup_iff {policy : AuthPolicy KeyData} {token : String} {now_secs : UInt64}
    {found : Option Identity}
    (h : policy.resolve_api_key sha256 hex_encode token now_secs =
      (.ok found : Outcome Empty (Option Identity))) :
    ExactLookup sha256 hex_encode policy.api_keys token now_secs found ↔
      (starts_with token API_KEY_PREFIX = true →
        (∃ entry ∈ policy.api_keys, entry.Accepts sha256 hex_encode token now_secs) →
        ∃ first, IsFirst (·.Opens token) policy.api_keys first ∧
          first.Accepts sha256 hex_encode token now_secs) := by
  constructor
  · rintro ⟨hexact, -⟩ hstarts haccepts
    obtain ⟨identity, rfl⟩ := Option.isSome_iff_exists.mp (hexact.mpr ⟨hstarts, haccepts⟩)
    obtain ⟨-, first, hfirst, haccepts, -⟩ := resolve_api_key_sound h
    exact ⟨first, hfirst, haccepts⟩
  · intro hcondition
    have hsound : ∀ identity, found = some identity → starts_with token API_KEY_PREFIX = true ∧
        ∃ entry ∈ policy.api_keys, entry.Accepts sha256 hex_encode token now_secs ∧
          identity = ⟨entry.prefix_text, entry.scopes⟩ := by
      rintro identity rfl
      obtain ⟨hstarts, first, hfirst, haccepts, hidentity⟩ := resolve_api_key_sound h
      exact ⟨hstarts, first, hfirst.mem, haccepts, hidentity⟩
    refine ⟨⟨fun hsome => ?_, fun ⟨hstarts, haccepts⟩ => ?_⟩, fun identity hfound =>
      (hsound identity hfound).2⟩
    · obtain ⟨identity, hfound⟩ := Option.isSome_iff_exists.mp hsome
      obtain ⟨hstarts, entry, hmem, haccepts, -⟩ := hsound identity hfound
      exact ⟨hstarts, entry, hmem, haccepts⟩
    · obtain ⟨first, hfirst, haccepts⟩ := hcondition hstarts haccepts
      rcases resolve_api_key_spec h with ⟨hnot, -⟩ | ⟨-, hnever, -⟩ | ⟨-, first', hfirst', hfound⟩
      · simp [hstarts] at hnot
      · exact absurd hfirst.holds (hnever first hfirst.mem)
      · obtain rfl := hfirst.unique hfirst'
        rw [hfound, Option.isSome_iff_exists]
        exact ⟨_, check_api_key_eq_some.mpr ⟨haccepts.hash, haccepts.live, rfl⟩⟩

/-- Two digits for each byte. -/
def lower_hex (bytes : List UInt8) : String :=
  String.ofList (bytes.flatMap fun byte =>
    [Nat.digitChar (byte.toNat / 16), Nat.digitChar (byte.toNat % 16)])

/-- The SHA-256 digest of `alk_second`. -/
def second_digest : List UInt8 :=
  [83, 190, 105, 20, 167, 157, 193, 134, 117, 30, 179, 13, 228, 145, 174, 162, 181, 11, 98, 125, 36,
    60, 200, 56, 54, 66, 192, 56, 84, 255, 55, 225]

/-- Two keys with the usual start, for the tokens `alk_first` and `alk_second`. -/
def first_key : ApiKeyEntry :=
  ⟨"alk_", "sha256:98ed65cceb2d6b1a9fd97dfe8c0f37cee11340843f60fddabc3fbdbf4d2206ff",
    ["relay:connect"], none⟩

def second_key : ApiKeyEntry :=
  ⟨"alk_", "sha256:53be6914a79dc186751eb30de491aea2b50b627d243cc8383642c03854ff37e1",
    ["secrets:derive"], none⟩

def policy_of_keys (api_keys : List ApiKeyEntry) : AuthPolicy Unit := ⟨∅, [], api_keys, ∅, ∅⟩

theorem second_key_accepts :
    second_key.Accepts (fun _ => second_digest) lower_hex "alk_second" 0 where
  starts := by decide
  hash := by decide
  live := by simp [second_key]

theorem opens_usual (entry : ApiKeyEntry) (h : entry.prefix_text = "alk_") :
    entry.Opens "alk_second" where
  starts := by rw [h]; decide
  short := by rw [h]; decide

theorem api_key_lookup_first :
    ExactLookup (fun _ => second_digest) lower_hex [second_key, first_key] "alk_second" 0
      (some ⟨"alk_", ["secrets:derive"]⟩) := by
  have hfound : (policy_of_keys [second_key, first_key]).resolve_api_key (fun _ => second_digest)
      lower_hex "alk_second" 0 = (.ok (some ⟨"alk_", ["secrets:derive"]⟩) : Outcome Empty _) := by
    decide
  refine (api_key_lookup_iff hfound).mpr fun _ _ => ?_
  exact ⟨second_key, isFirst_cons.mpr (.inl ⟨opens_usual _ rfl, rfl⟩), second_key_accepts⟩

theorem api_key_shadowed :
    (policy_of_keys [first_key, second_key]).resolve_api_key (fun _ => second_digest) lower_hex
        "alk_second" 0 = (.ok none : Outcome Empty (Option Identity)) ∧
      ¬ ExactLookup (fun _ => second_digest) lower_hex [first_key, second_key] "alk_second" 0
        none := by
  refine ⟨by decide, fun hexact => ?_⟩
  have haccepted := hexact.1.mpr ⟨by decide, second_key, by simp, second_key_accepts⟩
  cases haccepted

/-! ## Tokens that panic -/

/-- A token with the start of API keys and a character across byte 8. -/
structure CutToken (token : String) : Prop where
  starts : starts_with token API_KEY_PREFIX = true
  across : CharAcross 8 token.toList

theorem resolve_api_key_returns_iff (policy : AuthPolicy KeyData) (token : String)
    (now_secs : UInt64) :
    Returns (policy.resolve_api_key sha256 hex_encode token now_secs :
        Outcome ε (Option Identity)) ↔ ¬ CutToken token := by
  unfold AuthPolicy.resolve_api_key
  cases hstarts : starts_with token API_KEY_PREFIX with
  | false =>
    rw [if_pos rfl]
    exact iff_of_true (returns_ok none) fun hcut => by simp [hcut.starts] at hstarts
  | true =>
    rw [if_neg (by simp)]
    have hslice : slice_to (min token.utf8ByteSize 8) token.toList = none ↔ CutToken token := by
      rw [← byte_len_toList token, slice_to_min_eq_none]
      exact ⟨fun h => ⟨hstarts, h⟩, fun h => h.across⟩
    rw [← hslice]
    cases slice_to (min token.utf8ByteSize 8) token.toList with
    | none => simp
    | some part =>
      simp only [reduceCtorEq, not_false_eq_true, iff_true]
      split <;> exact returns_ok _

theorem resolve_from_token_returns_iff (auth : AuthPolicy KeyData) (now_secs : UInt64)
    (token : AuthToken) :
    Returns (resolve_from_token sha256 hex_encode auth now_secs token :
        Outcome ε (Option Identity)) ↔ ¬ CutToken (from_utf8_lossy token.raw) := by
  unfold resolve_from_token
  simp only
  split
  · exact resolve_api_key_returns_iff auth _ now_secs
  · rename_i hstarts
    exact iff_of_true (returns_ok none) fun hcut => hstarts hcut.starts

theorem recv_or_panic_returns_iff (json : Json)
    (resolve : AuthToken → Outcome Empty (Option Identity)) (budget : Nat)
    (session : RawFramingSession) :
    Returns (session.recv_or_panic json resolve budget) ↔
      ∀ envelope reader, session.auth_state = .Pending →
        RawFramingSession.read_frame json budget session.reader = (some (.ok envelope), reader) →
        Returns (resolve (token_of envelope)) := by
  unfold RawFramingSession.recv_or_panic
  cases hstate : session.auth_state with
  | Failed => simp
  | Authenticated identity =>
    simp only [reduceCtorEq, false_imp_iff, implies_true, iff_true]
    split <;> exact returns_ok _
  | Pending =>
    cases hread : RawFramingSession.read_frame json budget session.reader with
    | mk frame reader =>
      rcases frame with - | (e | envelope)
      · simp
      · simp
      · simp only [Prod.mk.injEq, Option.some.injEq, Except.ok.injEq, and_imp, true_imp_iff]
        rw [bind_returns fun found => by cases found <;> exact pure_returns _]
        exact ⟨fun h _ _ henvelope _ => henvelope ▸ h, fun h => h envelope reader rfl rfl⟩

/-- **Tokens do not crash the server** unless they start as API keys do and have a character across
byte 8. -/
theorem token_resolution_returns_iff (sha256 : List UInt8 → List UInt8)
    (hex_encode : List UInt8 → String) (auth : AuthPolicy KeyData) (now_secs : UInt64) :
    (∀ token : AuthToken,
      Returns (resolve_from_token sha256 hex_encode auth now_secs token :
          Outcome Empty (Option Identity)) ↔ ¬ CutToken (from_utf8_lossy token.raw)) ∧
    ∀ (json : Json) (budget : Nat) (session : RawFramingSession),
      Returns (session.recv_or_panic json (resolve_from_token sha256 hex_encode auth now_secs)
          budget) ↔
        ∀ envelope reader, session.auth_state = .Pending →
          RawFramingSession.read_frame json budget session.reader = (some (.ok envelope), reader) →
          ¬ CutToken (envelope.payload.as_str.getD "") := by
  refine ⟨resolve_from_token_returns_iff auth now_secs, fun json budget session => ?_⟩
  rw [recv_or_panic_returns_iff]
  simp only [resolve_from_token_returns_iff, token_of, from_utf8_lossy_as_bytes]

/-- The euro sign takes the bytes 7 to 9. -/
theorem euro_token_panics :
    resolve_from_token (fun _ => []) lower_hex (policy_of_keys []) 0 ⟨as_bytes "alk_abc€"⟩ =
      (.error (.panic .charBoundary) : Outcome Empty (Option Identity)) := by
  rw [resolve_from_token, from_utf8_lossy_as_bytes]
  decide

end Alknet
