import Alknet.Auth.ApiKeys
import Alknet.Code.Http.Auth

/-!
# Tokens at the HTTP door

A header value that is not ASCII does not reach the identity provider. So the tokens that make it
panic do not either, and for the others the door says what the provider says.
-/

open Alknet.Rust Alknet.Lib

namespace Alknet

variable {KeyData Request HeaderValue : Type} {axum : Axum Request HeaderValue}
  {sha256 : List UInt8 → List UInt8} {hex_encode : List UInt8 → String}

/-! ## ASCII -/

theorem utf8Size_of_ascii {c : Char} (h : c.toNat < 128) : c.utf8Size = 1 := by
  have hval : c.val ≤ 127 := by
    rw [UInt32.le_iff_toNat_le]
    exact Nat.le_of_lt_succ h
  simp [Char.utf8Size, hval]

theorem not_across_of_ascii {text : String} (h : ∀ c ∈ text.toList, c.toNat < 128) (n : Nat) :
    ¬ CharAcross n text.toList := by
  rintro ⟨before, c, after, htext, hlow, hhigh⟩
  have hc : c ∈ text.toList := by
    rw [htext]
    exact List.mem_append_right _ List.mem_cons_self
  rw [utf8Size_of_ascii (h c hc)] at hhigh
  omega

/-! ## The door -/

theorem resolve_ascii (auth : AuthPolicy KeyData) (now_secs : UInt64) {token : String}
    (h : ∀ c ∈ token.toList, c.toNat < 128) :
    ∃ found, resolve_from_token sha256 hex_encode auth now_secs ⟨as_bytes token⟩ =
      (.ok found : Outcome Empty (Option Identity)) := by
  have hreturns : Returns (resolve_from_token sha256 hex_encode auth now_secs ⟨as_bytes token⟩ :
      Outcome Empty (Option Identity)) := by
    rw [resolve_from_token_returns_iff, from_utf8_lossy_as_bytes]
    exact fun hcut => not_across_of_ascii h 8 hcut.across
  cases hresult : (resolve_from_token sha256 hex_encode auth now_secs ⟨as_bytes token⟩ :
      Outcome Empty (Option Identity)) with
  | ok found => exact ⟨found, rfl⟩
  | error fault =>
    cases fault with
    | err e => exact e.elim
    | panic cause => exact absurd hresult (hreturns cause)

/-- The header is a text: `Bearer` with this token. -/
def Axum.Bears (axum : Axum Request HeaderValue) (request : Request) (token : String) : Prop :=
  (axum.authorization request).bind axum.to_str = some (BEARER ++ token)

theorem Axum.Documented.token_ascii (haxum : axum.Documented) {request : Request} {token : String}
    (h : axum.Bears request token) : ∀ c ∈ token.toList, c.toNat < 128 := by
  intro c hc
  obtain ⟨value, -, htext⟩ := Option.bind_eq_some_iff.mp h
  refine haxum.ascii value _ htext c ?_
  rw [String.toList_append]
  exact List.mem_append_right _ hc

theorem Axum.Bears.unique {request : Request} {token other : String}
    (h : axum.Bears request token) (hother : axum.Bears request other) : other = token := by
  have htext := congrArg String.toList (Option.some.inj (hother.symm.trans h))
  rw [String.toList_append, String.toList_append] at htext
  exact String.toList_inj.mp (List.append_cancel_left htext)

theorem bearer_token {text : String} (h : starts_with text BEARER = true) :
    text = BEARER ++ String.ofList (text.toList.drop 7) := by
  obtain ⟨rest, hrest⟩ := List.isPrefixOf_iff_prefix.mp h
  have hdrop : text.toList.drop 7 = rest := by
    rw [← hrest]
    exact List.drop_left' rfl
  rw [hdrop, ← String.toList_inj, String.toList_append, String.toList_ofList, hrest]

theorem resolve_isSome_iff {auth : AuthPolicy KeyData} {now_secs : UInt64} {token : String}
    {found : Option Identity}
    (h : resolve_from_token sha256 hex_encode auth now_secs ⟨as_bytes token⟩ =
      (.ok found : Outcome Empty (Option Identity))) :
    found.isSome = true ↔ starts_with token API_KEY_PREFIX = true ∧ ∃ first,
      IsFirst (·.Opens token) auth.api_keys first ∧
      first.Accepts sha256 hex_encode token now_secs := by
  unfold resolve_from_token at h
  rw [from_utf8_lossy_as_bytes] at h
  by_cases hstarts : starts_with token API_KEY_PREFIX = true
  · simp only [hstarts, if_true] at h
    constructor
    · intro hsome
      obtain ⟨identity, rfl⟩ := Option.isSome_iff_exists.mp hsome
      obtain ⟨-, first, hfirst, haccepts, -⟩ := resolve_api_key_sound h
      exact ⟨hstarts, first, hfirst, haccepts⟩
    · rintro ⟨-, first, hfirst, haccepts⟩
      rcases resolve_api_key_spec h with ⟨hnot, -⟩ | ⟨-, hnever, -⟩ | ⟨-, first', hfirst', hfound⟩
      · rw [hstarts] at hnot
        cases hnot
      · exact absurd hfirst.holds (hnever first hfirst.mem)
      · obtain rfl := hfirst.unique hfirst'
        rw [hfound, Option.isSome_iff_exists]
        exact ⟨_, check_api_key_eq_some.mpr ⟨haccepts.hash, haccepts.live, rfl⟩⟩
  · simp only [hstarts, Bool.false_eq_true, if_false] at h
    cases h
    exact iff_of_false Bool.false_ne_true fun hsome => hstarts hsome.1

section

variable (haxum : axum.Documented) (resolve : AuthToken → Outcome Empty (Option Identity))
include haxum

theorem build_router_of_bears {request : Request} {token : String}
    (h : axum.Bears request token) :
    build_router axum resolve request = (resolve ⟨as_bytes token⟩).map fun found =>
      if found.isSome then HttpStatus.NOT_FOUND else .UNAUTHORIZED := by
  have hstarts : starts_with (BEARER ++ token) BEARER = true := by
    refine List.isPrefixOf_iff_prefix.mpr ?_
    rw [String.toList_append]
    exact List.prefix_append _ _
  have htoken : String.ofList ((BEARER ++ token).toList.drop 7) = token := by
    rw [String.toList_append, show (BEARER.toList ++ token.toList).drop 7 = token.toList from
      List.drop_left' rfl, String.ofList_toList]
  unfold build_router
  rw [haxum.layered, auth_middleware, h]
  simp only [hstarts, if_true, htoken]
  rcases resolve ⟨as_bytes token⟩ with fault | (- | identity) <;> rfl

theorem build_router_of_none {request : Request} (h : ∀ token, ¬ axum.Bears request token) :
    build_router axum resolve request = .ok .UNAUTHORIZED := by
  unfold build_router
  rw [haxum.layered, auth_middleware]
  cases htext : (axum.authorization request).bind axum.to_str with
  | none => rfl
  | some text =>
    by_cases hstarts : starts_with text BEARER = true
    · exact absurd (htext.trans (congrArg some (bearer_token hstarts)))
        (h (String.ofList (text.toList.drop 7)))
    · exact if_neg hstarts

end

/-- **The HTTP door** does not panic, and lets in the requests with a key that the provider accepts.
-/
theorem http_door (haxum : axum.Documented) (sha256 : List UInt8 → List UInt8)
    (hex_encode : List UInt8 → String) (auth : AuthPolicy KeyData) (now_secs : UInt64)
    (request : Request) :
    let resolve : AuthToken → Outcome Empty (Option Identity) :=
      resolve_from_token sha256 hex_encode auth now_secs
    Returns (build_router axum resolve request) ∧
    (build_router axum resolve request = .ok .NOT_FOUND ↔ ∃ token, axum.Bears request token ∧
      starts_with token API_KEY_PREFIX = true ∧ ∃ first,
        IsFirst (·.Opens token) auth.api_keys first ∧
        first.Accepts sha256 hex_encode token now_secs) ∧
    (∀ token, axum.Bears request token → ∃ found, resolve ⟨as_bytes token⟩ = .ok found ∧
      build_router axum resolve request =
        .ok (if found.isSome then .NOT_FOUND else .UNAUTHORIZED) ∧
      AuthServiceImpl.verify_token resolve ⟨as_bytes token⟩ =
        .ok (found.elim (.Denied "token verification failed") .Ok)) ∧
    ((∀ token, ¬ axum.Bears request token) →
      ∀ provider : AuthToken → Outcome Empty (Option Identity),
        build_router axum provider request = .ok .UNAUTHORIZED) := by
  intro resolve
  by_cases hbears : ∃ token, axum.Bears request token
  · obtain ⟨token, hbears⟩ := hbears
    obtain ⟨found, hfound⟩ : ∃ found, resolve ⟨as_bytes token⟩ = .ok found :=
      resolve_ascii auth now_secs (haxum.token_ascii hbears)
    have hdoor := build_router_of_bears haxum resolve hbears
    rw [hfound, Except.map] at hdoor
    rw [hdoor]
    refine ⟨returns_ok _, ?_, fun other h => ?_, fun hnone => absurd hbears (hnone token)⟩
    · have hiff := resolve_isSome_iff hfound
      constructor
      · intro hin
        have hsome : found.isSome = true := by
          by_contra hnone
          rw [if_neg hnone] at hin
          cases hin
        exact ⟨token, hbears, hiff.mp hsome⟩
      · rintro ⟨other, h, hkey⟩
        rw [hbears.unique h] at hkey
        rw [if_pos (hiff.mpr hkey)]
    · rw [hbears.unique h]
      refine ⟨found, hfound, rfl, ?_⟩
      unfold AuthServiceImpl.verify_token
      rw [hfound]
      cases found <;> rfl
  · have hnone := build_router_of_none haxum resolve (not_exists.mp hbears)
    rw [hnone]
    refine ⟨returns_ok _, ⟨nofun, ?_⟩, fun token h => absurd ⟨token, h⟩ hbears,
      fun hnone provider => build_router_of_none haxum provider hnone⟩
    rintro ⟨token, h, -⟩
    exact absurd ⟨token, h⟩ hbears

/-- A request is its header, which is a text if it is of ASCII characters. -/
def sampleAxum : Axum (Option String) String where
  authorization := id
  to_str value := if value.toList.all fun c => c.toNat < 128 then some value else none
  insert request _ := request
  layer fallback middleware := middleware fallback

theorem sampleAxum_documented : sampleAxum.Documented where
  ascii := by
    intro value text htext c hc
    obtain ⟨hascii, htext⟩ := Option.ite_none_right_eq_some.mp htext
    cases htext
    exact of_decide_eq_true (List.all_eq_true.mp hascii c hc)
  layered _ _ := rfl

theorem http_door_lets_in :
    build_router sampleAxum (resolve_from_token (fun _ => second_digest) lower_hex
        (policy_of_keys [second_key, first_key]) 0 :
        AuthToken → Outcome Empty (Option Identity)) (some "Bearer alk_second") =
      .ok .NOT_FOUND := by
  obtain ⟨-, hiff, -⟩ := http_door sampleAxum_documented (fun _ => second_digest) lower_hex
    (policy_of_keys [second_key, first_key]) 0 (some "Bearer alk_second")
  have hbears : sampleAxum.Bears (some "Bearer alk_second") "alk_second" := by
    unfold Axum.Bears
    decide
  refine hiff.mpr ⟨"alk_second", hbears, by decide, second_key, ?_, second_key_accepts⟩
  exact isFirst_cons.mpr (.inl ⟨opens_usual _ rfl, rfl⟩)

end Alknet
