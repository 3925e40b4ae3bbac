import Alknet.Code.Napi.Auth

/-!
# Lines of key files

What `parse_authorized_keys_line` does is said by the fields of the line. A known options field with
one field behind it panics. Whoever has a known options field is an authority, and whoever has a
line is a user.
-/

open Alknet.Rust

namespace Alknet

/-! ## Fields -/

/-- The fields of a line, as spaces separate them. -/
def fields (line : List Char) : List (List Char) := (trim line).splitOn ' '

theorem parts_cases (line : List Char) :
    (∃ a, splitn 4 ' ' (trim line) = [a] ∧ fields line = [a]) ∨
    ∃ a b rest rest', splitn 4 ' ' (trim line) = a :: b :: rest ∧
      fields line = a :: b :: rest' ∧ rest.head? = rest'.head? := by
  unfold fields
  rw [splitn, splitOn_eq]
  cases split_once ' ' (trim line) with
  | none => exact .inl ⟨_, rfl, rfl⟩
  | some parts =>
    obtain ⟨a, s⟩ := parts
    simp only
    rw [splitn, splitOn_eq]
    cases split_once ' ' s with
    | none => exact .inr ⟨a, s, [], [], rfl, rfl, rfl⟩
    | some parts =>
      obtain ⟨b, s⟩ := parts
      refine .inr ⟨a, b, _, _, rfl, rfl, ?_⟩
      rw [splitn, splitOn_eq]
      cases split_once ' ' s <;> rfl

/-! ## What a line carries -/

/-- A line that breaks off behind its options and one more field. -/
def OptionsOnly (line : List Char) : Prop :=
  ∃ options last, fields line = [options, last] ∧ starts_with_one_of OPTION_STARTS options = true

/-- The line begins with a field that the parser knows. -/
def Known (line : List Char) : Prop :=
  ∃ first rest, fields line = first :: rest ∧
    (starts_with_one_of OPTION_STARTS first = true ∨
      starts_with_one_of KEY_TYPE_STARTS first = true)

variable {KeyData ε α : Type} [SshKey KeyData]

/-- The line has this key, behind these options. As in the parser, spaces and commas separate also
inside quotes. -/
inductive Carries (line : List Char) (key : PublicKey KeyData) : List String → Prop
  | plain {kind base64 : List Char} {rest : List (List Char)}
      (hfields : fields line = kind :: base64 :: rest)
      (hkind : starts_with_one_of KEY_TYPE_STARTS kind = true)
      (hkey : SshKey.parse_public_key_base64 (String.ofList base64) = some key) :
      Carries line key []
  | restricted {options kind base64 : List Char} {rest : List (List Char)}
      (hfields : fields line = options :: kind :: base64 :: rest)
      (hkind : starts_with_one_of KEY_TYPE_STARTS options = false)
      (hcomment : options.head? ≠ some '#')
      (hkey : SshKey.parse_public_key_base64 (String.ofList base64) = some key) :
      Carries line key ((options.splitOn ',').map String.ofList)

theorem starts_with_one_of_iff {starts : List String} {s : List Char} :
    starts_with_one_of starts s = true ↔ ∃ start ∈ starts, start.toList <+: s := by
  simp [starts_with_one_of, List.isPrefixOf_iff_prefix]

theorem known_start_head {start : String} (hmem : start ∈ OPTION_STARTS ++ KEY_TYPE_STARTS)
    {s : List Char} (hs : start.toList <+: s) : s ≠ [] ∧ s.head? ≠ some '#' := by
  have hheads : (OPTION_STARTS ++ KEY_TYPE_STARTS).all
      (fun start => start.toList.head?.any (· != '#')) = true := by decide
  have hhead := List.all_eq_true.mp hheads start hmem
  obtain ⟨rest, rfl⟩ := hs
  cases htext : start.toList with
  | nil => simp [htext] at hhead
  | cons c tail =>
    rw [htext] at hhead
    simpa using hhead

theorem options_apart {s : List Char} (h : starts_with_one_of OPTION_STARTS s = true) :
    starts_with_one_of KEY_TYPE_STARTS s = false ∧ s.head? ≠ some '#' := by
  obtain ⟨start, hstart, hs⟩ := starts_with_one_of_iff.mp h
  refine ⟨?_, (known_start_head (List.mem_append_left _ hstart) hs).2⟩
  rw [Bool.eq_false_iff]
  intro hkind
  obtain ⟨kind, hmem, hkind⟩ := starts_with_one_of_iff.mp hkind
  have hapart : ∀ start ∈ OPTION_STARTS, ∀ kind ∈ KEY_TYPE_STARTS,
      ¬ (start.toList <+: kind.toList) ∧ ¬ (kind.toList <+: start.toList) := by decide
  rcases List.prefix_or_prefix_of_prefix hs hkind with h | h
  · exact (hapart start hstart kind hmem).1 h
  · exact (hapart start hstart kind hmem).2 h

theorem field_starts_line {line first : List Char} {rest : List (List Char)}
    (h : fields line = first :: rest) : first <+: trim line := by
  rw [fields, splitOn_eq] at h
  cases hsplit : split_once ' ' (trim line) with
  | none =>
    rw [hsplit] at h
    obtain ⟨rfl, -⟩ := List.cons.inj h
    exact List.prefix_rfl
  | some parts =>
    rw [hsplit] at h
    obtain ⟨rfl, -⟩ := List.cons.inj h
    obtain ⟨htrim, -⟩ := split_once_eq_some.mp hsplit
    exact ⟨_, htrim.symm⟩

theorem OptionsOnly.known {line : List Char} (h : OptionsOnly line) : Known line := by
  obtain ⟨options, last, hfields, hoptions⟩ := h
  exact ⟨options, [last], hfields, .inl hoptions⟩

theorem Known.not_skipped {line : List Char} (h : Known line) :
    ¬ (trim line = [] ∨ (trim line).head? = some '#') := by
  obtain ⟨first, rest, hfields, hstarts⟩ := h
  obtain ⟨start, hmem, hstart⟩ : ∃ start ∈ OPTION_STARTS ++ KEY_TYPE_STARTS,
      start.toList <+: first := by
    rcases hstarts with h | h
    all_goals
      obtain ⟨start, hmem, hstart⟩ := starts_with_one_of_iff.mp h
      exact ⟨start, by simp [hmem], hstart⟩
  obtain ⟨hne, hcomment⟩ := known_start_head hmem (hstart.trans (field_starts_line hfields))
  exact not_or.mpr ⟨hne, hcomment⟩

section

variable {line a b d : List Char} {rest : List (List Char)} {key : PublicKey KeyData}
  {options : List String}

theorem carries_plain_iff (hfields : fields line = a :: b :: rest)
    (hkind : starts_with_one_of KEY_TYPE_STARTS a = true) :
    Carries line key options ↔
      SshKey.parse_public_key_base64 (String.ofList b) = some key ∧ options = [] := by
  constructor
  · intro h
    cases h with
    | plain hfields' _ hkey =>
      rw [hfields] at hfields'
      cases hfields'
      exact ⟨hkey, rfl⟩
    | restricted hfields' hnot =>
      rw [hfields] at hfields'
      cases hfields'
      rw [hkind] at hnot
      cases hnot
  · rintro ⟨hkey, rfl⟩
    exact .plain hfields hkind hkey

theorem carries_restricted_iff (hfields : fields line = a :: b :: d :: rest)
    (hoptions : starts_with_one_of OPTION_STARTS a = true) :
    Carries line key options ↔ SshKey.parse_public_key_base64 (String.ofList d) = some key ∧
      options = (a.splitOn ',').map String.ofList := by
  obtain ⟨hkind, hcomment⟩ := options_apart hoptions
  constructor
  · intro h
    cases h with
    | plain hfields' hkind' =>
      rw [hfields] at hfields'
      cases hfields'
      rw [hkind] at hkind'
      cases hkind'
    | restricted hfields' _ _ hkey =>
      rw [hfields] at hfields'
      cases hfields'
      exact ⟨hkey, rfl⟩
  · rintro ⟨hkey, rfl⟩
    exact .restricted hfields hkind hcomment hkey

theorem known_iff (hfields : fields line = a :: rest) :
    Known line ↔ starts_with_one_of OPTION_STARTS a = true ∨
      starts_with_one_of KEY_TYPE_STARTS a = true := by
  constructor
  · rintro ⟨first, rest', hfields', h⟩
    rw [hfields] at hfields'
    cases hfields'
    exact h
  · exact fun h => ⟨a, rest, hfields, h⟩

theorem parse_key_field_eq {parts : List (List Char)} {i : Nat} {field : List Char}
    (h : parts[i + 1]? = some field) :
    (parse_key_field parts i options :
        Outcome ε (Option (Except ConfigError (PublicKey KeyData × List String)))) =
      .ok (((SshKey.parse_public_key_base64 (String.ofList field)).map (·, options)).map .ok) := by
  simp only [parse_key_field, h]
  split
  · rename_i pk hkey
    rw [hkey]
    rfl
  · rename_i hkey
    rw [hkey]
    rfl

omit [SshKey KeyData] in
theorem map_pair_eq_some {found : Option (PublicKey KeyData)} {options' : List String} :
    found.map (·, options) = some (key, options') ↔ found = some key ∧ options' = options := by
  cases found <;> simp [eq_comm]

end

variable (KeyData ε) in
theorem parse_line_cases (line : List Char) :
    (OptionsOnly line ∧ (parse_authorized_keys_line line :
      Outcome ε (Option (Except ConfigError (PublicKey KeyData × List String)))) =
        .error (.panic .indexOutOfBounds)) ∨
    (¬ OptionsOnly line ∧ ∃ found : Option (PublicKey KeyData × List String),
      (parse_authorized_keys_line line :
        Outcome ε (Option (Except ConfigError (PublicKey KeyData × List String)))) =
          .ok (found.map .ok) ∧
      ∀ key options, found = some (key, options) ↔ Carries line key options ∧ Known line) := by
  unfold parse_authorized_keys_line
  simp only
  by_cases hskip : trim line = [] ∨ (trim line).head? = some '#'
  · rw [if_pos hskip]
    refine .inr ⟨fun h => h.known.not_skipped hskip, none, rfl, fun key options => ?_⟩
    simp only [reduceCtorEq, false_iff, not_and]
    exact fun _ hknown => hknown.not_skipped hskip
  rw [if_neg hskip]
  rcases parts_cases line with ⟨a, hparts, hfields⟩ | ⟨a, b, rest, rest', hparts, hfields, hrest⟩
  · rw [hparts]
    refine .inr ⟨?_, none, rfl, fun key options => ?_⟩
    · rintro ⟨options, last, hfields', -⟩
      simp [hfields] at hfields'
    · simp only [reduceCtorEq, false_iff, not_and]
      rintro (⟨hfields', -, -⟩ | ⟨hfields', -, -, -⟩) <;> simp [hfields] at hfields'
  simp only [hparts]
  by_cases hoptions : starts_with_one_of OPTION_STARTS a = true
  · rw [if_pos hoptions, if_neg (by simp)]
    cases rest' with
    | nil =>
      obtain rfl : rest = [] := List.head?_eq_none_iff.mp hrest
      exact .inl ⟨⟨a, b, hfields, hoptions⟩, rfl⟩
    | cons d rest' =>
      obtain ⟨more, rfl⟩ := List.head?_eq_some_iff.mp hrest
      refine .inr ⟨?_, _, parse_key_field_eq rfl, fun key options => ?_⟩
      · rintro ⟨options, last, hfields', -⟩
        simp [hfields] at hfields'
      · rw [map_pair_eq_some, carries_restricted_iff hfields hoptions, known_iff hfields]
        simp [hoptions]
  rw [if_neg hoptions]
  have honly : ¬ OptionsOnly line := by
    rintro ⟨options, last, hfields', hoptions'⟩
    rw [hfields] at hfields'
    cases hfields'
    exact hoptions hoptions'
  by_cases hkind : starts_with_one_of KEY_TYPE_STARTS a = true
  · rw [if_pos hkind, if_neg (by simp)]
    refine .inr ⟨honly, _, parse_key_field_eq rfl, fun key options => ?_⟩
    rw [map_pair_eq_some, carries_plain_iff hfields hkind, known_iff hfields]
    simp [hkind]
  · rw [if_neg hkind]
    refine .inr ⟨honly, none, rfl, fun key options => ?_⟩
    simp [known_iff hfields, hoptions, hkind]

/-! ## Loading -/

section

variable {keep : PublicKey KeyData × List String → Option α} {ls : List (List Char)}

variable (keep ls ε) in
theorem load_lines_cons {line : List Char} (honly : ¬ OptionsOnly line) :
    ∃ found : Option (PublicKey KeyData × List String),
      (∀ key options, found = some (key, options) ↔ Carries line key options ∧ Known line) ∧
      (load_lines keep (line :: ls) : Outcome ε (List α)) =
        (load_lines keep ls).map ((found.bind keep).toList ++ ·) := by
  rcases parse_line_cases KeyData ε line with
    ⟨honly', -⟩ | ⟨-, found, hparse, hfound⟩
  · exact absurd honly' honly
  · refine ⟨found, hfound, ?_⟩
    rw [load_lines, hparse]
    cases (load_lines keep ls : Outcome ε (List α)) <;> cases found <;> rfl

theorem load_lines_cases (keep : PublicKey KeyData × List String → Option α)
    (ls : List (List Char)) :
    ((∀ line ∈ ls, ¬ OptionsOnly line) ∧
      ∃ kept, (load_lines keep ls : Outcome ε (List α)) = .ok kept) ∨
    ((¬ ∀ line ∈ ls, ¬ OptionsOnly line) ∧
      (load_lines keep ls : Outcome ε (List α)) = .error (.panic .indexOutOfBounds)) := by
  induction ls with
  | nil => exact .inl ⟨by simp, [], rfl⟩
  | cons line ls ih =>
    rw [List.forall_mem_cons]
    by_cases honly : OptionsOnly line
    · refine .inr ⟨fun h => h.1 honly, ?_⟩
      rcases parse_line_cases KeyData ε line with ⟨-, hpanic⟩ | ⟨hnot, -⟩
      · rw [load_lines, hpanic]
        rfl
      · exact absurd honly hnot
    · obtain ⟨found, -, hload⟩ := load_lines_cons ε keep ls honly
      rw [hload]
      rcases ih with ⟨hall, kept, hkept⟩ | ⟨hnot, hpanic⟩
      · exact .inl ⟨⟨honly, hall⟩, _, by rw [hkept]; rfl⟩
      · exact .inr ⟨fun h => hnot h.2, by rw [hpanic]; rfl⟩

theorem load_lines_ok_iff :
    (∃ kept, (load_lines keep ls : Outcome ε (List α)) = .ok kept) ↔
      ∀ line ∈ ls, ¬ OptionsOnly line := by
  rcases load_lines_cases (ε := ε) keep ls with ⟨hall, hkept⟩ | ⟨hnot, hpanic⟩
  · exact iff_of_true hkept hall
  · refine iff_of_false ?_ hnot
    rintro ⟨kept, hkept⟩
    rw [hpanic] at hkept
    cases hkept

theorem mem_load_lines {kept : List α} (h : (load_lines keep ls : Outcome ε (List α)) = .ok kept)
    (x : α) :
    x ∈ kept ↔ ∃ line ∈ ls, Known line ∧ ∃ key options, Carries line key options ∧
      keep (key, options) = some x := by
  induction ls generalizing kept with
  | nil =>
    cases h
    simp
  | cons line ls ih =>
    have hall := load_lines_ok_iff.mp ⟨kept, h⟩
    obtain ⟨found, hfound, hload⟩ := load_lines_cons ε keep ls
      (hall line List.mem_cons_self)
    rw [hload] at h
    cases hrest : (load_lines keep ls : Outcome ε (List α)) with
    | error e =>
      rw [hrest] at h
      cases h
    | ok rest =>
      rw [hrest] at h
      cases h
      have hhead : x ∈ (found.bind keep).toList ↔ Known line ∧ ∃ key options,
          Carries line key options ∧ keep (key, options) = some x := by
        rw [Option.mem_toList, Option.bind_eq_some_iff]
        constructor
        · rintro ⟨⟨key, options⟩, hkey, hkeep⟩
          obtain ⟨hcarries, hknown⟩ := (hfound key options).mp hkey
          exact ⟨hknown, key, options, hcarries, hkeep⟩
        · rintro ⟨hknown, key, options, hcarries, hkeep⟩
          exact ⟨(key, options), (hfound key options).mpr ⟨hcarries, hknown⟩, hkeep⟩
      rw [List.mem_append, hhead, ih hrest]
      simp only [List.exists_mem_cons_iff]

end

/-! ## Files and buffers -/

/-- No line of the text breaks off behind its options. -/
def WholeLines (data : List UInt8) : Prop :=
  ∀ line ∈ lines (from_utf8_lossy data).toList, ¬ OptionsOnly line

/-- The loader of one of the two kinds. -/
def load_kept (keep : PublicKey KeyData × List String → Option α) (files : FileSystem)
    (source : KeySource) : Outcome ConfigError (List α) := do
  let data ← ofResult (resolve_bytes files source)
  load_lines keep (lines (from_utf8_lossy data).toList)

theorem load_public_keys_eq (files : FileSystem) (source : KeySource) :
    (load_public_keys files source : Outcome ConfigError (List (PublicKey KeyData))) =
      load_kept keep_key files source := rfl

theorem load_cert_authority_entries_eq (files : FileSystem) (source : KeySource) :
    (load_cert_authority_entries files source :
      Outcome ConfigError (List (CertAuthorityEntry KeyData))) =
      load_kept keep_entry files source := rfl

theorem load_kept_of_data {files : FileSystem} {source : KeySource} {data : List UInt8}
    (h : resolve_bytes files source = .ok data)
    (keep : PublicKey KeyData × List String → Option α) :
    load_kept keep files source = load_lines keep (lines (from_utf8_lossy data).toList) := by
  rw [load_kept, h]
  rfl

theorem load_kept_ok_iff {files : FileSystem} {source : KeySource} {data : List UInt8}
    (h : resolve_bytes files source = .ok data)
    (keep : PublicKey KeyData × List String → Option α) :
    (∃ kept, load_kept keep files source = .ok kept) ↔ WholeLines data := by
  rw [load_kept_of_data h]
  exact load_lines_ok_iff

theorem load_buffer_cases (keep : PublicKey KeyData × List String → Option α) (files : FileSystem)
    (data : List UInt8) :
    (WholeLines data ∧ ∃ kept, load_kept keep files (.Memory data) = .ok kept) ∨
    (¬ WholeLines data ∧
      load_kept keep files (.Memory data) = .error (.panic .indexOutOfBounds)) := by
  rw [load_kept_of_data rfl]
  exact load_lines_cases keep _

/-- What `from_keys_and_ca` makes of a source that may be missing. -/
def load_optional (keep : PublicKey KeyData × List String → Option α) (files : FileSystem) :
    Option KeySource → Outcome ConfigError (List α)
  | some source => load_kept keep files source
  | none => pure []

theorem load_optional_buffer_cases (keep : PublicKey KeyData × List String → Option α)
    (files : FileSystem) (buffer : Option (List UInt8)) :
    ((∀ data ∈ buffer, WholeLines data) ∧
      ∃ kept, load_optional keep files (buffer.map .Memory) = .ok kept) ∨
    ((¬ ∀ data ∈ buffer, WholeLines data) ∧
      load_optional keep files (buffer.map .Memory) = .error (.panic .indexOutOfBounds)) := by
  cases buffer with
  | none => exact .inl ⟨by simp, [], rfl⟩
  | some data =>
    simp only [Option.mem_def, Option.some.injEq, forall_eq', Option.map_some]
    exact load_buffer_cases keep files data

variable (KeyData) in
theorem from_keys_and_ca_eq [DecidableEq KeyData] (files : FileSystem)
    (keys ca : Option KeySource) :
    (ServerAuthConfig.from_keys_and_ca files keys ca :
        Outcome ConfigError (ServerAuthConfig KeyData)) =
      load_optional keep_key files keys >>= fun users =>
        load_optional keep_entry files ca >>= fun authorities =>
          pure ⟨users.toFinset, authorities, users.toFinset.image encode_key_data⟩ := by
  cases keys with
  | none => cases ca <;> rfl
  | some source =>
    cases hload : load_kept (@keep_key KeyData) files source with
    | error e =>
      simp only [ServerAuthConfig.from_keys_and_ca, load_public_keys_eq, load_optional, hload]
      rfl
    | ok users =>
      simp only [ServerAuthConfig.from_keys_and_ca, load_public_keys_eq, load_optional, hload]
      cases ca <;> rfl

variable (KeyData) in
theorem from_buffers_returns_iff [DecidableEq KeyData] (files : FileSystem)
    (keys ca : Option (List UInt8)) :
    Returns (ServerAuthConfig.from_keys_and_ca files (keys.map .Memory) (ca.map .Memory) :
        Outcome ConfigError (ServerAuthConfig KeyData)) ↔
      (∀ data ∈ keys, WholeLines data) ∧ ∀ data ∈ ca, WholeLines data := by
  rw [from_keys_and_ca_eq]
  rcases load_optional_buffer_cases (@keep_key KeyData) files keys with
    ⟨hkeys, users, husers⟩ | ⟨hkeys, hpanic⟩
  · rw [husers]
    rcases load_optional_buffer_cases (@keep_entry KeyData) files ca with
      ⟨hca, authorities, hauthorities⟩ | ⟨hca, hpanic⟩
    · rw [hauthorities]
      exact iff_of_true (returns_ok _) ⟨hkeys, hca⟩
    · rw [hpanic]
      exact iff_of_false (not_returns_panic _) fun h => hca h.2
  · rw [hpanic]
    exact iff_of_false (not_returns_panic _) fun h => hkeys h.1

/-- **Key files do not crash the server** unless a line breaks off behind its options. -/
theorem key_files_load_iff [DecidableEq KeyData] (files : FileSystem) :
    (∀ source data, resolve_bytes files source = .ok data →
      ((∃ keys : List (PublicKey KeyData), load_public_keys files source = .ok keys) ↔
        WholeLines data) ∧
      ((∃ entries : List (CertAuthorityEntry KeyData),
          load_cert_authority_entries files source = .ok entries) ↔ WholeLines data)) ∧
    (∀ keys ca : Option (List UInt8),
      Returns (ServerAuthConfig.from_keys_and_ca files (keys.map .Memory) (ca.map .Memory) :
          Outcome ConfigError (ServerAuthConfig KeyData)) ↔
        (∀ data ∈ keys, WholeLines data) ∧ ∀ data ∈ ca, WholeLines data) ∧
    ∀ auth : AuthConfigNapi,
      Returns (build_auth_policy_from_napi files auth : Outcome NapiError (AuthPolicy KeyData)) ↔
        (∀ data ∈ auth.authorized_keys, WholeLines data) ∧
        ∀ data ∈ auth.cert_authority, WholeLines data := by
  refine ⟨fun source data h => ⟨load_kept_ok_iff h keep_key, load_kept_ok_iff h keep_entry⟩,
    from_buffers_returns_iff KeyData files, fun auth => ?_⟩
  rw [← from_buffers_returns_iff KeyData files, build_auth_policy_from_napi]
  cases (ServerAuthConfig.from_keys_and_ca files (auth.authorized_keys.map .Memory)
      (auth.cert_authority.map .Memory) : Outcome ConfigError (ServerAuthConfig KeyData)) with
  | ok config => simp
  | error fault => exact returns_into _ fault

/-- A key by its text. -/
structure TextKey where
  text : String
deriving DecidableEq

def sample_key : String := "AAAAC3NzaC1lZDI1NTE5AAAAIE58icPJFLfckR4M1PzF3XSpF3AU3zP9C6QI6AQiS/TV"

def sample_blob : List UInt8 :=
  [0, 0, 0, 11, 115, 115, 104, 45, 101, 100, 50, 53, 53, 49, 57, 0, 0, 0, 32, 78, 124, 137, 195,
    201, 20, 183, 220, 145, 30, 12, 212, 252, 197, 221, 116, 169, 23, 112, 20, 223, 51, 253, 11,
    164, 8, 232, 4, 34, 75, 244, 213]

def other_key : String := "AAAAC3NzaC1lZDI1NTE5AAAAIAECAwQFBgcICQoLDA0ODxAREhMUFRYXGBkaGxwdHh8g"

def other_blob : List UInt8 :=
  [0, 0, 0, 11, 115, 115, 104, 45, 101, 100, 50, 53, 53, 49, 57, 0, 0, 0, 32, 1, 2, 3, 4, 5, 6, 7,
    8, 9, 10, 11, 12, 13, 14, 15, 16, 17, 18, 19, 20, 21, 22, 23, 24, 25, 26, 27, 28, 29, 30, 31,
    32]

/-- The two keys are read, encoded and fingerprinted as `russh` does it. -/
instance textKey : SshKey TextKey where
  parse_public_key_base64 s := if s = sample_key ∨ s = other_key then some ⟨⟨s⟩, ""⟩ else none
  encoded key :=
    if key.text = sample_key then some sample_blob
    else if key.text = other_key then some other_blob
    else some (1 :: as_bytes key.text)
  fingerprint key :=
    if key.key_data.text = sample_key then "SHA256:/vcetR4eGq+THXzw5wKt5DGu6Qw9JteZWAS1A+czsIM"
    else if key.key_data.text = other_key then "SHA256:mKqU+0K8OhKmA8bBQi9Rz0Q5l7/g160hIP+rJYSTNj4"
    else "?" ++ key.key_data.text

def no_files : FileSystem := ⟨fun _ => false, fun _ => none⟩

theorem truncated_line_panics :
    load_public_keys no_files (.Memory (as_bytes "no-pty ssh-ed25519")) =
      (.error (.panic .indexOutOfBounds) : Outcome ConfigError (List (PublicKey TextKey))) := by
  rw [load_public_keys_eq, load_kept_of_data rfl, from_utf8_lossy_as_bytes]
  rfl

/-! ## Whom a line trusts -/

def source_lines (files : FileSystem) (source : KeySource) : List (List Char) :=
  match resolve_bytes files source with
  | .ok data => lines (from_utf8_lossy data).toList
  | .error _ => []

variable (KeyData) in
/-- Authorities and users are what some line of theirs says. -/
structure TrustedRightly (files : FileSystem) (source : KeySource) : Prop where
  authorities : ∀ entries : List (CertAuthorityEntry KeyData),
    load_cert_authority_entries files source = .ok entries → ∀ entry ∈ entries,
      ∃ line ∈ source_lines files source, ∃ options,
        Carries line entry.public_key options ∧ "cert-authority" ∈ options
  users : ∀ keys : List (PublicKey KeyData),
    load_public_keys files source = .ok keys → ∀ key ∈ keys,
      ∃ line ∈ source_lines files source, ∃ options,
        Carries line key options ∧ "cert-authority" ∉ options

theorem load_kept_cases (keep : PublicKey KeyData × List String → Option α) (files : FileSystem)
    (source : KeySource) :
    (∃ e, load_kept keep files source = .error (.err e) ∧ source_lines files source = []) ∨
      load_kept keep files source = load_lines keep (source_lines files source) := by
  rw [source_lines]
  cases h : resolve_bytes files source with
  | error e =>
    refine .inl ⟨e, ?_, rfl⟩
    rw [load_kept, h]
    rfl
  | ok data => exact .inr (load_kept_of_data h keep)

theorem mem_load_kept {keep : PublicKey KeyData × List String → Option α} {files : FileSystem}
    {source : KeySource} {kept : List α} (h : load_kept keep files source = .ok kept) (x : α) :
    x ∈ kept ↔ ∃ line ∈ source_lines files source, Known line ∧ ∃ key options,
      Carries line key options ∧ keep (key, options) = some x := by
  rcases load_kept_cases keep files source with ⟨e, herror, -⟩ | hlines
  · rw [h] at herror
    cases herror
  · exact mem_load_lines (hlines ▸ h) x

theorem whole_of_load_kept {keep : PublicKey KeyData × List String → Option α}
    {files : FileSystem} {source : KeySource} :
    (∃ kept, load_kept keep files source = .ok kept) →
      ∀ line ∈ source_lines files source, ¬ OptionsOnly line := by
  rintro ⟨kept, h⟩
  rcases load_kept_cases keep files source with ⟨e, herror, -⟩ | hlines
  · rw [h] at herror
    cases herror
  · exact load_lines_ok_iff.mp ⟨kept, hlines ▸ h⟩

omit [SshKey KeyData] in
theorem keep_entry_eq_some {key : PublicKey KeyData} {options : List String}
    {entry : CertAuthorityEntry KeyData} :
    keep_entry (key, options) = some entry ↔ options ≠ [] ∧ entry = ⟨key, options⟩ := by
  unfold keep_entry
  by_cases h : options = [] <;> simp [h, eq_comm]

/-- **Trust by lines** is right if and only if users and authorities each have a line of their kind.
-/
theorem trusted_rightly_iff (files : FileSystem) (source : KeySource) :
    TrustedRightly KeyData files source ↔
      ((∀ line ∈ source_lines files source, ¬ OptionsOnly line) →
        ∀ line ∈ source_lines files source, Known line →
        ∀ (key : PublicKey KeyData) options, Carries line key options →
          (options ≠ [] → ∃ line' ∈ source_lines files source, ∃ options',
            Carries line' key options' ∧ "cert-authority" ∈ options') ∧
          ("cert-authority" ∈ options → ∃ line' ∈ source_lines files source, ∃ options',
            Carries line' key options' ∧ "cert-authority" ∉ options')) := by
  constructor
  · intro htrust hwhole line hline hknown key options hcarries
    have hloads : ∀ {α : Type} (keep : PublicKey KeyData × List String → Option α),
        ∃ kept, load_kept keep files source = .ok kept := by
      intro α keep
      rcases load_kept_cases keep files source with ⟨e, -, hnone⟩ | hlines
      · rw [hnone] at hline
        cases hline
      · rw [hlines]
        exact load_lines_ok_iff.mpr hwhole
    constructor
    · intro hoptions
      obtain ⟨entries, hentries⟩ := hloads keep_entry
      refine htrust.authorities entries hentries ⟨key, options⟩ ?_
      exact (mem_load_kept hentries _).mpr
        ⟨line, hline, hknown, key, options, hcarries, keep_entry_eq_some.mpr ⟨hoptions, rfl⟩⟩
    · intro _
      obtain ⟨keys, hkeys⟩ := hloads keep_key
      refine htrust.users keys hkeys key ?_
      exact (mem_load_kept hkeys _).mpr ⟨line, hline, hknown, key, options, hcarries, rfl⟩
  · intro hlines
    constructor
    · intro entries hentries entry hentry
      obtain ⟨line, hline, hknown, key, options, hcarries, hkeep⟩ :=
        (mem_load_kept hentries entry).mp hentry
      obtain ⟨hoptions, rfl⟩ := keep_entry_eq_some.mp hkeep
      exact (hlines (whole_of_load_kept ⟨entries, hentries⟩) line hline hknown key options
        hcarries).1 hoptions
    · intro keys hkeys key hkey
      obtain ⟨line, hline, hknown, key', options, hcarries, hkeep⟩ :=
        (mem_load_kept hkeys key).mp hkey
      obtain rfl : key' = key := Option.some.inj hkeep
      by_cases hauthority : "cert-authority" ∈ options
      · exact (hlines (whole_of_load_kept ⟨keys, hkeys⟩) line hline hknown key' options
          hcarries).2 hauthority
      · exact ⟨line, hline, options, hcarries, hauthority⟩

theorem restricted_key_signs :
    ¬ TrustedRightly TextKey no_files
      (.Memory (as_bytes ("no-pty ssh-ed25519 " ++ sample_key))) := by
  intro htrust
  have hlines : source_lines no_files (.Memory (as_bytes ("no-pty ssh-ed25519 " ++ sample_key))) =
      [("no-pty ssh-ed25519 " ++ sample_key).toList] := by
    simp only [source_lines, resolve_bytes, from_utf8_lossy_as_bytes]
    decide
  have hfields : fields ("no-pty ssh-ed25519 " ++ sample_key).toList =
      ["no-pty".toList, "ssh-ed25519".toList, sample_key.toList] := by
    decide
  have hentries : load_cert_authority_entries no_files
      (.Memory (as_bytes ("no-pty ssh-ed25519 " ++ sample_key))) =
      .ok [(⟨⟨⟨sample_key⟩, ""⟩, ["no-pty"]⟩ : CertAuthorityEntry TextKey)] := by
    rw [load_cert_authority_entries_eq, load_kept_of_data rfl, from_utf8_lossy_as_bytes]
    rfl
  obtain ⟨line, hline, options, hcarries, hauthority⟩ :=
    htrust.authorities _ hentries _ List.mem_cons_self
  rw [hlines, List.mem_singleton] at hline
  subst hline
  obtain ⟨-, rfl⟩ := (carries_restricted_iff hfields (by decide)).mp hcarries
  exact absurd hauthority (by decide)

end Alknet
