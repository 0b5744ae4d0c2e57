import LibCommons.Ssrf.Validate

namespace LibCommons.Ssrf

open List

-- A name without its root label, and the ways to spell one name.
def bare (text : Text) : Text := if text.getLast? = some '.' then text.dropLast else text

def Respelled (text other : Text) : Prop := (bare text).map Char.toLower = (bare other).map Char.toLower

inductive RespelledOption : Opt → Opt → Prop
  | same (opt) : RespelledOption opt opt
  | allowed (name other : Text) (respelled : Respelled name other) : RespelledOption (.withAllowHostname name) (.withAllowHostname other)

def RespelledOptions : List Opt → List Opt → Prop := List.Forall₂ RespelledOption

-- A DNS name or a dotted IPv4 literal, read in lower case.
def NameCharacter (c : Char) : Prop := c.isAlphanum = true ∨ c = '-' ∨ c = '_'

instance (c : Char) : Decidable (NameCharacter c) := inferInstanceAs (Decidable (_ ∨ _))

def Label (label : Text) : Prop := label ≠ [] ∧ ∀ c ∈ label, NameCharacter c

instance (label : Text) : Decidable (Label label) :=
  have := List.decidableBAll NameCharacter label
  inferInstanceAs (Decidable (_ ∧ _))

def HostName (host : Text) : Prop := ∀ label ∈ ((bare host).map Char.toLower).splitOn '.', Label label

instance (host : Text) : Decidable (HostName host) := List.decidableBAll Label _

variable (unicodeLower : Char → Char) (parseIPv6 : Text → Option Addr)

def Named (base : Text) (opts : List Opt) : Prop := ∃ name, .withAllowHostname name ∈ opts ∧ toLower unicodeLower (bare name) = base

def allowsScheme (scheme : Text) (opts : List Opt) : Prop := validateScheme unicodeLower scheme (buildConfig unicodeLower opts) = .ok ()

-- Refused before the host is read; blocked and named by no option; or neither blocked nor such a literal.
def SpellingSafe (ctx : Context) (scheme host : Text) (opts : List Opt) : Prop := ctx ≠ .live ∨ ¬ allowsScheme unicodeLower scheme opts ∨
    (blockedName (toLower unicodeLower (bare host)) = true ∧ ¬ Named unicodeLower (toLower unicodeLower (bare host)) opts) ∨
    (blockedName (toLower unicodeLower (bare host)) = false ∧
      (Opt.withAllowPrivateNetwork ∈ opts ∨ ∀ addr, parseIPv4 (bare host) = some addr → isBlockedAddr addr = false))

section

variable (text : Text)

theorem bare_dot : bare (text ++ ['.']) = text := by simp [bare]

theorem bare_plain {text} (plain : text.getLast? ≠ some '.') : bare text = text := if_neg plain

theorem spelled : text = bare text ∨ text = bare text ++ ['.'] := by
  by_cases dot : text.getLast? = some '.'
  · right
    rw [bare, if_pos dot]
    exact (dropLast_append_getLast? '.' dot).symm
  · left
    rw [bare, if_neg dot]

variable {c : Char}

theorem to_lower_outside (outside : ¬ c.toNat < 128) : c.toLower = c := by
  rw [Char.toLower, dif_neg]
  rintro ⟨-, upper⟩
  have bound : c.toNat ≤ 90 := upper
  omega

theorem to_lower_ascii (small : c.toNat < 128) : c.toLower.toNat < 128 ∧ c.toLower.toLower = c.toLower ∧ (c.toLower = '.' ↔ c = '.') ∧
      (c.isDigit = true → c.toLower = c) ∧ c.toLower.isDigit = c.isDigit ∧ (c = ':' ∨ c = '%' → c.toLower = c) := by
  have each : ∀ n < 128, (Char.ofNat n).toLower.toNat < 128 ∧
      (Char.ofNat n).toLower.toLower = (Char.ofNat n).toLower ∧ ((Char.ofNat n).toLower = '.' ↔ Char.ofNat n = '.') ∧
      ((Char.ofNat n).isDigit = true → (Char.ofNat n).toLower = Char.ofNat n) ∧
      (Char.ofNat n).toLower.isDigit = (Char.ofNat n).isDigit ∧
      (Char.ofNat n = ':' ∨ Char.ofNat n = '%' → (Char.ofNat n).toLower = Char.ofNat n) := by decide +kernel
  have facts := each c.toNat small
  rwa [Char.ofNat_toNat] at facts

theorem to_lower_dot (c) : c.toLower = '.' ↔ c = '.' := by
  by_cases small : c.toNat < 128
  · exact (to_lower_ascii small).2.2.1
  · rw [to_lower_outside small]

theorem to_lower_digit (c : Char) : c.toLower.isDigit = c.isDigit ∧ (c.isDigit = true → c.toLower = c) := by
  by_cases small : c.toNat < 128
  · exact ⟨(to_lower_ascii small).2.2.2.2.1, (to_lower_ascii small).2.2.2.1⟩
  · rw [to_lower_outside small]
    exact ⟨rfl, fun _ => rfl⟩

theorem name_character_ascii (named : NameCharacter c) : c.toNat < 128 ∧ c ≠ '.' ∧ c ≠ ':' ∧ c ≠ '%' := by
  have small : c.toNat < 128 := by
    rcases named with letter | rfl | rfl
    · simp only [Char.isAlphanum, Char.isAlpha, Char.isUpper, Char.isLower, Char.isDigit, Bool.or_eq_true, Bool.and_eq_true,
        decide_eq_true_eq, ge_iff_le, UInt32.le_iff_toNat_le] at letter
      have upper : 'Z'.val.toNat = 90 ∧ 'z'.val.toNat = 122 ∧ '9'.val.toNat = 57 := by decide
      have value : c.toNat = c.val.toNat := rfl
      omega
    · decide
    · decide
  refine ⟨small, ?_, ?_, ?_⟩
  all_goals
    rintro rfl
    rcases named with letter | other | other
    · exact absurd letter (by decide)
    · cases other
    · cases other

theorem lower_lower : toLower unicodeLower (text.map Char.toLower) = toLower unicodeLower text := by
  rw [toLower, toLower, map_map]
  apply map_congr_left
  intro c _
  by_cases small : c.toNat < 128
  · obtain ⟨low, same, -⟩ := to_lower_ascii small
    rw [Function.comp_apply, if_pos low, if_pos small, same]
  · rw [Function.comp_apply, to_lower_outside small, if_neg small, if_neg small]

theorem respelled_lower (other) (respelled : Respelled text other) : toLower unicodeLower (bare text) = toLower unicodeLower (bare other) := by
  rw [← lower_lower unicodeLower (bare text), respelled, lower_lower]

end

section

variable {c : Char}

theorem mem_join {labels} (member : c ∈ List.intercalate ['.'] labels) : c = '.' ∨ ∃ label ∈ labels, c ∈ label := by
  induction labels with
  | nil => cases member
  | cons label labels ih =>
    cases labels with
    | nil =>
      rw [intercalate_singleton] at member
      exact .inr ⟨label, mem_cons_self, member⟩
    | cons =>
      rw [intercalate_cons_cons, mem_append, mem_append] at member
      rcases member with (first | dot) | later
      · exact .inr ⟨label, mem_cons_self, first⟩
      · exact .inl (mem_singleton.mp dot)
      · obtain dot | ⟨other, inside, found⟩ := ih later
        · exact .inl dot
        · exact .inr ⟨other, mem_cons_of_mem label inside, found⟩

variable {host : Text}

theorem host_name_respelled {other} (name : HostName host) (respelled : Respelled host other) : HostName other := by
  rw [HostName, ← respelled]
  exact name

theorem host_character (name : HostName host) (member : c ∈ bare host) : c = '.' ∨ NameCharacter c.toLower := by
  have folded : c.toLower ∈ List.intercalate ['.'] (((bare host).map Char.toLower).splitOn '.') := by
    rw [intercalate_splitOn]
    exact mem_map_of_mem member
  obtain dot | ⟨label, inside, found⟩ := mem_join folded
  · exact .inl ((to_lower_dot c).mp dot)
  · exact .inr ((name label inside).2 _ found)

theorem host_bare (name : HostName host) : bare host ≠ [] ∧ (bare host).getLast? ≠ some '.' := by
  constructor
  · intro empty
    have blank : [] ∈ ((bare host).map Char.toLower).splitOn '.' := by simp [empty]
    exact (name [] blank).1 rfl
  intro dot
  have shape := dropLast_append_getLast? '.' dot
  have blank : [] ∈ ((bare host).map Char.toLower).splitOn '.' := by
    rw [← shape, map_append, show List.map Char.toLower ['.'] = ['.'] from rfl, splitOn_append_cons_self]
    simp
  exact (name [] blank).1 rfl

theorem lower_last (host) (name : HostName host) : (toLower unicodeLower (bare host)).getLast? ≠ some '.' := by
  intro dot
  rw [toLower, getLast?_map, Option.map_eq_some_iff] at dot
  obtain ⟨c, last, lowered⟩ := dot
  obtain rfl | named := host_character name (mem_of_getLast? last)
  · exact (host_bare name).2 last
  by_cases small : c.toNat < 128
  · rw [if_pos small] at lowered
    exact (name_character_ascii named).2.1 lowered
  · rw [to_lower_outside small] at named
    exact small (name_character_ascii named).1

theorem lower_dotted (text) : toLower unicodeLower (text ++ ['.']) = toLower unicodeLower text ++ ['.'] := by
  simp [toLower]

theorem dotted_apart (host text) (name : HostName host) : toLower unicodeLower (text ++ ['.']) ≠ toLower unicodeLower (bare host) := by
  intro same
  apply lower_last unicodeLower host name
  rw [← same, lower_dotted, getLast?_concat]

theorem normalize_host (host) (name : HostName host) : normalizeHostname unicodeLower host = toLower unicodeLower (bare host) := by
  have solid : (toLower unicodeLower (bare host)).rdropWhile (fun c => c = '.') = toLower unicodeLower (bare host) := by
    rw [rdropWhile_eq_self_iff]
    intro nonempty
    rw [decide_eq_true_eq]
    intro dot
    exact lower_last unicodeLower host name (by rw [getLast?_eq_some_getLast nonempty, dot])
  rw [normalizeHostname]
  rcases spelled host with undotted | dotted
  · rw [← undotted] at solid ⊢
    exact solid
  have lower : toLower unicodeLower host = toLower unicodeLower (bare host) ++ ['.'] := by
    conv_lhs => rw [dotted]
    exact lower_dotted unicodeLower (bare host)
  rw [lower, rdropWhile_concat_pos _ _ _ (by decide), solid]

end

theorem split_lower (text : Text) : (text.map Char.toLower).splitOn '.' = (text.splitOn '.').map (List.map Char.toLower) := by
  induction text with
  | nil => rfl
  | cons c text ih =>
    rw [map_cons, splitOn_cons_eq_if_modifyHead, splitOn_cons_eq_if_modifyHead, ih]
    by_cases dot : c = '.'
    · rw [if_pos (by simpa using (to_lower_dot c).mpr dot), if_pos (by simpa using dot)]
      rfl
    · rw [if_neg (by simpa using mt (to_lower_dot c).mp dot), if_neg (by simpa using dot)]
      cases text.splitOn '.' <;> rfl

theorem octet_lower (field : Text) : parseOctet (field.map Char.toLower) = parseOctet field := by
  have all : (field.map Char.toLower).all Char.isDigit = field.all Char.isDigit := by
    rw [List.all_map]
    exact congrArg field.all (funext fun c => (to_lower_digit c).1)
  by_cases digits : field.all Char.isDigit = true
  · have same : field.map Char.toLower = field := by
      conv_rhs => rw [← List.map_id field]
      exact map_congr_left fun c member => (to_lower_digit c).2 (all_eq_true.mp digits c member)
    rw [same]
  · rw [parseOctet, parseOctet, if_neg (fun fits => digits (all ▸ fits.2.1)), if_neg (fun fits => digits fits.2.1)]

theorem parse_ipv4_lower (text : Text) : parseIPv4 (text.map Char.toLower) = parseIPv4 text := by
  have fields : ((text.splitOn '.').map (List.map Char.toLower)).map parseOctet = (text.splitOn '.').map parseOctet := by
    rw [map_map]
    exact map_congr_left fun field _ => octet_lower field
  rw [parseIPv4, parseIPv4, split_lower, fields]

theorem parse_ipv4_dotted (text) : parseIPv4 (text ++ ['.']) = none := by
  have last : parseOctet [] = none := rfl
  rw [parseIPv4, splitOn_append_cons_self, splitOn_nil, map_append, map_singleton, last]
  split
  · rename_i fields
    have ends := congrArg List.getLast? fields
    simp at ends
  · rfl

theorem find_dot {text : Text} (letters : ∀ c ∈ text, c ≠ ':' ∧ c ≠ '%') (dot : '.' ∈ text) :
    text.find? (fun c => c = '.' ∨ c = ':' ∨ c = '%') = some '.' := by
  obtain ⟨c, found⟩ := Option.isSome_iff_exists.mp (find?_isSome.mpr ⟨'.', dot, by decide⟩ : (text.find? fun c => c = '.' ∨ c = ':' ∨ c = '%').isSome)
  have kind := find?_some found
  have plain := letters c (mem_of_find?_eq_some found)
  simp only [plain.1, plain.2, or_false, decide_eq_true_eq] at kind
  rw [found, kind]

theorem host_letters {host} (name : HostName host) : ∀ c ∈ bare host, c ≠ ':' ∧ c ≠ '%' := by
  intro _ member
  obtain rfl | named := host_character name member
  · decide
  constructor
  · rintro rfl
    exact (name_character_ascii named).2.2.1 rfl
  · rintro rfl
    exact (name_character_ascii named).2.2.2 rfl

theorem parse_bare (host) (name : HostName host) : parseAddr parseIPv6 (bare host) = parseIPv4 (bare host) := by
  by_cases dot : '.' ∈ bare host
  · rw [parseAddr, find_dot (host_letters name) dot]
    rfl
  have single := splitOn_eq_singleton (a := '.') dot
  have none : (bare host).find? (fun c => c = '.' ∨ c = ':' ∨ c = '%') = none := by
    rw [find?_eq_none]
    intro c member kind
    have plain := host_letters name c member
    simp only [plain.1, plain.2, or_false, decide_eq_true_eq] at kind
    exact dot (kind ▸ member)
  rw [parseAddr, none, parseIPv4, single, map_singleton]
  cases parseOctet (bare host) <;> rfl

theorem parse_dotted (host) (name : HostName host) : parseAddr parseIPv6 (bare host ++ ['.']) = none := by
  have letters : ∀ c ∈ bare host ++ ['.'], c ≠ ':' ∧ c ≠ '%' := by
    intro c member
    rcases mem_append.mp member with inside | dot
    · exact host_letters name c inside
    · rw [mem_singleton.mp dot]
      decide
  rw [parseAddr, find_dot letters (by simp)]
  exact parse_ipv4_dotted (bare host)

section

def allowedNames (opts : List Opt) : List Text :=
  opts.filterMap fun opt => match opt with | .withAllowHostname name => some name | _ => none

variable (opts : List Opt)

theorem fold_config (cfg) : opts.foldl (Opt.apply unicodeLower) cfg =
      { httpsOnly := cfg.httpsOnly || decide (.withHTTPSOnly ∈ opts)
        allowPrivate := cfg.allowPrivate || decide (.withAllowPrivateNetwork ∈ opts)
        allowedHostnames := ((allowedNames opts).map (toLower unicodeLower)).reverse ++ cfg.allowedHostnames } := by
  induction opts generalizing cfg with
  | nil => simp [allowedNames]
  | cons opt _ ih =>
    rw [foldl_cons, ih]
    cases opt <;> simp [Opt.apply, allowedNames]

theorem mem_allowed_names (name) : name ∈ allowedNames opts ↔ .withAllowHostname name ∈ opts := by
  rw [allowedNames, mem_filterMap]
  constructor
  · rintro ⟨opt, member, named⟩
    cases opt <;> cases named
    exact member
  · exact fun member => ⟨_, member, rfl⟩

theorem config_private : (buildConfig unicodeLower opts).allowPrivate = decide (.withAllowPrivateNetwork ∈ opts) := by
  simp [buildConfig, fold_config]

theorem config_allowed (base) : (buildConfig unicodeLower opts).allowedHostnames.contains base = true ↔
      ∃ name, .withAllowHostname name ∈ opts ∧ toLower unicodeLower name = base := by
  rw [buildConfig, fold_config]
  simp [mem_allowed_names]

theorem respelled_options_mem (others) (respelled : RespelledOptions opts others) (opt)
    (plain : ∀ name, opt ≠ .withAllowHostname name) : opt ∈ opts ↔ opt ∈ others := by
  induction respelled with
  | nil => rfl
  | cons first _ ih =>
    rw [mem_cons, mem_cons, ih]
    cases first with
    | same => rfl
    | allowed => simp [plain]

theorem scheme_respelled (scheme opts others) (respelled : RespelledOptions opts others) :
    allowsScheme unicodeLower scheme opts ↔ allowsScheme unicodeLower scheme others := by
  have only := respelled_options_mem opts others respelled .withHTTPSOnly (fun _ => by simp)
  have https : (buildConfig unicodeLower opts).httpsOnly = (buildConfig unicodeLower others).httpsOnly := by
    rw [buildConfig, buildConfig, fold_config, fold_config, decide_eq_decide.mpr only]
  simp only [allowsScheme, validateScheme, https]

theorem respelled_symm {opts others} (respelled : RespelledOptions opts others) : RespelledOptions others opts := by
  induction respelled with
  | nil => exact .nil
  | cons first _ ih =>
    refine .cons ?_ ih
    cases first with
    | same => exact .same _
    | allowed name other same => exact .allowed other name (Eq.symm same)

theorem named_respelled (base opts others) (respelled : RespelledOptions opts others)
    (named : Named unicodeLower base opts) : Named unicodeLower base others := by
  obtain ⟨name, member, spells⟩ := named
  induction respelled with
  | nil => cases member
  | cons first _ ih =>
    rcases mem_cons.mp member with rfl | later
    · cases first with
      | same => exact ⟨name, mem_cons_self, spells⟩
      | allowed name other same =>
        exact ⟨other, mem_cons_self, (respelled_lower unicodeLower name other same).symm.trans spells⟩
    · obtain ⟨other, inside, same⟩ := ih later
      exact ⟨other, mem_cons_of_mem _ inside, same⟩

def dotted : Opt → Opt
  | .withAllowHostname name => .withAllowHostname (bare name ++ ['.'])
  | opt => opt

def undotted : Opt → Opt
  | .withAllowHostname name => .withAllowHostname (if bare (bare name) = bare name then bare name else name)
  | opt => opt

theorem respelled_map {respell} (each : ∀ opt, RespelledOption opt (respell opt)) (opts) : RespelledOptions opts (opts.map respell) := by
  induction opts with
  | nil => exact .nil
  | cons opt _ ih => exact .cons (each opt) ih

theorem dotted_respelled : RespelledOptions opts (opts.map dotted) := by
  apply respelled_map
  intro opt
  cases opt with
  | withAllowHostname =>
    apply RespelledOption.allowed
    rw [Respelled, bare_dot]
  | _ => exact .same _

theorem undotted_respelled : RespelledOptions opts (opts.map undotted) := by
  apply respelled_map
  intro opt
  cases opt with
  | withAllowHostname name =>
    apply RespelledOption.allowed
    by_cases settled : bare (bare name) = bare name
    · rw [Respelled, if_pos settled, settled]
    · rw [Respelled, if_neg settled]
  | _ => exact .same _

end

section

theorem except_ok_bind {E} (first : Except E Unit) (second : Unit → Except E Unit) :
    (first >>= second) = .ok () ↔ first = .ok () ∧ second () = .ok () := by
  cases first <;> simp [bind, Except.bind]

variable (ctx : Context)

theorem context_ok_iff : validateContext ctx = .ok () ↔ ctx = .live := by
  cases ctx <;> simp [validateContext]

variable (host : Text)

theorem blocked_hostname_iff (name : HostName host) (cfg) : isBlockedHostnameWithConfig unicodeLower host cfg = false ↔
      cfg.allowedHostnames.contains (toLower unicodeLower (bare host)) = true ∨ blockedName (toLower unicodeLower (bare host)) = false := by
  obtain ⟨present, -⟩ := host_bare name
  have nonempty : host ≠ [] := by
    rintro rfl
    exact present rfl
  have lowered : toLower unicodeLower (bare host) ≠ [] := by simpa [toLower] using present
  rw [isBlockedHostnameWithConfig, if_neg nonempty]
  simp only [normalize_host unicodeLower host name, if_neg lowered]
  cases cfg.allowedHostnames.contains (toLower unicodeLower (bare host)) <;> simp

theorem literal_ok_iff (name : HostName host) (cfg) : validateLiteral parseIPv6 host cfg = .ok () ↔
      cfg.allowPrivate = true ∨ host ≠ bare host ∨ ∀ addr, parseIPv4 (bare host) = some addr → isBlockedAddr addr = false := by
  rw [validateLiteral]
  cases allowed : cfg.allowPrivate with
  | true => simp
  | false =>
    rcases spelled host with plain | rooted
    · have parsed : parseAddr parseIPv6 host = parseIPv4 (bare host) := by
        conv_lhs => rw [plain]
        exact parse_bare parseIPv6 host name
      rw [parsed]
      cases parseIPv4 (bare host) with
      | none => simp
      | some addr => cases blocked : isBlockedAddr addr <;> simp [blocked, ← plain]
    · have parsed : parseAddr parseIPv6 host = none := by
        conv_lhs => rw [rooted]
        exact parse_dotted parseIPv6 host name
      have longer : host ≠ bare host := by
        intro same
        have lengths := congrArg List.length rooted
        rw [← same, length_append, length_singleton] at lengths
        omega
      simp [parsed, longer]

theorem accepted_iff (scheme host opts) (name : HostName host) : validateURL unicodeLower parseIPv6 ctx (.ok ⟨scheme, host⟩) opts = .ok () ↔
      ctx = .live ∧ allowsScheme unicodeLower scheme opts ∧
        ((∃ allowed, .withAllowHostname allowed ∈ opts ∧ toLower unicodeLower allowed = toLower unicodeLower (bare host)) ∨
          blockedName (toLower unicodeLower (bare host)) = false) ∧
        (.withAllowPrivateNetwork ∈ opts ∨ host ≠ bare host ∨ ∀ addr, parseIPv4 (bare host) = some addr → isBlockedAddr addr = false) := by
  have nonempty : host ≠ [] := by
    rintro rfl
    exact (host_bare name).1 rfl
  have checks : (if isBlockedHostnameWithConfig unicodeLower host (buildConfig unicodeLower opts) = true then
      Except.error (.errBlocked ("hostname " ++ quoted host ++ " is blocked"))
      else validateLiteral parseIPv6 host (buildConfig unicodeLower opts)) = .ok () ↔
        isBlockedHostnameWithConfig unicodeLower host (buildConfig unicodeLower opts) = false ∧
          validateLiteral parseIPv6 host (buildConfig unicodeLower opts) = .ok () := by
    cases isBlockedHostnameWithConfig unicodeLower host (buildConfig unicodeLower opts) <;> simp
  rw [validateURL, except_ok_bind, context_ok_iff, except_ok_bind, if_neg nonempty, checks,
    blocked_hostname_iff unicodeLower host name, literal_ok_iff parseIPv6 host name, config_allowed, config_private,
    decide_eq_true_eq, allowsScheme]

theorem exempt_named (name : HostName host) (opts allowed) (given : .withAllowHostname allowed ∈ opts)
    (same : toLower unicodeLower allowed = toLower unicodeLower (bare host)) :
    Named unicodeLower (toLower unicodeLower (bare host)) opts := by
  rcases spelled allowed with plain | rooted
  · exact ⟨allowed, given, plain ▸ same⟩
  · rw [rooted] at same
    exact absurd same (dotted_apart unicodeLower host _ name)

theorem exempt_undotted (name : HostName host) (opts) (named : Named unicodeLower (toLower unicodeLower (bare host)) opts) :
    ∃ allowed, .withAllowHostname allowed ∈ opts.map undotted ∧ toLower unicodeLower allowed = toLower unicodeLower (bare host) := by
  obtain ⟨other, given, same⟩ := named
  have settled : bare (bare other) = bare other := by
    apply bare_plain
    intro dot
    rw [← dropLast_append_getLast? '.' dot] at same
    exact dotted_apart unicodeLower host _ name same
  refine ⟨bare other, mem_map.mpr ⟨_, given, ?_⟩, same⟩
  rw [undotted, if_pos settled]

theorem exempt_dotted (name : HostName host) (opts : List Opt) (allowed : Text)
    (given : .withAllowHostname allowed ∈ opts.map dotted) : toLower unicodeLower allowed ≠ toLower unicodeLower (bare host) := by
  intro same
  obtain ⟨opt, -, written⟩ := mem_map.mp given
  cases opt with
  | withAllowHostname other =>
    obtain rfl : bare other ++ ['.'] = allowed := by simpa [dotted] using written
    exact dotted_apart unicodeLower host _ name same
  | _ => cases written

theorem rooted_respelled : Respelled host (bare host ++ ['.']) := by rw [Respelled, bare_dot]

theorem bare_respelled {host} (name : HostName host) : Respelled host (bare host) := by
  rw [Respelled, bare_plain (host_bare name).2]

theorem safe_kept (scheme host other opts others) (name : HostName host) (respelled : Respelled host other)
    (renamed : RespelledOptions opts others) (safe : SpellingSafe unicodeLower ctx scheme host opts) :
    validateURL unicodeLower parseIPv6 ctx (.ok ⟨scheme, other⟩) others = .ok () ↔
      validateURL unicodeLower parseIPv6 ctx (.ok ⟨scheme, host⟩) opts = .ok () := by
  rw [accepted_iff unicodeLower parseIPv6 ctx scheme host opts name,
    accepted_iff unicodeLower parseIPv6 ctx scheme other others (host_name_respelled name respelled),
    ← scheme_respelled unicodeLower scheme opts others renamed, ← respelled_lower unicodeLower host other respelled]
  rcases safe with idle | refused | ⟨blocked, unnamed⟩ | ⟨free, literal⟩
  · simp [idle]
  · simp [refused]
  · have none : ¬ ∃ allowed, .withAllowHostname allowed ∈ opts ∧ toLower unicodeLower allowed = toLower unicodeLower (bare host) := by
      rintro ⟨allowed, given, same⟩
      exact unnamed (exempt_named unicodeLower host name opts allowed given same)
    have none' : ¬ ∃ allowed, .withAllowHostname allowed ∈ others ∧ toLower unicodeLower allowed = toLower unicodeLower (bare host) := by
      rintro ⟨allowed, given, same⟩
      exact unnamed (named_respelled unicodeLower _ others opts (respelled_symm renamed)
        (exempt_named unicodeLower host name others allowed given same))
    simp [none, none', blocked]
  · have shared := respelled_options_mem opts others renamed .withAllowPrivateNetwork (fun _ => by simp)
    have parsed : parseIPv4 (bare other) = parseIPv4 (bare host) := by
      rw [← parse_ipv4_lower (bare other), ← respelled, parse_ipv4_lower]
    rw [parsed, ← shared]
    rcases literal with allowed | harmless
    · simp [free, allowed]
    · have calm := Or.inr (a := .withAllowPrivateNetwork ∈ opts) (Or.inr (a := other ≠ bare other) harmless)
      have calm' := Or.inr (a := .withAllowPrivateNetwork ∈ opts) (Or.inr (a := host ≠ bare host) harmless)
      simp only [free, calm, calm', or_true]

end

-- Two lookups skip the normalisation: the allow list and the parse of a literal keep the root label.
theorem spelling_kept_iff (ctx : Context) (scheme host : Text) (opts : List Opt) (name : HostName host) :
    (∀ other others, Respelled host other → RespelledOptions opts others →
      (validateURL unicodeLower parseIPv6 ctx (.ok ⟨scheme, other⟩) others = .ok () ↔
        validateURL unicodeLower parseIPv6 ctx (.ok ⟨scheme, host⟩) opts = .ok ())) ↔
      SpellingSafe unicodeLower ctx scheme host opts := by
  constructor
  · intro kept
    by_contra exposed
    simp only [SpellingSafe, not_or, not_not, not_and] at exposed
    obtain ⟨rfl, allowed, named, literal⟩ := exposed
    have rooted := rooted_respelled host
    have rootedName := host_name_respelled name rooted
    have longer : bare host ++ ['.'] ≠ bare host := by simp
    cases blocked : blockedName (toLower unicodeLower (bare host)) with
    | true =>
      have accepted := (kept _ _ rooted (undotted_respelled opts)).mp <|
        (accepted_iff unicodeLower parseIPv6 .live scheme _ _ rootedName).mpr ⟨rfl,
          (scheme_respelled unicodeLower scheme opts _ (undotted_respelled opts)).mp allowed,
          .inl (by rw [bare_dot]; exact exempt_undotted unicodeLower host name opts (named blocked)),
          .inr (.inl (by rw [bare_dot]; exact longer))⟩
      have again := (kept host _ rfl (dotted_respelled opts)).mpr accepted
      obtain ⟨-, -, ⟨other, given, same⟩ | free, -⟩ :=
        (accepted_iff unicodeLower parseIPv6 .live scheme host _ name).mp again
      · exact exempt_dotted unicodeLower host name opts other given same
      · rw [blocked] at free
        cases free
    | false =>
      have same : RespelledOptions opts opts := forall₂_same.mpr fun opt _ => .same opt
      have accepted := (kept _ _ rooted same).mp <|
        (accepted_iff unicodeLower parseIPv6 .live scheme _ _ rootedName).mpr ⟨rfl, allowed,
          .inr (by rw [bare_dot]; exact blocked), .inr (.inl (by rw [bare_dot]; exact longer))⟩
      have again := (kept (bare host) _ (bare_respelled name) same).mpr accepted
      have plain := bare_plain (host_bare name).2
      obtain ⟨-, -, -, opened | other | harmless⟩ := (accepted_iff unicodeLower parseIPv6 .live scheme _ _
        (host_name_respelled name (bare_respelled name))).mp again
      · exact (literal blocked).1 opened
      · exact other plain.symm
      · rw [plain] at harmless
        exact (literal blocked).2 harmless
  · intro safe other others respelled renamed
    exact safe_kept unicodeLower parseIPv6 ctx scheme host other opts others name respelled renamed safe

theorem public_name_kept :
    HostName "example.com".toList ∧ ∀ other others, Respelled "example.com".toList other → RespelledOptions [] others →
      (validateURL (fun c => c) (fun _ => none) .live (.ok ⟨"https".toList, other⟩) others = .ok () ↔
        validateURL (fun c => c) (fun _ => none) .live (.ok ⟨"https".toList, "example.com".toList⟩) [] = .ok ()) := by
  have name : HostName "example.com".toList := by decide +kernel
  have safe : SpellingSafe (fun c => c) .live "https".toList "example.com".toList [] := by
    refine .inr (.inr (.inr ⟨by decide +kernel, .inr ?_⟩))
    intro _ parsed
    have nothing : parseIPv4 (bare "example.com".toList) = none := by decide +kernel
    rw [nothing] at parsed
    cases parsed
  exact ⟨name, (spelling_kept_iff (fun c => c) (fun _ => none) .live "https".toList "example.com".toList [] name).mpr safe⟩

-- http://10.0.0.1 is refused and http://10.0.0.1. is accepted.
theorem rooted_private_literal_accepted :
    ¬ ∀ (unicodeLower : Char → Char) (parseIPv6 : Text → Option Addr) ctx scheme host other opts others,
      HostName host → Respelled host other → RespelledOptions opts others →
      (validateURL unicodeLower parseIPv6 ctx (.ok ⟨scheme, other⟩) others = .ok () ↔
        validateURL unicodeLower parseIPv6 ctx (.ok ⟨scheme, host⟩) opts = .ok ()) := by
  intro everywhere
  have kept := everywhere (fun c => c) (fun _ => none)
  have name : HostName "10.0.0.1".toList := by decide +kernel
  have plain : bare "10.0.0.1".toList = "10.0.0.1".toList := by decide +kernel
  have lower : toLower (fun c => c) "10.0.0.1".toList = "10.0.0.1".toList := rfl
  have free : blockedName "10.0.0.1".toList = false := by decide +kernel
  have parsed : parseIPv4 "10.0.0.1".toList = some (.four (ip4 10 0 0 1)) := by decide +kernel
  have blocked : isBlockedAddr (.four (ip4 10 0 0 1)) = true := by
    rw [blocked_four]
    decide +kernel
  have rooted := rooted_respelled "10.0.0.1".toList
  have scheme : allowsScheme (fun c => c) "http".toList [] := rfl
  have accepted := (accepted_iff (fun c => c) (fun _ => none) .live "http".toList _ [] (host_name_respelled name rooted)).mpr
    ⟨rfl, scheme, .inr (by rw [bare_dot, plain, lower, free]), .inr (.inl (by rw [bare_dot]; simp))⟩
  have same := (kept .live _ _ _ [] [] name rooted .nil).mp accepted
  obtain ⟨-, -, -, allowed | other | harmless⟩ := (accepted_iff (fun c => c) (fun _ => none) .live _ _ [] name).mp same
  · cases allowed
  · exact other plain.symm
  · rw [plain] at harmless
    rw [harmless _ parsed] at blocked
    cases blocked

end LibCommons.Ssrf
