import LibCommons.SecretsManager.ExternalReference

namespace LibCommons.SecretsManager

open List Bytes Json

structure CanonicalSegment (value : Bytes) : Prop where
  required : value ≠ []
  named : ∃ text, value = utf8 text ∧ ∀ c ∈ text, isAWSSecretNameCharacter c = true
  inside : ¬ utf8 "..".toList <:+: value

structure CanonicalScope (scope : ExternalCredentialScope) : Prop where
  tenantID : CanonicalSegment scope.tenantID
  application : CanonicalSegment scope.application
  target : CanonicalSegment scope.target
  environment : scope.environment ≠ [] → CanonicalSegment scope.environment

def CanonicalVersion (version : Bytes) : Prop := ∃ id : UUID, version = id.string

def pathOf (scope : ExternalCredentialScope) (version : Bytes) : List Bytes :=
  referenceParts scope.environment scope.tenantID scope.application scope.target version

variable {c : Char}

theorem name_character_small (named : isAWSSecretNameCharacter c = true) : c.toNat < 128 := by
  simp only [isAWSSecretNameCharacter, Bool.or_eq_true, Bool.and_eq_true, decide_eq_true_eq] at named
  obtain ((lower | upper) | digit) | other := named
  · exact lt_of_le_of_lt (b := 'z'.toNat) lower.2 (by decide)
  · exact lt_of_le_of_lt (b := 'Z'.toNat) upper.2 (by decide)
  · exact lt_of_le_of_lt (b := '9'.toNat) digit.2 (by decide)
  · have listed : ("_+=.@-".toList.all fun c => c.toNat < 128) = true := by decide
    exact of_decide_eq_true (all_eq_true.mp listed c other)

theorem name_character (named : isAWSSecretNameCharacter c = true) : Go.isSpace c = false ∧ (47 : UInt8) ∉ String.utf8EncodeChar c := by
  have ascii : ∀ n < 128, isAWSSecretNameCharacter (Char.ofNat n) = true →
      Go.isSpace (Char.ofNat n) = false ∧ (47 : UInt8) ∉ String.utf8EncodeChar (Char.ofNat n) := by decide +kernel
  have facts := ascii c.toNat (name_character_small named)
  rw [Char.ofNat_toNat] at facts
  exact facts named

theorem hex_digit_named (n : Nat) : isAWSSecretNameCharacter (hexDigit n) = true := by
  by_cases small : n < 16
  · revert n
    decide
  · rw [hexDigit, getD_eq_default _ _ (by simpa using small)]
    decide

theorem hex_text_named (bytes) : ∀ c ∈ hexText bytes, isAWSSecretNameCharacter c = true := by
  intro c member
  obtain ⟨byte, -, digit⟩ := mem_flatMap.mp member
  simp only [mem_cons, not_mem_nil, or_false] at digit
  rcases digit with rfl | rfl <;> exact hex_digit_named _

def Solid (bytes : Bytes) : Prop := ∃ text, bytes = utf8 text ∧ ∀ c ∈ text, Go.isSpace c = false

theorem solid_append (front back) (solid : Solid front) (more : Solid back) : Solid (front ++ back) := by
  obtain ⟨text, rfl, clear⟩ := solid
  obtain ⟨rest, rfl, clear'⟩ := more
  refine ⟨text ++ rest, by simp [utf8], ?_⟩
  intro c member
  rcases mem_append.mp member with early | late
  · exact clear c early
  · exact clear' c late

variable {bytes : Bytes}

theorem trim_left_solid (fuel : Nat) (solid : Solid bytes) : trimLeft fuel bytes = bytes := by
  obtain ⟨text, rfl, clear⟩ := solid
  cases fuel with
  | zero => rfl
  | succ =>
    rw [trimLeft, runes_utf8]
    cases first : text.head? with
    | none => rfl
    | some c =>
      have visible := clear c (mem_of_head? first)
      simp only [visible, Bool.false_eq_true, if_false]

theorem trim_right_solid (fuel : Nat) (solid : Solid bytes) : trimRight fuel bytes = bytes := by
  obtain ⟨text, rfl, clear⟩ := solid
  cases fuel with
  | zero => rfl
  | succ =>
    rw [trimRight, runes_utf8]
    cases last : text.getLast? with
    | none => rfl
    | some c =>
      have visible := clear c (mem_of_getLast? last)
      simp only [visible, Bool.false_eq_true, if_false]

theorem trim_solid (solid : Solid bytes) : trimSpace bytes = bytes := by
  rw [trimSpace, trim_left_solid _ solid, trim_right_solid _ solid]

def Named (bytes : Bytes) : Prop := bytes ≠ [] ∧ ∃ text, bytes = utf8 text ∧ ∀ c ∈ text, isAWSSecretNameCharacter c = true

theorem named_solid (named : Named bytes) : Solid bytes := by
  obtain ⟨-, text, written, all⟩ := named
  exact ⟨text, written, fun c member => (name_character (all c member)).1⟩

theorem named_slash (named : Named bytes) : (47 : UInt8) ∉ bytes := by
  obtain ⟨-, _, rfl, all⟩ := named
  intro member
  obtain ⟨c, inText, encoded⟩ := mem_flatMap.mp member
  exact (name_character (all c inText)).2 encoded

theorem literal_named {text} (present : text ≠ []) (all : text.all isAWSSecretNameCharacter = true) : Named (utf8 text) := by
  refine ⟨?_, text, rfl, all_eq_true.mp all⟩
  intro empty
  exact present (utf8_injective empty)

variable {version : Bytes}

theorem version_named (canonical : CanonicalVersion version) : Named version := by
  obtain ⟨_, rfl⟩ := canonical
  have dash : isAWSSecretNameCharacter '-' = true := by decide
  apply literal_named
  · simp
  · simp only [all_append, all_cons, dash, Bool.true_and, Bool.and_eq_true, all_eq_true]
    exact ⟨⟨⟨⟨hex_text_named _, hex_text_named _⟩, hex_text_named _⟩, hex_text_named _⟩, hex_text_named _⟩

theorem segment_named {value} (canonical : CanonicalSegment value) : Named value := ⟨canonical.required, canonical.named⟩

theorem segment_ok_iff (name value) : validateCanonicalExternalSegment name value = .ok () ↔ CanonicalSegment value := by
  constructor
  · intro accepted
    rw [validateCanonicalExternalSegment] at accepted
    by_cases blank : trimSpace value = []
    · rw [if_pos blank] at accepted
      cases accepted
    rw [if_neg blank] at accepted
    by_cases odd : value ≠ trimSpace value ∨ utf8 "..".toList <:+: value
    · rw [if_pos odd] at accepted
      cases accepted
    rw [if_neg odd] at accepted
    by_cases named : (runes value).all isAWSSecretNameCharacter
    · have characters := all_eq_true.mp named
      have clean : '�' ∉ runes value := fun member => absurd (characters _ member) (by decide)
      refine ⟨?_, ⟨runes value, (utf8_runes clean).symm, characters⟩, fun dots => odd (.inr dots)⟩
      rintro rfl
      exact blank rfl
    · rw [if_neg named] at accepted
      cases accepted
  · intro canonical
    have trimmed := trim_solid (named_solid (segment_named canonical))
    obtain ⟨required, ⟨_, rfl, all⟩, inside⟩ := canonical
    rw [validateCanonicalExternalSegment, trimmed, if_neg required, if_neg (by simpa using inside), runes_utf8, if_pos (all_eq_true.mpr all)]

theorem segments_ok_iff (segments) : validateSegments segments = .ok () ↔ ∀ segment ∈ segments, CanonicalSegment segment.2 := by
  induction segments with
  | nil => simp [validateSegments]
  | cons segment _ ih =>
    rw [validateSegments, forall_mem_cons, ← ih, ← segment_ok_iff segment.1]
    cases validateCanonicalExternalSegment segment.1 segment.2 with
    | error | ok => simp [bind, Except.bind]

theorem scope_ok_iff (scope) : validateExternalCredentialScope scope = .ok () ↔ CanonicalScope scope := by
  rw [validateExternalCredentialScope, segments_ok_iff, scopeSegments]
  constructor
  · intro all
    refine ⟨all ("tenantID", _) (by simp), all ("application", _) (by simp), all ("target", _) (by simp), ?_⟩
    intro given
    exact all ("environment", _) (by simp [given])
  intro canonical _ member
  by_cases given : scope.environment ≠ []
  · simp only [if_pos given, cons_append, nil_append, mem_cons, not_mem_nil, or_false] at member
    rcases member with rfl | rfl | rfl | rfl
    · exact canonical.tenantID
    · exact canonical.application
    · exact canonical.target
    · exact canonical.environment given
  · simp only [if_neg given, append_nil, mem_cons, not_mem_nil, or_false] at member
    rcases member with rfl | rfl | rfl
    · exact canonical.tenantID
    · exact canonical.application
    · exact canonical.target

theorem parse_parts_iff (parts segments) :
    parseExternalSecretVersionReference parts = some segments ↔ parts = pathOf segments.scope segments.version := by
  constructor
  · intro parsed
    unfold parseExternalSecretVersionReference at parsed
    split at parsed
    · rename_i first env tenantOrgID applicationName fourth targetService sixth seventh version
      split at parsed
      · cases parsed
      rename_i fits
      cases parsed
      simp only [not_or, ne_eq, not_not] at fits
      obtain ⟨rfl, given, rfl, rfl, rfl⟩ := fits
      simp [pathOf, referenceParts, ExternalReferenceSegments.scope, given]
    · rename_i first tenantOrgID applicationName third targetService fifth sixth version
      split at parsed
      · cases parsed
      rename_i fits
      cases parsed
      simp only [not_or, ne_eq, not_not] at fits
      obtain ⟨rfl, rfl, rfl, rfl⟩ := fits
      simp [pathOf, referenceParts, ExternalReferenceSegments.scope]
    · cases parsed
  · rintro rfl
    obtain ⟨env, _, _, _, _⟩ := segments
    by_cases given : env = []
    · subst given
      simp [pathOf, referenceParts, ExternalReferenceSegments.scope, parseExternalSecretVersionReference]
    · simp [pathOf, referenceParts, ExternalReferenceSegments.scope, parseExternalSecretVersionReference, given]

theorem matches_iff (segments : ExternalReferenceSegments) (scope : ExternalCredentialScope) :
    segments.matches scope = true ↔ segments.scope = scope := by
  cases scope
  simp [ExternalReferenceSegments.matches, ExternalReferenceSegments.scope, and_assoc]

theorem join_cons (part next parts) : join (part :: next :: parts) = part ++ [47] ++ join (next :: parts) := intercalate_cons_cons

theorem join_length (part parts) : (join (part :: parts)).length = ((part :: parts).map List.length).sum + parts.length := by
  induction parts generalizing part with
  | nil => simp [join]
  | cons _ _ ih =>
    rw [join_cons, length_append, length_append, ih]
    simp only [map_cons, sum_cons, length_cons, length_nil]
    omega

theorem join_solid (part parts) (solid : ∀ other ∈ part :: parts, Solid other) : Solid (join (part :: parts)) := by
  induction parts generalizing part with
  | nil =>
    have single : join [part] = part := intercalate_singleton
    rw [single]
    exact solid part mem_cons_self
  | cons next _ ih =>
    have slash : Solid [47] := ⟨['/'], rfl, forall_mem_singleton.mpr (by decide)⟩
    rw [join_cons]
    apply solid_append
    · exact solid_append part [47] (solid part mem_cons_self) slash
    · exact ih next fun other member => solid other (mem_cons_of_mem part member)

theorem length_allowed_from_iff (length : Int) (parts) (fits : length ≤ maxSecretIDLength) :
    lengthAllowedFrom length parts = true ↔ length + (parts.map List.length).sum ≤ maxSecretIDLength := by
  induction parts generalizing length with
  | nil => simpa [lengthAllowedFrom] using fits
  | cons _ _ ih =>
    rw [lengthAllowedFrom, map_cons, sum_cons]
    split
    · rename_i long
      simp only [Bool.false_eq_true, false_iff]
      omega
    rename_i short
    rw [ih _ (by omega)]
    push_cast
    omega

theorem length_allowed_iff (part) {parts} (few : parts.length ≤ 512) :
    externalReferenceLengthAllowed (part :: parts) = true ↔ ((join (part :: parts)).length : Int) ≤ maxSecretIDLength := by
  rw [externalReferenceLengthAllowed, join_length, length_allowed_from_iff]
  · simp only [length_cons]
    push_cast
    omega
  · simp only [length_cons, maxSecretIDLength]
    push_cast
    omega

theorem path_cons (scope version) : ∃ parts, pathOf scope version = externalTenantPathSegment :: parts ∧ parts.length ≤ 512 := by
  rw [pathOf, referenceParts, append_assoc, singleton_append]
  refine ⟨_, rfl, ?_⟩
  split <;> simp

variable {scope : ExternalCredentialScope}

theorem path_named (canonical : CanonicalScope scope) (fresh : CanonicalVersion version) : ∀ part ∈ pathOf scope version, Named part := by
  have tenants : Named externalTenantPathSegment := literal_named (by decide) (by decide)
  have externals : Named external := literal_named (by decide) (by decide)
  have credential : Named credentials := literal_named (by decide) (by decide)
  have versioned : Named versions := literal_named (by decide) (by decide)
  intro _ member
  simp only [pathOf, referenceParts, mem_append, mem_cons, not_mem_nil, or_false] at member
  rcases member with (rfl | env) | rfl | rfl | rfl | rfl | rfl | rfl | rfl
  · exact tenants
  · split at env
    · rename_i given
      rw [mem_singleton.mp env]
      exact segment_named (canonical.environment given)
    · cases env
  · exact segment_named canonical.tenantID
  · exact segment_named canonical.application
  · exact externals
  · exact segment_named canonical.target
  · exact credential
  · exact versioned
  · exact version_named fresh

theorem split_join (canonical : CanonicalScope scope) (fresh : CanonicalVersion version) :
    (join (pathOf scope version)).splitOn 47 = pathOf scope version := by
  obtain ⟨_, shape, -⟩ := path_cons scope version
  apply splitOn_intercalate
  · exact fun part member => named_slash (path_named canonical fresh part member)
  · rw [shape]
    exact cons_ne_nil _ _

theorem path_injective {scope'} {version'} (same : pathOf scope version = pathOf scope' version') : scope = scope' ∧ version = version' := by
  have first := (parse_parts_iff (pathOf scope version) ⟨scope.environment, scope.tenantID, scope.application, scope.target, version⟩).mpr rfl
  have second := (parse_parts_iff (pathOf scope version) ⟨scope'.environment, scope'.tenantID, scope'.application, scope'.target, version'⟩).mpr same
  have segments := Option.some.inj (first.symm.trans second)
  cases scope
  cases scope'
  simpa [and_assoc] using segments

theorem join_trimmed (canonical : CanonicalScope scope) (fresh : CanonicalVersion version) : trimSpace (join (pathOf scope version)) ≠ [] := by
  obtain ⟨parts, shape, -⟩ := path_cons scope version
  have named := path_named canonical fresh
  rw [shape] at named ⊢
  rw [trim_solid (join_solid _ _ fun part member => named_solid (named part member))]
  intro empty
  have lengths := join_length externalTenantPathSegment parts
  have tenants : externalTenantPathSegment.length = 7 := by decide
  rw [empty, map_cons, sum_cons, tenants, length_nil] at lengths
  omega

section

variable (uuidParse : Bytes → Option UUID) (reads : ReadsString uuidParse)

include reads

theorem version_ok_iff (version) : validateCanonicalExternalVersion uuidParse version = .ok () ↔ CanonicalVersion version := by
  constructor
  · intro accepted
    rw [validateCanonicalExternalVersion] at accepted
    by_cases blank : trimSpace version = []
    · rw [if_pos blank] at accepted
      cases accepted
    rw [if_neg blank] at accepted
    cases parsed : uuidParse version with
    | none => simp [parsed] at accepted
    | some id =>
      by_cases same : id.string = version
      · exact ⟨id, same.symm⟩
      · simp [parsed, same] at accepted
  · intro canonical
    have named := version_named canonical
    have trimmed := trim_solid (named_solid named)
    obtain ⟨id, rfl⟩ := canonical
    rw [validateCanonicalExternalVersion, trimmed, if_neg named.1, reads id]
    simp

theorem parsed_ok_iff (parsed) : validateParsedExternalReference uuidParse parsed = .ok () ↔ CanonicalVersion parsed.version := by
  rw [← version_ok_iff uuidParse reads, validateParsedExternalReference]
  cases validateCanonicalExternalVersion uuidParse parsed.version <;> simp

theorem parse_ok_iff (reference : Bytes) (scope : ExternalCredentialScope) (result : ExternalCredentialReference) :
    parseExternalCredentialReference uuidParse reference scope = .ok result ↔
      CanonicalScope scope ∧ (reference.length : Int) ≤ maxSecretIDLength ∧ result = ⟨reference⟩ ∧
        ∃ version, CanonicalVersion version ∧ reference = join (pathOf scope version) := by
  constructor
  · intro accepted
    rw [parseExternalCredentialReference] at accepted
    by_cases blank : trimSpace reference = []
    · rw [if_pos blank] at accepted
      cases accepted
    rw [if_neg blank] at accepted
    by_cases long : (reference.length : Int) > maxSecretIDLength
    · rw [if_pos long] at accepted
      cases accepted
    rw [if_neg long] at accepted
    cases checked : validateExternalCredentialScope scope with
    | error => simp [checked, bind, Except.bind] at accepted
    | ok =>
      cases parsed : parseExternalSecretVersionReference (reference.splitOn 47) with
      | none => simp [checked, parsed, bind, Except.bind] at accepted
      | some segments =>
        by_cases fits : segments.matches scope
        · cases version : validateParsedExternalReference uuidParse segments with
          | error => simp [checked, parsed, fits, version, bind, Except.bind] at accepted
          | ok =>
            simp only [checked, parsed, fits, version, bind, Except.bind, if_true, Except.ok.injEq] at accepted
            have split := (parse_parts_iff _ _).mp parsed
            rw [(matches_iff segments scope).mp fits] at split
            refine ⟨(scope_ok_iff scope).mp checked, not_lt.mp long, accepted.symm, segments.version,
              (parsed_ok_iff uuidParse reads segments).mp version, ?_⟩
            rw [← split]
            exact (intercalate_splitOn 47).symm
        · simp [checked, parsed, fits, bind, Except.bind] at accepted
  · rintro ⟨canonical, short, rfl, version, fresh, rfl⟩
    have parsed := (parse_parts_iff (pathOf scope version) ⟨scope.environment, scope.tenantID, scope.application, scope.target, version⟩).mpr rfl
    have matched := (matches_iff ⟨scope.environment, scope.tenantID, scope.application, scope.target, version⟩ scope).mpr rfl
    have versioned := (parsed_ok_iff uuidParse reads ⟨scope.environment, scope.tenantID, scope.application, scope.target, version⟩).mpr fresh
    rw [parseExternalCredentialReference, if_neg (join_trimmed canonical fresh), if_neg (not_lt.mpr short),
      (scope_ok_iff scope).mpr canonical, split_join canonical fresh, parsed]
    simp only [matched, versioned, bind, Except.bind, if_true]

theorem build_ok_iff (scope version result) :
    buildExternalSecretVersionReference uuidParse scope.environment scope.tenantID scope.application scope.target version = .ok result ↔
      CanonicalScope scope ∧ CanonicalVersion version ∧ ((join (pathOf scope version)).length : Int) ≤ maxSecretIDLength ∧
        result = ⟨join (pathOf scope version)⟩ := by
  obtain ⟨_, shape, few⟩ := path_cons scope version
  have allowed := length_allowed_iff externalTenantPathSegment few
  rw [← shape] at allowed
  have built : buildExternalSecretVersionReference uuidParse scope.environment scope.tenantID scope.application scope.target version = (do
        validateExternalCredentialScope scope
        validateCanonicalExternalVersion uuidParse version
        if externalReferenceLengthAllowed (pathOf scope version) then
          parseExternalCredentialReference uuidParse (join (pathOf scope version)) scope
        else .error ⟨.errExternalInvalidPathSegment, "reference is not canonical"⟩) := rfl
  rw [built]
  constructor
  · intro accepted
    cases checked : validateExternalCredentialScope scope with
    | error => simp [checked, bind, Except.bind] at accepted
    | ok =>
      cases fresh : validateCanonicalExternalVersion uuidParse version with
      | error => simp [checked, fresh, bind, Except.bind] at accepted
      | ok =>
        by_cases short : externalReferenceLengthAllowed (pathOf scope version)
        · simp only [checked, fresh, short, bind, Except.bind, if_true] at accepted
          obtain ⟨canonical, fits, same, -⟩ := (parse_ok_iff uuidParse reads _ scope result).mp accepted
          exact ⟨canonical, (version_ok_iff uuidParse reads version).mp fresh, fits, same⟩
        · simp [checked, fresh, short, bind, Except.bind] at accepted
  · rintro ⟨canonical, fresh, fits, rfl⟩
    rw [(scope_ok_iff scope).mpr canonical, (version_ok_iff uuidParse reads version).mpr fresh]
    simp only [bind, Except.bind, if_pos (allowed.mpr fits)]
    exact (parse_ok_iff uuidParse reads _ scope _).mpr ⟨canonical, fits, rfl, version, fresh, rfl⟩

end

theorem references_bound_to_scope (uuidParse : Bytes → Option UUID) (reads : ReadsString uuidParse) :
    (∀ reference scope scope' result result',
      parseExternalCredentialReference uuidParse reference scope = .ok result →
      parseExternalCredentialReference uuidParse reference scope' = .ok result' → scope = scope') ∧
    (∀ reference scope, (∃ result, parseExternalCredentialReference uuidParse reference scope = .ok result) ↔
      ∃ version, CanonicalVersion version ∧
        buildExternalSecretVersionReference uuidParse scope.environment scope.tenantID scope.application scope.target
          version = .ok ⟨reference⟩) ∧
    (∀ scope version, (∃ result, buildExternalSecretVersionReference uuidParse scope.environment scope.tenantID
        scope.application scope.target version = .ok result) ↔
      CanonicalScope scope ∧ CanonicalVersion version ∧ (join (pathOf scope version)).length ≤ 512) ∧
    (∀ scope version result, buildExternalSecretVersionReference uuidParse scope.environment scope.tenantID
        scope.application scope.target version = .ok result →
      parseExternalCredentialReference uuidParse result.secretID scope = .ok result) := by
  have limit : ∀ length : Nat, (length : Int) ≤ maxSecretIDLength ↔ length ≤ 512 := by
    intro _
    rw [maxSecretIDLength]
    omega
  refine ⟨?_, ?_, ?_, ?_⟩
  · intro reference scope scope' result result' first second
    obtain ⟨canonical, -, -, version, fresh, rfl⟩ := (parse_ok_iff uuidParse reads reference scope result).mp first
    obtain ⟨canonical', -, -, _, fresh', same⟩ := (parse_ok_iff uuidParse reads _ scope' result').mp second
    have paths := congrArg (List.splitOn 47) same
    rw [split_join canonical fresh, split_join canonical' fresh'] at paths
    exact (path_injective paths).1
  · intro reference scope
    constructor
    · rintro ⟨result, accepted⟩
      obtain ⟨canonical, short, -, version, fresh, rfl⟩ := (parse_ok_iff uuidParse reads reference scope result).mp accepted
      exact ⟨version, fresh, (build_ok_iff uuidParse reads scope version _).mpr ⟨canonical, fresh, short, rfl⟩⟩
    rintro ⟨version, fresh, built⟩
    obtain ⟨canonical, -, short, same⟩ := (build_ok_iff uuidParse reads scope version _).mp built
    cases same
    exact ⟨_, (parse_ok_iff uuidParse reads _ scope _).mpr ⟨canonical, short, rfl, version, fresh, rfl⟩⟩
  · intro scope version
    constructor
    · rintro ⟨result, built⟩
      obtain ⟨canonical, fresh, short, -⟩ := (build_ok_iff uuidParse reads scope version result).mp built
      exact ⟨canonical, fresh, (limit _).mp short⟩
    · rintro ⟨canonical, fresh, short⟩
      exact ⟨_, (build_ok_iff uuidParse reads scope version _).mpr ⟨canonical, fresh, (limit _).mpr short, rfl⟩⟩
  · intro scope version result built
    obtain ⟨canonical, fresh, short, rfl⟩ := (build_ok_iff uuidParse reads scope version result).mp built
    exact (parse_ok_iff uuidParse reads _ scope _).mpr ⟨canonical, short, rfl, version, fresh, rfl⟩

def readPairs : List Char → Option Bytes
  | [] => some []
  | [_] => none
  | high :: low :: rest => do
      let high ← hexValue high
      let low ← hexValue low
      let bytes ← readPairs rest
      some (UInt8.ofNat (high * 16 + low) :: bytes)

def readStandard (text : Bytes) : Option UUID := do
  let bytes ← readPairs ((runes text).filter fun c => c ≠ '-')
  if sized : bytes.length = 16 then some ⟨bytes, sized⟩ else none

theorem read_pairs_hex (bytes) : readPairs (hexText bytes) = some bytes := by
  induction bytes with
  | nil => rfl
  | cons byte bytes ih =>
    have bound := byte.toNat_lt
    have shape : hexText (byte :: bytes) = hexDigit (byte.toNat / 16) :: hexDigit (byte.toNat % 16) :: hexText bytes := rfl
    rw [shape, readPairs, hex_value_digit _ (by omega), hex_value_digit _ (by omega), ih]
    have whole := of_nat_eq byte (byte.toNat / 16 * 16 + byte.toNat % 16) (by omega)
    simp only [whole, Option.bind_eq_bind, Option.bind_some]

theorem hex_text_dash (bytes) : (hexText bytes).filter (fun c => c ≠ '-') = hexText bytes := by
  have digit : ∀ n < 16, hexDigit n ≠ '-' := by decide
  rw [filter_eq_self]
  intro _ member
  obtain ⟨byte, -, written⟩ := mem_flatMap.mp member
  have bound := byte.toNat_lt
  simp only [mem_cons, not_mem_nil, or_false] at written
  rcases written with rfl | rfl
  · exact decide_eq_true (digit _ (by omega))
  · exact decide_eq_true (digit _ (by omega))

theorem hex_text_append (front back) : hexText front ++ hexText back = hexText (front ++ back) := by
  simp [hexText]

theorem read_standard_string : ReadsString readStandard := by
  rintro ⟨bytes, sized⟩
  have digits : (runes (UUID.string ⟨bytes, sized⟩)).filter (fun c => c ≠ '-') = hexText bytes := by
    simp only [UUID.string, runes_utf8, filter_append, filter_cons, hex_text_dash, ne_eq,
      not_true_eq_false, decide_false, Bool.false_eq_true, if_false, hex_text_append]
    congr 1
    rw [append_assoc, append_assoc, append_assoc]
    have fourth : (bytes.drop 8).take 2 ++ bytes.drop 10 = bytes.drop 8 := by
      rw [← drop_drop (i := 2) (j := 8), take_append_drop]
    have third : (bytes.drop 6).take 2 ++ bytes.drop 8 = bytes.drop 6 := by
      rw [← drop_drop (i := 2) (j := 6), take_append_drop]
    have second : (bytes.drop 4).take 2 ++ bytes.drop 6 = bytes.drop 4 := by
      rw [← drop_drop (i := 2) (j := 4), take_append_drop]
    rw [fourth, third, second, take_append_drop]
  rw [readStandard, digits, read_pairs_hex]
  simp [sized]

def sampleScope (tenant : String) : ExternalCredentialScope :=
  ⟨utf8 "prod".toList, utf8 tenant.toList, utf8 "ledger".toList, utf8 "bank".toList⟩

def nilUUID : UUID := ⟨List.replicate 16 0, by decide⟩

theorem literal_segment {text} (present : text ≠ []) (all : text.all isAWSSecretNameCharacter = true)
    (inside : ¬ utf8 "..".toList <:+: utf8 text) : CanonicalSegment (utf8 text) :=
  ⟨(literal_named present all).1, (literal_named present all).2, inside⟩

theorem sample_canonical : CanonicalScope (sampleScope "acme") := by
  refine ⟨?_, ?_, ?_, fun _ => ?_⟩ <;> exact literal_segment (by decide) (by decide) (by decide)

theorem tenant_reference_refused_elsewhere :
    ReadsString readStandard ∧
      parseExternalCredentialReference readStandard (join (pathOf (sampleScope "acme") nilUUID.string)) (sampleScope "acme") =
        .ok ⟨join (pathOf (sampleScope "acme") nilUUID.string)⟩ ∧
      ∀ result, parseExternalCredentialReference readStandard (join (pathOf (sampleScope "acme") nilUUID.string))
        (sampleScope "globex") ≠ .ok result := by
  obtain ⟨apart, -, -, -⟩ := references_bound_to_scope readStandard read_standard_string
  have short : ((join (pathOf (sampleScope "acme") nilUUID.string)).length : Int) ≤ maxSecretIDLength := by decide +kernel
  have accepted := (parse_ok_iff readStandard read_standard_string _ (sampleScope "acme") _).mpr
    ⟨sample_canonical, short, rfl, nilUUID.string, ⟨nilUUID, rfl⟩, rfl⟩
  refine ⟨read_standard_string, accepted, ?_⟩
  intro _ elsewhere
  exact absurd (apart _ _ _ _ _ accepted elsewhere) (by decide)

end LibCommons.SecretsManager
