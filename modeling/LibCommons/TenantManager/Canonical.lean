import LibCommons.RateLimit.Keys

namespace LibCommons.TenantIDs

open List Option Function

open RateLimit (text isTenantIDAlnum isValidTenantID no_colon)

-- uuid.Parse, as documented: hex digits of either case, two a byte.
def hexValue (c : UInt8) : Option Nat :=
  let n := c.toNat
  if 48 ≤ n ∧ n ≤ 57 then some (n - 48)
  else if 97 ≤ n ∧ n ≤ 102 then some (n - 87)
  else if 65 ≤ n ∧ n ≤ 70 then some (n - 55)
  else none

def readPairs : Bytes → Option Bytes
  | [] => some []
  | [_] => none
  | high :: low :: rest => do
    let high ← hexValue high
    let low ← hexValue low
    let bytes ← readPairs rest
    some (UInt8.ofNat (high * 16 + low) :: bytes)

def Dashes (s : Bytes) : Prop := s[8]? = some 45 ∧ s[13]? = some 45 ∧ s[18]? = some 45 ∧ s[23]? = some 45

instance (s : Bytes) : Decidable (Dashes s) := inferInstanceAs (Decidable (_ ∧ _))

def undashed (s : Bytes) : Bytes := s.take 8 ++ (s.drop 9).take 4 ++ (s.drop 14).take 4 ++ (s.drop 19).take 4 ++ (s.drop 24).take 12

def readDashed (s : Bytes) : Option Bytes := if Dashes s then readPairs (undashed s) else none

def lower (c : UInt8) : UInt8 := if 65 ≤ c.toNat ∧ c.toNat ≤ 90 then c + 32 else c

def uuidParse (s : Bytes) : Option Bytes :=
  if s.length = 36 then readDashed s
  else if s.length = 45 then if (s.take 9).map lower = text "urn:uuid:" then readDashed (s.drop 9) else none
  else if s.length = 38 then readDashed (s.drop 1)
  else if s.length = 32 then readPairs s
  else none

def parseUUID (s : Bytes) : Option Bytes :=
  if s.length = 38 ∧ (s[0]? ≠ some 123 ∨ s[37]? ≠ some 125) then none else uuidParse s

def digit (n : Nat) : UInt8 := UInt8.ofNat (if n < 10 then 48 + n else 87 + n)

def encodeToString (bytes : Bytes) : Bytes := bytes.flatMap fun byte => [digit (byte.toNat / 16), digit (byte.toNat % 16)]

def canonicalTenantID (id : Bytes) : Option Bytes :=
  if isValidTenantID id = false then none
  else
    match parseUUID id with
    | some parsed => some (encodeToString parsed)
    | none => some id

-- The dashless form of 32 characters or the dashed one of 36, in any letter case.
def Spells (uuid s : Bytes) : Prop := s.length = 32 ∧ s.map lower = encodeToString uuid ∨
    s.length = 36 ∧ Dashes s ∧ (undashed s).map lower = encodeToString uuid

theorem hex_value_iff {c : UInt8} {n : Nat} : hexValue c = some n ↔ n < 16 ∧ lower c = digit n := by
  have bound := c.toNat_lt
  simp only [hexValue, lower, digit, ← UInt8.toNat_inj]
  split_ifs <;> simp <;> omega

theorem encode_cons (byte : UInt8) (bytes : Bytes) :
    encodeToString (byte :: bytes) = digit (byte.toNat / 16) :: digit (byte.toNat % 16) :: encodeToString bytes := rfl

theorem read_pairs_iff {s uuid : Bytes} : readPairs s = some uuid ↔ s.map lower = encodeToString uuid := by
  induction s using readPairs.induct generalizing uuid with
  | case1 | case2 => cases uuid <;> simp [readPairs, encodeToString]
  | case3 high low rest ih =>
    cases uuid with
    | nil => simp [readPairs, encodeToString, bind_eq_some_iff]
    | cons byte bytes =>
      have bound := byte.toNat_lt
      simp only [readPairs, bind_eq_bind, bind_eq_some_iff, some.injEq, cons.injEq, hex_value_iff, ih, map_cons, encode_cons]
      constructor
      · rintro ⟨first, ⟨small, upper⟩, second, ⟨small', under⟩, _, rest, rfl, rfl⟩
        have whole : (UInt8.ofNat (first * 16 + second)).toNat = first * 16 + second := UInt8.toNat_ofNat_of_lt' (by change _ < 256; omega)
        rw [whole, upper, under, show (first * 16 + second) / 16 = first by omega, show (first * 16 + second) % 16 = second by omega]
        exact ⟨rfl, rfl, rest⟩
      · rintro ⟨upper, under, rest⟩
        refine ⟨_, ⟨by omega, upper⟩, _, ⟨by omega, under⟩, bytes, rest, ?_, rfl⟩
        rw [Nat.div_add_mod', UInt8.ofNat_toNat]

theorem digit_alnum {n : Nat} (small : n < 16) : isTenantIDAlnum (digit n) = true ∧ lower (digit n) = digit n := by
  revert n
  decide

theorem encode_all (uuid : Bytes) : ∀ c ∈ encodeToString uuid, isTenantIDAlnum c = true ∧ lower c = c := by
  intro c member
  obtain ⟨byte, -, written⟩ := mem_flatMap.mp member
  have bound := byte.toNat_lt
  simp only [mem_cons, not_mem_nil, or_false] at written
  rcases written with rfl | rfl
  · exact digit_alnum (by omega)
  · exact digit_alnum (by omega)

theorem encode_lower (uuid : Bytes) : (encodeToString uuid).map lower = encodeToString uuid :=
  (map_congr_left fun c member => (encode_all uuid c member).2).trans (map_id _)

theorem encode_length (uuid : Bytes) : (encodeToString uuid).length = 2 * uuid.length := by
  simp [encodeToString, Nat.mul_comm]

theorem undashed_length {s : Bytes} (length : s.length = 36) : (undashed s).length = 32 := by
  simp [undashed, length]

variable {id uuid : Bytes}

theorem spells_length (spells : Spells uuid id) : uuid.length = 16 := by
  have double := encode_length uuid
  rcases spells with ⟨length, same⟩ | ⟨length, -, same⟩
  · rw [← same, length_map, length] at double
    omega
  · rw [← same, length_map, undashed_length length] at double
    omega

theorem no_brace (valid : isValidTenantID id = true) : id[0]? ≠ some 123 := by
  cases id with
  | nil => cases valid
  | cons first rest =>
    rintro ⟨⟩
    simp [isValidTenantID, isTenantIDAlnum] at valid

theorem lower_colon {c : UInt8} (low : lower c = 58) : c = 58 := by
  simp only [lower, ← UInt8.toNat_inj] at low ⊢
  split_ifs at low <;> simp at low ⊢ <;> omega

-- Neither the braces nor the colons of the longer forms are in the tenant alphabet.
theorem parse_iff (valid : isValidTenantID id = true) : parseUUID id = some uuid ↔ Spells uuid id := by
  by_cases braced : id.length = 38
  · rw [parseUUID, if_pos ⟨braced, .inl (no_brace valid)⟩]
    simp [Spells, braced]
  · by_cases named : id.length = 45
    · have outside : (id.take 9).map lower ≠ text "urn:uuid:" := by
        intro same
        have colon : 58 ∈ (id.take 9).map lower := by
          rw [same]
          decide
        obtain ⟨c, member, low⟩ := mem_map.mp colon
        exact no_colon valid (lower_colon low ▸ mem_of_mem_take member)
      have refused : uuidParse id = none := by rw [uuidParse, if_neg (by omega), if_pos named, if_neg outside]
      simp [parseUUID, Spells, named, refused]
    · simp only [parseUUID, uuidParse, readDashed, Spells, braced, named]
      grind [read_pairs_iff]

theorem encode_spells (length : uuid.length = 16) : Spells uuid (encodeToString uuid) := .inl ⟨by rw [encode_length, length], encode_lower uuid⟩

theorem encode_valid (length : uuid.length = 16) : isValidTenantID (encodeToString uuid) = true := by
  have all := encode_all uuid
  have size := encode_length uuid
  cases shape : encodeToString uuid with
  | nil => simp [shape, length] at size
  | cons first rest =>
    simp_all [isValidTenantID]

theorem encode_injective : Injective encodeToString := by
  intro uuid uuid' same
  have read := read_pairs_iff.mpr (encode_lower uuid)
  rw [same, read_pairs_iff.mpr (encode_lower uuid')] at read
  exact (some.inj read).symm

theorem canonical_cases {result} (accepted : canonicalTenantID id = some result) :
    (∀ uuid, Spells uuid id → result = encodeToString uuid) ∧ ((∀ uuid, ¬ Spells uuid id) → result = id) := by
  unfold canonicalTenantID at accepted
  split_ifs at accepted with invalid
  have valid := Bool.eq_true_of_not_eq_false invalid
  cases parsed : parseUUID id <;> rw [parsed] at accepted <;> cases accepted
  · refine ⟨fun uuid spells => ?_, fun _ => rfl⟩
    cases parsed.symm.trans ((parse_iff valid).mpr spells)
  · refine ⟨fun uuid spells => ?_, fun slug => absurd ((parse_iff valid).mp parsed) (slug _)⟩
    rw [some.inj (parsed.symm.trans ((parse_iff valid).mpr spells))]

theorem canonical_encode (length : uuid.length = 16) : canonicalTenantID (encodeToString uuid) = some (encodeToString uuid) := by
  have valid := encode_valid length
  rw [canonicalTenantID, if_neg (by simp [valid]), (parse_iff valid).mpr (encode_spells length)]

-- The same result, so a spelling of one is a spelling of the other.
theorem spells_shared {a b x : Bytes} (first : canonicalTenantID a = some x) (second : canonicalTenantID b = some x)
    (spells : Spells uuid a) : Spells uuid b := by
  have written := (canonical_cases first).1 uuid spells
  by_cases slug : ∀ uuid, ¬ Spells uuid b
  · rw [← (canonical_cases second).2 slug, written]
    exact encode_spells (spells_length spells)
  · obtain ⟨other, its⟩ := not_forall_not.mp slug
    rwa [encode_injective (written.symm.trans ((canonical_cases second).1 other its))]

theorem canonical_iff {a b x y : Bytes} (first : canonicalTenantID a = some x) (second : canonicalTenantID b = some y) :
    (x = y ↔ a = b ∨ ∃ uuid, Spells uuid a ∧ Spells uuid b) ∧ canonicalTenantID x = some x := by
  refine ⟨⟨?_, ?_⟩, ?_⟩
  · rintro rfl
    by_cases slug : ∀ uuid, ¬ Spells uuid a
    · refine .inl (((canonical_cases first).2 slug).symm.trans ((canonical_cases second).2 ?_))
      exact fun uuid its => slug uuid (spells_shared second first its)
    · obtain ⟨uuid, spells⟩ := not_forall_not.mp slug
      exact .inr ⟨uuid, spells, spells_shared first second spells⟩
  · rintro (rfl | ⟨uuid, mine, its⟩)
    · exact some.inj (first.symm.trans second)
    · rw [(canonical_cases first).1 uuid mine, (canonical_cases second).1 uuid its]
  · by_cases slug : ∀ uuid, ¬ Spells uuid a
    · rwa [← (canonical_cases first).2 slug] at first
    · obtain ⟨uuid, spells⟩ := not_forall_not.mp slug
      rw [(canonical_cases first).1 uuid spells]
      exact canonical_encode (spells_length spells)

theorem spellings_share_form : ∃ x, canonicalTenantID (text "6BA7B810-9DAD-11D1-80B4-00C04FD430C8") = some x ∧
    canonicalTenantID (text "6ba7b8109dad11d180b400c04fd430c8") = some x ∧ canonicalTenantID x = some x := by
  have dashed : canonicalTenantID (text "6BA7B810-9DAD-11D1-80B4-00C04FD430C8") =
      some (text "6ba7b8109dad11d180b400c04fd430c8") := by decide +kernel
  exact ⟨_, dashed, (canonical_iff dashed dashed).2, (canonical_iff dashed dashed).2⟩

end LibCommons.TenantIDs
