import LibCommons.Lib.Bytes

namespace LibCommons.Json

open List Option

-- A parsed document; a number keeps its literal.
inductive Value where
  | null
  | bool (flag : Bool)
  | num (literal : List Char)
  | str (text : String)
  | arr (items : List Value)
  | obj (members : List (String × Value))

def hexDigit (n : Nat) : Char := "0123456789abcdef".toList.getD n '0'

def hexValue (c : Char) : Option Nat :=
  if '0' ≤ c ∧ c ≤ '9' then some (c.toNat - 48)
  else if 'a' ≤ c ∧ c ≤ 'f' then some (c.toNat - 87)
  else if 'A' ≤ c ∧ c ≤ 'F' then some (c.toNat - 55)
  else none

def hexUnit (a b c d : Char) : Option Nat := do
  let a ← hexValue a
  let b ← hexValue b
  let c ← hexValue c
  let d ← hexValue d
  some (((a * 16 + b) * 16 + c) * 16 + d)

-- json.Marshal's text for a character, the HTML ones and the line separators escaped.
def escape (c : Char) : List Char :=
  if c = '"' then ['\\', '"']
  else if c = '\\' then ['\\', '\\']
  else if c.toNat = 0x08 then ['\\', 'b']
  else if c.toNat = 0x0C then ['\\', 'f']
  else if c.toNat = 0x0A then ['\\', 'n']
  else if c.toNat = 0x0D then ['\\', 'r']
  else if c.toNat = 0x09 then ['\\', 't']
  else if c.toNat < 0x20 ∨ c = '<' ∨ c = '>' ∨ c = '&' ∨ c.toNat = 0x2028 ∨ c.toNat = 0x2029 then
    ['\\', 'u', hexDigit (c.toNat / 4096), hexDigit (c.toNat / 256 % 16), hexDigit (c.toNat / 16 % 16), hexDigit (c.toNat % 16)]
  else [c]

def renderString (text : String) : List Char := '"' :: (text.toList.flatMap escape ++ ['"'])

mutual

def render : Value → List Char
  | .null => "null".toList
  | .bool flag => if flag then "true".toList else "false".toList
  | .num literal => literal
  | .str text => renderString text
  | .arr [] => ['[', ']']
  | .arr (item :: items) => '[' :: (render item ++ renderItems items)
  | .obj [] => ['{', '}']
  | .obj (member :: members) => '{' :: (renderMember member ++ renderMembers members)

def renderItems : List Value → List Char
  | [] => [']']
  | item :: items => ',' :: (render item ++ renderItems items)

def renderMember : String × Value → List Char
  | (name, value) => renderString name ++ ':' :: render value

def renderMembers : List (String × Value) → List Char
  | [] => ['}']
  | member :: members => ',' :: (renderMember member ++ renderMembers members)

end

def isBlank (c : Char) : Bool := c = ' ' || c = '\t' || c = '\r' || c = '\n'

def skipBlank (text : List Char) : List Char := text.dropWhile isBlank

def escapeValue : Char → Option Nat
  | '"' => some 0x22
  | '\\' => some 0x5C
  | '/' => some 0x2F
  | 'b' => some 0x08
  | 'f' => some 0x0C
  | 'n' => some 0x0A
  | 'r' => some 0x0D
  | 't' => some 0x09
  | _ => none

def pushUnit (unit : Nat) (parsed : List Nat × List Char) : List Nat × List Char := (unit :: parsed.1, parsed.2)

def parseUnits : List Char → Option (List Nat × List Char)
  | [] => none
  | '"' :: rest => some ([], rest)
  | '\\' :: 'u' :: a :: b :: c :: d :: rest => do
      let unit ← hexUnit a b c d
      (parseUnits rest).map (pushUnit unit)
  | '\\' :: letter :: rest => do
      let unit ← escapeValue letter
      (parseUnits rest).map (pushUnit unit)
  | c :: rest => if c.toNat < 0x20 then none else (parseUnits rest).map (pushUnit c.toNat)

def isSurrogate (unit : Nat) : Bool := 0xD800 ≤ unit && unit < 0xE000

def unitChar (unit : Nat) : Char := if isSurrogate unit then '�' else Char.ofNat unit

-- A high half directly before a low half is one character; any other half is U+FFFD.
def joinUnits : List Nat → List Char
  | [] => []
  | [unit] => [unitChar unit]
  | high :: low :: rest =>
    if 0xD800 ≤ high ∧ high < 0xDC00 ∧ 0xDC00 ≤ low ∧ low < 0xE000 then
      Char.ofNat (0x10000 + (high - 0xD800) * 0x400 + (low - 0xDC00)) :: joinUnits rest
    else unitChar high :: joinUnits (low :: rest)

def parseString (text : List Char) : Option (String × List Char) :=
  (parseUnits text).map fun parsed => (String.ofList (joinUnits parsed.1), parsed.2)

def digits (text : List Char) : Option (List Char × List Char) :=
  if text.takeWhile Char.isDigit = [] then none else some (text.takeWhile Char.isDigit, text.dropWhile Char.isDigit)

def wholePart : List Char → Option (List Char × List Char)
  | '0' :: rest => some (['0'], rest)
  | text => digits text

def fractionPart : List Char → Option (List Char × List Char)
  | '.' :: rest => (digits rest).map fun parsed => ('.' :: parsed.1, parsed.2)
  | text => some ([], text)

def exponentSign : List Char → List Char × List Char
  | '+' :: rest => (['+'], rest)
  | '-' :: rest => (['-'], rest)
  | text => ([], text)

def exponentPart : List Char → Option (List Char × List Char)
  | letter :: rest =>
    if letter = 'e' ∨ letter = 'E' then
      (digits (exponentSign rest).2).map fun parsed => (letter :: ((exponentSign rest).1 ++ parsed.1), parsed.2)
    else some ([], letter :: rest)
  | [] => some ([], [])

def minusSign : List Char → List Char × List Char
  | '-' :: rest => (['-'], rest)
  | text => ([], text)

def parseNumber (text : List Char) : Option (List Char × List Char) := do
  let whole ← wholePart (minusSign text).2
  let fraction ← fractionPart whole.2
  let exponent ← exponentPart fraction.2
  some ((minusSign text).1 ++ whole.1 ++ fraction.1 ++ exponent.1, exponent.2)

def parseScalar : List Char → Option (Value × List Char)
  | 'n' :: 'u' :: 'l' :: 'l' :: rest => some (.null, rest)
  | 't' :: 'r' :: 'u' :: 'e' :: rest => some (.bool true, rest)
  | 'f' :: 'a' :: 'l' :: 's' :: 'e' :: rest => some (.bool false, rest)
  | '"' :: rest => (parseString rest).map fun parsed => (.str parsed.1, parsed.2)
  | text => (parseNumber text).map fun parsed => (.num parsed.1, parsed.2)

section

variable (value : List Char → Option (Value × List Char))

def parseItems : Nat → List Char → Option (List Value × List Char)
  | 0, _ => none
  | fuel + 1, text =>
    match skipBlank text with
    | ']' :: rest => some ([], rest)
    | ',' :: rest => do
        let item ← value (skipBlank rest)
        let items ← parseItems fuel item.2
        some (item.1 :: items.1, items.2)
    | _ => none

def parseArray (text : List Char) : Option (Value × List Char) :=
  match skipBlank text with
  | ']' :: rest => some (.arr [], rest)
  | first => do
      let item ← value first
      let items ← parseItems value item.2.length item.2
      some (.arr (item.1 :: items.1), items.2)

def parseMember (text : List Char) : Option ((String × Value) × List Char) :=
  match text with
  | '"' :: rest => do
      let name ← parseString rest
      match skipBlank name.2 with
      | ':' :: rest => (value (skipBlank rest)).map fun parsed => ((name.1, parsed.1), parsed.2)
      | _ => none
  | _ => none

def parseMembers : Nat → List Char → Option (List (String × Value) × List Char)
  | 0, _ => none
  | fuel + 1, text =>
    match skipBlank text with
    | '}' :: rest => some ([], rest)
    | ',' :: rest => do
        let member ← parseMember value (skipBlank rest)
        let members ← parseMembers fuel member.2
        some (member.1 :: members.1, members.2)
    | _ => none

def parseObject (text : List Char) : Option (Value × List Char) :=
  match skipBlank text with
  | '}' :: rest => some (.obj [], rest)
  | first => do
      let member ← parseMember value first
      let members ← parseMembers value member.2.length member.2
      some (.obj (member.1 :: members.1), members.2)

end

-- The first argument is how many arrays and objects may still be opened.
def parseValue : Nat → List Char → Option (Value × List Char)
  | depth + 1, '[' :: rest => parseArray (parseValue depth) rest
  | depth + 1, '{' :: rest => parseObject (parseValue depth) rest
  | _, text => parseScalar text

def maxNestingDepth : Nat := 10000

def parse (text : List Char) : Option Value := do
  let parsed ← parseValue maxNestingDepth (skipBlank text)
  if skipBlank parsed.2 = [] then some parsed.1 else none

-- An integer as json.Marshal writes it, and strconv.ParseInt at 64 bits.
def intLiteral (n : Int) : List Char :=
  if n < 0 then '-' :: Nat.toDigits 10 n.natAbs else Nat.toDigits 10 n.natAbs

def parseInt64 : List Char → Option Int
  | '-' :: digits =>
    if digits ≠ [] ∧ digits.all Char.isDigit ∧ Nat.ofDigitChars 10 digits 0 ≤ 2 ^ 63 then
      some (-(Nat.ofDigitChars 10 digits 0 : Int))
    else none
  | digits =>
    if digits ≠ [] ∧ digits.all Char.isDigit ∧ Nat.ofDigitChars 10 digits 0 < 2 ^ 63 then
      some (Nat.ofDigitChars 10 digits 0)
    else none

-- json.Unmarshal up to the document; bytes that are no text read as U+FFFD.
def parseBytes (bytes : Bytes) : Option Value := parse (Bytes.runes bytes)

def renderBytes (value : Value) : Bytes := Bytes.utf8 (render value)

theorem hex_value_digit (n : Nat) (small : n < 16) : hexValue (hexDigit n) = some n := by
  revert n
  decide +kernel

variable {n : Nat}

theorem hex_unit_digits (small : n < 65536) :
    hexUnit (hexDigit (n / 4096)) (hexDigit (n / 256 % 16)) (hexDigit (n / 16 % 16)) (hexDigit (n % 16)) = some n := by
  have first := hex_value_digit (n / 4096) (by omega)
  have second := hex_value_digit (n / 256 % 16) (by omega)
  have third := hex_value_digit (n / 16 % 16) (by omega)
  have fourth := hex_value_digit (n % 16) (by omega)
  have whole : ((n / 4096 * 16 + n / 256 % 16) * 16 + n / 16 % 16) * 16 + n % 16 = n := by omega
  simp only [hexUnit, first, second, third, fourth, bind_eq_bind, bind_some, whole]

theorem parse_units_letter {letter} {unit} (rest) (named : escapeValue letter = some unit) :
    parseUnits (['\\', letter] ++ rest) = (parseUnits rest).map (pushUnit unit) := by
  have notU : letter ≠ 'u' := by
    intro same
    rw [same] at named
    cases named
  change parseUnits ('\\' :: letter :: rest) = _
  rw [parseUnits.eq_4]
  · simp [named]
  · simp [notU]

theorem parse_units_unicode (rest) (small : n < 65536) :
    parseUnits (['\\', 'u', hexDigit (n / 4096), hexDigit (n / 256 % 16), hexDigit (n / 16 % 16), hexDigit (n % 16)] ++
      rest) = (parseUnits rest).map (pushUnit n) := by
  change parseUnits ('\\' :: 'u' :: _ :: _ :: _ :: _ :: rest) = _
  rw [parseUnits.eq_3, hex_unit_digits small]
  rfl

variable {c : Char}

theorem parse_units_plain (rest) (quote : c ≠ '"') (slash : c ≠ '\\') (text : 0x20 ≤ c.toNat) :
    parseUnits (c :: rest) = (parseUnits rest).map (pushUnit c.toNat) := by
  rw [parseUnits.eq_5 c rest quote (by simp [slash]) (by simp [slash]), if_neg (by omega)]

theorem parse_units_escape (c rest) : parseUnits (escape c ++ rest) = (parseUnits rest).map (pushUnit c.toNat) := by
  unfold escape
  split_ifs with quote slash backspace feed newline carriage tab coded
  · exact parse_units_letter _ (by rw [quote]; rfl)
  · exact parse_units_letter _ (by rw [slash]; rfl)
  · exact parse_units_letter _ (by rw [backspace]; rfl)
  · exact parse_units_letter _ (by rw [feed]; rfl)
  · exact parse_units_letter _ (by rw [newline]; rfl)
  · exact parse_units_letter _ (by rw [carriage]; rfl)
  · exact parse_units_letter _ (by rw [tab]; rfl)
  · refine parse_units_unicode rest ?_
    obtain control | less | greater | ampersand | line | paragraph := coded
    · omega
    · rw [less]; decide
    · rw [greater]; decide
    · rw [ampersand]; decide
    · omega
    · omega
  · exact parse_units_plain rest quote slash (by omega)

theorem parse_units_text (text rest : List Char) : parseUnits (text.flatMap escape ++ '"' :: rest) = some (text.map Char.toNat, rest) := by
  induction text with
  | nil => simp [parseUnits]
  | cons _ _ ih => rw [flatMap_cons, append_assoc, parse_units_escape, ih]; rfl

theorem char_not_surrogate (c : Char) : ¬ (0xD800 ≤ c.toNat ∧ c.toNat < 0xE000) := by
  have valid := c.valid
  simp only [UInt32.isValidChar, Nat.isValidChar] at valid
  change ¬ (0xD800 ≤ c.val.toNat ∧ c.val.toNat < 0xE000)
  omega

theorem unit_char (c : Char) : unitChar c.toNat = c := by
  have outside := char_not_surrogate c
  rw [unitChar, if_neg (by simpa [isSurrogate] using outside), Char.ofNat_toNat]

theorem join_units_text (text : List Char) : joinUnits (text.map Char.toNat) = text := by
  induction text with
  | nil => rfl
  | cons c text ih =>
    cases text with
    | nil => simp [joinUnits, unit_char]
    | cons =>
      have outside := char_not_surrogate c
      rw [map_cons] at ih
      simp only [map_cons, joinUnits, unit_char]
      rw [if_neg (by omega), ih]

theorem parse_string_text (text : String) (rest : List Char) : parseString (text.toList.flatMap escape ++ '"' :: rest) = some (text, rest) := by
  simp [parseString, parse_units_text, join_units_text]

def Ends (rest : List Char) : Prop := ∀ c ∈ rest.head?, c.isDigit = false ∧ c ≠ '.' ∧ c ≠ 'e' ∧ c ≠ 'E'

-- A number literal: the scanner reads it back whole wherever it ends.
structure Literal (literal : List Char) : Prop where
  starts : ∃ c rest, literal = c :: rest ∧ (c = '-' ∨ c.isDigit = true)
  scans : ∀ rest, Ends rest → parseNumber (literal ++ rest) = some (literal, rest)

def Within : Nat → Value → Prop
  | _, .null => True
  | _, .bool _ => True
  | _, .num literal => Literal literal
  | _, .str _ => True
  | 0, .arr _ => False
  | 0, .obj _ => False
  | depth + 1, .arr items => ∀ item ∈ items, Within depth item
  | depth + 1, .obj members => ∀ member ∈ members, Within depth member.2

theorem skip_blank_cons (c rest) (solid : isBlank c = false) : skipBlank (c :: rest) = c :: rest := by
  simp [skipBlank, solid]

def Opens (c : Char) : Prop := isBlank c = false ∧ c ≠ ']'

instance (c : Char) : Decidable (Opens c) := inferInstanceAs (Decidable (_ ∧ _))

theorem literal_opens (starts : c = '-' ∨ c.isDigit = true) : Opens c ∧ c ≠ '[' ∧ c ≠ '{' := by
  obtain rfl | digit := starts
  · decide
  refine ⟨⟨?_, ?_⟩, ?_, ?_⟩
  · by_contra blank
    simp only [isBlank, Bool.not_eq_false, Bool.or_eq_true, decide_eq_true_eq] at blank
    obtain ((rfl | rfl) | rfl) | rfl := blank <;> cases digit
  all_goals
    rintro rfl
    cases digit

theorem render_opens (depth : Nat) (value) (within : Within depth value) : ∃ c rest, render value = c :: rest ∧ Opens c := by
  cases value with
  | null => exact ⟨'n', "ull".toList, rfl, by decide⟩
  | bool flag =>
    cases flag with
    | false => exact ⟨'f', "alse".toList, rfl, by decide⟩
    | true => exact ⟨'t', "rue".toList, rfl, by decide⟩
  | num literal =>
    have real : Literal literal := by cases depth <;> exact within
    obtain ⟨c, rest, starts, open_⟩ := real.starts
    exact ⟨c, rest, starts, (literal_opens open_).1⟩
  | str => exact ⟨'"', _, rfl, by decide⟩
  | arr items =>
    cases items with
    | nil => exact ⟨'[', _, rfl, by decide⟩
    | cons => exact ⟨'[', _, by rw [render], by decide⟩
  | obj members =>
    cases members with
    | nil => exact ⟨'{', _, rfl, by decide⟩
    | cons => exact ⟨'{', _, by rw [render], by decide⟩

theorem parse_value_scalar (depth : Nat) (rest : List Char) (array : c ≠ '[') (object : c ≠ '{') :
    parseValue depth (c :: rest) = parseScalar (c :: rest) := by
  cases depth with
  | zero => rfl
  | succ =>
    rw [parseValue.eq_3]
    · simp [array]
    · simp [object]

theorem parse_scalar_num {literal rest} (real : Literal literal) (ends : Ends rest) : parseScalar (literal ++ rest) = some (.num literal, rest) := by
  obtain ⟨c, _, rfl, starts⟩ := real.starts
  have scanned := real.scans rest ends
  have other : ∀ d : Char, d ≠ '-' → d.isDigit = false → c ≠ d := by
    rintro _ dash digit rfl
    obtain rfl | found := starts
    · exact dash rfl
    · rw [digit] at found
      cases found
  rw [cons_append] at scanned ⊢
  rw [parseScalar.eq_5 _ (by simp [other 'n' (by decide) (by decide)]) (by simp [other 't' (by decide) (by decide)])
    (by simp [other 'f' (by decide) (by decide)]) (by simp [other '"' (by decide) (by decide)]), scanned]
  rfl

theorem ends_cons (rest) (apart : c.isDigit = false ∧ c ≠ '.' ∧ c ≠ 'e' ∧ c ≠ 'E') : Ends (c :: rest) := by
  intro _ head
  cases head
  exact apart

section

structure Reads (value : List Char → Option (Value × List Char)) (passed : Value → Prop) : Prop where
  opens : ∀ item, passed item → ∃ c rest, render item = c :: rest ∧ Opens c
  back : ∀ item, passed item → ∀ rest, Ends rest → value (render item ++ rest) = some (item, rest)

variable {value : List Char → Option (Value × List Char)} {passed : Value → Prop}

theorem reads_skip (reads : Reads value passed) (item) (good : passed item) (rest)
    (ends : Ends rest) : value (skipBlank (render item ++ rest)) = some (item, rest) := by
  obtain ⟨c, _, starts, opened⟩ := reads.opens item good
  rw [starts, cons_append, skip_blank_cons c _ opened.1, ← cons_append, ← starts]
  exact reads.back item good rest ends

theorem render_items_ends (items rest) : Ends (renderItems items ++ rest) := by
  cases items with
  | nil => exact ends_cons rest (by decide)
  | cons => rw [renderItems]; exact ends_cons _ (by decide)

theorem parse_items_render (reads : Reads value passed) (items) (all : ∀ item ∈ items, passed item)
    (fuel : Nat) (rest) (enough : items.length < fuel) :
    parseItems value fuel (renderItems items ++ rest) = some (items, rest) := by
  induction items generalizing fuel with
  | nil =>
    obtain ⟨less, rfl⟩ := Nat.exists_eq_add_of_le' enough
    rfl
  | cons item items ih =>
    obtain ⟨less, rfl⟩ := Nat.exists_eq_add_of_le' (by omega : 1 ≤ fuel)
    have read := reads_skip reads item (all item (by simp)) _ (render_items_ends items rest)
    have again := ih (fun other later => all other (by simp [later])) less (by simpa using enough)
    simp only [renderItems, cons_append, append_assoc, parseItems]
    rw [skip_blank_cons ',' _ (by decide)]
    simp only [read, again, bind_eq_bind, bind_some]

theorem length_lt_render_items (items) : items.length < (renderItems items).length := by
  induction items with
  | nil => simp [renderItems]
  | cons =>
    simp only [renderItems, length_cons, length_append]
    omega

theorem parse_array_render (reads : Reads value passed) {items} (all : ∀ item ∈ items, passed item) (rest) :
    ∃ text, render (.arr items) ++ rest = '[' :: text ∧ parseArray value text = some (.arr items, rest) := by
  cases items with
  | nil => exact ⟨']' :: rest, rfl, rfl⟩
  | cons item items =>
    refine ⟨render item ++ (renderItems items ++ rest), by simp [render], ?_⟩
    obtain ⟨c, _, starts, opened⟩ := reads.opens item (all item (by simp))
    have read := reads.back item (all item (by simp)) _ (render_items_ends items rest)
    have size := length_lt_render_items items
    have again := parse_items_render reads items (fun other later => all other (by simp [later]))
      (renderItems items ++ rest).length rest (by rw [length_append]; omega)
    rw [starts, cons_append] at read ⊢
    rw [parseArray, skip_blank_cons c _ opened.1]
    simp [opened.2, read, again, -length_append]

theorem render_members_ends (members rest) : Ends (renderMembers members ++ rest) := by
  cases members with
  | nil => exact ends_cons rest (by decide)
  | cons => rw [renderMembers]; exact ends_cons _ (by decide)

theorem parse_member_render (reads : Reads value passed) (member) (good : passed member.2)
    (rest) (ends : Ends rest) : parseMember value (renderMember member ++ rest) = some (member, rest) := by
  obtain ⟨name, item⟩ := member
  have read := reads_skip reads item good rest ends
  have named := parse_string_text name (':' :: (render item ++ rest))
  have colon := skip_blank_cons ':' (render item ++ rest) (by decide)
  simp [renderMember, renderString, parseMember, named, colon, read]

theorem render_member_opens (member) : ∃ rest, renderMember member = '"' :: rest := by
  obtain ⟨_, _⟩ := member
  exact ⟨_, by rw [renderMember, renderString, cons_append]⟩

theorem parse_members_render (reads : Reads value passed) (members)
    (all : ∀ member ∈ members, passed member.2) (fuel : Nat) (rest) (enough : members.length < fuel) :
    parseMembers value fuel (renderMembers members ++ rest) = some (members, rest) := by
  induction members generalizing fuel with
  | nil =>
    obtain ⟨less, rfl⟩ := Nat.exists_eq_add_of_le' enough
    rfl
  | cons member members ih =>
    obtain ⟨less, rfl⟩ := Nat.exists_eq_add_of_le' (by omega : 1 ≤ fuel)
    obtain ⟨_, starts⟩ := render_member_opens member
    have read := parse_member_render reads member (all member (by simp)) _ (render_members_ends members rest)
    have again := ih (fun other later => all other (by simp [later])) less (by simpa using enough)
    rw [starts, cons_append] at read
    simp only [renderMembers, cons_append, append_assoc, parseMembers, starts]
    rw [skip_blank_cons ',' _ (by decide)]
    simp only [skip_blank_cons '"' _ (by decide : isBlank '"' = false), read, again, bind_eq_bind, bind_some]

theorem length_lt_render_members (members) : members.length < (renderMembers members).length := by
  induction members with
  | nil => simp [renderMembers]
  | cons =>
    simp only [renderMembers, length_cons, length_append]
    omega

theorem parse_object_render (reads : Reads value passed) {members} (all : ∀ member ∈ members, passed member.2) (rest) :
    ∃ text, render (.obj members) ++ rest = '{' :: text ∧ parseObject value text = some (.obj members, rest) := by
  cases members with
  | nil => exact ⟨'}' :: rest, rfl, rfl⟩
  | cons member members =>
    refine ⟨renderMember member ++ (renderMembers members ++ rest), by simp [render], ?_⟩
    obtain ⟨_, starts⟩ := render_member_opens member
    have read := parse_member_render reads member (all member (by simp)) _ (render_members_ends members rest)
    have size := length_lt_render_members members
    have again := parse_members_render reads members (fun other later => all other (by simp [later]))
      (renderMembers members ++ rest).length rest (by rw [length_append]; omega)
    rw [starts, cons_append] at read ⊢
    rw [parseObject, skip_blank_cons '"' _ (by decide)]
    simp [read, again, -length_append]

end

theorem parse_scalar_back (depth : Nat) (value) (within : Within 0 value) (rest) (ends : Ends rest) :
    parseValue depth (render value ++ rest) = some (value, rest) := by
  cases value with
  | null => rw [render]; exact parse_value_scalar depth _ (by decide) (by decide)
  | bool flag =>
    cases flag with
    | false | true => rw [render]; exact parse_value_scalar depth _ (by decide) (by decide)
  | num literal =>
    obtain ⟨_, _, starts, opened⟩ := (within : Literal literal).starts
    have plain := (literal_opens opened).2
    have scalar := parse_scalar_num within ends
    rw [render, starts, cons_append, parse_value_scalar depth _ plain.1 plain.2, ← cons_append, ← starts, scalar]
  | str text =>
    have read := parse_string_text text rest
    rw [render, renderString, cons_append, parse_value_scalar depth _ (by decide) (by decide), append_assoc]
    simp [parseScalar, read]
  | arr | obj => exact within.elim

theorem parse_value_reads (depth : Nat) : Reads (parseValue depth) (Within depth) := by
  induction depth with
  | zero => exact ⟨render_opens 0, parse_scalar_back 0⟩
  | succ depth ih =>
    refine ⟨render_opens (depth + 1), ?_⟩
    intro value within rest ends
    cases value with
    | arr =>
      obtain ⟨text, starts, parsed⟩ := parse_array_render ih within rest
      rw [starts, parseValue, parsed]
    | obj =>
      obtain ⟨text, starts, parsed⟩ := parse_object_render ih within rest
      rw [starts, parseValue, parsed]
    | null => exact parse_scalar_back _ .null trivial rest ends
    | bool flag => exact parse_scalar_back _ (.bool flag) trivial rest ends
    | num literal => exact parse_scalar_back _ (.num literal) within rest ends
    | str text => exact parse_scalar_back _ (.str text) trivial rest ends

variable {value : Value}

theorem parse_render (within : Within maxNestingDepth value) : parse (render value) = some value := by
  have read := reads_skip (parse_value_reads maxNestingDepth) value within [] (by intro c head; cases head)
  rw [append_nil] at read
  simp only [parse, read, bind_eq_bind, bind_some]
  rfl

theorem parse_bytes_render (within : Within maxNestingDepth value) : parseBytes (renderBytes value) = some value := by
  rw [parseBytes, renderBytes, Bytes.runes_utf8, parse_render within]

theorem span_digits (ds rest) (all : ∀ c ∈ ds, c.isDigit = true) (ends : Ends rest) :
    (ds ++ rest).takeWhile Char.isDigit = ds ∧ (ds ++ rest).dropWhile Char.isDigit = rest := by
  induction ds with
  | nil =>
    cases rest with
    | nil => exact ⟨rfl, rfl⟩
    | cons c => simp [(ends c rfl).1]
  | cons d _ ih =>
    have here := all d (by simp)
    have later := ih fun c present => all c (by simp [present])
    simp [here, later]

theorem digits_lead (n : Nat) (positive : 0 < n) : ∃ c rest, Nat.toDigits 10 n = c :: rest ∧ c ≠ '0' := by
  induction n using Nat.strongRecOn with
  | ind n ih =>
    by_cases small : n < 10
    · refine ⟨n.digitChar, [], Nat.toDigits_of_lt_base small, ?_⟩
      interval_cases n <;> decide
    · obtain ⟨c, rest, starts, lead⟩ := ih (n / 10) (by omega) (by omega)
      exact ⟨c, rest ++ [(n % 10).digitChar], by rw [Nat.toDigits_of_base_le (by omega) (by omega), starts]; rfl, lead⟩

theorem all_digits (n : Nat) : ∀ c ∈ Nat.toDigits 10 n, c.isDigit = true := fun _ present => Nat.isDigit_of_mem_toDigits (by omega) (by omega) present

variable {rest : List Char}

theorem whole_part_digits (n : Nat) (ends : Ends rest) : wholePart (Nat.toDigits 10 n ++ rest) = some (Nat.toDigits 10 n, rest) := by
  by_cases zero : n = 0
  · subst zero
    rfl
  · obtain ⟨_, _, starts, lead⟩ := digits_lead n (by omega)
    have split := span_digits (Nat.toDigits 10 n) rest (all_digits n) ends
    rw [wholePart.eq_2 _ (by simp [starts, lead]), digits, split.1, split.2, if_neg Nat.toDigits_ne_nil]

theorem number_tail (ends : Ends rest) : fractionPart rest = some ([], rest) ∧ exponentPart rest = some ([], rest) := by
  cases rest with
  | nil => exact ⟨rfl, rfl⟩
  | cons c =>
    obtain ⟨-, dot, lower, upper⟩ := ends c rfl
    constructor
    · exact fractionPart.eq_2 _ (by simp [dot])
    · simp [exponentPart, lower, upper]

theorem int_literal (n : Int) : Literal (intLiteral n) := by
  obtain ⟨c, tail, starts⟩ := exists_cons_of_ne_nil (Nat.toDigits_ne_nil (b := 10) (n := n.natAbs))
  have digit : c.isDigit = true := all_digits n.natAbs c (by simp [starts])
  have unsigned : ∀ rest, minusSign (Nat.toDigits 10 n.natAbs ++ rest) = ([], Nat.toDigits 10 n.natAbs ++ rest) := by
    intro rest
    rw [starts, cons_append]
    refine minusSign.eq_2 _ ?_
    rintro _ same
    cases same
    cases digit
  unfold intLiteral
  split
  · refine ⟨⟨'-', _, rfl, .inl rfl⟩, ?_⟩
    intro _ ends
    have tails := number_tail ends
    simp [parseNumber, minusSign, whole_part_digits _ ends, tails]
  refine ⟨⟨c, tail, starts, .inr digit⟩, ?_⟩
  intro _ ends
  have tails := number_tail ends
  simp [parseNumber, unsigned, whole_part_digits _ ends, tails]

theorem parse_int_literal {n} (low : -2 ^ 63 ≤ n) (high : n < 2 ^ 63) : parseInt64 (intLiteral n) = some n := by
  have all : (Nat.toDigits 10 n.natAbs).all Char.isDigit = true := List.all_eq_true.mpr (all_digits n.natAbs)
  have value : Nat.ofDigitChars 10 (Nat.toDigits 10 n.natAbs) 0 = n.natAbs := Nat.ofDigitChars_ten_toDigits
  unfold intLiteral
  split
  · rw [parseInt64, value, if_pos ⟨Nat.toDigits_ne_nil, all, by omega⟩]
    congr 1
    omega
  rw [parseInt64.eq_2, value, if_pos ⟨Nat.toDigits_ne_nil, all, by omega⟩]
  · congr 1
    omega
  · rintro _ same
    rw [same] at all
    cases all

end LibCommons.Json
