import LibCommons.Sanitize.PairPattern

namespace LibCommons.Sanitize

open Regex List Option

section

theorem prefix_real : Real keyPrefixPattern := real_least _ (by decide)

theorem pair_real : Real keyValuePattern := real_least _ (by decide)

def keyIn (text : Bytes) (p : Nat) : Option (Nat × Nat) := keyAt (if p = 0 then none else text[p - 1]?) (text.drop p)

variable {text : Bytes}

theorem prefix_in (ascii : Ascii text) (p : Nat) : matchIn keyPrefixPattern none text p =
      (keyIn text p).map fun key => ⟨(text.drop p).take (key.1 + key.2), [(1, 0, key.1)]⟩ :=
  match_key_prefix _ (ascii_drop ascii p)

theorem pair_in (ascii : Ascii text) (p : Nat) : matchIn keyValuePattern none text p = (keyIn text p).bind fun key =>
        let value := width isValueByte ((text.drop p).drop (key.1 + key.2))
        if value = 0 then none
        else some ⟨(text.drop p).take (key.1 + key.2 + value),
          [(3, key.1 + key.2, key.1 + key.2 + value), (2, key.1, key.1 + key.2), (1, 0, key.1)]⟩ :=
  match_key_value _ (ascii_drop ascii p)

def Value (text : Bytes) : Prop := ∀ b ∈ text, isValueByte b = true

theorem value_drop (value : Value text) (n : Nat) : Value (text.drop n) := fun b member => value b (mem_of_mem_drop member)

theorem value_no_space (value : Value text) : width isSpace text = 0 := by
  cases text with
  | nil => rfl
  | cons b rest => exact width_refused isSpace b rest (value_not_space b (value b mem_cons_self))

theorem key_at_value (prev) (value : Value text) : keyAt prev text =
      if (!prev.any isWord && text.head?.any isLetter) = true ∧ text[width isNameByte text]? = some equals then
        some (width isNameByte text, 1)
      else none := by
  simp only [keyAt, value_no_space (value_drop value _), add_zero, zero_add]

theorem key_at_short (prev) (short : width isNameByte text < width isValueByte text) : keyAt prev text =
      if (!prev.any isWord && text.head?.any isLetter) = true ∧ text[width isNameByte text]? = some equals then
        some (width isNameByte text, 1 + width isSpace (text.drop (width isNameByte text + 1)))
      else none := by
  have spaces : width isSpace (text.drop (width isNameByte text)) = 0 := by
    have apart := any_apart value_not_space (width_inside isValueByte text _ short)
    rw [← head?_drop, head_any] at apart
    simpa using apart
  simp only [keyAt, spaces, add_zero, zero_add]

theorem key_in_run {p} (short : p + width isNameByte (text.drop p) < width isValueByte text) :
    keyIn text p = (keyIn (text.take (width isValueByte text)) p).map fun key => (key.1, 1 + width isSpace (text.drop (p + key.1 + 1))) := by
  have inside : p < width isValueByte text := by omega
  have count := width_drop isValueByte text p (le_of_lt inside)
  have run : (text.take (width isValueByte text)).drop p = (text.drop p).take (width isValueByte (text.drop p)) := by
    rw [count, drop_take]
  have before : (if p = 0 then none else (text.take (width isValueByte text))[p - 1]?) = (if p = 0 then none else text[p - 1]?) := by
    rw [getElem?_take_of_lt (by omega)]
  have value : Value ((text.drop p).take (width isValueByte (text.drop p))) := by
    rw [take_width]
    exact fun b member => mem_takeWhile_imp member
  have name := width_take isNameByte isValueByte name_value (text.drop p)
  have same : ((text.drop p).take (width isValueByte (text.drop p)))[width isNameByte (text.drop p)]? =
      (text.drop p)[width isNameByte (text.drop p)]? := getElem?_take_of_lt (by omega)
  have head : ((text.drop p).take (width isValueByte (text.drop p))).head? = (text.drop p).head? := by
    rw [head?_take, if_neg (by omega)]
  rw [keyIn, keyIn, before, run, key_at_short _ (by omega), key_at_value _ value, name, same, head]
  generalize (if p = 0 then none else text[p - 1]?) = prev
  split
  · rw [map_some, drop_drop, add_assoc]
  · rfl

end

section

variable {text : Bytes} {p : Nat}

theorem key_in_value (value : Value text) {n m} (key : keyIn text p = some (n, m)) :
    m = 1 ∧ n = width isNameByte (text.drop p) ∧ text[p + n]? = some equals ∧ (text[p]?).any isLetter = true ∧
      keyAt none (text.drop p) = some (n, 1) := by
  rw [keyIn, key_at_value _ (value_drop value p)] at key
  generalize (if p = 0 then none else text[p - 1]?) = prev at key
  split at key
  · rename_i found
    cases key
    obtain ⟨start, sign⟩ := found
    rw [Bool.and_eq_true] at start
    refine ⟨rfl, rfl, ?_, ?_, ?_⟩
    · rwa [getElem?_drop] at sign
    · rw [← head?_drop]
      exact start.2
    · have alone : (!(none : Option UInt8).any isWord && (text.drop p).head?.any isLetter) = true := start.2
      rw [key_at_value _ (value_drop value p), if_pos ⟨alone, sign⟩]
  · cases key

theorem pair_in_value (text) (ascii : Ascii text) (value : Value text) (p n : Nat) (key : keyIn text p = some (n, 1)) :
    matchIn keyValuePattern none text p =
      if p + n + 1 < text.length then
        some ⟨text.drop p, [(3, n + 1, text.length - p), (2, n, n + 1), (1, 0, n)]⟩
      else none := by
  obtain ⟨-, -, sign, -, -⟩ := key_in_value value key
  have inside : p + n < text.length := (List.getElem?_eq_some_iff.mp sign).1
  have rest : width isValueByte ((text.drop p).drop (n + 1)) = text.length - p - (n + 1) := by
    rw [width_all _ _ (value_drop (value_drop value p) _), length_drop, length_drop]
  rw [pair_in ascii, key]
  simp only [bind_some, rest]
  split
  · rw [if_neg (by omega)]
  · rename_i present
    have all : n + 1 + (text.length - p - (n + 1)) = text.length - p := by omega
    rw [if_pos (by omega), all, take_of_length_le (by rw [length_drop])]

theorem no_pair (ascii : Ascii text) (absent : keyPrefixPattern.find text = none) : keyValuePattern.find text = none := by
  apply find_clear
  intro q inside
  have none := find_none _ prefix_real text absent q inside
  rw [prefix_in ascii, map_eq_none_iff] at none
  rw [pair_in ascii, none]
  rfl

-- A first key whose sign ends the value has no value, nor has any key behind it.
theorem first_key_in_value (ascii : Ascii text) (value : Value text) {hit} (found : keyPrefixPattern.find text = some (p, hit)) :
    ∃ n, keyIn text p = some (n, 1) ∧ hit.text.length = n + 1 ∧ hit.group 1 = (text.drop p).take n ∧ p + n + 1 ≤ text.length ∧
      keyValuePattern.find text =
        if p + n + 1 < text.length then
          some (p, ⟨text.drop p, [(3, n + 1, text.length - p), (2, n, n + 1), (1, 0, n)]⟩)
        else none := by
  obtain ⟨inside, clear, here⟩ := find_some _ prefix_real text p hit found
  rw [prefix_in ascii, map_eq_some_iff] at here
  obtain ⟨⟨n, _⟩, key, rfl⟩ := here
  obtain ⟨rfl, name, sign, -, -⟩ := key_in_value value key
  have within : p + n < text.length := (List.getElem?_eq_some_iff.mp sign).1
  have clear' (q : Nat) (before : q < p) : matchIn keyValuePattern none text q = none := by
    have none := clear q before
    rw [prefix_in ascii, map_eq_none_iff] at none
    rw [pair_in ascii, none]
    rfl
  refine ⟨n, key, ?_, ?_, within, ?_⟩
  · rw [length_take, length_drop]
    omega
  · simp [Hit.group, Hit.span, take_take]
  · split
    · rename_i more
      apply find_found _ pair_real text p _ inside clear'
      rw [pair_in_value text ascii value p n key, if_pos more]
    rename_i last
    apply find_clear
    intro q _
    cases key' : keyIn text q with
    | none =>
      rw [pair_in ascii, key']
      rfl
    | some other =>
      obtain ⟨n', _⟩ := other
      obtain ⟨rfl, name', -, letter, -⟩ := key_in_value value key'
      rw [pair_in_value text ascii value q n' key']
      rcases Nat.lt_or_ge q p with before | behind
      · have none := clear q before
        rw [prefix_in ascii, key'] at none
        cases none
      obtain ⟨d, rfl⟩ := Nat.exists_eq_add_of_le behind
      rcases Nat.lt_or_ge d n with _ | _
      · have shorter := width_drop isNameByte (text.drop p) d (by omega)
        rw [drop_drop, ← name, ← name'] at shorter
        rw [if_neg (by omega)]
      · have same : d = n := by omega
        rw [same, sign] at letter
        cases letter

end

section

variable (isSensitiveFieldName : Bytes → Bool) (text : Bytes)

theorem slice_all : slice text 0 text.length = text := by
  rw [slice, drop_zero, Nat.sub_zero, take_length]

theorem slice_tail (start : Nat) : slice text start text.length = text.drop start := by
  rw [slice, take_of_length_le (by rw [length_drop])]

theorem nested_shift (fuel : Nat) (key) (start stop ahead : Nat) : nestedSensitive isSensitiveFieldName text fuel key (start + ahead) (stop + ahead) =
      (nestedSensitive isSensitiveFieldName (text.drop ahead) fuel key start stop).map (· + ahead) := by
  induction fuel generalizing key start with
  | zero => rfl
  | succ _ ih =>
    rw [nestedSensitive, nestedSensitive, keyPrefix, slice_shift, ← keyPrefix]
    split
    · rfl
    cases keyPrefix (text.drop ahead) start stop with
    | none => rfl
    | some found =>
      have moved : start + ahead + found.2 = start + found.2 + ahead := add_right_comm start ahead found.2
      simp only [moved, ih]
      by_cases over' : stop ≤ start + found.2
      · rw [if_pos (Nat.add_le_add_right over' ahead), if_pos over', map_none]
      · rw [if_neg (mt Nat.le_of_add_le_add_right over'), if_neg over']

theorem find_pair_start {text} (ascii : Ascii text) (value : Value text) {n} (key : keyAt none text = some (n, 1)) (more : n + 1 < text.length) :
    findPair text 0 = some ⟨text.take n, n + 1, text.length⟩ := by
  have here := pair_in_value text ascii value 0 n key
  rw [if_pos (by omega)] at here
  have found := find_found _ pair_real text 0 _ (by omega) (fun q before => absurd before (Nat.not_lt_zero q)) here
  rw [findPair, drop_zero, found]
  simp [Hit.group, Hit.span]

def insideValue (value key : Bytes) (fuel : Nat) : Bytes :=
  match nestedSensitive isSensitiveFieldName value fuel key 0 value.length with
  | none => value
  | some start => value.take start ++ marker

theorem nested_text (key) (fuel ahead : Nat) (inside : ahead ≤ text.length) :
    (match nestedSensitive isSensitiveFieldName text fuel key ahead text.length with
      | none => text
      | some start => text.take start ++ marker) =
      text.take ahead ++ insideValue isSensitiveFieldName (text.drop ahead) key fuel := by
  have shifted := nested_shift isSensitiveFieldName text fuel key 0 (text.length - ahead) ahead
  rw [zero_add, Nat.sub_add_cancel inside] at shifted
  rw [shifted, insideValue, length_drop]
  cases nestedSensitive isSensitiveFieldName (text.drop ahead) fuel key 0 (text.length - ahead) with
  | none => exact (take_append_drop ahead text).symm
  | some =>
    simp only [map_some]
    rw [add_comm, take_add, append_assoc]

theorem legacy_pair_start (ascii : Ascii text) (value : Value text) (n fuel : Nat) (key : keyAt none text = some (n, 1))
    (more : n + 1 < text.length) :
    legacyRedactKeyValuePair isSensitiveFieldName (fuel + 1) text = text.take (n + 1) ++ (if isSensitiveFieldName (text.take n) then marker
        else keyValuePattern.replaceAll (fun hit => legacyRedactKeyValuePair isSensitiveFieldName fuel hit.text) (text.drop (n + 1))) := by
  rw [legacyRedactKeyValuePair, find_pair_start ascii value key more]
  simp only [slice_tail, drop_length, append_nil]

theorem inside_value (fuel legacyFuel : Nat) (value key) (ascii : Ascii value) (bytes : Value value)
    (enough : value.length < fuel) (more : value.length ≤ legacyFuel) :
    insideValue isSensitiveFieldName value key fuel =
      if isSensitiveFieldName key then marker
      else keyValuePattern.replaceAll (fun hit => legacyRedactKeyValuePair isSensitiveFieldName legacyFuel hit.text) value := by
  induction fuel generalizing legacyFuel value key with
  | zero => cases enough
  | succ _ ih =>
    rw [insideValue, nestedSensitive]
    by_cases sensitive : isSensitiveFieldName key = true
    · simp only [sensitive, if_true, take_zero, nil_append]
    simp only [sensitive, Bool.false_eq_true, if_false, keyPrefix, slice_all]
    cases found : keyPrefixPattern.find value with
    | none =>
      rw [replace_none _ pair_real _ _ (no_pair ascii found)]
      rfl
    | some first =>
      obtain ⟨p, _⟩ := first
      obtain ⟨n, inner, length, name, within, pair⟩ := first_key_in_value ascii bytes found
      simp only [map_some, zero_add, length, name, ge_iff_le, ← add_assoc]
      by_cases last : value.length ≤ p + n + 1
      · rw [if_neg (by omega)] at pair
        simp only [if_pos last, replace_none _ pair_real _ _ pair]
      rw [if_pos (by omega)] at pair
      obtain ⟨legacyFuel, rfl⟩ := Nat.exists_eq_add_one_of_ne_zero (by omega : legacyFuel ≠ 0)
      obtain ⟨-, -, -, -, start⟩ := key_in_value bytes inner
      have behind : (value.drop p).drop (n + 1) = value.drop (p + n + 1) := drop_drop
      have front : value.take (p + n + 1) = value.take p ++ (value.drop p).take (n + 1) := by
        rw [add_assoc, take_add]
      rw [if_neg last, nested_text _ _ _ _ _ within, replace_last _ pair_real _ _ p _ pair (by simp; omega),
        legacy_pair_start _ _ (ascii_drop ascii p) (value_drop bytes p) n legacyFuel start (by rw [length_drop]; omega),
        behind, front, append_assoc,
        ih legacyFuel _ _ (ascii_drop ascii _) (value_drop bytes _) (by rw [length_drop]; omega) (by rw [length_drop]; omega)]

theorem inside_agrees (value) (ascii : Ascii value) (bytes : Value value) :
    redactPairsInside isSensitiveFieldName value = legacyPairsInside isSensitiveFieldName value := by
  rw [redactPairsInside, legacyPairsInside]
  cases found : keyPrefixPattern.find value with
  | none =>
    have absent := no_pair ascii found
    rw [replace_none _ pair_real _ _ absent, replace_none _ pair_real _ _ absent]
  | some first =>
    obtain ⟨p, _⟩ := first
    obtain ⟨n, inner, -, -, _, pair⟩ := first_key_in_value ascii bytes found
    by_cases last : value.length ≤ p + n + 1
    · rw [if_neg (by omega)] at pair
      rw [replace_none _ pair_real _ _ pair, replace_none _ pair_real _ _ pair]
    rw [if_pos (by omega)] at pair
    obtain ⟨-, -, -, -, start⟩ := key_in_value bytes inner
    have size : (value.drop p).length = value.length - p := length_drop
    have reaches : value.length ≤ p + (value.drop p).length := by omega
    obtain ⟨fuel, count⟩ := Nat.exists_eq_add_one_of_ne_zero (by omega : (value.drop p).length ≠ 0)
    have here := find_pair_start (ascii_drop ascii p) (value_drop bytes p) start (by omega)
    have whole : redactKeyValuePair isSensitiveFieldName (value.drop p) =
        (value.drop p).take (n + 1) ++ insideValue isSensitiveFieldName ((value.drop p).drop (n + 1))
          ((value.drop p).take n) (value.drop p).length := by
      rw [← nested_text _ _ _ _ _ (by omega), redactKeyValuePair, here]
      dsimp only
      cases nestedSensitive isSensitiveFieldName (value.drop p) (value.drop p).length ((value.drop p).take n) (n + 1) (value.drop p).length with
      | none => rfl
      | some start => simp only [drop_length, append_nil]
    rw [replace_last _ pair_real _ _ p _ pair reaches, replace_last _ pair_real _ _ p _ pair reaches, whole]
    rw [inside_value isSensitiveFieldName _ fuel _ _ (ascii_drop (ascii_drop ascii p) _)
      (value_drop (value_drop bytes p) _) (by rw [length_drop]; omega) (by rw [length_drop]; omega)]
    simp only [count]
    rw [legacy_pair_start _ _ (ascii_drop ascii p) (value_drop bytes p) n fuel start (by omega)]

end

variable (isSensitiveFieldName : Bytes → Bool)

def IsValue (s : Bytes) (start stop : Nat) : Prop := start < stop ∧ stop = start + width isValueByte (s.drop start)

variable {text : Bytes}

theorem key_sign {prev} {n m} (key : keyAt prev text = some (n, m)) : 0 < m := by
  rw [keyAt] at key
  split at key
  · cases key
    omega
  · cases key

variable {s : Bytes} {pos : Nat}

theorem find_pair_value (ascii : Ascii s) {pair} (found : findPair s pos = some pair) :
    pos < pair.valueStart ∧ IsValue s pair.valueStart pair.valueEnd := by
  rw [findPair, map_eq_some_iff] at found
  obtain ⟨⟨p, hit⟩, found, rfl⟩ := found
  obtain ⟨_, -, here⟩ := find_some _ pair_real _ p hit found
  rw [pair_in (ascii_drop ascii pos), bind_eq_some_iff] at here
  obtain ⟨⟨_, _⟩, key, here⟩ := here
  have sign := key_sign key
  simp only [drop_drop] at here
  split at here
  · cases here
  rename_i present
  cases here
  simp only [Hit.span, find?_cons, beq_self_eq_true, map_some, getD_some, IsValue]
  omega

theorem name_short (ends : text[width isValueByte text - 1]? = some equals) {q} (inside : q < width isValueByte text) :
    q + width isNameByte (text.drop q) < width isValueByte text := by
  have count := width_drop isValueByte text q (le_of_lt inside)
  have bound := width_mono isNameByte isValueByte name_value (text.drop q)
  by_contra long
  have name := width_inside isNameByte (text.drop q) (width isValueByte text - 1 - q) (by omega)
  have index : q + (width isValueByte text - 1 - q) = width isValueByte text - 1 := by omega
  rw [getElem?_drop, index, ends] at name
  cases name

theorem pair_after_prefix (ascii : Ascii text) (ends : text[width isValueByte text - 1]? = some equals) {p}
    {hit} (found : keyPrefixPattern.find (text.take (width isValueByte text)) = some (p, hit))
    (more : p + hit.text.length < width isValueByte text) :
    findPair text 0 = some ⟨hit.group 1, p + hit.text.length, width isValueByte text⟩ := by
  have run : Value (text.take (width isValueByte text)) := by
    rw [take_width]
    exact fun b member => mem_takeWhile_imp member
  have asciiRun := ascii_take ascii (width isValueByte text)
  obtain ⟨-, clear, -⟩ := find_some _ prefix_real _ p hit found
  obtain ⟨n, key, length, name, -, -⟩ := first_key_in_value asciiRun run found
  rw [length] at more ⊢
  have whole := width_le isValueByte text
  have value : width isValueByte (text.drop (p + (n + 1))) = width isValueByte text - (p + (n + 1)) := width_drop isValueByte text _ (by omega)
  have spaces : width isSpace (text.drop (p + n + 1)) = 0 := by
    have apart := any_apart value_not_space (width_inside isValueByte text (p + n + 1) (by omega))
    rw [← head?_drop, head_any] at apart
    simpa using apart
  have key' : keyIn text p = some (n, 1) := by
    rw [key_in_run (name_short ends (by omega)), key, map_some, spaces]
  have here : matchIn keyValuePattern none text p = some ⟨(text.drop p).take (width isValueByte text - p),
      [(3, n + 1, width isValueByte text - p), (2, n, n + 1), (1, 0, n)]⟩ := by
    have size : n + 1 + (width isValueByte text - (p + (n + 1))) = width isValueByte text - p := by omega
    rw [pair_in ascii, key']
    simp only [bind_some, drop_drop, value, size]
    rw [if_neg (by omega)]
  have clear' (q : Nat) (before : q < p) : matchIn keyValuePattern none text q = none := by
    have none := clear q before
    rw [prefix_in asciiRun, map_eq_none_iff] at none
    rw [pair_in ascii, key_in_run (name_short ends (by omega)), none]
    rfl
  have first := find_found _ pair_real text p _ (by omega) clear' here
  have stop : p + (width isValueByte text - p) = width isValueByte text := by omega
  rw [findPair, drop_zero, first, name, drop_take]
  simp [Hit.group, Hit.span, stop]

theorem find_pair_shift (s) (pos : Nat) :
    findPair s pos = (findPair (s.drop pos) 0).map fun pair => ⟨pair.key, pos + pair.valueStart, pos + pair.valueEnd⟩ := by
  rw [findPair, findPair, Option.map_map, drop_zero]
  simp only [Function.comp_def, zero_add, add_assoc]

variable {start stop : Nat}

theorem slice_value (value : IsValue s start stop) : slice s start stop = (s.drop start).take (width isValueByte (s.drop start)) := by
  rw [slice, value.2, Nat.add_sub_cancel_left]

theorem prefix_step (ascii : Ascii s) (value : IsValue s start stop) {inner} {reach} (found : prefixInsideValue s start stop = some (inner, reach)) :
    0 < reach ∧ (start + reach < stop → findPair s start = some ⟨inner, start + reach, stop⟩ ∧ IsValue s (start + reach) stop) := by
  rw [prefixInsideValue] at found
  split at found
  · rename_i ends
    rw [keyPrefix, map_eq_some_iff] at found
    obtain ⟨⟨p, hit⟩, found, shape⟩ := found
    simp only [Prod.mk.injEq] at shape
    obtain ⟨rfl, rfl⟩ := shape
    obtain ⟨-, -, here⟩ := find_some _ prefix_real _ p hit found
    have positive : 0 < hit.text.length := length_pos_iff.mpr (prefix_real _ _ _ here)
    refine ⟨by omega, fun more => ?_⟩
    obtain ⟨below, size⟩ := value
    have sign : (s.drop start)[width isValueByte (s.drop start) - 1]? = some equals := by
      have index : start + (width isValueByte (s.drop start) - 1) = stop - 1 := by omega
      rw [getElem?_drop, index]
      exact eq_of_beq ends
    rw [slice_value ⟨below, size⟩] at found
    have pair := pair_after_prefix (ascii_drop ascii start) sign found (by omega)
    have rest := width_drop isValueByte (s.drop start) (p + hit.text.length) (by omega)
    rw [drop_drop] at rest
    constructor
    · rw [find_pair_shift, pair, map_some, ← size]
    · exact ⟨more, by omega⟩
  · cases found

theorem introduces_after (s) (start stop : Nat) (chained) (after : Nat)
    (introduces : introducesAValue isSensitiveFieldName s start stop chained = some after) : stop ≤ after := by
  rw [introducesAValue] at introduces
  split at introduces
  · cases introduces
    exact Nat.le_add_right _ _
  split at introduces
  · cases introduces
    exact le_rfl
  split at introduces
  · cases introduces
    exact le_rfl
  · obtain ⟨_, -, rfl⟩ := map_eq_some_iff.mp introduces
    exact Nat.le_add_right _ _

theorem value_end_from (s) (fuel start stop : Nat) (chained) : stop ≤ sensitiveValueEndFrom isSensitiveFieldName s fuel start stop chained := by
  induction fuel generalizing start stop chained with
  | zero => exact le_rfl
  | succ _ ih =>
    rw [sensitiveValueEndFrom]
    split
    · exact le_rfl
    rename_i after introduces
    have later := introduces_after isSensitiveFieldName s start stop chained after introduces
    split
    · exact le_rfl
    · rename_i first last ahead
      exact le_trans (le_trans later (Nat.le_add_right _ _)) (ih _ _ _)

def legacyTake (s : Bytes) (fuel : Nat) (front : Bytes) (pair : Pair) : Bytes :=
  if !isSensitiveFieldName pair.key && legacyRewinds s pair then legacyPairsFrom isSensitiveFieldName s fuel pair.valueStart front
  else if isSensitiveFieldName pair.key then
    legacyPairsFrom isSensitiveFieldName s fuel (sensitiveValueEnd isSensitiveFieldName s pair.valueStart pair.valueEnd) (front ++ marker)
  else
    legacyPairsFrom isSensitiveFieldName s fuel pair.valueEnd
      (front ++ legacyPairsInside isSensitiveFieldName (slice s pair.valueStart pair.valueEnd))

def resolvedTake (s : Bytes) (fuel pos : Nat) (out : Bytes) : Resolved → Bytes
  | .rewind start => redactPairsFrom isSensitiveFieldName s fuel start (out ++ slice s pos start)
  | .redact start stop sensitive =>
    redactPairsFrom isSensitiveFieldName s fuel stop (out ++ slice s pos start ++
      if sensitive then marker else redactPairsInside isSensitiveFieldName (slice s start stop))

theorem slice_join (s) (n : Nat) (ordered : pos ≤ start) : slice s pos start ++ slice s start (start + n) = slice s pos (start + n) := by
  obtain ⟨_, rfl⟩ := Nat.exists_eq_add_of_le ordered
  rw [slice, slice, slice, Nat.add_sub_cancel_left, Nat.add_sub_cancel_left, add_assoc, Nat.add_sub_cancel_left, take_add, drop_drop]

theorem rewinds_iff (s pair) : legacyRewinds s pair =
      ((prefixInsideValue s pair.valueStart pair.valueEnd).isSome || (separatorAt s pair.valueEnd).isSome) := by
  rw [legacyRewinds, prefixInsideValue]
  cases endsInSeparator s pair.valueEnd with
  | false => rfl
  | true => rfl

theorem legacy_pairs_some (s) (fuel pos : Nat) (out pair) (found : findPair s pos = some pair) :
    legacyPairsFrom isSensitiveFieldName s (fuel + 1) pos out = legacyTake isSensitiveFieldName s fuel (out ++ slice s pos pair.valueStart) pair := by
  rw [legacyPairsFrom, found]
  rfl

theorem redact_pairs_some (s) (fuel pos : Nat) (out pair) (found : findPair s pos = some pair) :
    redactPairsFrom isSensitiveFieldName s (fuel + 1) pos out = resolvedTake isSensitiveFieldName s fuel pos out
        (resolvePair isSensitiveFieldName s pair.key pair.valueStart pair.valueEnd) := by
  rw [redactPairsFrom, found]
  simp only
  cases resolvePair isSensitiveFieldName s pair.key pair.valueStart pair.valueEnd with
  | rewind => rfl
  | redact => rfl

theorem pairs_none (s) (fuel pos : Nat) (out) (absent : findPair s pos = none) :
    redactPairsFrom isSensitiveFieldName s fuel pos out = out ++ s.drop pos ∧
      legacyPairsFrom isSensitiveFieldName s fuel pos out = out ++ s.drop pos := by
  cases fuel with
  | zero => exact ⟨rfl, rfl⟩
  | succ =>
    rw [redactPairsFrom, legacyPairsFrom, absent]
    exact ⟨rfl, rfl⟩

theorem value_inside (value : IsValue s start stop) : stop ≤ s.length := by
  have bound := width_le isValueByte (s.drop start)
  rw [length_drop] at bound
  obtain ⟨_, _⟩ := value
  omega

def Agree (s : Bytes) (pos : Nat) : Prop := ∀ out fuel legacyFuel, s.length - pos ≤ fuel → s.length - pos ≤ legacyFuel →
    redactPairsFrom isSensitiveFieldName s fuel pos out = legacyPairsFrom isSensitiveFieldName s legacyFuel pos out

theorem resolve_agrees (s) (ascii : Ascii s) (depth : Nat) (key) (start stop : Nat)
    (value : IsValue s start stop) (enough : stop - start ≤ depth) (later : ∀ pos, start ≤ pos → Agree isSensitiveFieldName s pos)
    (pos : Nat) (before : pos ≤ start) (out) (fuel legacyFuel : Nat) (more : s.length - start ≤ fuel)
    (moreLegacy : s.length - start ≤ legacyFuel) :
    resolvedTake isSensitiveFieldName s fuel pos out (resolvePairFrom isSensitiveFieldName s depth key start stop) =
      legacyTake isSensitiveFieldName s legacyFuel (out ++ slice s pos start) ⟨key, start, stop⟩ := by
  induction depth generalizing key start legacyFuel with
  | zero =>
    have below := value.1
    omega
  | succ _ ih =>
    rw [resolvePairFrom, legacyTake]
    have below := value.1
    cases sensitive : isSensitiveFieldName key with
    | true =>
      have reach := value_end_from isSensitiveFieldName s s.length start stop false
      rw [← sensitiveValueEnd] at reach
      simp only [if_true, Bool.not_true, Bool.false_and, Bool.false_eq_true, if_false, resolvedTake]
      exact later _ (by omega) _ _ _ (by omega) (by omega)
    | false =>
      simp only [Bool.false_eq_true, if_false, Bool.not_false, Bool.true_and]
      rw [rewinds_iff]
      cases nested : prefixInsideValue s start stop with
      | some found =>
        obtain ⟨inner, reach⟩ := found
        obtain ⟨_, step⟩ := prefix_step ascii value nested
        simp only [isSome_some, Bool.true_or, if_true]
        by_cases further : start + reach < stop
        · obtain ⟨pair, value'⟩ := step further
          have inside := value_inside value
          obtain ⟨legacyFuel, rfl⟩ := Nat.exists_eq_add_one_of_ne_zero (by omega : legacyFuel ≠ 0)
          rw [if_pos further, legacy_pairs_some _ _ _ _ _ _ pair, append_assoc, slice_join s reach before]
          exact ih inner (start + reach) value' (by omega) (fun pos after => later pos (by omega)) (by omega) legacyFuel (by omega) (by omega)
        · simp only [if_neg further, resolvedTake]
          exact later _ le_rfl _ _ _ more moreLegacy
      | none =>
        simp only [isSome_none, Bool.false_or]
        cases separatorAt s stop with
        | some => exact later _ le_rfl _ _ _ more moreLegacy
        | none =>
          have bytes : Value (slice s start stop) := by
            rw [slice_value value, take_width]
            exact fun b member => mem_takeWhile_imp member
          have inside := inside_agrees isSensitiveFieldName _ (ascii_slice ascii start stop) bytes
          simp only [isSome_none, Bool.false_eq_true, if_false, resolvedTake, inside]
          exact later _ (le_of_lt below) _ _ _ (by omega) (by omega)

theorem scan_agrees (s) (ascii : Ascii s) (pos : Nat) : Agree isSensitiveFieldName s pos := by
  -- on what is left behind the position
  induction left : s.length - pos using Nat.strong_induction_on generalizing pos with
  | _ _ ih =>
    subst left
    intro out fuel legacyFuel _ _
    cases found : findPair s pos with
    | none =>
      obtain ⟨redacted, -⟩ := pairs_none isSensitiveFieldName s fuel pos out found
      obtain ⟨-, legacy⟩ := pairs_none isSensitiveFieldName s legacyFuel pos out found
      rw [redacted, legacy]
    | some =>
      obtain ⟨ahead, value⟩ := find_pair_value ascii found
      have inside := value_inside value
      have below := value.1
      obtain ⟨fuel, rfl⟩ := Nat.exists_eq_add_one_of_ne_zero (by omega : fuel ≠ 0)
      obtain ⟨legacyFuel, rfl⟩ := Nat.exists_eq_add_one_of_ne_zero (by omega : legacyFuel ≠ 0)
      rw [redact_pairs_some _ _ _ _ _ _ found, legacy_pairs_some _ _ _ _ _ _ found, resolvePair]
      exact resolve_agrees isSensitiveFieldName s ascii s.length _ _ _ value (by omega)
        (fun later after => ih _ (by omega) later rfl) pos (le_of_lt ahead) out fuel legacyFuel (by omega) (by omega)

theorem pair_redactors_agree (s : Bytes) (ascii : Ascii s) :
    redactKeyValuePairs isSensitiveFieldName s = legacyRedactKeyValuePairs isSensitiveFieldName s :=
  scan_agrees isSensitiveFieldName s ascii 0 [] s.length s.length (Nat.sub_le _ _) (Nat.sub_le _ _)

theorem nested_pair_redacted_alike :
    redactKeyValuePairs (fun name => name == Bytes.utf8 "cpf".toList) (Bytes.utf8 "a=b=cpf= 1".toList) =
      legacyRedactKeyValuePairs (fun name => name == Bytes.utf8 "cpf".toList) (Bytes.utf8 "a=b=cpf= 1".toList) := by
  apply pair_redactors_agree
  change ∀ b ∈ Bytes.utf8 "a=b=cpf= 1".toList, b < 128
  decide +kernel

end LibCommons.Sanitize
