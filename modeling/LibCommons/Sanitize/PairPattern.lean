import LibCommons.Lib.Committed
import LibCommons.Sanitize.KeyValue

namespace LibCommons.Sanitize

open Regex

open List hiding all any iterate

section

def Ascii (text : Bytes) : Prop := ∀ b ∈ text, b < 128

variable {text : Bytes}

theorem ascii_drop (ascii : Ascii text) (n : Nat) : Ascii (text.drop n) := fun b member => ascii b (mem_of_mem_drop member)

theorem ascii_take (ascii : Ascii text) (n : Nat) : Ascii (text.take n) := fun b member => ascii b (mem_of_mem_take member)

theorem ascii_slice (ascii : Ascii text) (start stop : Nat) : Ascii (slice text start stop) := ascii_take (ascii_drop ascii start) _

theorem ascii_not (text : Bytes) (ascii : Ascii text) (high : UInt8) (outside : ¬ high < 128) : text.head?.any (fun b => b == high) = false := by
  cases text with
  | nil => rfl
  | cons b =>
    rw [head?_cons, Option.any_some, beq_eq_false_iff_ne]
    rintro rfl
    exact outside (ascii b mem_cons_self)

variable {place : Place UInt8}

theorem run_fold_class (accepts : UInt8 → Bool) (ascii : Ascii place.rest) : run (foldClass accepts) place = run (one accepts) place := by
  have noLong : run longS place = [] := by
    rw [longS, run, run_one_head, ascii_not _ ascii 0xC5 (by decide)]
    rfl
  have noKelvin : run kelvin place = [] := by
    rw [kelvin, run, run_one_head, ascii_not _ ascii 0xE2 (by decide)]
    rfl
  simp only [foldClass, any, run, noLong, noKelvin, append_nil]

theorem run_star_fold (accepts : UInt8 → Bool) (ascii : Ascii place.rest) :
    run (star (foldClass accepts)) place = run (star (one accepts)) place := by
  have steps (fuel : Nat) (place : Place UInt8) (ascii : Ascii place.rest) :
      iterate (run (foldClass accepts)) fuel place = iterate (run (one accepts)) fuel place := by
    induction fuel generalizing place with
    | zero => rfl
    | succ fuel ih =>
      rw [iterate, iterate, run_fold_class accepts ascii]
      congr 1
      apply flatMap_congr
      intro _ member
      apply ih
      obtain ⟨_, shape, -⟩ := run_reaches _ _ _ member
      exact fun b inside => ascii b (shape ▸ mem_append_right _ inside)
  exact steps _ place ascii

end

def isNameByte (b : UInt8) : Bool := isLetter b || isDigit b || byteOf ['.', '_', '-'] b

theorem letter_word : ∀ b, isLetter b = true → isWord b = true := class_inside _ _ (by decide +kernel)

theorem letter_name : ∀ b, isLetter b = true → isNameByte b = true := class_inside _ _ (by decide +kernel)

theorem name_value : ∀ b, isNameByte b = true → isValueByte b = true := class_inside _ _ (by decide +kernel)

theorem space_not_value : ∀ b, isSpace b = true → isValueByte b = false := class_apart _ _ (by decide +kernel)

theorem value_not_space : ∀ b, isValueByte b = true → isSpace b = false := class_apart _ _ (by decide +kernel)

theorem name_not_space : ∀ b, isNameByte b = true → isSpace b = false := class_apart _ _ (by decide +kernel)

theorem run_name {place} (ascii : Ascii place.rest) : run keyValueName place =
      if place.rest.head?.any isLetter then
        (List.range (width isNameByte place.rest - 1 + 1)).reverse.map fun k => place.past (k + 1)
      else [] := by
  rw [keyValueName, run, run_fold_class _ ascii, run_one_head]
  split
  · rename_i letter
    have positive : width isNameByte place.rest ≠ 0 := by
      have named := any_inside letter_name letter
      simpa [head_any] using named
    have count : width isNameByte (place.rest.drop 1) = width isNameByte place.rest - 1 :=
      width_drop isNameByte place.rest 1 (Nat.one_le_iff_ne_zero.mpr positive)
    have moved : (place.past 1).past = fun k => place.past (k + 1) := by
      funext k
      rw [past_past, add_comm]
    rw [flatMap_singleton, run_star_fold _ (ascii_drop ascii 1), run_star_one, moved]
    exact congrArg (fun n => (List.range (n + 1)).reverse.map fun k => place.past (k + 1)) count
  · rfl

theorem run_named (second : Pattern) (place : Place UInt8) (ascii : Ascii place.rest)
    (dead : ∀ place : Place UInt8, place.rest.head?.any isNameByte = true → run second place = []) :
    run (seq wordEdge (seq (group 1 keyValueName) second)) place =
      if !place.prev.any isWord && place.rest.head?.any isLetter then
        run second ((place.past (width isNameByte place.rest)).mark 1 place.pos)
      else [] := by
  rw [run, wordEdge, run]
  cases letter : place.rest.head?.any isLetter with
  | false =>
    have unnamed : run (seq (group 1 keyValueName) second) place = [] := by
      rw [run, run, run_name ascii, letter]
      rfl
    rw [Bool.and_false]
    split
    · rw [flatMap_singleton, unnamed]
      rfl
    · rfl
  | true =>
    have word := any_inside letter_word letter
    have named := any_inside letter_name letter
    have count : width isNameByte place.rest - 1 + 1 = width isNameByte place.rest := by
      simp only [head_any, decide_eq_true_eq] at named
      omega
    rw [word, Bool.and_true, Bool.bne_true]
    split
    · rw [flatMap_singleton, run, run_group, run_name ascii, if_pos letter, map_map, commit]
      · rw [Function.comp_apply, count]
      intro k _
      apply dead
      have inside := width_inside isNameByte place.rest (k + 1) (by omega)
      rwa [← head?_drop] at inside
    · rfl

section

variable (place : Place UInt8)

theorem run_separator : run keyValueSeparator place =
      if place.rest[width isSpace place.rest]? = some equals then
        (List.range (width isSpace (place.rest.drop (width isSpace place.rest + 1)) + 1)).reverse.map fun k =>
          place.past (width isSpace place.rest + 1 + k)
      else [] := by
  have sign (place : Place UInt8) : run (seq (byte '=') (star (one isSpace))) place =
      if place.rest.head? = some equals then run (star (one isSpace)) (place.past 1) else [] := by
    rw [run, byte, run_one_head]
    cases place.rest.head? with
    | none => rfl
    | some b =>
      by_cases same : b = equals
      · subst same
        exact flatMap_singleton _ _
      · have other : (b == '='.toUInt8) = false := beq_eq_false_iff_ne.mpr same
        simp [other, same]
  change run (seq (star (one isSpace)) (seq (byte '=') (star (one isSpace)))) place = _
  rw [run_star_seq, sign]
  · have here : (place.past (width isSpace place.rest)).rest.head? = place.rest[width isSpace place.rest]? := head?_drop
    rw [here]
    split
    · have moved : ((place.past (width isSpace place.rest)).past 1).past = fun k => place.past (width isSpace place.rest + 1 + k) := by
        funext k
        rw [past_past, past_past, add_assoc]
      rw [run_star_one, moved, past_past]
      rfl
    · rfl
  · intro k below
    have space := width_inside isSpace place.rest k below
    have here : (place.past k).rest.head? = place.rest[k]? := head?_drop
    rw [sign, if_neg]
    intro sign
    rw [← here, sign] at space
    cases space

theorem separator_dead (name : place.rest.head?.any isNameByte = true) : run keyValueSeparator place = [] := by
  have spaces : width isSpace place.rest = 0 := by
    have apart := any_apart name_not_space name
    simpa [head_any] using apart
  rw [run_separator, spaces, if_neg]
  intro sign
  rw [← head?_eq_getElem?, ] at sign
  rw [sign] at name
  cases name

theorem run_pair_tail : (run (seq (group 2 keyValueSeparator) (group 3 (plus (one isValueByte)))) place).head? = let space := width isSpace place.rest
      let separator := space + 1 + width isSpace (place.rest.drop (space + 1))
      let value := width isValueByte (place.rest.drop separator)
      if place.rest[space]? = some equals ∧ value ≠ 0 then
        some ((((place.past separator).mark 2 place.pos).past value).mark 3 (place.pos + separator))
      else none := by
  rw [run, run_group, run_separator]
  split
  · rename_i sign
    rw [map_map, commit]
    · simp only [run_group, head?_map, run_plus_one, Function.comp_apply, mark_rest, past_rest, sign, true_and, ne_eq, ite_not, mark_pos, past_pos]
      split
      · rename_i absent
        simp [absent]
      · rename_i present
        simp [present]
    · intro k below
      have space := width_inside isSpace _ k below
      have value := any_apart space_not_value space
      rw [getElem?_drop, ← head?_drop] at value
      rw [run_group, plus, run, run_one_head, Function.comp_apply, mark_rest, past_rest, value]
      rfl
  · rename_i sign
    exact (if_neg fun both => sign both.1).symm

end

def keyAt (prev : Option UInt8) (text : Bytes) : Option (Nat × Nat) :=
  let name := width isNameByte text
  let space := width isSpace (text.drop name)
  if (!prev.any isWord && text.head?.any isLetter) = true ∧ text[name + space]? = some equals then
    some (name, space + 1 + width isSpace (text.drop (name + space + 1)))
  else none

variable {text : Bytes}

theorem match_key_prefix (prev : Option UInt8) (ascii : Ascii text) : keyPrefixPattern.matchAt prev text =
      (keyAt prev text).map fun key => ⟨text.take (key.1 + key.2), [(1, 0, key.1)]⟩ := by
  rw [matchAt]
  change ((run (seq wordEdge (seq (group 1 keyValueName) keyValueSeparator)) ⟨prev, 0, text, []⟩).head?.map _) = _
  rw [run_named _ _ ascii separator_dead]
  cases start : !prev.any isWord && text.head?.any isLetter with
  | false => simp [keyAt, start]
  | true =>
    simp only [if_true, run_separator, mark_rest, past_rest, keyAt, start, true_and, getElem?_drop, drop_drop]
    split
    · rw [range_head, Option.map_some, Option.map_some]
      simp [add_assoc]
    · rfl

theorem match_key_value (prev : Option UInt8) (ascii : Ascii text) : keyValuePattern.matchAt prev text = (keyAt prev text).bind fun key =>
        let value := width isValueByte (text.drop (key.1 + key.2))
        if value = 0 then none
        else some ⟨text.take (key.1 + key.2 + value), [(3, key.1 + key.2, key.1 + key.2 + value), (2, key.1, key.1 + key.2), (1, 0, key.1)]⟩ := by
  have dead (place : Place UInt8) (name : place.rest.head?.any isNameByte = true) :
      run (seq (group 2 keyValueSeparator) (group 3 (plus (one isValueByte)))) place = [] := by
    rw [run, run, separator_dead place name]
    rfl
  rw [matchAt]
  change ((run (seq wordEdge (seq (group 1 keyValueName)
    (seq (group 2 keyValueSeparator) (group 3 (plus (one isValueByte)))))) ⟨prev, 0, text, []⟩).head?.map _) = _
  rw [run_named _ _ ascii dead]
  cases start : !prev.any isWord && text.head?.any isLetter with
  | false => simp [keyAt, start]
  | true =>
    rw [if_pos rfl, run_pair_tail]
    simp only [mark_rest, past_rest, keyAt, start, true_and, getElem?_drop, drop_drop]
    by_cases sign : text[width isNameByte text + width isSpace (text.drop (width isNameByte text))]? = some equals
    · simp only [sign, true_and, if_true, Option.bind_some, add_assoc]
      split
      · simp [add_assoc]
      · rename_i absent
        simp [not_not.mp absent]
    · simp only [sign, false_and, if_false, Option.map_none, Option.bind_none]

end LibCommons.Sanitize
