import LibCommons.Sanitize.CardWindows
import LibCommons.Sanitize.PairScan
import LibCommons.Sanitize.Passes

namespace LibCommons.Sanitize

open Regex List Option Bytes Masking

theorem unmarked_masks {pattern} (refused : refuses [42] pattern = true) (positive : 0 < least pattern) (s) :
    Masks s (pattern.replaceAll (fun _ => marker) s) := by
  apply replace_masks
  intro prev text hit found front
  obtain ⟨last, -, shape, -, -⟩ := match_at_some found
  have clear := match_without [42] pattern refused prev text hit found 42 mem_cons_self
  obtain ⟨b, member⟩ := exists_mem_of_ne_nil _ (real_least _ positive prev text hit found)
  have masked := masked_span 42 4 front hit.text last.rest (.inl ⟨b, member, fun same => clear (same ▸ member)⟩)
  rwa [shape, drop_left, ← append_assoc, marker_mask]

theorem bare_masks (s) : Masks s (bareSecretPatterns.foldl (fun s pattern => pattern.replaceAll (fun _ => marker) s) s) := by
  have shape : ∀ pattern ∈ bareSecretPatterns, refuses [42] pattern = true ∧ 0 < least pattern := by decide
  generalize bareSecretPatterns = patterns at shape ⊢
  induction patterns generalizing s with
  | nil => exact masks_refl s
  | cons _ _ ih =>
    obtain ⟨⟨refused, positive⟩, later⟩ := forall_mem_cons.mp shape
    exact masks_trans (unmarked_masks refused positive s) (ih _ later)

section

-- A card number as it is printed.
structure CardText (text : Bytes) : Prop where
  digits : ∀ b ∈ cardSeparators text, isDigit b = true
  least : minCardDigits ≤ (cardSeparators text).length
  most : (cardSeparators text).length ≤ maxCardDigits
  luhn : passesLuhn (cardSeparators text) = true

abbrev CardSpliced (before after : Bytes) : Prop := Spliced 42 4 CardText before after

variable {text : Bytes}

theorem luhn_card (least : minCardDigits ≤ (cardSeparators text).length) (most : (cardSeparators text).length ≤ maxCardDigits)
    (luhn : passesLuhn (cardSeparators text) = true) : CardText text :=
  ⟨fun b member => luhn_digits _ _ _ luhn b (mem_reverse.mpr member), least, most, luhn⟩

theorem card_proper (text) (card : CardText text) : (42 : UInt8) ∉ text ∧ 4 < text.length := by
  constructor
  · intro member
    cases card.digits 42 (mem_filter.mpr ⟨member, by decide⟩)
  · have fewer := length_filter_le (fun b => !byteOf [' ', '.', '-'] b) text
    exact lt_of_lt_of_le (by decide) (le_trans card.least fewer)

theorem legacy_window_card {groups} {start stop} (found : legacyCardWindow text groups = some (start, stop)) : CardText (slice text start stop) := by
  obtain ⟨_, -, found⟩ := exists_of_findSome?_eq_some found
  obtain ⟨_, -, found⟩ := exists_of_findSome?_eq_some found
  simp only at found
  split at found
  · cases found
  rename_i fits
  rw [some_inj, Prod.mk.injEq] at found
  obtain ⟨rfl, rfl⟩ := found
  simp only [not_or, not_lt, Bool.not_eq_true', Bool.not_eq_false] at fits
  exact luhn_card fits.1 fits.2.1 fits.2.2

theorem legacy_run_spliced (fuel : Nat) (text) : CardSpliced text (legacyInsideRun fuel text) := by
  induction fuel generalizing text with
  | zero => exact spliced_refl text
  | succ _ ih =>
    rw [legacyInsideRun]
    cases found : legacyCardWindow text (digitGroups text) with
    | none => exact spliced_refl text
    | some card =>
      obtain ⟨start, stop⟩ := card
      have here := legacy_window_card found
      have ordered : start ≤ stop := by
        have long := (card_proper _ here).2
        rw [slice, length_take] at long
        omega
      have whole := drop_slices text (Nat.zero_le start) ordered
      rw [drop_zero] at whole
      conv_lhs => rw [whole]
      rw [marker_mask]
      exact spliced_append (spliced_append (spliced_refl _) (spliced_whole here)) (ih _)

theorem run_digits {n} {place last} (member : last ∈ run (digits n) place) :
    ∃ consumed, place.rest = consumed ++ last.rest ∧ consumed.length = n ∧ ∀ b ∈ consumed, isDigit b = true := by
  induction n generalizing place with
  | zero =>
    rw [mem_singleton.mp member]
    exact ⟨[], rfl, rfl, by simp⟩
  | succ _ ih =>
    obtain ⟨_, first, member⟩ := mem_flatMap.mp member
    rw [run_one_head] at first
    split at first
    · rename_i digit
      rw [mem_singleton.mp first] at member
      obtain ⟨consumed, shape, length, all⟩ := ih member
      cases rest : place.rest with
      | nil =>
        rw [rest] at digit
        cases digit
      | cons b =>
        rw [rest] at digit
        refine ⟨b :: consumed, ?_, by rw [length_cons, length], forall_mem_cons.mpr ⟨digit, all⟩⟩
        rw [cons_append, ← shape]
        simp [Place.past, rest]
    · cases first

theorem count_digits (between) {digits} (all : ∀ b ∈ digits, isDigit b = true) (back) :
    digits.length + (cardSeparators back).length ≤ (cardSeparators (between ++ (digits ++ back))).length := by
  have kept : cardSeparators digits = digits := by
    refine filter_eq_self.mpr fun b member => ?_
    exact class_inside isDigit (fun b => !byteOf [' ', '.', '-'] b) (by decide +kernel) b (all b member)
  have parts : cardSeparators (between ++ (digits ++ back)) = cardSeparators between ++ (digits ++ cardSeparators back) := by
    conv_rhs => rw [← kept]
    simp only [cardSeparators, filter_append]
  rw [parts, length_append, length_append]
  omega

theorem short_tail_card {candidate} {hit} (found : cardShortTailPattern.matchAt none candidate = some hit) :
    minCardDigits ≤ (cardSeparators (hit.group 1)).length ∧ hit.group 1 <+: candidate := by
  rw [matchAt, map_eq_some_iff] at found
  obtain ⟨last, first, rfl⟩ := found
  obtain ⟨head, here, member⟩ := mem_flatMap.mp (mem_of_head? first)
  obtain ⟨marks, -⟩ := group_step (by decide) here
  have later := run_marks _ (by decide) head last member
  have ahead := run_least _ head last member
  rw [group_slice _ candidate last.pos 1 0 head.pos rfl (by simp [Hit.span, later, marks]) (by omega)]
  refine ⟨?_, take_prefix _ _⟩
  obtain ⟨inner, inside, rfl⟩ := List.mem_map.mp here
  obtain ⟨consumed, whole, pos⟩ := run_reaches _ _ inner inside
  obtain ⟨_, ones, inside⟩ := mem_flatMap.mp inside
  obtain ⟨two, gap, inside⟩ := mem_flatMap.mp inside
  obtain ⟨_, twos, inside⟩ := mem_flatMap.mp inside
  obtain ⟨four, gap', threes⟩ := mem_flatMap.mp inside
  obtain ⟨front, shape, _, all⟩ := run_digits ones
  obtain ⟨mid, shape', _, all'⟩ := run_digits twos
  obtain ⟨back, shape'', _', all''⟩ := run_digits threes
  obtain ⟨sep, between, -⟩ := run_reaches _ _ two gap
  obtain ⟨sep', between', -⟩ := run_reaches _ _ four gap'
  have parts : consumed = [] ++ (front ++ (sep ++ (mid ++ (sep' ++ (back ++ []))))) := by
    refine append_cancel_right (?_ : _ ++ inner.rest = _ ++ inner.rest)
    rw [← whole, shape, between, shape', between', shape'']
    simp
  have start := count_digits [] all (sep ++ (mid ++ (sep' ++ (back ++ []))))
  have middle := count_digits sep all' (sep' ++ (back ++ []))
  have tail := count_digits sep' all'' []
  have taken : slice candidate 0 inner.pos = consumed := by
    simp only [zero_add] at pos
    rw [slice, drop_zero, Nat.sub_zero, pos, show candidate = consumed ++ inner.rest from whole, take_left]
  change minCardDigits ≤ (cardSeparators (slice candidate 0 inner.pos)).length
  rw [taken, parts, minCardDigits]
  omega

theorem candidate_spliced (candidate) : CardSpliced candidate (redactCardCandidate candidate) := by
  rw [redactCardCandidate]
  split
  · rw [inside_run_legacy]
    exact legacy_run_spliced _ candidate
  rename_i few
  split
  · split
    · rename_i hit found
      split
      · rename_i luhn
        obtain ⟨least, rest, whole⟩ := short_tail_card found
        have most : (cardSeparators (hit.group 1)).length ≤ maxCardDigits := by
          rw [← whole, cardSeparators, filter_append, length_append, ← cardSeparators] at few
          omega
        have behind : candidate.drop (hit.group 1).length = rest := by rw [← whole, drop_left]
        rw [behind, marker_mask]
        conv_lhs => rw [← whole]
        exact .cut (luhn_card least most luhn) (spliced_refl rest)
      · exact spliced_refl _
    · exact spliced_refl _
  · rename_i card
    simp only [not_or, not_lt, Bool.not_eq_true', Bool.not_eq_false] at few card
    rw [marker_mask]
    exact spliced_whole (luhn_card card.1 few card.2)

theorem card_spliced_trans {first second third} (one : CardSpliced first second) (other : CardSpliced second third) : CardSpliced first third :=
  spliced_trans (by decide) card_proper one other

theorem card_round_spliced (text) : CardSpliced text (cardRound text) := by
  rw [cardRound]
  generalize cardCandidatePatterns = patterns
  induction patterns generalizing text with
  | nil => exact spliced_refl text
  | cons pattern _ ih =>
    exact card_spliced_trans (spliced_replace pattern _ (fun hit => candidate_spliced hit.text) text) (ih _)

theorem card_rounds_spliced (fuel : Nat) (text) : CardSpliced text (cardRounds fuel text) := by
  induction fuel generalizing text with
  | zero => exact spliced_refl text
  | succ _ ih =>
    rw [cardRounds]
    split
    · exact spliced_refl text
    · exact card_spliced_trans (card_round_spliced text) (ih (cardRound text))

-- The loop has stopped after at most as many rounds as there are bytes.
theorem card_rounds_stop (fuel : Nat) (text) (enough : text.length ≤ fuel) :
    (∃ rounds ≤ fuel, cardRounds fuel text = cardRound^[rounds] text) ∧ cardRound (cardRounds fuel text) = cardRounds fuel text := by
  induction fuel generalizing text with
  | zero =>
    rw [length_eq_zero_iff.mp (Nat.le_zero.mp enough)]
    exact ⟨⟨0, le_rfl, rfl⟩, rfl⟩
  | succ _ ih =>
    rw [cardRounds]
    split
    · rename_i fixed
      exact ⟨⟨0, Nat.zero_le _, rfl⟩, fixed⟩
    rename_i changed
    have shorter := (spliced_shorter card_proper (card_round_spliced text)).resolve_left changed
    obtain ⟨⟨rounds, bound, same⟩, fixed⟩ := ih (cardRound text) (by omega)
    exact ⟨⟨rounds + 1, Nat.succ_le_succ bound, same⟩, fixed⟩

theorem cards_redacted (text : Bytes) :
    CardSpliced text (redactCardNumbers text) ∧
      (∃ rounds ≤ text.length, redactCardNumbers text = cardRound^[rounds] text) ∧
      cardRound (redactCardNumbers text) = redactCardNumbers text ∧
      redactCardNumbers (redactCardNumbers text) = redactCardNumbers text := by
  obtain ⟨rounds, fixed⟩ := card_rounds_stop text.length text le_rfl
  refine ⟨card_rounds_spliced text.length text, rounds, fixed, ?_⟩
  rw [← redactCardNumbers] at fixed
  cases length : (redactCardNumbers text).length with
  | zero => rw [redactCardNumbers.eq_1 (redactCardNumbers text), length, cardRounds]
  | succ => rw [redactCardNumbers.eq_1 (redactCardNumbers text), length, cardRounds, if_pos fixed]

theorem cards_masks (text) : Masks text (redactCardNumbers text) := spliced_masked 42 4 card_proper (card_rounds_spliced text.length text) []

end

section

variable (isSensitiveFieldName : Bytes → Bool)

-- A value of a pair: a whole run of value bytes, behind a byte of the pair.
structure Valued (s : Bytes) (start stop : Nat) : Prop where
  positive : 0 < start
  inside : start ≤ s.length
  before : s[start - 1]? ≠ some 42
  value : IsValue s start stop

variable {s : Bytes} {start stop : Nat}

theorem value_behind (value : IsValue s start stop) : s[stop]? ≠ some 42 := by
  rw [value.2, ← head?_drop]
  exact run_behind isValueByte (by decide) s start

theorem pair_tailed {prev} {text} {hit} (found : keyValuePattern.matchAt prev text = some hit) :
    ∃ n, Tailed isValueByte text hit n ∧ width isValueByte (text.drop n) ≠ 0 ∧ hit.span 3 = some (n, n + width isValueByte (text.drop n)) :=
  match_group_tailed isValueByte [_, _, _] (cons_ne_nil _ _) (by decide) (by decide) 3 prev text hit found

variable {pos : Nat}

theorem find_pair_valued {pair} (found : findPair s pos = some pair) : pos < pair.valueStart ∧ Valued s pair.valueStart pair.valueEnd := by
  rw [findPair, map_eq_some_iff] at found
  obtain ⟨⟨p, hit⟩, found, rfl⟩ := found
  obtain ⟨-, -, here⟩ := find_some _ pair_real _ p hit found
  obtain ⟨_, tailed, real, span⟩ := pair_tailed here
  rw [drop_drop] at tailed real span
  obtain ⟨_, inside, before⟩ := tailed_before tailed
  rw [drop_drop, ← add_assoc] at real span
  simp only [span, getD_some]
  exact ⟨by omega, by omega, inside, before, by omega, (add_assoc _ _ _).symm⟩

theorem key_prefix_valued (valued : Valued s start stop) {inner} {reach} (found : keyPrefix s start stop = some (inner, reach)) :
    0 < reach ∧ (start + reach < stop → Valued s (start + reach) stop) := by
  rw [keyPrefix, map_eq_some_iff] at found
  obtain ⟨⟨p, hit⟩, found, same⟩ := found
  simp only [Prod.mk.injEq] at same
  obtain ⟨-, rfl⟩ := same
  obtain ⟨_, -, here⟩ := find_some _ prefix_real _ p hit found
  have real := prefix_real _ _ _ here
  have clear := match_without [42] keyPrefixPattern (by decide) _ _ hit here 42 mem_cons_self
  obtain ⟨_, -, shape, -, -⟩ := match_at_some here
  have positive := length_pos_iff.mpr real
  refine ⟨by omega, fun more => ?_⟩
  have bound := width_le isValueByte (s.drop start)
  rw [length_drop] at bound
  have size := valued.value.2
  have rest := width_drop isValueByte (s.drop start) (p + hit.text.length) (by omega)
  rw [drop_drop] at rest
  have byte : s[start + (p + hit.text.length) - 1]? = hit.text[hit.text.length - 1]? := by
    have inner := slice_byte s start stop (p + hit.text.length - 1) (by omega)
    have index : start + (p + hit.text.length) - 1 = start + (p + hit.text.length - 1) := by omega
    have offset : p + hit.text.length - 1 = p + (hit.text.length - 1) := by omega
    rw [index, ← inner, offset, ← getElem?_drop, shape, getElem?_append_left (by omega)]
  refine ⟨by omega, by omega, ?_, more, by omega⟩
  rw [byte]
  exact fun star => clear (mem_of_getElem? star)

theorem bare_ahead_behind {first last} (ahead : bareValueAhead s pos = some (first, last)) : s[pos + last]? ≠ some 42 := by
  rw [bareValueAhead, map_eq_some_iff] at ahead
  obtain ⟨hit, found, span⟩ := ahead
  obtain ⟨middle, -, -, -, span'⟩ := match_group isValueByte [_] (cons_ne_nil _ _) 1 none (s.drop pos) hit found
  rw [span', getD_some] at span
  obtain ⟨-, rfl⟩ := Prod.mk.inj span
  rw [← getElem?_drop, ← head?_drop]
  exact run_behind isValueByte (by decide) (s.drop pos) middle.pos

variable (s : Bytes)

theorem value_end_behind (fuel start stop : Nat) (chained) (behind : s[stop]? ≠ some 42) :
    s[sensitiveValueEndFrom isSensitiveFieldName s fuel start stop chained]? ≠ some 42 := by
  induction fuel generalizing start stop chained with
  | zero => exact behind
  | succ _ ih =>
    rw [sensitiveValueEndFrom]
    split
    · exact behind
    split
    · exact behind
    · rename_i first last ahead
      exact ih _ _ _ (bare_ahead_behind ahead)

def Sound (s : Bytes) (start : Nat) : Resolved → Prop
  | .rewind start' => start ≤ start'
  | .redact start' stop' _ =>
    start ≤ start' ∧ start' ≤ stop' ∧ start' ≤ s.length ∧ s[start' - 1]? ≠ some 42 ∧ s[stop']? ≠ some 42

theorem resolve_sound (fuel : Nat) (key) (start stop : Nat) (valued : Valued s start stop) :
    Sound s start (resolvePairFrom isSensitiveFieldName s fuel key start stop) := by
  have behind := value_behind valued.value
  have unchanged : Sound s start (.redact start stop false) := ⟨le_rfl, le_of_lt valued.value.1, valued.inside, valued.before, behind⟩
  induction fuel generalizing key start with
  | zero => exact unchanged
  | succ fuel ih =>
    rw [resolvePairFrom]
    split
    · have further := value_end_from isSensitiveFieldName s s.length start stop false
      exact ⟨le_rfl, le_trans (le_of_lt valued.value.1) further, valued.inside, valued.before, value_end_behind isSensitiveFieldName s _ _ _ _ behind⟩
    split
    · rename_i inner reach found
      have named : keyPrefix s start stop = some (inner, reach) := by
        rw [prefixInsideValue] at found
        split at found
        · exact found
        · cases found
      obtain ⟨_, later⟩ := key_prefix_valued valued named
      split
      · rename_i more
        have valued' := later more
        have sound := ih inner (start + reach) valued' ⟨le_rfl, le_of_lt valued'.value.1, valued'.inside, valued'.before, behind⟩
        revert sound
        cases resolvePairFrom isSensitiveFieldName s fuel inner (start + reach) stop with
        | rewind => exact fun ahead => le_trans (Nat.le_add_right _ _) ahead
        | redact => exact fun sound => ⟨le_trans (Nat.le_add_right _ _) sound.1, sound.2⟩
      · exact le_refl start
    · split
      · exact le_refl start
      · exact unchanged

theorem nested_valued (text) (fuel : Nat) (key) (start stop found : Nat) (valued : Valued text start stop)
    (nested : nestedSensitive isSensitiveFieldName text fuel key start stop = some found) : Valued text found stop := by
  induction fuel generalizing key start with
  | zero => cases nested
  | succ _ ih =>
    rw [nestedSensitive] at nested
    split at nested
    · cases nested
      exact valued
    split at nested
    · cases nested
    rename_i inner reach here
    split at nested
    · cases nested
    · rename_i more
      exact ih inner (start + reach) ((key_prefix_valued valued here).2 (by omega)) nested

theorem inside_masks (value front back) (right : back.head? ≠ some 42) :
    Masks (front ++ value ++ back) (front ++ redactPairsInside isSensitiveFieldName value ++ back) := by
  apply masked_replace
  intro _ text hit found _ front
  obtain ⟨last, -, shape, -, -⟩ := match_at_some found
  obtain ⟨n, tailed, -, -⟩ := pair_tailed found
  have rest : text.drop hit.text.length = last.rest := by rw [shape, drop_left]
  have behind := run_behind isValueByte (by decide) text n
  rw [← tailed_length tailed, rest] at behind
  have same : Masks (front ++ text ++ back) (front ++ hit.text ++ last.rest ++ back) := by
    rw [shape, ← append_assoc front]
    exact masks_refl _
  rw [redactKeyValuePair, rest]
  split
  · exact same
  rename_i pair here
  split
  · exact same
  rename_i start nested
  have valued := nested_valued isSensitiveFieldName hit.text _ _ _ _ start (find_pair_valued here).2 nested
  have inner : pair.valueEnd ≤ hit.text.length := value_inside valued.value
  have tail : (last.rest ++ back).head? ≠ some 42 := by
    rw [head?_append]
    cases next : last.rest.head? with
    | none => exact right
    | some =>
      rw [next] at behind
      exact behind
  have before : (hit.text ++ (last.rest ++ back))[start - 1]? ≠ some 42 := by
    have positive := valued.positive
    have inside := valued.inside
    rw [getElem?_append_left (by omega)]
    exact valued.before
  have after : (hit.text ++ (last.rest ++ back))[pair.valueEnd]? ≠ some 42 := by
    rcases Nat.lt_or_eq_of_le inner with short | all
    · rw [getElem?_append_left short]
      exact value_behind valued.value
    · rw [all, getElem?_append_right le_rfl, Nat.sub_self, ← head?_eq_getElem?]
      exact tail
  have masked := between_masks (hit.text ++ (last.rest ++ back)) front 0 start pair.valueEnd valued.positive
    (le_of_lt valued.value.1) (by rw [length_append]; exact Nat.le_add_right_of_le valued.inside) before (.inr after)
  rw [drop_zero, slice, drop_zero, Nat.sub_zero, take_append_of_le_length valued.inside, drop_append_of_le_length inner] at masked
  rw [shape]
  simpa only [append_assoc] using masked

theorem pairs_from_masks (fuel pos : Nat) (out) : Masks (out ++ s.drop pos) (redactPairsFrom isSensitiveFieldName s fuel pos out) := by
  induction fuel generalizing pos out with
  | zero => exact masks_refl _
  | succ _ ih =>
    rw [redactPairsFrom]
    cases found : findPair s pos with
    | none => exact masks_refl _
    | some pair =>
      obtain ⟨ahead, valued⟩ := find_pair_valued found
      have sound := resolve_sound isSensitiveFieldName s s.length pair.key pair.valueStart pair.valueEnd valued
      simp only
      rw [← resolvePair] at sound
      cases answer : resolvePair isSensitiveFieldName s pair.key pair.valueStart pair.valueEnd with
      | rewind start =>
        rw [answer] at sound
        have rest := ih start (out ++ slice s pos start)
        rwa [append_assoc, slice_drop s pos start (le_trans (le_of_lt ahead) sound)] at rest
      | redact start stop sensitive =>
        rw [answer] at sound
        obtain ⟨later, ordered, inside, before, behind⟩ := sound
        have between : pos < start := lt_of_lt_of_le ahead later
        have replaced : Masks (out ++ s.drop pos) (out ++ slice s pos start ++
            (if sensitive then marker else redactPairsInside isSensitiveFieldName (slice s start stop)) ++ s.drop stop) := by
          cases sensitive with
          | true => exact between_masks s out pos start stop between ordered inside before (.inr behind)
          | false =>
            rw [drop_slices s (le_of_lt between) ordered, ← append_assoc, ← append_assoc]
            apply inside_masks
            rw [head?_drop]
            exact behind
        exact masks_trans replaced (ih stop _)

theorem pairs_masks : Masks s (redactKeyValuePairs isSensitiveFieldName s) := pairs_from_masks isSensitiveFieldName s s.length 0 []

end

variable (isSensitiveFieldName : Bytes → Bool)

theorem once_masks (s) : Masks s (sanitizeOnce isSensitiveFieldName s) := by
  apply masks_trans (pem_masks s)
  apply masks_trans (url_masks _)
  apply masks_trans (query_masks isSensitiveFieldName _)
  apply masks_trans (azure_masks _)
  apply masks_trans (auth_masks _)
  apply masks_trans (json_masks isSensitiveFieldName _)
  apply masks_trans (cards_masks _)
  apply masks_trans (pairs_masks isSensitiveFieldName _)
  exact bare_masks _

theorem rounds_masks (rounds : Nat) (s) : Masks s (sanitizeRounds isSensitiveFieldName rounds s) := by
  induction rounds generalizing s with
  | zero => exact masks_refl s
  | succ _ ih =>
    rw [sanitizeRounds]
    split
    · exact masks_refl s
    · exact masks_trans (once_masks isSensitiveFieldName s) (ih _)

-- A round that changes a text is not undone by the rounds behind it.
theorem rounds_fixed_iff (rounds : Nat) (s) : sanitizeRounds isSensitiveFieldName (rounds + 1) s = s ↔ sanitizeOnce isSensitiveFieldName s = s := by
  rw [sanitizeRounds]
  split
  · rename_i fixed
    exact ⟨fun _ => fixed, fun _ => rfl⟩
  constructor
  · intro back
    have onward := rounds_masks isSensitiveFieldName rounds (sanitizeOnce isSensitiveFieldName s)
    rw [back] at onward
    exact (masked_antisymm 42 4 (once_masks isSensitiveFieldName s) onward).symm
  · exact fun fixed => absurd fixed (by assumption)

theorem once_empty : sanitizeOnce isSensitiveFieldName [] = [] := by
  have bare (patterns : List Pattern) : patterns.foldl (fun s pattern => pattern.replaceAll (fun _ => marker) s) [] = [] := by
    induction patterns with
    | nil => rfl
    | cons _ _ ih => exact ih
  have pem : redactPemBlocks [] = [] := rfl
  have query : redactQueryParameters isSensitiveFieldName [] = [] := rfl
  have azure : redactAzureSignature [] = [] := rfl
  have cards : redactCardNumbers [] = [] := rfl
  have pairs : redactKeyValuePairs isSensitiveFieldName [] = [] := rfl
  have replaced (pattern : Pattern) (replacement : Hit UInt8 → Bytes) : pattern.replaceAll replacement [] = [] := rfl
  simp only [sanitizeOnce, pem, replaced, query, azure, cards, pairs, bare]

-- A predicate on field names: one of the words, in any case.
def wordMember (words : List Bytes) (name : Bytes) : Bool := words.contains (name.map fun b => if isUpper b then b + 32 else b)

def nestedUserinfo : Bytes := utf8 "A://\"cpf\":\"/\"\"x\":\"@\"cpf\":\"/\"\"x\":\"@\"cpf\":\"/\"\"x\":\"@\"cpf\":\"/\"@".toList

end LibCommons.Sanitize
