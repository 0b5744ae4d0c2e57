import LibCommons.Lib.Committed
import LibCommons.Sanitize.Cards

namespace LibCommons.Sanitize

open Regex List Option Function

def shiftGroups (n : Nat) (groups : List (Nat × Nat)) : List (Nat × Nat) := groups.map fun g => (g.1 + n, g.2 + n)

theorem shift_shift (m n : Nat) (groups) : shiftGroups n (shiftGroups m groups) = shiftGroups (m + n) groups := by
  simp only [shiftGroups, List.map_map, comp_def, add_assoc]

theorem digit_pattern_blind : Blind digitGroupPattern := by
  intro _ _ _
  rw [digitGroupPattern, match_plus_one, match_plus_one]

theorem width_run {digits rest} (all : ∀ b ∈ digits, isDigit b = true)
    (past : ∀ b ∈ rest.head?, isDigit b = false) : width isDigit (digits ++ rest) = digits.length := by
  rw [width, takeWhile_append_of_pos all]
  cases rest with
  | nil => simp
  | cons b => simp [past b rfl]

theorem digit_groups_nil : digitGroups [] = [] := rfl

theorem digit_groups_other (b : UInt8) (rest) (other : isDigit b = false) : digitGroups (b :: rest) = shiftGroups 1 (digitGroups rest) := by
  have none : digitGroupPattern.matchAt none (b :: rest) = none := by
    rw [digitGroupPattern, match_plus_one, width_refused isDigit b rest other, if_pos rfl]
  have shifted := located_from 1 (digitGroupPattern.pieces rest)
  simp only [digitGroups, shiftGroups, findAll, pieces_none _ digit_pattern_blind b rest none, located, shifted,
    List.map_map, comp_def, add_right_comm]

theorem digit_groups_run (digits rest) (real : digits ≠ []) (all : ∀ b ∈ digits, isDigit b = true) (past : ∀ b ∈ rest.head?, isDigit b = false) :
    digitGroups (digits ++ rest) = (0, digits.length) :: shiftGroups digits.length (digitGroups rest) := by
  have found : digitGroupPattern.matchAt none (digits ++ rest) = some ⟨digits, []⟩ := by
    rw [digitGroupPattern, match_plus_one, width_run all past, if_neg (mt length_eq_zero_iff.mp real), take_left]
  have shifted := located_from digits.length (digitGroupPattern.pieces rest)
  simp only [digitGroups, shiftGroups, findAll, pieces_some _ digit_pattern_blind _ _ found real, drop_left, located,
    shifted, map_cons, List.map_map, comp_def, add_right_comm, zero_add]

theorem groups_induction {motive : Bytes → Prop} (nil : motive []) (other : ∀ b rest, isDigit b = false → motive rest → motive (b :: rest))
    (group : ∀ digits rest, digits ≠ [] → (∀ b ∈ digits, isDigit b = true) → (∀ b ∈ rest.head?, isDigit b = false) →
      motive rest → motive (digits ++ rest)) (run) : motive run := by
  induction size : run.length using Nat.strong_induction_on generalizing run with
  | _ _ ih =>
    subst size
    cases run with
    | nil => exact nil
    | cons b rest =>
      cases digit : isDigit b with
      | false => exact other b rest digit (ih _ (Nat.lt_succ_self _) rest rfl)
      | true =>
        have split := takeWhile_append_dropWhile (p := isDigit) (l := b :: rest)
        have taken : (b :: rest).takeWhile isDigit = b :: rest.takeWhile isDigit := takeWhile_cons_of_pos digit
        have dropped : (b :: rest).dropWhile isDigit = rest.dropWhile isDigit := dropWhile_cons_of_pos digit
        rw [← split]
        apply group
        · simp [taken]
        · exact fun c member => mem_takeWhile_imp member
        · intro _ head
          have stopped := head?_dropWhile_not isDigit (b :: rest)
          rw [mem_def.mp head] at stopped
          simpa using stopped
        · apply ih _ _ _ rfl
          rw [dropped]
          exact Nat.lt_succ_of_le (length_dropWhile_le isDigit rest)

theorem groups_after (run) (k : Nat) (g) (found : (digitGroups run)[k]? = some g) :
    (digitGroups run).drop (k + 1) = shiftGroups g.2 (digitGroups (run.drop g.2)) := by
  induction run using groups_induction generalizing k g with
  | nil => simp [digit_groups_nil] at found
  | other b rest other ih =>
    rw [digit_groups_other b rest other] at found ⊢
    rw [shiftGroups, getElem?_map, map_eq_some_iff] at found
    obtain ⟨inner, found, rfl⟩ := found
    have tail := ih k inner found
    rw [shiftGroups, ← map_drop, tail]
    exact shift_shift inner.2 1 _
  | group digits rest real all past ih =>
    rw [digit_groups_run digits rest real all past] at found ⊢
    cases k with
    | zero =>
      rw [getElem?_cons_zero, some_inj] at found
      subst found
      rw [drop_one, tail_cons, drop_left]
    | succ k =>
      rw [getElem?_cons_succ, shiftGroups, getElem?_map, map_eq_some_iff] at found
      obtain ⟨inner, found, rfl⟩ := found
      have tail := ih k inner found
      have cut : (digits ++ rest).drop (inner.2 + digits.length) = rest.drop inner.2 := by
        rw [add_comm, ← drop_drop, drop_left]
      rw [drop_succ_cons, shiftGroups, ← map_drop, tail, cut]
      exact shift_shift inner.2 digits.length _

theorem group_stop_pos {run : Bytes} {g : Nat × Nat} (found : g ∈ digitGroups run) : 0 < g.2 := by
  induction run using groups_induction generalizing g with
  | nil => simp [digit_groups_nil] at found
  | other b rest other =>
    rw [digit_groups_other b rest other] at found
    obtain ⟨inner, found, rfl⟩ := mem_map.mp found
    exact Nat.succ_pos _
  | group digits rest real all past =>
    rw [digit_groups_run digits rest real all past] at found
    have positive := length_pos_iff.mpr real
    rcases mem_cons.mp found with rfl | later
    · exact positive
    · obtain ⟨_, later, rfl⟩ := mem_map.mp later
      exact lt_of_lt_of_le positive (Nat.le_add_left _ _)

def digitCount (text : Bytes) : Nat := text.countP isDigit

theorem digits_before_shift (sum n : Nat) (groups) : digitsBeforeFrom sum (shiftGroups n groups) = digitsBeforeFrom sum groups := by
  induction groups generalizing sum with
  | nil => rfl
  | cons g _ ih =>
    have width : g.2 + n - (g.1 + n) = g.2 - g.1 := Nat.add_sub_add_right g.2 n g.1
    simp only [shiftGroups, map_cons, digitsBeforeFrom, width] at ih ⊢
    rw [ih]

theorem digits_before (run) (k sum : Nat) (g) (found : (digitGroups run)[k]? = some g) :
    (digitsBeforeFrom sum (digitGroups run)).getD k 0 = sum + digitCount (run.take g.1) ∧
      (digitsBeforeFrom sum (digitGroups run)).getD (k + 1) 0 = sum + digitCount (run.take g.2) := by
  induction run using groups_induction generalizing k sum g with
  | nil => simp [digit_groups_nil] at found
  | other b rest other ih =>
    rw [digit_groups_other b rest other] at found ⊢
    rw [shiftGroups, getElem?_map, map_eq_some_iff] at found
    obtain ⟨inner, found, rfl⟩ := found
    rw [digits_before_shift]
    simpa [digitCount, other] using ih k sum inner found
  | group digits rest real all past ih =>
    have full : digits.countP isDigit = digits.length := countP_eq_length.mpr all
    rw [digit_groups_run digits rest real all past] at found ⊢
    rw [digitsBeforeFrom, digits_before_shift]
    cases k with
    | zero =>
      rw [getElem?_cons_zero, some_inj] at found
      subst found
      cases digitGroups rest <;> simp [digitsBeforeFrom, full, digitCount]
    | succ k =>
      rw [getElem?_cons_succ, shiftGroups, getElem?_map, map_eq_some_iff] at found
      obtain ⟨inner, found, rfl⟩ := found
      obtain ⟨front, back⟩ := ih k (sum + (digits.length - 0)) inner found
      have reach (n : Nat) : digitCount ((digits ++ rest).take (n + digits.length)) = digits.length + digitCount (rest.take n) := by
        rw [take_append, take_of_length_le (by omega), Nat.add_sub_cancel, digitCount, countP_append]
        exact congrArg (· + _) full
      rw [getD_cons_succ, getD_cons_succ, front, back, reach, reach]
      omega

theorem luhn_digits (double) (sum : Nat) (text) (passes : luhnFrom double sum text = true) : ∀ b ∈ text, isDigit b = true := by
  induction text generalizing double sum with
  | nil => simp
  | cons b _ ih =>
    rw [luhnFrom] at passes
    split at passes
    · cases passes
    rename_i small
    rw [forall_mem_cons]
    refine ⟨?_, ih _ _ passes⟩
    rw [isDigit, byteIn, Bool.and_eq_true, decide_eq_true_eq, decide_eq_true_eq]
    have low : ('0'.toUInt8).toNat = 48 := rfl
    have high : ('9'.toUInt8).toNat = 57 := rfl
    have value := UInt8.toNat_sub b 48
    have bound := b.toNat_lt
    rw [UInt8.le_iff_toNat_le, UInt8.le_iff_toNat_le, low, high]
    simp only [UInt8.reduceToNat] at value
    omega

-- A byte that is neither stripped nor a digit fails Luhn.
theorem stripped_count {text} (passes : passesLuhn (cardSeparators text) = true) : (cardSeparators text).length = digitCount text := by
  have all := luhn_digits false 0 _ passes
  have digits : (cardSeparators text).countP isDigit = (cardSeparators text).length := by
    rw [countP_eq_length]
    intro b member
    exact all b (mem_reverse.mpr member)
  have kept (b : UInt8) : (isDigit b && !byteOf [' ', '.', '-'] b) = isDigit b := by
    cases separator : byteOf [' ', '.', '-'] b with
    | false => rw [Bool.not_false, Bool.and_true]
    | true =>
      simp only [byteOf, any_cons, any_nil, Bool.or_false, Bool.or_eq_true, beq_iff_eq] at separator
      rcases separator with rfl | rfl | rfl <;> rfl
  rw [← digits, cardSeparators, countP_filter, digitCount]
  simp only [kept]

section

theorem find_some_congr {A B : Type} {f g : A → Option B} {items : List A} (same : ∀ item ∈ items, f item = g item) :
    items.findSome? f = items.findSome? g := by
  induction items with
  | nil => rfl
  | cons item _ ih =>
    rw [findSome?_cons, findSome?_cons, same item mem_cons_self, ih fun other member => same other (mem_cons_of_mem item member)]

variable (text : Bytes)

def isCard (i width : Nat) : Bool :=
  let span := window (digitGroups text) i width
  let number := cardSeparators (slice text span.1 span.2)
  passesLuhn number && decide (minCardDigits ≤ number.length) && decide (number.length ≤ maxCardDigits)

-- The first card of a text: the widest window, the leftmost of that width.
def cardSearch : Option (Nat × Nat) :=
  let groups := digitGroups text
  (widths (min groups.length maxCardDigits)).findSome? fun width =>
    (starts 0 groups.length width).findSome? fun i => if isCard text i width then some (i, width) else none

variable {width : Nat}

theorem mem_widths {widest} (member : width ∈ widths widest) : 2 ≤ width ∧ width ≤ widest := by
  rw [widths, mem_reverse, mem_range'_1] at member
  omega

variable {first i : Nat}

theorem mem_starts {count} (member : i ∈ starts first count width) : first ≤ i ∧ i + width ≤ count := by
  rw [starts, mem_range'_1] at member
  omega

theorem card_search_some (i width : Nat) (found : cardSearch text = some (i, width)) : 2 ≤ width ∧ i + width ≤ (digitGroups text).length := by
  obtain ⟨_, tried, found⟩ := exists_of_findSome?_eq_some found
  obtain ⟨_, started, found⟩ := exists_of_findSome?_eq_some found
  split at found
  · cases found
    exact ⟨(mem_widths tried).1, (mem_starts started).2⟩
  · cases found

theorem legacy_window_search : legacyCardWindow text (digitGroups text) =
      (cardSearch text).map fun found => window (digitGroups text) found.1 found.2 := by
  rw [legacyCardWindow, cardSearch, map_findSome?]
  apply find_some_congr
  intro width _
  rw [comp_apply, map_findSome?]
  apply find_some_congr
  intro i _
  rw [comp_apply, isCard]
  cases passes : passesLuhn (cardSeparators (slice text (window (digitGroups text) i width).1 (window (digitGroups text) i width).2)) with
  | false => simp [passes]
  | true =>
    simp only [passes, Bool.true_and, Bool.not_true, or_false, Bool.false_eq_true, Bool.and_eq_true, decide_eq_true_eq]
    split
    · rename_i outside
      rw [if_neg (by omega), map_none]
    · rename_i inside
      rw [if_pos (by omega), map_some]

def Resumes (run : Bytes) (written first : Nat) : Prop :=
  (digitGroups run).drop first = shiftGroups written (digitGroups (run.drop written))

variable {g : Nat × Nat}

theorem resumed_group {run} {written} (resumes : Resumes run written first) {j} (found : (digitGroups (run.drop written))[j]? = some g) :
    (digitGroups run)[first + j]? = some (g.1 + written, g.2 + written) := by
  rw [← getElem?_drop, resumes, shiftGroups, getElem?_map, found, map_some]

theorem resumed_count (run) (written first : Nat) (resumes : Resumes run written first) :
    (digitGroups (run.drop written)).length = (digitGroups run).length - first := by
  have lengths := congrArg List.length resumes
  rw [length_drop, shiftGroups, length_map] at lengths
  exact lengths.symm

theorem slice_count (start stop : Nat) : digitCount (slice text start stop) = digitCount (text.take stop) - digitCount (text.take start) := by
  rcases le_total start stop with ordered | backward
  · obtain ⟨_, rfl⟩ := Nat.exists_eq_add_of_le ordered
    rw [slice, Nat.add_sub_cancel_left, take_add, digitCount, digitCount, digitCount, countP_append, Nat.add_sub_cancel_left]
  have fewer : digitCount (text.take stop) ≤ digitCount (text.take start) := (take_sublist_take_left backward).countP_le
  rw [slice, Nat.sub_eq_zero_of_le backward, Nat.sub_eq_zero_of_le fewer]
  rfl

variable {groups : List (Nat × Nat)} {h : Nat × Nat}

theorem window_some (head : groups[i]? = some g) (last : groups[i + width - 1]? = some h) : window groups i width = (g.1, h.2) := by
  simp only [window, getD_eq_getElem?_getD, head, last, getD_some]

theorem window_stop (last : groups[i + width - 1]? = some h) : (window groups i width).2 = h.2 := by
  simp only [window, getD_eq_getElem?_getD, last, getD_some]

theorem card_window_search (run) (written first : Nat) (resumes : Resumes run written first) (inside : first ≤ (digitGroups run).length) :
    findCardWindow run (digitGroups run) (digitsBeforeFrom 0 (digitGroups run)) first = (cardSearch (run.drop written)).map fun found =>
        ((window (digitGroups (run.drop written)) found.1 found.2).1 + written,
          (window (digitGroups (run.drop written)) found.1 found.2).2 + written, first + found.1 + found.2) := by
  have count := resumed_count run written first resumes
  have moved (width : Nat) : starts first (digitGroups run).length width =
      (starts 0 (digitGroups (run.drop written)).length width).map (first + ·) := by
    rw [starts, starts, map_add_range', add_zero, count]
    congr 1
    omega
  rw [findCardWindow, cardSearch, map_findSome?, count]
  apply find_some_congr
  intro width tried
  rw [← count, comp_apply, map_findSome?, moved, findSome?_map]
  apply find_some_congr
  intro j started
  obtain ⟨_, -⟩ := mem_widths tried
  obtain ⟨-, _⟩ := mem_starts started
  obtain ⟨g, head⟩ : ∃ g, (digitGroups (run.drop written))[j]? = some g := ⟨_, getElem?_eq_getElem (by omega)⟩
  obtain ⟨h, last⟩ : ∃ h, (digitGroups (run.drop written))[j + width - 1]? = some h := ⟨_, getElem?_eq_getElem (by omega)⟩
  have head' := resumed_group resumes head
  have last' := resumed_group resumes last
  have index : first + (j + width - 1) = first + j + width - 1 := by omega
  have next : first + j + width - 1 + 1 = first + j + width := by omega
  rw [index] at last'
  have measured : (digitsBeforeFrom 0 (digitGroups run)).getD (first + j + width) 0 -
      (digitsBeforeFrom 0 (digitGroups run)).getD (first + j) 0 = digitCount (slice (run.drop written) g.1 h.2) := by
    have before := (digits_before run _ 0 _ head').1
    have through := (digits_before run _ 0 _ last').2
    rw [next] at through
    rw [through, before, zero_add, zero_add, ← slice_count, slice_shift]
  simp only [comp_apply, measured, window_some head last, window_some head' last', isCard, slice_shift]
  cases passes : passesLuhn (cardSeparators (slice (run.drop written) g.1 h.2)) with
  | false => simp
  | true =>
    simp only [stripped_count passes, Bool.true_and, Bool.and_eq_true, decide_eq_true_eq, if_true]
    split
    · rename_i outside
      rw [if_neg (by omega), map_none]
    · rename_i inside
      rw [if_pos (by omega), map_some, window_some head last]

end

theorem resumes_after (run) (written first : Nat) (resumes : Resumes run written first) (i width : Nat)
    (wide : 2 ≤ width) (fits : i + width ≤ (digitGroups (run.drop written)).length) :
    Resumes run ((window (digitGroups (run.drop written)) i width).2 + written) (first + i + width) := by
  obtain ⟨h, last⟩ : ∃ h, (digitGroups (run.drop written))[i + width - 1]? = some h := ⟨_, getElem?_eq_getElem (by omega)⟩
  have after := groups_after run _ _ (resumed_group resumes last)
  have index : first + (i + width - 1) + 1 = first + i + width := by omega
  rw [index] at after
  rw [window_stop last, Resumes, after]

theorem card_search_few (text) (few : (digitGroups text).length < 2) : cardSearch text = none := by
  cases found : cardSearch text with
  | none => rfl
  | some card =>
    have fits := card_search_some text card.1 card.2 found
    omega

theorem legacy_none (fuel : Nat) (text) (none : cardSearch text = none) : legacyInsideRun fuel text = text := by
  cases fuel with
  | zero => rfl
  | succ => simp only [legacyInsideRun, legacy_window_search, none, map_none]

theorem card_stop_pos (text) (i width : Nat) (found : cardSearch text = some (i, width)) : 0 < (window (digitGroups text) i width).2 := by
  obtain ⟨_, _⟩ := card_search_some text i width found
  have last : i + width - 1 < (digitGroups text).length := by omega
  rw [window_stop (getElem?_eq_getElem last)]
  exact group_stop_pos (getElem_mem last)

theorem inside_run_from (run) (fuel written first : Nat) (out : Bytes) (resumes : Resumes run written first)
    (inside : first ≤ (digitGroups run).length) (enough : (digitGroups run).length - first ≤ fuel) (legacyFuel : Nat)
    (more : (run.drop written).length < legacyFuel) :
    let final := insideRunFrom run (digitGroups run) (digitsBeforeFrom 0 (digitGroups run)) fuel written first out
    final.2 ++ run.drop final.1 = out ++ legacyInsideRun legacyFuel (run.drop written) ∧ (final = (written, out) ∨ 0 < final.1) := by
  induction fuel generalizing written first out legacyFuel with
  | zero =>
    have count := resumed_count run written first resumes
    have none := card_search_few (run.drop written) (by omega)
    simp only [insideRunFrom, legacy_none _ _ none, true_or, and_self]
  | succ _ ih =>
    have count := resumed_count run written first resumes
    rw [insideRunFrom, card_window_search run written first resumes inside]
    by_cases left : first < (digitGroups run).length
    · cases found : cardSearch (run.drop written) with
      | none => simp only [if_pos left, map_none, legacy_none _ _ found, true_or, and_self]
      | some card =>
        obtain ⟨i, width⟩ := card
        obtain ⟨wide, fits⟩ := card_search_some _ _ _ found
        have positive := card_stop_pos _ _ _ found
        obtain ⟨legacyFuel, rfl⟩ := Nat.exists_eq_succ_of_ne_zero (ne_of_gt (Nat.zero_lt_of_lt more))
        have behind (n : Nat) : (run.drop written).drop n = run.drop (n + written) := by
          rw [drop_drop, add_comm]
        have front (n : Nat) : slice run written (n + written) = (run.drop written).take n := by
          rw [slice, Nat.add_sub_cancel]
        have shorter : (run.drop ((window (digitGroups (run.drop written)) i width).2 + written)).length < legacyFuel := by
          have some : 0 < (run.drop written).length := by
            rw [length_pos_iff]
            intro empty
            rw [empty, digit_groups_nil, length_nil] at fits
            omega
          rw [← behind, length_drop]
          omega
        obtain ⟨same, moved⟩ := ih _ _ (out ++ slice run written ((window (digitGroups (run.drop written)) i width).1 + written) ++ marker)
          (resumes_after run written first resumes i width wide fits) (by omega) (by omega) legacyFuel shorter
        simp only [if_pos left, map_some]
        constructor
        · rw [same, front, legacyInsideRun, legacy_window_search, found]
          simp only [map_some, behind, append_assoc]
        right
        rcases moved with stays | later
        · rw [stays]
          exact lt_of_lt_of_le positive (Nat.le_add_right _ _)
        · exact later
    · have none := card_search_few (run.drop written) (by omega)
      simp only [if_neg left, legacy_none _ _ none, true_or, and_self]

theorem inside_run_legacy (run) : redactCardInsideRun run = legacyInsideRun (run.length + 1) run := by
  have start : Resumes run 0 0 := by
    rw [Resumes, drop_zero, drop_zero, shiftGroups]
    exact (List.map_id _).symm
  obtain ⟨same, moved⟩ := inside_run_from run (digitGroups run).length 0 0 [] start (Nat.zero_le _) (Nat.sub_le _ _)
    (run.length + 1) (by rw [drop_zero]; exact Nat.lt_succ_self _)
  rw [drop_zero, nil_append] at same
  rw [redactCardInsideRun]
  by_cases few : (digitGroups run).length < 2
  · simp only [if_pos few, legacy_none _ _ (card_search_few run few)]
  simp only [if_neg few]
  split
  · rename_i nothing
    rw [← same]
    rcases moved with stays | _
    · rw [stays]
      rfl
    · omega
  · exact same

theorem card_windows_agree (run : Bytes) : redactCardInsideRun run = legacyRedactCardInsideRun run :=
  inside_run_legacy run

end LibCommons.Sanitize
