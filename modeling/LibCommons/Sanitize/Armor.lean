import LibCommons.Lib.Committed
import LibCommons.Sanitize.Pem

namespace LibCommons.Sanitize

open Regex List Option Function Committed

def dash : Committed UInt8 := .letter fun b => b == '-'.toUInt8

def dashes : Committed UInt8 := dash.seq (dash.seq (dash.seq (dash.seq dash)))

def folded (c : Char) : Committed UInt8 := .letter fun b => b == c.toLower.toUInt8 || b == c.toUpper.toUInt8

def beginWord : Committed UInt8 := (folded 'B').seq ((folded 'E').seq ((folded 'G').seq ((folded 'I').seq (folded 'N'))))

def endWord : Committed UInt8 := (folded 'E').seq ((folded 'N').seq (folded 'D'))

def isLabelByte (b : UInt8) : Bool := isLetter b || isDigit b || b == ' '.toUInt8

def foldedLabel : Committed UInt8 := ((Committed.letter fun b => b == 0xC5).seq (.letter fun b => b == 0xBF)).alt
    ((Committed.letter fun b => b == 0xE2).seq ((Committed.letter fun b => b == 0x84).seq (.letter fun b => b == 0xAA)))
    (apart_opens _ _ _ _ (opens_seq _ _ _ (opens_letter _)) (opens_seq _ _ _ (opens_letter _)) (class_apart _ _ (by decide +kernel)))

theorem folded_opens : Opens foldedLabel fun b => b == 0xC5 || b == 0xE2 := opens_alt _ (opens_seq _ _ _ (opens_letter _))
    (opens_seq _ _ _ (opens_letter _))

def labelByte : Committed UInt8 := (Committed.letter isLabelByte).alt foldedLabel
    (apart_opens _ _ _ _ (opens_letter _) folded_opens (class_apart _ _ (by decide +kernel)))

theorem label_opens : Opens labelByte fun b => isLabelByte b || (b == 0xC5 || b == 0xE2) := opens_alt _ (opens_letter _) folded_opens

theorem dashes_opens : Opens dashes fun b => b == '-'.toUInt8 := opens_seq _ _ _ (opens_letter _)

def labelled : Committed UInt8 := (labelByte.seq (labelByte.many dashes
    (apart_opens _ _ _ _ label_opens dashes_opens (class_apart _ _ (by decide +kernel))))).rewritten
    (.seq armorLabel (lit "-----")) (by
      intro place
      change ((run labelByte.pattern place).flatMap (run (star labelByte.pattern))).flatMap (run dashes.pattern) =
        (run labelByte.pattern place).flatMap fun place => (run (star labelByte.pattern) place).flatMap (run dashes.pattern)
      rw [flatMap_assoc])

def lineEnd : Committed UInt8 := (Committed.letter fun b => b == ' '.toUInt8).seq labelled

def line (keyword : Committed UInt8) : Committed UInt8 := dashes.seq (keyword.seq lineEnd)

def beginLine : Committed UInt8 := line beginWord

def endLine : Committed UInt8 := line endWord

theorem words_apart {text} (found : (beginWord.length text).isSome) : endWord.length text = none :=
  apart_opens _ _ _ _ (opens_seq _ _ _ (opens_letter _)) (opens_seq _ _ _ (opens_letter _)) (class_apart _ _ (by decide +kernel)) text found

theorem dashes_sized : Sized dashes 5 := by
  have one : Sized dash 1 := sized_letter _
  exact sized_seq one (sized_seq one (sized_seq one (sized_seq one one)))

theorem begin_sized : Sized beginWord 5 := by
  have one (c : Char) : Sized (folded c) 1 := sized_letter _
  exact sized_seq (one _) (sized_seq (one _) (sized_seq (one _) (sized_seq (one _) (one _))))

theorem end_sized : Sized endWord 3 := by
  have one (c : Char) : Sized (folded c) 1 := sized_letter _
  exact sized_seq (one _) (sized_seq (one _) (one _))

variable {keyword : Committed UInt8} {size : Nat}

theorem line_length (sized : Sized keyword size) (text : Bytes) : (line keyword).length text =
      if (dashes.length text).isSome ∧ (keyword.length (text.drop 5)).isSome then
        (lineEnd.length (text.drop (5 + size))).map (5 + size + ·)
      else none := by
  change ((dashes.length text).bind fun n => ((keyword.length (text.drop n)).bind fun m =>
    (lineEnd.length ((text.drop n).drop m)).map (m + ·)).map (n + ·)) = _
  cases front : dashes.length text with
  | none => rfl
  | some n =>
    rw [dashes_sized text n front, bind_some]
    cases middle : keyword.length (text.drop 5) with
    | none => rfl
    | some m =>
      rw [sized _ m middle, bind_some, Option.map_map, drop_drop, if_pos ⟨rfl, rfl⟩]
      simp only [comp_def, Nat.add_assoc]

theorem match_armor (prev : Option UInt8) (text : Bytes) : pemArmorPattern.matchAt prev text =
      ((beginLine.length text).map fun n => ⟨text.take n, [(1, 5, 10)]⟩).or ((endLine.length text).map fun n => ⟨text.take n, [(1, 5, 8)]⟩) := by
  rw [matchAt]
  change (((run dashes.pattern ⟨prev, 0, text, []⟩).flatMap fun place =>
    ((run beginWord.pattern place ++ run endWord.pattern place).map fun last => last.mark 1 place.pos).flatMap (run lineEnd.pattern)).head?.map _) = _
  rw [beginLine, endLine, line_length begin_sized, line_length end_sized, dashes.runs]
  cases front : dashes.length text with
  | none => rfl
  | some n =>
    rw [dashes_sized text n front]
    simp only [map_some, toList_some, flatMap_singleton, beginWord.runs, endWord.runs, past_rest]
    have tail (place : Place UInt8) : (run lineEnd.pattern place).head? = (lineEnd.length place.rest).map place.past := by
      rw [lineEnd.runs]
      cases lineEnd.length place.rest with
      | none | some => rfl
    cases opened : beginWord.length (text.drop 5) with
    | some m =>
      rw [begin_sized _ m opened, words_apart (by rw [opened]; rfl)]
      simp [tail, comp_def]
    | none =>
      cases closed : endWord.length (text.drop 5) with
      | some m =>
        rw [end_sized _ m closed]
        simp [tail, comp_def]
      | none => rfl

def lineAt (text : Bytes) : Option (Nat × Bool) :=
  ((beginLine.length text).map fun n => (n, false)).or ((endLine.length text).map fun n => (n, true))

def armorAt (s : Bytes) (p : Nat) : Option Armor := (lineAt (s.drop p)).map fun found => ⟨p, p + found.1, found.2⟩

theorem folds_length {keyword} (long : keyword.length ≠ 3) : foldsToEnd keyword = false := by
  rw [foldsToEnd, beq_eq_false_iff_ne]
  intro same
  have lengths := congrArg List.length same
  rw [length_map] at lengths
  exact long lengths

variable {text : Bytes}

theorem folds_end (found : (endWord.length text).isSome) : foldsToEnd (text.take 3) = true := by
  obtain ⟨n, found⟩ := isSome_iff_exists.mp found
  have size := endWord.reach text n found
  rw [end_sized text n found] at size
  obtain ⟨i, first, found⟩ := bind_eq_some_iff.mp found
  obtain ⟨_, found, -⟩ := map_eq_some_iff.mp found
  obtain ⟨j, second, found⟩ := bind_eq_some_iff.mp found
  obtain ⟨k, third, -⟩ := map_eq_some_iff.mp found
  have firstSize := sized_letter _ _ _ first
  have secondSize := sized_letter _ _ _ second
  subst firstSize secondSize
  have first := opens_letter _ _ (isSome_iff_exists.mpr ⟨_, first⟩)
  have second := opens_letter _ _ (isSome_iff_exists.mpr ⟨_, second⟩)
  have third := opens_letter _ _ (isSome_iff_exists.mpr ⟨_, third⟩)
  match text, size with
  | a :: b :: c :: rest, _ =>
    simp only [drop_succ_cons, drop_zero, head?_cons, any_some, Bool.or_eq_true, beq_iff_eq] at first second third
    rcases first with rfl | rfl <;> rcases second with rfl | rfl <;> rcases third with rfl | rfl <;> rfl

theorem line_some (sized : Sized keyword size) {n} (found : (line keyword).length text = some n) :
    5 + size < n ∧ (keyword.length (text.drop 5)).isSome := by
  rw [line_length sized] at found
  split at found
  · rename_i opened
    obtain ⟨m, tail, rfl⟩ := map_eq_some_iff.mp found
    have positive := (lineEnd.reach _ m tail).1
    exact ⟨by omega, opened.2⟩
  · cases found

theorem armor_of_match (s : Bytes) (p : Nat) : (matchIn pemArmorPattern none s p).map (fun hit => armorOf (p, hit)) = armorAt s p := by
  rw [matchIn, match_armor, armorAt, lineAt]
  cases opened : beginLine.length (s.drop p) with
  | some n =>
    have inside := (beginLine.reach _ n opened).2
    obtain ⟨long, -⟩ := line_some begin_sized opened
    have keyword : foldsToEnd ((((s.drop p).take n).drop 5).take 5) = false := by
      apply folds_length
      rw [length_take, length_drop, length_take]
      omega
    simp only [map_some, some_or, armorOf, Hit.group, Hit.span, find?_cons, beq_self_eq_true, Nat.reduceSub, keyword, length_take_of_le inside]
  | none =>
    cases closed : endLine.length (s.drop p) with
    | none => rfl
    | some n =>
      have inside := (endLine.reach _ n closed).2
      obtain ⟨_, word⟩ := line_some end_sized closed
      have keyword : foldsToEnd ((((s.drop p).take n).drop 5).take 3) = true := by
        have whole : (((s.drop p).take n).drop 5).take 3 = ((s.drop p).drop 5).take 3 := by
          rw [drop_take, take_take, Nat.min_eq_left (by omega)]
        rw [whole]
        exact folds_end word
      simp only [map_some, map_none, none_or, armorOf, Hit.group, Hit.span, find?_cons,
        beq_self_eq_true, Nat.reduceSub, keyword, length_take_of_le inside]

-- How much of the text goes with a BEGIN line: to the next END line, or else the body.
def blockLength (after : Bytes) : Nat :=
  match (List.range (after.length + 1)).findSome? fun k => (endLine.length (after.drop k)).map (k + ·) with
  | some n => n
  | none => width isBodyByte after

theorem match_block (prev : Option UInt8) (text : Bytes) : legacyPemBlockPattern.matchAt prev text =
      (beginLine.length text).map fun n => ⟨text.take (n + blockLength (text.drop n)), []⟩ := by
  have split (place : Place UInt8) : run legacyPemBlockPattern place =
      (run beginLine.pattern place).flatMap (run (alt (.seq (lazy (one fun _ => true)) endLine.pattern) (star (one isBodyByte)))) :=
    run_all_append [lit "-----", foldLit "BEGIN", byte ' ', armorLabel, lit "-----"] [_] (List.cons_ne_nil _ _) (cons_ne_nil _ _) place
  rw [matchAt, split, beginLine.runs]
  cases opened : beginLine.length text with
  | none => rfl
  | some =>
    have closed (place : Place UInt8) (k : Nat) : (run endLine.pattern (place.past k)).head? =
        ((endLine.length (place.rest.drop k)).map (k + ·)).map place.past := by
      rw [endLine.runs, past_rest]
      cases endLine.length (place.rest.drop k) with
      | none => rfl
      | some => rw [map_some, map_some, map_some, toList_some, head?_cons, past_past]
    have whole (place : Place UInt8) : (run (alt (.seq (lazy (one fun _ => true)) endLine.pattern) (star (one isBodyByte))) place).head? =
          some (place.past (blockLength place.rest)) := by
      rw [run, head?_append, run, run_lazy_any, head?_flatMap, findSome?_map, run_star_one, range_head, blockLength]
      simp only [comp_def, closed]
      rw [← comp_def (Option.map place.past), ← map_findSome?]
      cases (List.range (place.rest.length + 1)).findSome? fun k => (endLine.length (place.rest.drop k)).map (k + ·) with
      | none | some => rfl
    rw [map_some, toList_some, flatMap_singleton, whole, map_some, map_some]
    simp

theorem headless_width (s : Bytes) (stop : Nat) : headlessLength s stop = width isBodyByte (s.drop stop) := by
  have inside := width_le isBodyByte (s.drop stop)
  rw [headlessLength, matchAt, pemHeadlessBodyPattern, run_star_one, range_head, map_some, map_some,
    getD_some, length_take, past_pos, Nat.zero_add, Nat.min_eq_left inside]

end LibCommons.Sanitize
