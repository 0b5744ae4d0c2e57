import Mathlib

namespace LibCommons

open List Option

-- Patterns with the choices of a backtracking matcher; an edge looks at the letters on its two sides.
inductive Regex (A : Type) where
  | empty
  | one (accepts : A → Bool)
  | edge (holds : Option A → Option A → Bool)
  | seq (first second : Regex A)
  | alt (first second : Regex A)
  | star (body : Regex A)
  | lazy (body : Regex A)
  | group (index : Nat) (body : Regex A)

namespace Regex

variable {A : Type}

def opt (body : Regex A) : Regex A := alt body empty

def plus (body : Regex A) : Regex A := seq body (star body)

def times (body : Regex A) : Nat → Regex A
  | 0 => empty
  | n + 1 => seq body (times body n)

def atLeast (n : Nat) (body : Regex A) : Regex A := seq (times body n) (star body)

def upTo (body : Regex A) : Nat → Regex A
  | 0 => empty
  | n + 1 => opt (seq body (upTo body n))

def between (low high : Nat) (body : Regex A) : Regex A := seq (times body low) (upTo body (high - low))

def all : List (Regex A) → Regex A
  | [] => empty
  | [body] => body
  | body :: rest => seq body (all rest)

def any : List (Regex A) → Regex A
  | [] => one fun _ => false
  | [body] => body
  | body :: rest => alt body (any rest)

-- The letter before, the distance from the start, the text behind and the groups closed so far.
structure Place (A : Type) where
  prev : Option A
  pos : Nat
  rest : List A
  marks : List (Nat × Nat × Nat)

def Place.advance (place : Place A) (letter : A) (rest : List A) : Place A :=
  { place with prev := some letter, pos := place.pos + 1, rest := rest }

def iterate (step : Place A → List (Place A)) : Nat → Place A → List (Place A)
  | 0, place => [place]
  | fuel + 1, place => (step place).flatMap (iterate step fuel) ++ [place]

def iterateLazy (step : Place A → List (Place A)) : Nat → Place A → List (Place A)
  | 0, place => [place]
  | fuel + 1, place => place :: (step place).flatMap (iterateLazy step fuel)

def run : Regex A → Place A → List (Place A)
  | empty, place => [place]
  | one accepts, place =>
    match place.rest with
    | [] => []
    | letter :: rest => if accepts letter then [place.advance letter rest] else []
  | edge holds, place => if holds place.prev place.rest.head? then [place] else []
  | seq first second, place => (run first place).flatMap (run second)
  | alt first second, place => run first place ++ run second place
  | star body, place => iterate (run body) place.rest.length place
  | lazy body, place => iterateLazy (run body) place.rest.length place
  | group index body, place =>
    (run body place).map fun last => { last with marks := (index, place.pos, last.pos) :: last.marks }

structure Hit (A : Type) where
  text : List A
  marks : List (Nat × Nat × Nat)

def Hit.span (hit : Hit A) (index : Nat) : Option (Nat × Nat) := (hit.marks.find? fun mark => mark.1 == index).map Prod.snd

def Hit.group (hit : Hit A) (index : Nat) : List A :=
  match hit.span index with
  | some (start, stop) => (hit.text.drop start).take (stop - start)
  | none => []

def matchAt (pattern : Regex A) (prev : Option A) (text : List A) : Option (Hit A) :=
  (pattern.run ⟨prev, 0, text, []⟩).head?.map fun last => ⟨text.take last.pos, last.marks⟩

inductive Piece (A : Type) where
  | letter (letter : A)
  | hit (hit : Hit A)

def piecesFrom (pattern : Regex A) : Nat → Option A → List A → List (Piece A)
  | _, _, [] => []
  | skip + 1, _, letter :: rest => piecesFrom pattern skip (some letter) rest
  | 0, prev, letter :: rest =>
    match pattern.matchAt prev (letter :: rest) with
    | some hit =>
      if hit.text.length = 0 then .letter letter :: piecesFrom pattern 0 (some letter) rest
      else .hit hit :: piecesFrom pattern (hit.text.length - 1) (some letter) rest
    | none => .letter letter :: piecesFrom pattern 0 (some letter) rest

def pieces (pattern : Regex A) (text : List A) : List (Piece A) := piecesFrom pattern 0 none text

def Piece.text : Piece A → List A
  | letter single => [single]
  | hit found => found.text

def located : Nat → List (Piece A) → List (Nat × Hit A)
  | _, [] => []
  | pos, .letter _ :: rest => located (pos + 1) rest
  | pos, .hit hit :: rest => (pos, hit) :: located (pos + hit.text.length) rest

def findAll (pattern : Regex A) (text : List A) : List (Nat × Hit A) := located 0 (pattern.pieces text)

def find (pattern : Regex A) (text : List A) : Option (Nat × Hit A) := (pattern.findAll text).head?

def replaceAll (pattern : Regex A) (replacement : Hit A → List A) (text : List A) : List A := (pattern.pieces text).flatMap fun piece =>
    match piece with
    | .letter letter => [letter]
    | .hit hit => replacement hit

def Piece.rewritten (replacement : Hit A → List A) : Piece A → List A
  | letter single => [single]
  | hit found => replacement found

theorem replace_pieces (pattern : Regex A) (replacement : Hit A → List A) (text : List A) :
    pattern.replaceAll replacement text = (pattern.pieces text).flatMap (Piece.rewritten replacement) := rfl

theorem run_all_append (front back : List (Regex A)) (some : front ≠ []) (more : back ≠ []) (place : Place A) :
    run (all (front ++ back)) place = (run (all front) place).flatMap (run (all back)) := by
  induction front generalizing place with
  | nil => exact absurd rfl some
  | cons body front ih =>
    cases front with
    | nil =>
      cases back with
      | nil => exact absurd rfl more
      | cons => rfl
    | cons next front =>
      have tail (place : Place A) := ih (cons_ne_nil _ _) place
      have whole : all (body :: next :: front ++ back) = seq body (all (next :: front ++ back)) := rfl
      have head : all (body :: next :: front) = seq body (all (next :: front)) := rfl
      rw [whole, head, run, run, flatMap_assoc]
      exact flatMap_congr fun place _ => tail place

section

theorem iterate_closed (Related : Place A → Place A → Prop) (refl : ∀ place, Related place place)
    (trans : ∀ first second third, Related first second → Related second third → Related first third)
    (step : Place A → List (Place A)) (steps : ∀ place, ∀ last ∈ step place, Related place last) (fuel : Nat)
    (place : Place A) : ∀ last ∈ iterate step fuel place, Related place last := by
  induction fuel generalizing place with
  | zero =>
    intro last member
    rw [mem_singleton.mp member]
    exact refl place
  | succ _ ih =>
    intro last member
    rcases mem_append.mp member with more | done
    · obtain ⟨next, stepped, further⟩ := mem_flatMap.mp more
      exact trans place next last (steps place next stepped) (ih next last further)
    · rw [mem_singleton.mp done]
      exact refl place

theorem iterate_lazy_closed (Related : Place A → Place A → Prop) (refl : ∀ place, Related place place)
    (trans : ∀ first second third, Related first second → Related second third → Related first third)
    (step : Place A → List (Place A)) (steps : ∀ place, ∀ last ∈ step place, Related place last) (fuel : Nat)
    (place : Place A) : ∀ last ∈ iterateLazy step fuel place, Related place last := by
  induction fuel generalizing place with
  | zero =>
    intro last member
    rw [mem_singleton.mp member]
    exact refl place
  | succ _ ih =>
    intro last member
    rcases mem_cons.mp member with rfl | more
    · exact refl last
    · obtain ⟨next, stepped, further⟩ := mem_flatMap.mp more
      exact trans place next last (steps place next stepped) (ih next last further)

def refuses (absent : List A) : Regex A → Bool
  | empty => true
  | one accepts => absent.all fun letter => !accepts letter
  | edge _ => true
  | seq first second => refuses absent first && refuses absent second
  | alt first second => refuses absent first && refuses absent second
  | star body => refuses absent body
  | lazy body => refuses absent body
  | group _ body => refuses absent body

theorem refuses_nil (pattern : Regex A) : refuses [] pattern = true := by
  induction pattern with
  | seq first second ihFirst ihSecond | alt first second ihFirst ihSecond => rw [refuses, ihFirst, ihSecond]; rfl
  | star body ih | lazy body ih | group index body ih => exact ih
  | empty | edge | one => rfl

def ReachesWithout (absent : List A) (place last : Place A) : Prop :=
  ∃ consumed, place.rest = consumed ++ last.rest ∧ last.pos = place.pos + consumed.length ∧ ∀ letter ∈ absent, letter ∉ consumed

variable (absent : List A)

theorem reaches_refl (place : Place A) : ReachesWithout absent place place := ⟨[], rfl, rfl, fun _ _ => not_mem_nil⟩

theorem reaches_trans (first second third : Place A) (ahead : ReachesWithout absent first second)
    (further : ReachesWithout absent second third) : ReachesWithout absent first third := by
  obtain ⟨front, text, pos, clear⟩ := ahead
  obtain ⟨back, text', pos', clear'⟩ := further
  refine ⟨front ++ back, by rw [text, text', append_assoc], ?_, ?_⟩
  · rw [pos', pos, length_append, add_assoc]
  intro letter member inside
  rcases mem_append.mp inside with here | there
  · exact clear letter member here
  · exact clear' letter member there

variable {pattern : Regex A}

theorem run_without {absent} (refused : refuses absent pattern = true) (place : Place A) :
    ∀ last ∈ pattern.run place, ReachesWithout absent place last := by
  induction pattern generalizing place with
  | empty =>
    intro last member
    rw [mem_singleton.mp member]
    exact reaches_refl absent place
  | one =>
    intro last member
    rw [run] at member
    split at member
    · cases member
    rename_i letter rest shape
    split at member
    · rename_i accepted
      rw [mem_singleton.mp member]
      refine ⟨[letter], shape, rfl, ?_⟩
      intro other inside same
      have fails := all_eq_true.mp refused other inside
      rw [mem_singleton.mp same, accepted] at fails
      cases fails
    · cases member
  | edge =>
    intro last member
    rw [run] at member
    split at member
    · rw [mem_singleton.mp member]
      exact reaches_refl absent place
    · cases member
  | seq _ _ ihFirst ihSecond =>
    intro last member
    rw [refuses, Bool.and_eq_true] at refused
    obtain ⟨middle, reached, further⟩ := mem_flatMap.mp member
    exact reaches_trans absent _ _ _ (ihFirst refused.1 place middle reached) (ihSecond refused.2 middle last further)
  | alt _ _ ihFirst ihSecond =>
    intro last member
    rw [refuses, Bool.and_eq_true] at refused
    rcases mem_append.mp member with one | other
    · exact ihFirst refused.1 place last one
    · exact ihSecond refused.2 place last other
  | star _ ih => exact iterate_closed _ (reaches_refl absent) (reaches_trans absent) _ (ih refused) _ place
  | lazy _ ih => exact iterate_lazy_closed _ (reaches_refl absent) (reaches_trans absent) _ (ih refused) _ place
  | group _ _ ih =>
    intro _ member
    obtain ⟨inner, reached, rfl⟩ := List.mem_map.mp member
    exact ih refused place inner reached

theorem run_reaches (pattern : Regex A) (place : Place A) : ∀ last ∈ pattern.run place,
    ∃ consumed, place.rest = consumed ++ last.rest ∧ last.pos = place.pos + consumed.length := by
  intro last member
  obtain ⟨consumed, shape, pos, -⟩ := run_without (refuses_nil pattern) place last member
  exact ⟨consumed, shape, pos⟩

def groupless : Regex A → Bool
  | empty => true
  | one _ => true
  | edge _ => true
  | seq first second => groupless first && groupless second
  | alt first second => groupless first && groupless second
  | star body => groupless body
  | lazy body => groupless body
  | group _ _ => false

theorem run_marks (pattern : Regex A) (none : groupless pattern = true) (place : Place A) : ∀ last ∈ pattern.run place, last.marks = place.marks := by
  induction pattern generalizing place with
  | empty =>
    intro last member
    rw [mem_singleton.mp member]
  | one =>
    intro last member
    rw [run] at member
    split at member
    · cases member
    split at member
    · rw [mem_singleton.mp member]
      rfl
    · cases member
  | edge =>
    intro last member
    rw [run] at member
    split at member
    · rw [mem_singleton.mp member]
    · cases member
  | seq _ _ ihFirst ihSecond =>
    intro last member
    rw [groupless, Bool.and_eq_true] at none
    obtain ⟨middle, reached, further⟩ := mem_flatMap.mp member
    rw [ihSecond none.2 middle last further, ihFirst none.1 place middle reached]
  | alt _ _ ihFirst ihSecond =>
    intro last member
    rw [groupless, Bool.and_eq_true] at none
    rcases mem_append.mp member with one | other
    · exact ihFirst none.1 place last one
    · exact ihSecond none.2 place last other
  | star _ ih =>
    exact iterate_closed (fun place last => last.marks = place.marks) (fun _ => rfl)
      (fun _ _ _ ahead further => further.trans ahead) _ (ih none) _ place
  | lazy _ ih =>
    exact iterate_lazy_closed (fun place last => last.marks = place.marks) (fun _ => rfl)
      (fun _ _ _ ahead further => further.trans ahead) _ (ih none) _ place
  | group => cases none

def least : Regex A → Nat
  | empty => 0
  | one _ => 1
  | edge _ => 0
  | seq first second => least first + least second
  | alt first second => min (least first) (least second)
  | star _ => 0
  | lazy _ => 0
  | group _ body => least body

theorem run_least (pattern : Regex A) (place : Place A) : ∀ last ∈ pattern.run place, place.pos + least pattern ≤ last.pos := by
  induction pattern generalizing place with
  | one =>
    intro last member
    rw [run] at member
    split at member
    · cases member
    split at member
    · rw [mem_singleton.mp member]
      exact le_rfl
    · cases member
  | seq _ _ ihFirst ihSecond =>
    intro last member
    obtain ⟨middle, reached, further⟩ := mem_flatMap.mp member
    have front := ihFirst place middle reached
    have back := ihSecond middle last further
    rw [least]
    omega
  | alt _ _ ihFirst ihSecond =>
    intro last member
    rw [least]
    rcases mem_append.mp member with one | other
    · have here := ihFirst place last one
      omega
    · have here := ihSecond place last other
      omega
  | group _ _ ih =>
    intro last member
    obtain ⟨inner, reached, rfl⟩ := List.mem_map.mp member
    exact ih place inner reached
  | empty | edge | star | lazy =>
    intro last member
    obtain ⟨_, -, _⟩ := run_reaches _ place last member
    rw [least]
    omega

theorem match_at_some {prev} {text} {hit} (found : pattern.matchAt prev text = some hit) :
    ∃ last, (pattern.run ⟨prev, 0, text, []⟩).head? = some last ∧ text = hit.text ++ last.rest ∧
      hit.text.length = last.pos ∧ hit.marks = last.marks := by
  rw [matchAt, map_eq_some_iff] at found
  obtain ⟨last, first, rfl⟩ := found
  obtain ⟨consumed, shape, pos⟩ := run_reaches pattern _ last (mem_of_head? first)
  simp only [zero_add] at shape pos
  have taken : text.take last.pos = consumed := by rw [shape, pos, take_left]
  refine ⟨last, first, ?_, ?_, rfl⟩
  · rw [taken]
    exact shape
  · rw [taken, pos]

-- What holds of a text and its rewriting: letter by letter, and at each match.
theorem replace_related (pattern : Regex A) (replacement : Hit A → List A) (Related : List A → List A → Prop)
    (nil : Related [] []) (keep : ∀ letter before after, Related before after → Related (letter :: before) (letter :: after))
    (cut : ∀ prev text hit, pattern.matchAt prev text = some hit → hit.text ≠ [] → ∀ after,
      Related (text.drop hit.text.length) after → Related text (replacement hit ++ after))
    (text : List A) : Related text (pattern.replaceAll replacement text) := by
  have pieces (skip : Nat) (prev : Option A) :
      Related (text.drop skip) ((piecesFrom pattern skip prev text).flatMap (Piece.rewritten replacement)) := by
    induction text generalizing skip prev with
    | nil => cases skip <;> exact nil
    | cons letter rest ih =>
      cases skip with
      | succ skip => exact ih skip (some letter)
      | zero =>
        rw [piecesFrom, drop_zero]
        cases found : pattern.matchAt prev (letter :: rest) with
        | none => exact keep letter _ _ (ih 0 (some letter))
        | some hit =>
          by_cases blank : hit.text.length = 0
          · simp only [if_pos blank]
            exact keep letter _ _ (ih 0 (some letter))
          have tail := ih (hit.text.length - 1) (some letter)
          simp only [if_neg blank, flatMap_cons, Piece.rewritten]
          refine cut prev _ hit found (fun empty => blank (by rw [empty]; rfl)) _ ?_
          rwa [drop_cons (Nat.pos_of_ne_zero blank)]
  exact pieces 0 none

theorem match_without (pattern : Regex A) (refused : refuses absent pattern = true) (prev : Option A) (text : List A)
    (hit : Hit A) (found : pattern.matchAt prev text = some hit) : ∀ letter ∈ absent, letter ∉ hit.text := by
  rw [matchAt, map_eq_some_iff] at found
  obtain ⟨last, first, rfl⟩ := found
  obtain ⟨_, shape, pos, clear⟩ := run_without refused _ last (mem_of_head? first)
  simp only [zero_add] at shape pos
  rw [shape, pos, take_left]
  exact clear

end

section

variable (pattern : Regex A)

def Blind : Prop := ∀ prev prev' text, pattern.matchAt prev text = pattern.matchAt prev' text

variable (blind : Blind pattern)

include blind

theorem blind_pieces (skip : Nat) (prev prev' text) : piecesFrom pattern skip prev text = piecesFrom pattern skip prev' text := by
  cases text with
  | nil => cases skip <;> rfl
  | cons =>
    cases skip with
    | succ => rfl
    | zero => rw [piecesFrom, piecesFrom, blind prev prev']

theorem pieces_skip (skip : Nat) (prev text) : piecesFrom pattern skip prev text = pattern.pieces (text.drop skip) := by
  induction text generalizing skip prev with
  | nil => cases skip <;> rfl
  | cons letter _ ih =>
    cases skip with
    | zero => exact blind_pieces pattern blind 0 prev none _
    | succ skip => exact ih skip (some letter)

theorem pieces_none (letter : A) (rest : List A) (none : pattern.matchAt none (letter :: rest) = none) :
    pattern.pieces (letter :: rest) = .letter letter :: pattern.pieces rest := by
  rw [pieces, piecesFrom, none]
  exact congrArg _ (blind_pieces pattern blind 0 _ _ rest)

theorem pieces_some (text hit) (found : pattern.matchAt none text = some hit)
    (real : hit.text ≠ []) : pattern.pieces text = .hit hit :: pattern.pieces (text.drop hit.text.length) := by
  obtain ⟨_, -, shape, -, -⟩ := match_at_some found
  cases text with
  | nil => exact absurd (append_eq_nil_iff.mp shape.symm).1 real
  | cons =>
    have positive : hit.text.length ≠ 0 := fun zero => real (length_eq_zero_iff.mp zero)
    rw [pieces, piecesFrom, found]
    simp only [if_neg positive, pieces_skip pattern blind, drop_cons (Nat.pos_of_ne_zero positive)]

omit blind

theorem located_shift (shift pos : Nat) (parts : List (Piece A)) :
    located (pos + shift) parts = (located pos parts).map fun found => (found.1 + shift, found.2) := by
  induction parts generalizing pos with
  | nil => rfl
  | cons piece _ ih =>
    cases piece with
    | letter =>
      rw [located, located, ← ih]
      congr 1
      omega
    | hit =>
      rw [located, located, map_cons, ← ih]
      congr 2
      omega

theorem located_from (pos : Nat) (parts : List (Piece A)) : located pos parts = (located 0 parts).map fun found => (found.1 + pos, found.2) := by
  rw [← located_shift, zero_add]

end

variable (pattern : Regex A)

def Real : Prop := ∀ prev text hit, pattern.matchAt prev text = some hit → hit.text ≠ []

theorem real_least (positive : 0 < least pattern) : Real pattern := by
  intro _ _ _ found empty
  obtain ⟨last, first, -, length, -⟩ := match_at_some found
  have reached := run_least pattern _ last (mem_of_head? first)
  rw [empty, length_nil] at length
  simp only [zero_add] at reached
  omega

def matchIn (prev : Option A) (text : List A) (p : Nat) : Option (Hit A) :=
  pattern.matchAt (if p = 0 then prev else text[p - 1]?) (text.drop p)

variable (prev : Option A)

theorem match_in_succ (letter : A) (rest : List A) (p : Nat) :
    matchIn pattern prev (letter :: rest) (p + 1) = matchIn pattern (some letter) rest p := by
  cases p with
  | zero => rfl
  | succ => rfl

variable (text : List A)

theorem pieces_clear (clear : ∀ q < text.length, matchIn pattern prev text q = none) : piecesFrom pattern 0 prev text = text.map .letter := by
  induction text generalizing prev with
  | nil => rfl
  | cons letter rest ih =>
    have here : pattern.matchAt prev (letter :: rest) = none := clear 0 (Nat.succ_pos _)
    have tail := ih (some letter) fun q inside => by
      rw [← match_in_succ pattern prev]
      exact clear (q + 1) (Nat.succ_lt_succ inside)
    rw [piecesFrom, here, map_cons, ← tail]

theorem pieces_found (real : Real pattern) (prev text) (p : Nat) (hit)
    (inside : p < text.length) (clear : ∀ q < p, matchIn pattern prev text q = none)
    (found : matchIn pattern prev text p = some hit) :
    piecesFrom pattern 0 prev text =
      (text.take p).map .letter ++ .hit hit :: piecesFrom pattern (hit.text.length - 1) text[p]? (text.drop (p + 1)) := by
  induction p generalizing prev text with
  | zero =>
    cases text with
    | nil => cases inside
    | cons letter rest =>
      have here : pattern.matchAt prev (letter :: rest) = some hit := found
      have positive : hit.text.length ≠ 0 := mt length_eq_zero_iff.mp (real _ _ _ here)
      rw [piecesFrom, here]
      simp only [if_neg positive]
      rfl
  | succ _ ih =>
    cases text with
    | nil => cases inside
    | cons letter rest =>
      have here : pattern.matchAt prev (letter :: rest) = none := clear 0 (Nat.succ_pos _)
      have tail := ih (some letter) rest (Nat.lt_of_succ_lt_succ inside) (fun q below => by
          rw [← match_in_succ pattern prev]
          exact clear (q + 1) (Nat.succ_lt_succ below))
        (by rwa [← match_in_succ pattern prev])
      rw [piecesFrom, here]
      simp only [tail]
      rfl

theorem located_letters (pos : Nat) (letters : List A) (parts : List (Piece A)) :
    located pos (letters.map .letter ++ parts) = located (pos + letters.length) parts := by
  induction letters generalizing pos with
  | nil => rfl
  | cons _ _ ih =>
    rw [map_cons, cons_append, located, ih, length_cons]
    congr 1
    omega

theorem located_clear (pos : Nat) (letters : List A) : located pos (letters.map .letter) = [] := by
  have all := located_letters pos letters []
  rwa [append_nil] at all

theorem first_match : (∀ q < text.length, matchIn pattern prev text q = none) ∨
      ∃ p hit, p < text.length ∧ (∀ q < p, matchIn pattern prev text q = none) ∧ matchIn pattern prev text p = some hit := by
  by_cases any : ∃ q, q < text.length ∧ (matchIn pattern prev text q).isSome
  · right
    classical
    obtain ⟨inside, found⟩ := Nat.find_spec any
    obtain ⟨hit, found⟩ := isSome_iff_exists.mp found
    refine ⟨Nat.find any, hit, inside, fun q below => ?_, found⟩
    have fails := Nat.find_min any below
    rw [not_and, Bool.not_eq_true, isSome_eq_false_iff, isNone_iff_eq_none] at fails
    exact fails (lt_trans below inside)
  · left
    intro q inside
    have fails := not_exists.mp any q
    rw [not_and, Bool.not_eq_true, isSome_eq_false_iff, isNone_iff_eq_none] at fails
    exact fails inside

theorem find_clear (clear : ∀ q < text.length, matchIn pattern none text q = none) : pattern.find text = none := by
  rw [find, findAll, pieces, pieces_clear pattern none text clear, located_clear]
  rfl

theorem find_found (real : Real pattern) (text) (p : Nat) (hit) (inside : p < text.length)
    (clear : ∀ q < p, matchIn pattern none text q = none) (found : matchIn pattern none text p = some hit) :
    pattern.find text = some (p, hit) := by
  rw [find, findAll, pieces, pieces_found pattern real none text p hit inside clear found, located_letters, located,
    head?_cons, zero_add, length_take_of_le (le_of_lt inside)]

theorem find_some (real : Real pattern) (text) (p : Nat) (hit) (first : pattern.find text = some (p, hit)) :
    p < text.length ∧ (∀ q < p, matchIn pattern none text q = none) ∧ matchIn pattern none text p = some hit := by
  rcases first_match pattern none text with clear | ⟨p', hit', inside, clear, found⟩
  · rw [find_clear pattern text clear] at first
    cases first
  · rw [find_found pattern real text p' hit' inside clear found] at first
    cases first
    exact ⟨inside, clear, found⟩

theorem find_none (real : Real pattern) (text : List A) (absent : pattern.find text = none) :
    ∀ q < text.length, matchIn pattern none text q = none := by
  rcases first_match pattern none text with clear | ⟨p, hit, inside, clear, found⟩
  · exact clear
  · rw [find_found pattern real text p hit inside clear found] at absent
    cases absent

theorem located_in (skip : Nat) (prev text) (pos : Nat) (found) (member : found ∈ located pos (piecesFrom pattern skip prev text)) :
    ∃ p, found.1 + skip = pos + p ∧ skip ≤ p ∧ p < text.length ∧ matchIn pattern prev text p = some found.2 := by
  induction text generalizing skip prev pos with
  | nil => cases skip <;> cases member
  | cons letter rest ih =>
    have later (skip pos : Nat) (member : found ∈ located pos (piecesFrom pattern skip (some letter) rest)) :
        ∃ p, found.1 + skip = pos + p ∧ skip ≤ p ∧ p < rest.length ∧ matchIn pattern prev (letter :: rest) (p + 1) = some found.2 := by
      obtain ⟨p, place, behind, inside, here⟩ := ih skip (some letter) pos member
      exact ⟨p, place, behind, inside, by rwa [match_in_succ]⟩
    cases skip with
    | succ skip =>
      obtain ⟨p, place, _, inside, here⟩ := later skip pos member
      exact ⟨p + 1, by omega, by omega, Nat.succ_lt_succ inside, here⟩
    | zero =>
      have single (member : found ∈ located (pos + 1) (piecesFrom pattern 0 (some letter) rest)) :
          ∃ p, found.1 + 0 = pos + p ∧ 0 ≤ p ∧ p < (letter :: rest).length ∧ matchIn pattern prev (letter :: rest) p = some found.2 := by
        obtain ⟨p, _, -, inside, here⟩ := later 0 (pos + 1) member
        exact ⟨p + 1, by omega, Nat.zero_le _, Nat.succ_lt_succ inside, here⟩
      rw [piecesFrom] at member
      cases first : pattern.matchAt prev (letter :: rest) with
      | none =>
        rw [first] at member
        exact single member
      | some hit =>
        rw [first] at member
        by_cases blank : hit.text.length = 0
        · simp only [if_pos blank] at member
          exact single member
        simp only [if_neg blank, located, mem_cons] at member
        rcases member with rfl | further
        · exact ⟨0, rfl, le_rfl, Nat.succ_pos _, first⟩
        · obtain ⟨p, _, -, inside, here⟩ := later _ _ further
          exact ⟨p + 1, by omega, Nat.zero_le _, Nat.succ_lt_succ inside, here⟩

theorem found_in (found) (member : found ∈ pattern.findAll text) : found.1 < text.length ∧ matchIn pattern none text found.1 = some found.2 := by
  obtain ⟨p, _, -, inside, here⟩ := located_in pattern 0 none text 0 found member
  have same : found.1 = p := by omega
  rw [same]
  exact ⟨inside, here⟩

theorem located_from_le {pos : Nat} {parts : List (Piece A)} {found : Nat × Hit A} (member : found ∈ located pos parts) : pos ≤ found.1 := by
  rw [located_from, List.mem_map] at member
  obtain ⟨_, -, rfl⟩ := member
  exact Nat.le_add_left _ _

theorem located_apart (pos : Nat) (parts : List (Piece A)) :
    (located pos parts).Pairwise fun found later => found.1 + found.2.text.length ≤ later.1 := by
  induction parts generalizing pos with
  | nil => exact List.Pairwise.nil
  | cons piece _ ih =>
    cases piece with
    | letter => exact ih (pos + 1)
    | hit =>
      rw [located, pairwise_cons]
      exact ⟨fun later member => located_from_le member, ih _⟩

theorem found_apart : (pattern.findAll text).Pairwise fun found later => found.1 + found.2.text.length ≤ later.1 := located_apart 0 _

theorem pieces_past (skip : Nat) (prev text) (past : text.length ≤ skip) : piecesFrom pattern skip prev text = [] := by
  induction text generalizing skip prev with
  | nil => cases skip <;> rfl
  | cons _ _ ih =>
    cases skip with
    | zero => cases past
    | succ skip => exact ih skip _ (Nat.le_of_succ_le_succ past)

theorem replace_letters (replacement : Hit A → List A) (letters : List A) :
    (letters.map Piece.letter).flatMap (Piece.rewritten replacement) = letters := by
  induction letters with
  | nil => rfl
  | cons _ _ ih => rw [map_cons, flatMap_cons, ih, Piece.rewritten, singleton_append]

theorem replace_none (real : Real pattern) (replacement : Hit A → List A) (text : List A)
    (absent : pattern.find text = none) : pattern.replaceAll replacement text = text := by
  rw [replace_pieces, pieces, pieces_clear pattern none text (find_none pattern real text absent)]
  exact replace_letters replacement text

theorem replace_first (real : Real pattern) (blind : Blind pattern) (replacement : Hit A → List A) (text : List A) (p : Nat)
    (hit : Hit A) (first : pattern.find text = some (p, hit)) :
    pattern.replaceAll replacement text = text.take p ++ replacement hit ++ pattern.replaceAll replacement (text.drop (p + hit.text.length)) := by
  obtain ⟨inside, clear, found⟩ := find_some pattern real text p hit first
  have positive : 0 < hit.text.length := length_pos_iff.mpr (real _ _ _ found)
  have behind : (text.drop (p + 1)).drop (hit.text.length - 1) = text.drop (p + hit.text.length) := by
    rw [drop_drop]
    congr 1
    omega
  rw [replace_pieces, pieces, pieces_found pattern real none text p hit inside clear found, pieces_skip pattern blind, behind,
    flatMap_append, replace_letters, flatMap_cons, append_assoc, Piece.rewritten, replace_pieces]

theorem replace_last (real : Real pattern) (replacement : Hit A → List A) (text : List A) (p : Nat) (hit : Hit A)
    (first : pattern.find text = some (p, hit)) (last : text.length ≤ p + hit.text.length) :
    pattern.replaceAll replacement text = text.take p ++ replacement hit := by
  obtain ⟨inside, clear, found⟩ := find_some pattern real text p hit first
  have tail := pieces_past pattern (hit.text.length - 1) text[p]? (text.drop (p + 1)) (by
    rw [length_drop]
    omega)
  rw [replace_pieces, pieces, pieces_found pattern real none text p hit inside clear found, tail, flatMap_append,
    replace_letters, flatMap_singleton, Piece.rewritten]

end Regex

end LibCommons
