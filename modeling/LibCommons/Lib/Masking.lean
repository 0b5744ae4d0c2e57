import LibCommons.Lib.Committed

namespace LibCommons

open List

-- Texts in which spans are replaced by copies of one letter.
namespace Masking

variable {A : Type} [DecidableEq A] (star : A) (size : Nat)

def mask : List A := List.replicate size star

def plain (text : List A) : List A := text.filter fun letter => decide (letter ≠ star)

def gaps : List A → List Nat
  | [] => [0]
  | letter :: rest => if letter = star then (gaps rest).modifyHead (· + 1) else 0 :: gaps rest

-- The same other letters, and every run of the letter is as it was or a mask.
structure Settles (before after : List A) : Prop where
  kept : plain star after = plain star before
  runs : List.Forall₂ (fun old new => new = old ∨ new = size) (gaps star before) (gaps star after)

-- Replacing spans takes other letters away, or settles runs of the letter.
def Masked (before after : List A) : Prop := (plain star after).length < (plain star before).length ∨ Settles star size before after

section

variable (text : List A)

theorem gaps_cons : ∃ first rest, gaps star text = first :: rest := by
  induction text with
  | nil => exact ⟨0, [], rfl⟩
  | cons _ _ ih =>
    obtain ⟨first, rest, shape⟩ := ih
    rw [gaps, shape]
    split
    · exact ⟨first + 1, rest, rfl⟩
    · exact ⟨0, first :: rest, rfl⟩

def weave : List Nat → List A → List A
  | [], letters => letters
  | gap :: _, [] => List.replicate gap star
  | gap :: gaps, letter :: letters => List.replicate gap star ++ letter :: weave gaps letters

theorem weave_gaps : weave star (gaps star text) (plain star text) = text := by
  induction text with
  | nil => rfl
  | cons letter text ih =>
    obtain ⟨_, _, shape⟩ := gaps_cons star text
    rw [gaps, plain, filter_cons, ← plain]
    rw [shape] at ih ⊢
    by_cases same : letter = star
    · subst same
      rw [if_pos rfl, if_neg (by simp), modifyHead_cons]
      cases letters : plain letter text with
      | nil =>
        rw [letters, weave] at ih
        rw [weave, replicate_succ, ih]
      | cons =>
        rw [letters, weave] at ih
        rw [weave, replicate_succ, cons_append, ih]
    · rw [if_neg same, if_pos (by simp [same]), weave, ih]
      rfl

theorem settles_refl : Settles star size text text := ⟨rfl, forall₂_same.mpr fun _ _ => .inl rfl⟩

variable {first second : List Nat} (one : List.Forall₂ (fun old new => new = old ∨ new = size) first second)

include one

theorem runs_trans {third} (other : List.Forall₂ (fun old new => new = old ∨ new = size) second third) :
    List.Forall₂ (fun old new => new = old ∨ new = size) first third := by
  induction one generalizing third with
  | nil => exact other
  | cons head _ ih =>
    cases other with
    | cons head' tail' =>
      refine .cons ?_ (ih tail')
      rcases head' with rfl | masked
      · exact head
      · exact .inr masked

theorem runs_antisymm (other : List.Forall₂ (fun old new => new = old ∨ new = size) second first) : first = second := by
  induction one with
  | nil => rfl
  | cons head _ ih =>
    cases other with
    | cons head' tail' =>
      rw [ih tail']
      congr 1
      rcases head with same | masked
      · exact same.symm
      · rcases head' with same | masked'
        · exact same
        · rw [masked, masked']

omit one

theorem masked_refl : Masked star size text text := .inr (settles_refl star size text)

theorem masked_trans {first second third} (one : Masked star size first second)
    (other : Masked star size second third) : Masked star size first third := by
  rcases one with fewer | settled
  · rcases other with fewer' | settled'
    · exact .inl (lt_trans fewer' fewer)
    · left
      rw [settled'.kept]
      exact fewer
  · rcases other with fewer' | settled'
    · left
      rw [← settled.kept]
      exact fewer'
    · exact .inr ⟨settled'.kept.trans settled.kept, runs_trans size settled.runs settled'.runs⟩

theorem masked_antisymm {first second} (one : Masked star size first second) (other : Masked star size second first) : first = second := by
  rcases one with fewer | settled
  · rcases other with fewer' | settled'
    · omega
    · rw [settled'.kept] at fewer
      omega
  rcases other with fewer' | settled'
  · rw [settled.kept] at fewer'
    omega
  · rw [← weave_gaps star first, ← weave_gaps star second, settled.kept, runs_antisymm size settled.runs settled'.runs]

end

section

variable (front back : List A)

theorem plain_append : plain star (front ++ back) = plain star front ++ plain star back := filter_append front back

theorem plain_mask : plain star (mask star size) = [] := by
  rw [plain, mask, filter_eq_nil_iff]
  intro _ member
  simp [eq_of_mem_replicate member]

variable (text : List A)

theorem plain_pos (some : ∃ letter ∈ text, letter ≠ star) : 0 < (plain star text).length := by
  obtain ⟨_, member, other⟩ := some
  exact length_pos_of_mem (mem_filter.mpr ⟨member, by simpa using other⟩)

theorem masked_fewer (span span' back) (fewer : (plain star span').length < (plain star span).length) :
    Masked star size (front ++ span ++ back) (front ++ span' ++ back) := by
  left
  simp only [plain_append, length_append]
  omega

theorem gaps_split (letter : A) (other : letter ≠ star) (back) : gaps star (front ++ letter :: back) = gaps star front ++ gaps star back := by
  induction front with
  | nil => simp only [nil_append, gaps, if_neg other, singleton_append]
  | cons _ front ih =>
    obtain ⟨_, _, shape⟩ := gaps_cons star front
    rw [cons_append, gaps, gaps, ih, shape]
    split <;> rfl

theorem gaps_run (count : Nat) (back) : gaps star (List.replicate count star ++ back) = (gaps star back).modifyHead (· + count) := by
  induction count with
  | zero =>
    obtain ⟨_, _, shape⟩ := gaps_cons star back
    rw [replicate_zero, nil_append, shape]
    rfl
  | succ _ ih =>
    obtain ⟨_, _, shape⟩ := gaps_cons star back
    rw [replicate_succ, cons_append, gaps, if_pos rfl, ih, shape]
    simp [add_assoc]

theorem settles_run (count : Nat) (left : front.getLast? ≠ some star) (right : back.head? ≠ some star) :
    Settles star size (front ++ List.replicate count star ++ back) (front ++ mask star size ++ back) := by
  have runs : List.Forall₂ (fun old new => new = old ∨ new = size)
      (gaps star (List.replicate count star ++ back)) (gaps star (mask star size ++ back)) := by
    rw [mask, gaps_run, gaps_run]
    cases back with
    | nil => simp [gaps]
    | cons letter =>
      have other : letter ≠ star := fun same => right (by rw [same]; rfl)
      rw [gaps, if_neg other]
      simp [forall₂_same]
  constructor
  · have none := plain_mask star size
    have none' := plain_mask star count
    rw [mask] at none'
    simp only [plain_append, none, none']
  rw [append_assoc, append_assoc]
  cases shape : front.getLast? with
  | none =>
    rw [getLast?_eq_none_iff.mp shape]
    exact runs
  | some letter =>
    have other : letter ≠ star := fun same => left (by rw [shape, same])
    obtain ⟨_, rfl⟩ := getLast?_eq_some_iff.mp shape
    rw [append_assoc, append_assoc, singleton_append, singleton_append, gaps_split star _ _ other, gaps_split star _ _ other]
    exact rel_append (forall₂_same.mpr fun _ _ => .inl rfl) runs

theorem masked_span (span back) (bounded : (∃ letter ∈ span, letter ≠ star) ∨ (front.getLast? ≠ some star ∧ back.head? ≠ some star)) :
    Masked star size (front ++ span ++ back) (front ++ mask star size ++ back) := by
  by_cases some : ∃ letter ∈ span, letter ≠ star
  · apply masked_fewer
    rw [plain_mask]
    exact plain_pos star span some
  rcases bounded with other | ⟨left, right⟩
  · exact absurd other some
  have run : span = List.replicate span.length star := by
    rw [eq_replicate_iff]
    refine ⟨rfl, fun letter member => ?_⟩
    by_contra other
    exact some ⟨letter, member, other⟩
  rw [run]
  exact .inr (settles_run star size front back span.length left right)

theorem masked_value (head value back) (real : head ≠ []) (clear : star ∉ head) (right : back.head? ≠ some star) :
    Masked star size (front ++ (head ++ value) ++ back) (front ++ (head ++ mask star size) ++ back) := by
  rw [← append_assoc, ← append_assoc]
  apply masked_span
  right
  refine ⟨?_, right⟩
  rw [getLast?_append_of_ne_nil _ real]
  exact fun last => clear (mem_of_getLast? last)

theorem masked_inner (before head value tail after) (whole : text = before ++ head ++ value ++ tail ++ after)
    (dropped : before ≠ [] → ∃ letter ∈ before, letter ≠ star) (dropped' : after ≠ [] → ∃ letter ∈ after, letter ≠ star)
    (real : head ≠ []) (clear : star ∉ head) (right : (tail ++ back).head? ≠ some star) :
    Masked star size (front ++ text ++ back) (front ++ (head ++ mask star size ++ tail) ++ back) := by
  rw [whole]
  have fewer (some : 0 < (plain star before).length + (plain star after).length) :
      Masked star size (front ++ (before ++ head ++ value ++ tail ++ after) ++ back) (front ++ (head ++ mask star size ++ tail) ++ back) := by
    apply masked_fewer
    simp only [plain_append, plain_mask, length_append, length_nil]
    omega
  by_cases empty : before = []
  · by_cases empty' : after = []
    · have inner := masked_value star size front head value (tail ++ back) real clear right
      simpa [empty, empty'] using inner
    · have positive := plain_pos star after (dropped' empty')
      exact fewer (by omega)
  · have positive := plain_pos star before (dropped empty)
    exact fewer (by omega)

theorem masked_tail (accepts) (accepted : accepts star = true) (n : Nat) (positive : 0 < n)
    (inside : n ≤ text.length) (clear : star ∉ text.take n) (right : back.head? ≠ some star) :
    Masked star size (front ++ text ++ back)
      (front ++ (text.take n ++ mask star size) ++ text.drop (n + Regex.width accepts (text.drop n)) ++ back) := by
  have behind := Regex.width_behind accepts (text.drop n)
  rw [getElem?_drop, ← head?_drop] at behind
  have shape : text = text.take n ++ (text.drop n).take (Regex.width accepts (text.drop n)) ++ text.drop (n + Regex.width accepts (text.drop n)) := by
    rw [← take_add, take_append_drop]
  have right' : (text.drop (n + Regex.width accepts (text.drop n)) ++ back).head? ≠ some star := by
    rw [head?_append]
    cases next : (text.drop (n + Regex.width accepts (text.drop n))).head? with
    | none => exact right
    | some =>
      intro same
      rw [next, Option.some_or.symm.trans same, Option.any_some, accepted] at behind
      cases behind
  have real : text.take n ≠ [] := by
    rw [← length_pos_iff, length_take]
    omega
  have masked := masked_value star size front (text.take n) ((text.drop n).take (Regex.width accepts (text.drop n)))
    (text.drop (n + Regex.width accepts (text.drop n)) ++ back) real clear right'
  have whole : front ++ (text.take n ++ (text.drop n).take (Regex.width accepts (text.drop n))) ++
      (text.drop (n + Regex.width accepts (text.drop n)) ++ back) = front ++ text ++ back := by
    rw [← append_assoc, append_assoc front, ← shape]
  rw [whole, ← append_assoc] at masked
  exact masked

end

section

open Regex

theorem masked_replace (pattern : Regex A) (replacement : Hit A → List A) (back : List A)
    (each : ∀ prev text hit, pattern.matchAt prev text = some hit → hit.text ≠ [] → ∀ front,
      Masked star size (front ++ text ++ back) (front ++ replacement hit ++ text.drop hit.text.length ++ back))
    (front text : List A) :
    Masked star size (front ++ text ++ back) (front ++ pattern.replaceAll replacement text ++ back) := by
  refine replace_related pattern replacement (fun before after => ∀ front, Masked star size (front ++ before ++ back) (front ++ after ++ back))
    (fun front => masked_refl star size _) ?_ ?_ text front
  · intro letter _ _ rest front
    simpa using rest (front ++ [letter])
  intro prev text hit found real _ rest front
  have here := each prev text hit found real front
  rw [← append_assoc]
  exact masked_trans star size here (rest (front ++ replacement hit))

end

section

omit [DecidableEq A]

inductive Spliced (span : List A → Prop) : List A → List A → Prop
  | nil : Spliced span [] []
  | keep (letter : A) {before after : List A} (rest : Spliced span before after) : Spliced span (letter :: before) (letter :: after)
  | cut {text before after : List A} (allowed : span text) (rest : Spliced span before after) :
    Spliced span (text ++ before) (mask star size ++ after)

variable {star size} {span : List A → Prop}

theorem spliced_refl (text) : Spliced star size span text text := by
  induction text with
  | nil => exact .nil
  | cons letter _ ih => exact .keep letter ih

theorem spliced_append {before after before' after'} (one : Spliced star size span before after)
    (other : Spliced star size span before' after') : Spliced star size span (before ++ before') (after ++ after') := by
  induction one with
  | nil => exact other
  | keep letter _ ih => exact .keep letter ih
  | cut allowed _ ih =>
    rw [append_assoc, append_assoc]
    exact .cut allowed ih

theorem spliced_whole {text} (allowed : span text) : Spliced star size span text (mask star size) := by
  have alone : Spliced star size span (text ++ []) (mask star size ++ []) := .cut allowed .nil
  rwa [append_nil, append_nil] at alone

theorem spliced_replace (pattern : Regex A) (replacement : Regex.Hit A → List A)
    (each : ∀ hit : Regex.Hit A, Spliced star size span hit.text (replacement hit)) (text : List A) :
    Spliced star size span text (pattern.replaceAll replacement text) := by
  refine Regex.replace_related pattern replacement (Spliced star size span) .nil (fun letter _ _ rest => .keep letter rest) ?_ text
  intro _ _ hit found _ _ rest
  obtain ⟨_, -, shape, -, -⟩ := Regex.match_at_some found
  rw [shape, drop_left] at rest
  rw [shape]
  exact spliced_append (each hit) rest

theorem spliced_uncut {front back before} (positive : 0 < size) (clear : star ∉ front) (spliced : Spliced star size span before (front ++ back)) :
    ∃ rest, before = front ++ rest ∧ Spliced star size span rest back := by
  induction front generalizing before with
  | nil => exact ⟨before, rfl, spliced⟩
  | cons letter front ih =>
    rw [mem_cons, not_or] at clear
    rw [cons_append] at spliced
    generalize whole : letter :: (front ++ back) = after at spliced
    cases spliced with
    | nil => cases whole
    | keep _ rest =>
      obtain ⟨rfl, rfl⟩ := List.cons.inj whole
      obtain ⟨behind, rfl, later⟩ := ih clear.2 rest
      exact ⟨behind, rfl, later⟩
    | cut =>
      obtain ⟨_, rfl⟩ := Nat.exists_eq_add_of_lt positive
      rw [mask, zero_add, replicate_succ] at whole
      exact absurd (List.cons.inj whole).1.symm clear.1

theorem spliced_stars (proper : ∀ text, span text → star ∉ text ∧ size < text.length) (count : Nat) {back after}
    (spliced : Spliced star size span (List.replicate count star ++ back) after) :
    ∃ rest, after = List.replicate count star ++ rest ∧ Spliced star size span back rest := by
  induction count generalizing after with
  | zero => exact ⟨after, rfl, spliced⟩
  | succ count ih =>
    rw [replicate_succ, cons_append] at spliced
    generalize whole : star :: (List.replicate count star ++ back) = before at spliced
    cases spliced with
    | nil => cases whole
    | keep _ rest =>
      obtain ⟨rfl, rfl⟩ := List.cons.inj whole
      obtain ⟨behind, rfl, later⟩ := ih rest
      exact ⟨behind, rfl, later⟩
    | @cut text _ _ allowed =>
      obtain ⟨clear, long⟩ := proper text allowed
      cases text with
      | nil => cases long
      | cons => exact absurd (mem_cons.mpr (.inl (List.cons.inj whole).1)) clear

theorem spliced_trans (positive : 0 < size) (proper : ∀ text, span text → star ∉ text ∧ size < text.length)
    {first second third} (one : Spliced star size span first second) (other : Spliced star size span second third) :
    Spliced star size span first third := by
  induction length : second.length using Nat.strong_induction_on generalizing first second third with
  | _ _ ih =>
    cases other with
    | nil => exact one
    | cut allowed later =>
      obtain ⟨clear, _⟩ := proper _ allowed
      obtain ⟨rest, rfl, earlier⟩ := spliced_uncut positive clear one
      refine .cut allowed (ih _ ?_ earlier later rfl)
      rw [← length, length_append]
      omega
    | @keep letter before after later =>
      have whole := Spliced.keep letter later
      generalize shape : letter :: before = text at one whole
      cases one with
      | nil => cases shape
      | keep _ earlier =>
        obtain ⟨rfl, rfl⟩ := List.cons.inj shape
        exact .keep letter (ih _ (by rw [← length]; exact Nat.lt_succ_self _) earlier later rfl)
      | @cut _ _ behind allowed earlier =>
        rw [mask] at whole
        obtain ⟨_, same, later⟩ := spliced_stars proper size whole
        rw [same]
        refine .cut allowed (ih _ ?_ earlier later rfl)
        rw [← length, shape, mask, length_append, length_replicate]
        omega

theorem spliced_shorter (proper : ∀ text, span text → star ∉ text ∧ size < text.length) {before after : List A}
    (spliced : Spliced star size span before after) : after = before ∨ after.length < before.length := by
  induction spliced with
  | nil => exact .inl rfl
  | keep _ _ ih =>
    rcases ih with rfl | less
    · exact .inl rfl
    · exact .inr (Nat.succ_lt_succ less)
  | cut allowed _ ih =>
    have long := (proper _ allowed).2
    right
    rw [mask, length_append, length_append, length_replicate]
    rcases ih with rfl | less <;> omega

end

theorem spliced_masked {span} (proper : ∀ text, span text → star ∉ text ∧ size < text.length) {before after}
    (spliced : Spliced star size span before after) (front) : Masked star size (front ++ before) (front ++ after) := by
  induction spliced generalizing front with
  | nil => exact masked_refl star size _
  | keep letter _ ih => simpa using ih (front ++ [letter])
  | @cut text before after allowed rest ih =>
    obtain ⟨clear, long⟩ := proper text allowed
    obtain ⟨letter, member⟩ := exists_mem_of_length_pos (Nat.zero_lt_of_lt long)
    have here := masked_span star size front text before (.inl ⟨letter, member, fun same => clear (same ▸ member)⟩)
    have later := ih (front ++ mask star size)
    simp only [append_assoc] at here later
    exact masked_trans star size here later

end Masking

end LibCommons
