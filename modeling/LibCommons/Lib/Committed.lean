import LibCommons.Lib.Regex

namespace LibCommons

open List Option

namespace Regex

variable {A : Type}

section

variable (accepts : A → Bool)

def Place.past (place : Place A) (n : Nat) : Place A where
  prev := if n = 0 then place.prev else place.rest[n - 1]?
  pos := place.pos + n
  rest := place.rest.drop n
  marks := place.marks

def Place.mark (place : Place A) (index start : Nat) : Place A := { place with marks := (index, start, place.pos) :: place.marks }

variable (place : Place A) (n : Nat)

@[simp] theorem past_pos : (place.past n).pos = place.pos + n := rfl

@[simp] theorem past_rest : (place.past n).rest = place.rest.drop n := rfl

@[simp] theorem past_marks : (place.past n).marks = place.marks := rfl

variable (index : Nat)

@[simp] theorem mark_pos (start : Nat) : (place.mark index start).pos = place.pos := rfl

@[simp] theorem mark_rest (start : Nat) : (place.mark index start).rest = place.rest := rfl

@[simp] theorem mark_marks (start : Nat) : (place.mark index start).marks = (index, start, place.pos) :: place.marks := rfl

theorem run_group (body : Regex A) (place : Place A) :
    run (group index body) place = (run body place).map fun last => last.mark index place.pos := rfl

theorem past_zero : place.past 0 = place := rfl

theorem past_succ (letter : A) (rest) (shape : place.rest = letter :: rest) (n : Nat) : (place.advance letter rest).past n = place.past (n + 1) := by
  cases n with
  | zero => simp [Place.past, Place.advance, shape]
  | succ =>
    simp only [Place.past, Place.advance, shape, Nat.succ_ne_zero, if_false, Nat.add_sub_cancel, drop_succ_cons, getElem?_cons_succ]
    congr 1
    omega

def width (text : List A) : Nat := (text.takeWhile accepts).length

theorem width_cons (letter : A) (rest) (accepted : accepts letter = true) : width accepts (letter :: rest) = width accepts rest + 1 := by
  rw [width, takeWhile_cons_of_pos accepted, length_cons, width]

theorem width_refused (letter : A) (rest) (refused : accepts letter = false) : width accepts (letter :: rest) = 0 := by
  rw [width, takeWhile_cons_of_neg (by simp [refused]), length_nil]

theorem iterate_one (fuel : Nat) (place) (enough : place.rest.length ≤ fuel) :
    iterate (run (one accepts)) fuel place = (List.range (width accepts place.rest + 1)).reverse.map place.past := by
  induction fuel generalizing place with
  | zero =>
    have empty := length_eq_zero_iff.mp (Nat.le_zero.mp enough)
    simp [iterate, empty, width, past_zero]
  | succ _ ih =>
    cases shape : place.rest with
    | nil => simp [iterate, run, shape, width, past_zero]
    | cons letter rest =>
      cases accepted : accepts letter with
      | false => simp [iterate, run, shape, accepted, width_refused, past_zero]
      | true =>
        rw [shape, length_cons] at enough
        have tail := ih (place.advance letter rest) (by simpa [Place.advance] using enough)
        have moved : (place.advance letter rest).past = fun n => place.past (n + 1) := funext fun n => past_succ place letter rest shape n
        have front : (place.advance letter rest).rest = rest := rfl
        rw [moved, front] at tail
        have step : run (one accepts) place = [place.advance letter rest] := by simp [run, shape, accepted]
        rw [width_cons accepts letter rest accepted, range_succ_eq_map, reverse_cons, map_append,
          ← map_reverse, List.map_map, iterate, step, flatMap_singleton, tail]
        rfl

theorem run_star_one : run (star (one accepts)) place = (List.range (width accepts place.rest + 1)).reverse.map place.past :=
  iterate_one accepts _ place le_rfl

theorem run_one : run (one accepts) place = if width accepts place.rest = 0 then [] else [place.past 1] := by
  cases shape : place.rest with
  | nil => simp [run, shape, width]
  | cons letter rest =>
    cases accepted : accepts letter with
    | false => simp [run, shape, accepted, width_refused]
    | true =>
      have moved := past_succ place letter rest shape 0
      rw [past_zero] at moved
      simp [run, shape, accepted, width_cons, moved]

theorem past_past (m n : Nat) : (place.past m).past n = place.past (m + n) := by
  cases n with
  | zero => rfl
  | succ =>
    simp only [Place.past, Nat.succ_ne_zero, if_false, getElem?_drop, drop_drop]
    congr 1
    omega

variable (text : List A)

theorem width_pos (some : width accepts text ≠ 0) : width accepts (text.drop 1) + 1 = width accepts text := by
  cases text with
  | nil => exact absurd rfl some
  | cons letter rest =>
    cases accepted : accepts letter with
    | false => exact absurd (width_refused accepts letter rest accepted) some
    | true => rw [width_cons accepts letter rest accepted, drop_one, tail_cons]

theorem range_head (f : Nat → Place A) : ((List.range (n + 1)).reverse.map f).head? = some (f n) := by
  rw [range_succ, reverse_append, map_append]
  rfl

theorem run_plus_one : (run (plus (one accepts)) place).head? =
      if width accepts place.rest = 0 then none else some (place.past (width accepts place.rest)) := by
  rw [plus, run, run_one]
  split
  · rfl
  rename_i some
  have count := width_pos accepts place.rest some
  have front : (place.past 1).rest = place.rest.drop 1 := rfl
  rw [flatMap_singleton, run_star_one, range_head, past_past, front, Nat.add_comm, count]

theorem width_drop (k : Nat) (inside : k ≤ width accepts text) : width accepts (text.drop k) = width accepts text - k := by
  induction k generalizing text with
  | zero => rfl
  | succ _ ih =>
    have count := width_pos accepts text (by omega)
    have tail := ih (text.drop 1) (by omega)
    rw [drop_drop, Nat.add_comm] at tail
    omega

theorem head_any : text.head?.any accepts = decide (width accepts text ≠ 0) := by
  cases text with
  | nil => rfl
  | cons letter =>
    cases accepted : accepts letter with
    | false => simp [accepted, width_refused]
    | true => simp [accepted, width_cons]

theorem width_inside (k : Nat) (inside : k < width accepts text) : (text[k]?).any accepts = true := by
  have count := width_drop accepts text k (Nat.le_of_lt inside)
  rw [← head?_drop, head_any, decide_eq_true_eq]
  omega

theorem width_behind : (text[width accepts text]?).any accepts = false := by
  have count := width_drop accepts text (width accepts text) le_rfl
  rw [← head?_drop, head_any, count, Nat.sub_self]
  rfl

theorem width_le : width accepts text ≤ text.length := ( takeWhile_prefix accepts).length_le

theorem take_width : text.take (width accepts text) = text.takeWhile accepts := (prefix_iff_eq_take.mp ( takeWhile_prefix accepts)).symm

theorem width_all (all : ∀ letter ∈ text, accepts letter = true) : width accepts text = text.length := by
  rw [width, takeWhile_eq_self_iff.mpr all]

theorem width_take (other) (inside : ∀ letter, accepts letter = true → other letter = true) (text) :
    width accepts (text.take (width other text)) = width accepts text := by
  induction text with
  | nil => rfl
  | cons letter rest ih =>
    cases accepted : accepts letter with
    | false =>
      rw [width_refused accepts letter rest accepted]
      cases other' : other letter with
      | false => rw [width_refused other letter rest other', take_zero]; rfl
      | true => rw [width_cons other letter rest other', take_succ_cons, width_refused accepts letter _ accepted]
    | true =>
      rw [width_cons other letter rest (inside letter accepted), take_succ_cons, width_cons accepts letter _ accepted,
        width_cons accepts letter rest accepted, ih]

theorem width_mono (other) (inside : ∀ letter, accepts letter = true → other letter = true) (text) : width accepts text ≤ width other text := by
  have inner := width_le accepts (text.take (width other text))
  rw [width_take accepts other inside, length_take] at inner
  exact Nat.le_trans inner (Nat.min_le_left _ _)

theorem run_one_head : run (one accepts) place = if place.rest.head?.any accepts then [place.past 1] else [] := by
  rw [run_one, head_any]
  split <;> simp_all

theorem commit {B C : Type} {n : Nat} {option : Nat → B} {further : B → List C} (dead : ∀ k < n, further (option k) = []) :
    ((List.range (n + 1)).reverse.map option).flatMap further = further (option n) := by
  have rest : ((List.range n).reverse.map option).flatMap further = [] := by
    rw [flatMap_eq_nil_iff]
    intro _ member
    obtain ⟨k, below, rfl⟩ := List.mem_map.mp member
    exact dead k (mem_range.mp (mem_reverse.mp below))
  rw [range_succ, reverse_append, map_append, flatMap_append, rest, append_nil]
  exact flatMap_singleton _ _

theorem run_star_seq (second place) (dead : ∀ k < width accepts place.rest, run second (place.past k) = []) :
    run (seq (star (one accepts)) second) place = run second (place.past (width accepts place.rest)) := by
  rw [run, run_star_one]
  exact commit dead

theorem match_plus_one (prev text) : (plus (one accepts)).matchAt prev text =
      if width accepts text = 0 then none else some ⟨text.take (width accepts text), []⟩ := by
  rw [matchAt, run_plus_one]
  split
  · rfl
  · simp [Place.past]

theorem run_tail (front) (present : front ≠ []) (place last) (found : (run (all (front ++ [plus (one accepts)])) place).head? = some last) :
    ∃ middle ∈ run (all front) place, width accepts middle.rest ≠ 0 ∧ last = middle.past (width accepts middle.rest) := by
  rw [run_all_append front _ present (cons_ne_nil _ _), head?_flatMap] at found
  obtain ⟨middle, member, ends⟩ := exists_of_findSome?_eq_some found
  refine ⟨middle, member, ?_⟩
  change (run (plus (one accepts)) middle).head? = _ at ends
  rw [run_plus_one] at ends
  split at ends
  · cases ends
  · rename_i real
    exact ⟨real, (some_inj.mp ends).symm⟩

theorem run_group_tail (front : List (Regex A)) (present : front ≠ []) (index : Nat) (place last : Place A)
    (found : (run (all (front ++ [group index (plus (one accepts))])) place).head? = some last) :
    ∃ middle ∈ run (all front) place, width accepts middle.rest ≠ 0 ∧ last = (middle.past (width accepts middle.rest)).mark index middle.pos := by
  rw [run_all_append front _ present (cons_ne_nil _ _), head?_flatMap] at found
  obtain ⟨middle, member, ends⟩ := exists_of_findSome?_eq_some found
  refine ⟨middle, member, ?_⟩
  change (run (group index (plus (one accepts))) middle).head? = _ at ends
  rw [run_group, head?_map, run_plus_one] at ends
  split at ends
  · cases ends
  · rename_i real
    exact ⟨real, (some_inj.mp ends).symm⟩

theorem iterate_lazy_any (fuel : Nat) (place : Place A) (size : place.rest.length = fuel) :
    iterateLazy (run (one fun _ => true)) fuel place = (List.range (fuel + 1)).map place.past := by
  induction fuel generalizing place with
  | zero => rfl
  | succ fuel ih =>
    cases shape : place.rest with
    | nil => simp [shape] at size
    | cons letter rest =>
      have tail := ih (place.advance letter rest) (by simpa [shape, Place.advance] using size)
      have moved : (place.advance letter rest).past = fun n => place.past (n + 1) := funext fun n => past_succ place letter rest shape n
      have step : run (one fun _ => true) place = [place.advance letter rest] := by simp [run, shape]
      rw [moved] at tail
      have count : List.range (fuel + 1 + 1) = 0 :: (List.range (fuel + 1)).map Nat.succ := range_succ_eq_map
      rw [iterateLazy, step, flatMap_singleton, tail, count, map_cons, List.map_map]
      rfl

theorem run_lazy_any : run (lazy (one fun _ => true)) place = (List.range (place.rest.length + 1)).map place.past := iterate_lazy_any _ place rfl

end

-- A pattern that matches in at most one way, with the length of the match.
structure Committed (A : Type) where
  pattern : Regex A
  length : List A → Option Nat
  runs : ∀ place : Place A, run pattern place = ((length place.rest).map place.past).toList
  reach : ∀ text n, length text = some n → 0 < n ∧ n ≤ text.length
  own : ∀ text text' n, length text = some n → text'.take n = text.take n → length text' = some n

namespace Committed

theorem head_of_take {text text' : List A} {n : Nat} (some : n ≠ 0) (same : text'.take n = text.take n) : text'.head? = text.head? := by
  have heads := congrArg List.head? same
  rwa [head?_take, head?_take, if_neg some, if_neg some] at heads

variable (accepts : A → Bool)

def letter : Committed A where
  pattern := one accepts
  length text := if text.head?.any accepts then some 1 else none
  runs place := by
    rw [run_one_head]
    split <;> rfl
  reach text n found := by
    cases text with
    | nil => cases found
    | cons =>
      split at found
      · cases found
        simp
      · cases found
  own text text' n found same := by
    split at found
    · rename_i accepted
      cases found
      rw [head_of_take Nat.one_ne_zero same, if_pos accepted]
    · cases found

theorem seq_runs (first second : Committed A) (place : Place A) : run (.seq first.pattern second.pattern) place =
      (((first.length place.rest).bind fun n => (second.length (place.rest.drop n)).map (n + ·)).map place.past).toList := by
  rw [run, first.runs]
  cases first.length place.rest with
  | none => rfl
  | some n =>
    rw [map_some, toList_some, flatMap_singleton, second.runs, bind_some, past_rest]
    cases second.length (place.rest.drop n) with
    | none => rfl
    | some => rw [map_some, map_some, map_some, past_past]

theorem seq_reach (first second : Committed A) (text : List A) (n : Nat)
    (found : ((first.length text).bind fun n => (second.length (text.drop n)).map (n + ·)) = some n) :
    0 < n ∧ n ≤ text.length := by
  obtain ⟨front, here, found⟩ := bind_eq_some_iff.mp found
  obtain ⟨back, there, rfl⟩ := map_eq_some_iff.mp found
  have inside := first.reach text front here
  have beyond := second.reach _ back there
  rw [length_drop] at beyond
  omega

theorem seq_own (first second : Committed A) (text text' : List A) (n : Nat)
    (found : ((first.length text).bind fun n => (second.length (text.drop n)).map (n + ·)) = some n)
    (same : text'.take n = text.take n) :
    ((first.length text').bind fun n => (second.length (text'.drop n)).map (n + ·)) = some n := by
  obtain ⟨front, here, found⟩ := bind_eq_some_iff.mp found
  obtain ⟨back, there, rfl⟩ := map_eq_some_iff.mp found
  have front' : text'.take front = text.take front := by
    have cut := congrArg (List.take front) same
    rwa [take_take, take_take, Nat.min_eq_left (Nat.le_add_right _ _)] at cut
  have back' : (text'.drop front).take back = (text.drop front).take back := by
    have cut := congrArg (List.drop front) same
    rwa [drop_take, drop_take, Nat.add_sub_cancel_left] at cut
  rw [first.own text text' front here front', bind_some, second.own _ _ back there back', map_some]

def seq (first second : Committed A) : Committed A where
  pattern := .seq first.pattern second.pattern
  length text := (first.length text).bind fun n => (second.length (text.drop n)).map (n + ·)
  runs := seq_runs first second
  reach := seq_reach first second
  own := seq_own first second

def alt (first second : Committed A) (apart : ∀ text, (first.length text).isSome → second.length text = none) : Committed A where
  pattern := .alt first.pattern second.pattern
  length text := (first.length text).or (second.length text)
  runs place := by
    rw [run, first.runs, second.runs]
    cases here : first.length place.rest with
    | none => rfl
    | some => rw [apart place.rest (by rw [here]; rfl)]; rfl
  reach text n found := by
    rcases or_eq_some_iff.mp found with here | ⟨-, there⟩
    · exact first.reach text n here
    · exact second.reach text n there
  own text text' n found same := by
    rcases or_eq_some_iff.mp found with here | ⟨-, there⟩
    · rw [first.own text text' n here same, some_or]
    have there' := second.own text text' n there same
    cases here : first.length text' with
    | none => rw [there', none_or]
    | some =>
      rw [apart text' (by rw [here]; rfl)] at there'
      cases there'

variable (committed : Committed A)

def Sized (size : Nat) : Prop := ∀ text n, committed.length text = some n → n = size

theorem sized_letter : Sized (letter accepts) 1 := by
  intro text n found
  change (if text.head?.any accepts then some 1 else none) = some n at found
  split at found
  · cases found
    rfl
  · cases found

variable {first second : Committed A}

theorem sized_seq {front back} (sizedFirst : Sized first front) (sizedSecond : Sized second back) : Sized (first.seq second) (front + back) := by
  intro _ _ found
  obtain ⟨_, here, found⟩ := bind_eq_some_iff.mp found
  obtain ⟨_, there, rfl⟩ := map_eq_some_iff.mp found
  rw [sizedFirst _ _ here, sizedSecond _ _ there]

def Opens (accepts : A → Bool) : Prop := ∀ text, (committed.length text).isSome → text.head?.any accepts = true

theorem opens_letter : Opens (letter accepts) accepts := by
  intro text found
  change (if text.head?.any accepts then some 1 else none).isSome = true at found
  split at found
  · assumption
  · cases found

theorem opens_seq (first second : Committed A) (accepts : A → Bool) (opens : Opens first accepts) : Opens (first.seq second) accepts := by
  intro text found
  apply opens text
  obtain ⟨_, found⟩ := isSome_iff_exists.mp found
  obtain ⟨_, here, -⟩ := bind_eq_some_iff.mp found
  rw [here]
  rfl

theorem opens_alt (apart) {one other} (opensFirst : Opens first one) (opensSecond : Opens second other) :
    Opens (first.alt second apart) fun letter => one letter || other letter := by
  intro text found
  obtain ⟨_, found⟩ := isSome_iff_exists.mp found
  rcases or_eq_some_iff.mp found with here | ⟨-, there⟩
  · have head := opensFirst text (by rw [here]; rfl)
    cases shape : text.head? with
    | none => simp [shape] at head
    | some => simp_all
  have head := opensSecond text (by rw [there]; rfl)
  cases shape : text.head? with
  | none => simp [shape] at head
  | some => simp_all

theorem apart_opens (first second : Committed A) (one other : A → Bool) (opensFirst : Opens first one)
    (opensSecond : Opens second other) (apart : ∀ letter, one letter = true → other letter = false) (text : List A)
    (found : (first.length text).isSome) : second.length text = none := by
  have head := opensFirst text found
  cases there : second.length text with
  | none => rfl
  | some =>
    have head' := opensSecond text (by rw [there]; rfl)
    cases shape : text.head? with
    | none => simp [shape] at head
    | some letter =>
      rw [shape, any_some] at head head'
      rw [apart letter head] at head'
      cases head'

def rewritten (pattern : Regex A)
    (same : ∀ place, run pattern place = run committed.pattern place) : Committed A :=
  { committed with
    pattern := pattern
    runs := fun place => by rw [same, committed.runs] }

section

variable (body second : Committed A) (apart : ∀ text, (body.length text).isSome → second.length text = none)

def exhaust : Nat → List A → Nat
  | 0, _ => 0
  | fuel + 1, text =>
    match body.length text with
    | none => 0
    | some n => n + exhaust fuel (text.drop n)

inductive Exhausts : List A → Nat → Prop
  | stop (text : List A) : body.length text = none → Exhausts text 0
  | step (text : List A) (n rest : Nat) : body.length text = some n → Exhausts (text.drop n) rest → Exhausts text (n + rest)

theorem exhausts_unique (text) (n m : Nat) (one : Exhausts body text n) (other : Exhausts body text m) : n = m := by
  induction one generalizing m with
  | stop _ fails =>
    cases other with
    | stop => rfl
    | step _ _ _ found =>
      rw [fails] at found
      cases found
  | step _ _ _ found _ ih =>
    cases other with
    | stop _ fails =>
      rw [fails] at found
      cases found
    | step _ _ rest' found' further' =>
      rw [found] at found'
      cases found'
      rw [ih rest' further']

theorem exhaust_exhausts (fuel : Nat) (text) (enough : text.length ≤ fuel) : Exhausts body text (exhaust body fuel text) := by
  induction fuel generalizing text with
  | zero =>
    cases found : body.length text with
    | none => exact .stop text found
    | some n =>
      have reach := body.reach text n found
      omega
  | succ _ ih =>
    rw [exhaust]
    cases found : body.length text with
    | none => exact .stop text found
    | some n =>
      have reach := body.reach text n found
      exact .step text n _ found (ih _ (by rw [length_drop]; omega))

theorem exhausts_le (text) (n : Nat) (taken : Exhausts body text n) : n ≤ text.length := by
  induction taken with
  | stop => exact Nat.zero_le _
  | step text k _ found _ ih =>
    have reach := body.reach text k found
    rw [length_drop] at ih
    omega

include apart in
theorem iterate_committed (fuel : Nat) (place) : (iterate (run body.pattern) fuel place).flatMap (run second.pattern) =
      run second.pattern (place.past (exhaust body fuel place.rest)) := by
  induction fuel generalizing place with
  | zero => exact flatMap_singleton _ _
  | succ _ ih =>
    rw [iterate, flatMap_append, flatMap_singleton, body.runs, exhaust]
    cases found : body.length place.rest with
    | none => rfl
    | some =>
      have dead : run second.pattern place = [] := by
        rw [second.runs, apart place.rest (by rw [found]; rfl)]
        rfl
      rw [map_some, toList_some, flatMap_singleton, ih, dead, append_nil, past_past]
      rfl

include apart in
theorem exhausts_own (text text') (n m : Nat) (taken : Exhausts body text n)
    (behind : second.length (text.drop n) = some m) (same : text'.take (n + m) = text.take (n + m)) :
    Exhausts body text' n ∧ second.length (text'.drop n) = some m := by
  induction taken generalizing text' with
  | stop text =>
    rw [Nat.zero_add] at same
    have behind' := second.own text text' m behind same
    refine ⟨.stop text' ?_, behind'⟩
    cases found : body.length text' with
    | none => rfl
    | some =>
      rw [apart text' (by rw [found]; rfl)] at behind'
      cases behind'
  | step text k rest found _ ih =>
    have front : text'.take k = text.take k := by
      have cut := congrArg (List.take k) same
      rwa [take_take, take_take, Nat.min_eq_left (by omega)] at cut
    have back : (text'.drop k).take (rest + m) = (text.drop k).take (rest + m) := by
      have cut := congrArg (List.drop k) same
      rwa [drop_take, drop_take, Nat.add_assoc, Nat.add_sub_cancel_left] at cut
    rw [← drop_drop] at behind ⊢
    obtain ⟨further', behind'⟩ := ih (text'.drop k) behind back
    exact ⟨.step text' k rest (body.own text text' k found front) further', behind'⟩

def many : Committed A where
  pattern := .seq (star body.pattern) second.pattern
  length text := (second.length (text.drop (exhaust body text.length text))).map (exhaust body text.length text + ·)
  runs place := by
    rw [run, run, iterate_committed body second apart, second.runs, past_rest]
    cases second.length (place.rest.drop (exhaust body place.rest.length place.rest)) with
    | none => rfl
    | some => rw [map_some, map_some, map_some, past_past]
  reach text n found := by
    obtain ⟨m, behind, rfl⟩ := map_eq_some_iff.mp found
    have inside := exhausts_le body text _ (exhaust_exhausts body _ text le_rfl)
    have reach := second.reach _ m behind
    rw [length_drop] at reach
    omega
  own text text' n found same := by
    obtain ⟨m, behind, rfl⟩ := map_eq_some_iff.mp found
    obtain ⟨taken, behind'⟩ := exhausts_own body second apart text text' _ m (exhaust_exhausts body _ text le_rfl) behind same
    have count := exhausts_unique body text' _ _ (exhaust_exhausts body _ text' le_rfl) taken
    rw [count, behind', map_some]

end

theorem match_committed (committed : Committed A) (prev : Option A) (text : List A) :
    committed.pattern.matchAt prev text = (committed.length text).map fun n => ⟨text.take n, []⟩ := by
  rw [matchAt, committed.runs]
  cases committed.length text with
  | none => rfl
  | some => simp

end Committed

end Regex

end LibCommons
