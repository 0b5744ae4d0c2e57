import Mathlib

namespace LibCommons.Keyset

open List Option

variable {R T : Type}

structure Answer (R T : Type) where
  page : List R
  next : T
  prev : T

section

variable (listed : List R) (limit : Nat)

def page (k : Nat) : List R := (listed.drop (k * limit)).take limit

variable (blank : T) (next prev : R → T)

def tokenOf (token : R → T) : Option R → T
  | none => blank
  | some row => token row

def answerAt (k : Nat) : Answer R T where
  page := page listed limit k
  next := if (k + 1) * limit < listed.length then tokenOf blank next (page listed limit k).getLast? else blank
  prev := if 0 < k then tokenOf blank prev (page listed limit k).head? else blank

-- The last row of a page leads to the page after it and the first row to the page before it.
structure Serves (request : T → Option (Answer R T)) : Prop where
  first : request blank = some (answerAt listed limit blank next prev 0)
  forth : ∀ k row, (k + 1) * limit < listed.length → (page listed limit k).getLast? = some row →
    next row ≠ blank ∧ request (next row) = some (answerAt listed limit blank next prev (k + 1))
  back : ∀ k row, (k + 1) * limit < listed.length → (page listed limit (k + 1)).head? = some row →
    prev row ≠ blank ∧ request (prev row) = some (answerAt listed limit blank next prev k)

end

section

variable (blank : T) (request : T → Option (Answer R T))

-- Any walk of a client: the page it is on, counted by its own steps.
inductive Visits : Nat → Answer R T → Prop
  | first (answer) (answered : request blank = some answer) : Visits 0 answer
  | next (k : Nat) (here answer : Answer R T) (visited : Visits k here) (more : here.next ≠ blank)
      (answered : request here.next = some answer) : Visits (k + 1) answer
  | prev (k : Nat) (here answer : Answer R T) (visited : Visits k here) (more : here.prev ≠ blank)
      (answered : request here.prev = some answer) : Visits (k - 1) answer

-- The walk that follows next to the end, none where a request fails or the fuel runs out.
def collect [DecidableEq T] : Nat → T → Option (List R)
  | 0, _ => none
  | fuel + 1, token =>
    match request token with
    | none => none
    | some answer =>
      if answer.next = blank then some answer.page
      else (collect fuel answer.next).map fun rest => answer.page ++ rest

structure PagedBothWays [DecidableEq T] (listed : List R) (limit : Nat) : Prop where
  whole : ∃ fuel, collect blank request fuel blank = some listed
  visited : ∀ k answer, Visits blank request k answer → answer.page = page listed limit k
  firstPage : ∀ k answer, Visits blank request k answer → (answer.prev = blank ↔ k = 0)
  lastPage : ∀ k answer, Visits blank request k answer → (answer.next = blank ↔ listed.length ≤ (k + 1) * limit)
  forth : ∀ k answer, Visits blank request k answer → answer.next ≠ blank →
    ∃ after, request answer.next = some after ∧ after.page = page listed limit (k + 1)
  back : ∀ k answer, Visits blank request (k + 1) answer → ∃ before, request answer.prev = some before ∧ before.page = page listed limit k

end

section

variable (listed : List R) (limit : Nat)

theorem page_length (k : Nat) : (page listed limit k).length = min limit (listed.length - k * limit) := by
  rw [page, length_take, length_drop]

theorem page_head (k : Nat) (positive : 0 < limit) : (page listed limit k).head? = listed[k * limit]? := by
  rw [page, head?_take, if_neg (by omega), head?_drop]

theorem page_last (k : Nat) (positive : 0 < limit) (full : (k + 1) * limit < listed.length) :
    (page listed limit k).getLast? = listed[(k + 1) * limit - 1]? := by
  have width : (k + 1) * limit = k * limit + limit := Nat.succ_mul k limit
  rw [getLast?_eq_getElem?, page_length, page, getElem?_take, if_pos (by omega), getElem?_drop]
  congr 1
  omega

theorem split_at_row (n : Nat) (row : R) (found : listed[n]? = some row) : listed = listed.take n ++ row :: listed.drop (n + 1) := by
  obtain ⟨inside, here⟩ := List.getElem?_eq_some_iff.mp found
  rw [← here, ← drop_eq_getElem_cons inside, take_append_drop]

end

section

variable {K : Type} (key : R → K) (before : K → K → Prop) [DecidableRel before]

theorem filter_behind (asymmetric : ∀ x y, before x y → ¬ before y x) (front back : List R) (row : R)
    (ordered : (front ++ row :: back).Pairwise fun x y => before (key x) (key y)) :
    (front ++ row :: back).filter (fun other => before (key row) (key other)) = back := by
  obtain ⟨-, behind, across⟩ := pairwise_append.mp ordered
  have none : front.filter (fun other => before (key row) (key other)) = [] := by
    rw [filter_eq_nil_iff]
    intro other member kept
    exact asymmetric _ _ (across other member row mem_cons_self) (of_decide_eq_true kept)
  have self : ¬ before (key row) (key row) := fun loop => asymmetric _ _ loop loop
  have all : back.filter (fun other => before (key row) (key other)) = back := by
    rw [filter_eq_self]
    intro other member
    exact decide_eq_true ((pairwise_cons.mp behind).1 other member)
  rw [filter_append, none, nil_append, filter_cons_of_neg (by simpa using self), all]

theorem filter_ahead (asymmetric : ∀ x y, before x y → ¬ before y x) (front back : List R) (row : R)
    (ordered : (front ++ row :: back).Pairwise fun x y => before (key x) (key y)) :
    (front ++ row :: back).filter (fun other => before (key other) (key row)) = front := by
  obtain ⟨-, behind, across⟩ := pairwise_append.mp ordered
  have none : back.filter (fun other => before (key other) (key row)) = [] := by
    rw [filter_eq_nil_iff]
    intro other member kept
    exact asymmetric _ _ ((pairwise_cons.mp behind).1 other member) (of_decide_eq_true kept)
  have self : ¬ before (key row) (key row) := fun loop => asymmetric _ _ loop loop
  have all : front.filter (fun other => before (key other) (key row)) = front := by
    rw [filter_eq_self]
    intro other member
    exact decide_eq_true (across other member row mem_cons_self)
  rw [filter_append, all, filter_cons_of_neg (by simpa using self), none, append_nil]

end

variable {listed : List R} {limit : Nat} {blank : T} {next prev : R → T} {request : T → Option (Answer R T)}

theorem next_blank_iff (positive : 0 < limit) (serves : Serves listed limit blank next prev request) (k : Nat) :
    (answerAt listed limit blank next prev k).next = blank ↔ listed.length ≤ (k + 1) * limit := by
  rw [answerAt]
  by_cases more : (k + 1) * limit < listed.length
  · have inside : (k + 1) * limit - 1 < listed.length := by omega
    have last := page_last listed limit k positive more
    rw [getElem?_eq_getElem inside] at last
    simp only [if_pos more, last, tokenOf, (serves.forth k _ more last).1, false_iff]
    omega
  · simpa only [if_neg more, true_iff] using not_lt.mp more

variable {k : Nat} (positive : 0 < limit) (serves : Serves listed limit blank next prev request)

include positive serves

theorem prev_blank_iff (real : k = 0 ∨ k * limit < listed.length) : (answerAt listed limit blank next prev k).prev = blank ↔ k = 0 := by
  cases k with
  | zero => simp [answerAt]
  | succ k =>
    have inside : (k + 1) * limit < listed.length := by simpa using real
    have head := page_head listed limit (k + 1) positive
    rw [getElem?_eq_getElem inside] at head
    simp [answerAt, head, tokenOf, (serves.back k _ inside head).1]

theorem request_next (k : Nat) (more : (k + 1) * limit < listed.length) :
    request (answerAt listed limit blank next prev k).next = some (answerAt listed limit blank next prev (k + 1)) := by
  have inside : (k + 1) * limit - 1 < listed.length := by omega
  have last := page_last listed limit k positive more
  rw [getElem?_eq_getElem inside] at last
  have token : (answerAt listed limit blank next prev k).next = next listed[(k + 1) * limit - 1] := by
    simp only [answerAt, if_pos more, last, tokenOf]
  rw [token]
  exact (serves.forth k _ more last).2

theorem request_prev (inside : (k + 1) * limit < listed.length) :
    request (answerAt listed limit blank next prev (k + 1)).prev = some (answerAt listed limit blank next prev k) := by
  have head := page_head listed limit (k + 1) positive
  rw [getElem?_eq_getElem inside] at head
  have token : (answerAt listed limit blank next prev (k + 1)).prev = prev listed[(k + 1) * limit] := by
    simp [answerAt, head, tokenOf]
  rw [token]
  exact (serves.back k _ inside head).2

theorem visits_answer {answer} (visits : Visits blank request k answer) :
    (k = 0 ∨ k * limit < listed.length) ∧ answer = answerAt listed limit blank next prev k := by
  induction visits with
  | first _ answered => exact ⟨.inl rfl, some.inj (answered.symm.trans serves.first)⟩
  | next k _ _ _ more answered ih =>
    obtain ⟨real, rfl⟩ := ih
    have further := not_le.mp (mt (next_blank_iff positive serves k).mpr more)
    rw [request_next positive serves k further] at answered
    exact ⟨.inr further, (some.inj answered).symm⟩
  | prev k _ _ _ more answered ih =>
    obtain ⟨real, rfl⟩ := ih
    cases k with
    | zero => exact absurd ((prev_blank_iff positive serves (.inl rfl)).mpr rfl) more
    | succ k =>
      have inside : (k + 1) * limit < listed.length := by simpa using real
      rw [request_prev positive serves inside] at answered
      refine ⟨.inr ?_, (some.inj answered).symm⟩
      rw [Nat.succ_mul] at inside
      rw [Nat.add_sub_cancel]
      omega

theorem collect_from [DecidableEq T] (token : T) (k fuel : Nat) (asked : request token = some (answerAt listed limit blank next prev k))
    (enough : listed.length ≤ (k + 1 + fuel) * limit) :
    collect blank request (fuel + 1) token = some (listed.drop (k * limit)) := by
  have whole : ∀ k, listed.length ≤ (k + 1) * limit → page listed limit k = listed.drop (k * limit) := by
    intro k short
    apply take_of_length_le
    rw [length_drop]
    rw [Nat.succ_mul] at short
    omega
  induction fuel generalizing token k with
  | zero =>
    have last := (next_blank_iff positive serves k).mpr enough
    simp only [collect, asked, if_pos last]
    exact congrArg some (whole k enough)
  | succ fuel ih =>
    rw [collect, asked]
    by_cases last : (answerAt listed limit blank next prev k).next = blank
    · have short := (next_blank_iff positive serves k).mp last
      simp only [if_pos last]
      exact congrArg some (whole k short)
    · have further := not_le.mp (mt (next_blank_iff positive serves k).mpr last)
      have rest := ih _ (k + 1) (request_next positive serves k further) (by rwa [add_right_comm _ 1 fuel])
      simp only [if_neg last, rest, Option.map_some, some.injEq]
      have width : (k + 1) * limit = k * limit + limit := Nat.succ_mul k limit
      rw [width, ← drop_drop]
      exact take_append_drop limit (listed.drop (k * limit))

theorem serves_paged [DecidableEq T] : PagedBothWays blank request listed limit := by
  refine ⟨⟨listed.length + 1, ?_⟩, ?_, ?_, ?_, ?_, ?_⟩
  · have enough : listed.length ≤ (0 + 1 + listed.length) * limit := (Nat.le_add_left _ _).trans (Nat.le_mul_of_pos_right _ positive)
    simpa using collect_from positive serves blank 0 listed.length serves.first enough
  · intro k answer visits
    obtain ⟨-, rfl⟩ := visits_answer positive serves visits
    rfl
  · intro k answer visits
    obtain ⟨real, rfl⟩ := visits_answer positive serves visits
    exact prev_blank_iff positive serves real
  · intro k answer visits
    obtain ⟨-, rfl⟩ := visits_answer positive serves visits
    exact next_blank_iff positive serves k
  · intro k answer visits more
    obtain ⟨-, rfl⟩ := visits_answer positive serves visits
    have further := not_le.mp (mt (next_blank_iff positive serves k).mpr more)
    exact ⟨_, request_next positive serves k further, rfl⟩
  · intro k _ visits
    obtain ⟨real, rfl⟩ := visits_answer positive serves visits
    have inside : (k + 1) * limit < listed.length := by simpa using real
    exact ⟨_, request_prev positive serves inside, rfl⟩

end LibCommons.Keyset
