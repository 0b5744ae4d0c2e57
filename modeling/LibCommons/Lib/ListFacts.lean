import Mathlib

namespace LibCommons.ListFacts

open List

variable {α : Type}

theorem unique_split (missing : α → Prop) (front back : List α) (item : α) (others : ∀ other ∈ front ++ back, ¬ missing other)
    (front' back' : List α) (item' : α) (split : front ++ item :: back = front' ++ item' :: back') (found : missing item') :
    front' = front ∧ item' = item ∧ back' = back := by
  rcases append_eq_append_iff.mp split with ⟨middle, frontEq, tailEq⟩ | ⟨middle, frontEq, tailEq⟩
  · cases middle with
    | nil =>
      simp only [nil_append, List.cons.injEq] at tailEq
      exact ⟨by simpa using frontEq, tailEq.1.symm, tailEq.2.symm⟩
    | cons =>
      simp only [cons_append, List.cons.injEq] at tailEq
      exact absurd found (others item' (by simp [tailEq.2]))
  · cases middle with
    | nil =>
      simp only [nil_append, List.cons.injEq] at tailEq
      exact ⟨by simpa using frontEq.symm, tailEq.1, tailEq.2⟩
    | cons =>
      simp only [cons_append, List.cons.injEq] at tailEq
      exact absurd found (others item' (by simp [frontEq, tailEq.1]))

theorem modify_at_split (front back : List α) (item : α) (change : α → α) (index : Nat) (here : index = front.length) :
    (front ++ item :: back).modify index change = front ++ change item :: back := by
  subst here
  induction front with
  | nil => rfl
  | cons _ _ ih => simpa using ih

theorem sum_erase_idx (l : List ℚ) (index : Nat) (value : ℚ) (found : l[index]? = some value) : l.sum = value + (l.eraseIdx index).sum := by
  induction l generalizing index with
  | nil => simp at found
  | cons _ _ ih =>
    cases index with
    | zero =>
      simp only [getElem?_cons_zero, Option.some.injEq] at found
      simp [found]
    | succ index =>
      rw [eraseIdx_cons_succ, sum_cons, sum_cons, ih index (by simpa using found)]
      ring

theorem le_foldl_min (l : List ℤ) (bound start : ℤ) (below : bound ≤ start) (each : ∀ e ∈ l, bound ≤ e) : bound ≤ l.foldl min start := by
  induction l generalizing start with
  | nil => exact below
  | cons head _ ih =>
    exact ih (min start head) (le_min below (each head (by simp))) fun e later => each e (by simp [later])

end LibCommons.ListFacts
