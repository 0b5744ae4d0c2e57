import Mathlib

namespace LibCommons.Split

open List

variable {α : Type} [DecidableEq α] (sep : α)

omit [DecidableEq α] in
theorem prefix_same (first part rest : List α) (firstFree : sep ∉ first) (partFree : sep ∉ part) :
    part ++ [sep] <+: first ++ sep :: rest ↔ part = first := by
  induction first generalizing part with
  | nil =>
    cases part with
    | nil => simp
    | cons =>
      simp only [mem_cons, not_or] at partFree
      simp [Ne.symm partFree.1]
  | cons _ _ ih =>
    simp only [mem_cons, not_or] at firstFree
    cases part with
    | nil => simp [firstFree.1]
    | cons _ others =>
      simp only [mem_cons, not_or] at partFree
      simp [cons_append, cons_prefix_cons, ih others firstFree.2 partFree.2]

omit [DecidableEq α] in
theorem cut_injective {first part rest rest'} (firstFree : sep ∉ first) (partFree : sep ∉ part)
    (same : first ++ sep :: rest = part ++ sep :: rest') : first = part ∧ rest = rest' := by
  obtain rfl := (prefix_same sep first part rest firstFree partFree).mp ⟨rest', by simpa using same.symm⟩
  exact ⟨rfl, cons_injective (append_cancel_left same)⟩

omit [DecidableEq α] in
theorem infix_skip (first part rest : List α) (firstFree : sep ∉ first) : sep :: part <:+: first ++ rest ↔ sep :: part <:+: rest := by
  induction first with
  | nil => simp
  | cons _ _ ih =>
    simp only [mem_cons, not_or] at firstFree
    rw [cons_append, infix_cons_iff, cons_prefix_cons, ih firstFree.2]
    simp [firstFree.1]

omit [DecidableEq α] in
theorem wrapped_first (first part rest : List α) (firstFree : sep ∉ first) (partFree : sep ∉ part) :
    sep :: (part ++ [sep]) <:+: sep :: (first ++ sep :: rest) ↔ part = first ∨ sep :: (part ++ [sep]) <:+: sep :: rest := by
  rw [infix_cons_iff, cons_prefix_cons, infix_skip sep first (part ++ [sep]) (sep :: rest) firstFree,
    prefix_same sep first part rest firstFree partFree]
  simp

omit [DecidableEq α] in
theorem wrapped_inside (part whole : List α) (wrapped : sep :: (part ++ [sep]) <:+: sep :: (whole ++ [sep])) : part <:+: whole := by
  obtain ⟨front, back, same⟩ := wrapped
  have regrouped : (front ++ sep :: (part ++ [sep]) ++ back).tail = (front ++ [sep]).tail ++ (part ++ sep :: back) := by
    cases front with
    | nil | cons => simp
  have trimmed := congrArg (fun items => items.tail.dropLast) same
  simp only [tail_cons, dropLast_concat, regrouped] at trimmed
  rw [dropLast_append_of_ne_nil (by simp), dropLast_append_of_ne_nil (by simp)] at trimmed
  exact ⟨(front ++ [sep]).tail, (sep :: back).dropLast, by rw [← trimmed, append_assoc]⟩

theorem mem_split_iff (part whole : List α) (partFree : sep ∉ part) :
    part ∈ whole.splitOn sep ↔ sep :: (part ++ [sep]) <:+: sep :: (whole ++ [sep]) := by
  by_cases present : sep ∈ whole
  · obtain ⟨first, rest, whole_eq, firstFree⟩ := eq_append_cons_of_mem present
    subst whole_eq
    have shorter : rest.length < (first ++ sep :: rest).length := by
      simp only [length_append, length_cons]
      omega
    rw [splitOn_append_cons_self_of_not_mem firstFree, mem_cons, mem_split_iff part rest partFree,
      append_assoc, cons_append, wrapped_first sep first part (rest ++ [sep]) firstFree partFree]
  · rw [splitOn_eq_singleton present, mem_singleton, wrapped_first sep whole part [] present partFree]
    have tooLong : ¬ sep :: (part ++ [sep]) <:+: [sep] := fun contained => by
      have := contained.length_le
      simp at this
    simp [tooLong]
termination_by whole.length

def occurrences (part whole : List α) : Nat := whole.tails.countP (part.isPrefixOf ·)

variable {sep} {part front back : List α}

theorem occurrences_free (part : List α) (free : sep ∉ back) : occurrences (sep :: part) back = 0 := by
  refine countP_eq_zero.mpr ?_
  intro _ member starts
  have inside := ( isPrefixOf_iff_prefix.mp starts).subset (mem_cons_self ..)
  exact free (((mem_tails _ _).mp member).subset inside)

theorem occurrences_once (clear : ¬ sep :: part <:+: front) (single : sep ∉ part) (free : sep ∉ back) :
    occurrences (sep :: part) (front ++ sep :: back) ≤ 1 := by
  induction front with
  | nil =>
    have none := occurrences_free part free
    unfold occurrences at none ⊢
    rw [nil_append, tails_cons, countP_cons, none]
    split <;> omega
  | cons head front ih =>
    have later := ih fun inside => clear (infix_cons inside)
    have absent : ¬ sep :: part <+: head :: front ++ sep :: back := by
      intro starts
      rcases prefix_or_prefix_of_prefix starts (prefix_append (head :: front) (sep :: back)) with
        short | ⟨rest, long⟩
      · exact clear short.isInfix
      rw [← long, prefix_append_right_inj] at starts
      cases rest with
      | nil => exact clear ((append_nil _).symm.trans long ▸ infix_rfl)
      | cons next rest =>
        obtain ⟨rfl, -⟩ := cons_prefix_cons.mp starts
        have tail : front ++ next :: rest = part := (List.cons.inj long).2
        exact single (tail ▸ by simp)
    unfold occurrences at later ⊢
    rw [cons_append, tails_cons, countP_cons, if_neg (by simpa using absent)]
    exact later

end LibCommons.Split
