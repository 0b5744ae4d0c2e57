import Mathlib

namespace LibCommons.Cells

open List Option Function

variable {K S A : Type} [DecidableEq K]

-- A family of cells under actions on one cell each; a refused action fails the sequence.
def actAt (act : S → A → Option S) (key : A → K) (cells : K → Option S) (action : A) : Option (K → Option S) :=
  (cells (key action)).bind fun state => (act state action).map fun next => update cells (key action) (some next)

def actAll (act : S → A → Option S) (key : A → K) (cells : K → Option S) (actions : List A) :
    Option (K → Option S) := actions.foldlM (actAt act key) cells

def own (key : A → K) (k : K) (actions : List A) : List A := actions.filter fun action => key action = k

variable (act : S → A → Option S) (key : A → K)

theorem act_at_iff (cells after) (action : A) : actAt act key cells action = some after ↔ ∃ state next, cells (key action) = some state ∧
      act state action = some next ∧ after = update cells (key action) (some next) := by
  simp only [actAt, bind_eq_some_iff, map_eq_some_iff]
  constructor
  · rintro ⟨state, found, next, acted, rfl⟩
    exact ⟨state, next, found, acted, rfl⟩
  · rintro ⟨state, next, found, acted, rfl⟩
    exact ⟨state, found, next, acted, rfl⟩

theorem act_all_cons (cells after) (action : A) (rest) : actAll act key cells (action :: rest) = some after ↔
      ∃ middle, actAt act key cells action = some middle ∧ actAll act key middle rest = some after := by
  simp [actAll, foldlM_cons, bind_eq_some_iff]

theorem own_cons_here (action : A) (rest) : own key (key action) (action :: rest) = action :: own key (key action) rest := by
  simp [own]

theorem own_cons_elsewhere (k : K) (action : A) (rest) (different : key action ≠ k) : own key k (action :: rest) = own key k rest := by
  simp [own, different]

theorem mem_own {key : A → K} {k : K} {actions : List A} {action : A} : action ∈ own key k actions ↔ action ∈ actions ∧ key action = k := by
  simp [own]

theorem own_append (k : K) (front back) : own key k (front ++ back) = own key k front ++ own key k back := by
  simp [own]

theorem own_perm (k : K) (l l') (perm : l.Perm l') : (own key k l).Perm (own key k l') := perm.filter _

theorem act_all_iff (actions cells after) : actAll act key cells actions = some after ↔ ∀ k, (own key k actions = [] ∧ after k = cells k) ∨
        ∃ state next, cells k = some state ∧ (own key k actions).foldlM act state = some next ∧ after k = some next := by
  induction actions generalizing cells with
  | nil =>
    simp only [actAll, foldlM_nil, own, filter_nil, true_and]
    constructor
    · intro same k
      cases same
      exact .inl rfl
    intro each
    refine congrArg some (funext fun k => ?_)
    rcases each k with same | ⟨state, next, found, ended, same⟩
    · exact same.symm
    · cases ended
      exact found.trans same.symm
  | cons action rest ih =>
    rw [act_all_cons]
    constructor
    · rintro ⟨_, stepped, finished⟩ k
      obtain ⟨state, next, found, acted, rfl⟩ := (act_at_iff act key _ _ _).mp stepped
      by_cases here : key action = k
      · subst here
        rw [own_cons_here]
        rcases (ih _).mp finished (key action) with ⟨none, same⟩ | ⟨state', next', found', ended, same⟩
        · refine .inr ⟨state, next, found, ?_, by simpa using same⟩
          simp [none, acted]
        · have nextEq : next = state' := by simpa using found'
          subst nextEq
          exact .inr ⟨state, next', found, by simp [acted, ended], same⟩
      · rw [own_cons_elsewhere key k action rest here]
        simpa [Function.update_of_ne (Ne.symm here)] using (ih _).mp finished k
    · intro each
      have head := each (key action)
      rw [own_cons_here] at head
      obtain ⟨state, last, found, ended, same⟩ := head.resolve_left (by simp)
      simp only [foldlM_cons, bind_eq_bind, bind_eq_some_iff] at ended
      obtain ⟨next, acted, ended⟩ := ended
      refine ⟨update cells (key action) (some next), (act_at_iff act key _ _ _).mpr ⟨state, next, found, acted, rfl⟩, (ih _).mpr fun k => ?_⟩
      by_cases here : key action = k
      · subst here
        exact .inr ⟨next, last, by simp, ended, same⟩
      · have elsewhere := each k
        rw [own_cons_elsewhere key k action rest here] at elsewhere
        simpa [Function.update_of_ne (Ne.symm here)] using elsewhere

theorem act_all_succeeds_iff (actions cells) : (∃ after, actAll act key cells actions = some after) ↔
      ∀ k, own key k actions = [] ∨ ∃ state next, cells k = some state ∧ (own key k actions).foldlM act state = some next := by
  constructor
  · rintro ⟨after, ran⟩ k
    rcases (act_all_iff act key actions cells after).mp ran k with ⟨none, _⟩ | ⟨state, next, found, ended, _⟩
    · exact .inl none
    · exact .inr ⟨state, next, found, ended⟩
  intro each
  have reached : ∀ k, ∃ last, (own key k actions = [] ∧ last = cells k) ∨ ∃ state next, cells k = some state ∧
      (own key k actions).foldlM act state = some next ∧ last = some next := by
    intro k
    rcases each k with none | ⟨state, next, found, ended⟩
    · exact ⟨cells k, .inl ⟨none, rfl⟩⟩
    · exact ⟨some next, .inr ⟨state, next, found, ended, rfl⟩⟩
  choose after last using reached
  exact ⟨after, (act_all_iff act key actions cells after).mpr last⟩

variable {M : Type} [AddCommGroup M] (observe : S → M) (delta : A → M)

def Translates : Prop := ∀ state next action, act state action = some next → observe next = observe state + delta action

theorem translates_run (moves : Translates act observe delta) (actions : List A) (state next : S)
    (ran : actions.foldlM act state = some next) : observe next = observe state + (actions.map delta).sum := by
  induction actions generalizing state with
  | nil =>
    cases ran
    simp
  | cons action _ ih =>
    simp only [foldlM_cons, bind_eq_bind, bind_eq_some_iff] at ran
    obtain ⟨middle, acted, ran⟩ := ran
    rw [ih middle ran, moves state middle action acted, map_cons, sum_cons, add_assoc]

theorem act_all_total (moves : Translates act observe delta) (actions cells after) (ran : actAll act key cells actions = some after) (touched)
    (within : ∀ action ∈ actions, key action ∈ touched) :
    ∑ k ∈ touched, (after k).elim 0 observe = ∑ k ∈ touched, (cells k).elim 0 observe + (actions.map delta).sum := by
  induction actions generalizing cells with
  | nil =>
    cases ran
    simp
  | cons action _ ih =>
    obtain ⟨_, stepped, finished⟩ := (act_all_cons act key _ _ _ _).mp ran
    obtain ⟨state, next, found, acted, rfl⟩ := (act_at_iff act key _ _ _).mp stepped
    have member := within action (by simp)
    have pointwise : ∀ k, (update cells (key action) (some next) k).elim 0 observe =
        update (fun k => (cells k).elim 0 observe) (key action) (observe next) k := by
      intro k
      by_cases here : k = key action
      · subst here
        simp
      · simp [Function.update_of_ne here]
    rw [ih _ finished (fun other later => within other (by simp [later])), Finset.sum_congr rfl fun k _ => pointwise k,
      Finset.sum_update_of_mem member, moves state next action acted,
      Finset.sum_eq_add_sum_sdiff_singleton_of_mem member (fun k => (cells k).elim 0 observe), found, map_cons,
      sum_cons, elim_some]
    abel

theorem own_sums_cancel {I} (forth back : I → A) (aligned : ∀ i, key (forth i) = key (back i))
    (indices : List I) (opposite : ∀ i ∈ indices, delta (forth i) + delta (back i) = 0) (k : K) :
    ((own key k (indices.map forth)).map delta).sum + ((own key k (indices.map back)).map delta).sum = 0 := by
  induction indices with
  | nil => simp [own]
  | cons i _ ih =>
    have tail := ih fun j later => opposite j (by simp [later])
    rw [map_cons, map_cons]
    by_cases here : key (forth i) = k
    · subst here
      have head := opposite i (by simp)
      rw [own_cons_here, aligned i, own_cons_here, ← aligned i, map_cons, map_cons, sum_cons, sum_cons, add_add_add_comm, head, tail, add_zero]
    · rw [own_cons_elsewhere key k _ _ here, own_cons_elsewhere key k _ _ (aligned i ▸ here)]
      exact tail

end LibCommons.Cells
