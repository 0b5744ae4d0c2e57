import Mathlib

namespace LibCommons

variable {S L : Type} (step : S → L → S → Prop)

-- Finite runs of a labelled transition system: the labels taken, in order.
inductive Run : S → List L → S → Prop where
  | nil (state) : Run state [] state
  | cons (state middle last : S) (label : L) (rest : List L) (first : step state label middle)
      (later : Run middle rest last) : Run state (label :: rest) last

namespace Run

variable {step}

theorem invariant (holds : S → Prop) (keeps : ∀ state label next, holds state → step state label next → holds next)
    (state last : S) (labels : List L) (run : Run step state labels last) (start : holds state) : holds last := by
  induction run with
  | nil => exact start
  | cons state middle _ label _ first _ ih => exact ih (keeps state label middle start first)

theorem relates (holds : S → Prop) (related : S → S → Prop) (keeps : ∀ state label next, holds state → step state label next → holds next)
    (refl : ∀ state, related state state)
    (trans : ∀ first second third, related first second → related second third → related first third)
    (each : ∀ state label next, holds state → step state label next → related state next)
    (state last : S) (labels : List L) (run : Run step state labels last) (start : holds state) : related state last := by
  induction run with
  | nil state => exact refl state
  | cons state middle last label _ first _ ih =>
    exact trans state middle last (each state label middle start first) (ih (keeps state label middle start first))

theorem history (holds : List L → S → Prop) (keeps : ∀ past state label next, holds past state → step state label next → holds (past ++ [label]) next)
    (state last : S) (labels past : List L) (run : Run step state labels last) (start : holds past state) :
    holds (past ++ labels) last := by
  induction run generalizing past with
  | nil => rwa [List.append_nil]
  | cons state middle _ label _ first _ ih =>
    have carried := ih (past ++ [label]) (keeps past state label middle start first)
    rwa [List.append_assoc] at carried

theorem split (state last : S) (earlier later) (run : Run step state (earlier ++ later) last) :
    ∃ middle, Run step state earlier middle ∧ Run step middle later last := by
  induction earlier generalizing state with
  | nil => exact ⟨state, .nil state, run⟩
  | cons label earlier ih =>
    cases run with
    | cons _ next _ _ _ first rest =>
      obtain ⟨middle, front, back⟩ := ih next rest
      exact ⟨middle, .cons state next middle label earlier first front, back⟩

variable {state last : S}

theorem append {middle} {earlier later} (front : Run step state earlier middle) (back : Run step middle later last) :
    Run step state (earlier ++ later) last := by
  induction front with
  | nil => exact back
  | cons state next _ label _ first _ ih => exact .cons state next last label _ first (ih back)

theorem snoc {next} {labels} {label} (run : Run step state labels last) (final : step last label next) : Run step state (labels ++ [label]) next := by
  induction run with
  | nil state => exact .cons state next next label [] final (.nil next)
  | cons state middle _ other _ first _ ih => exact .cons state middle next other _ first (ih final)

theorem at_label (state last : S) (earlier later) (label : L) (run : Run step state (earlier ++ label :: later) last) :
    ∃ before after, Run step state earlier before ∧ step before label after ∧ Run step after later last := by
  obtain ⟨before, front, back⟩ := split state last earlier (label :: later) run
  cases back with
  | cons _ after _ _ _ first rest => exact ⟨before, after, front, first, rest⟩

theorem unique (determined : ∀ state label first second, step state label first → step state label second → first = second)
    (state last other : S) (labels) (run : Run step state labels last) (again : Run step state labels other) :
    last = other := by
  induction run with
  | nil =>
    cases again with
    | nil => rfl
  | cons state middle _ label _ first _ ih =>
    cases again with
    | cons _ middle' _ _ _ first' later' =>
      obtain rfl := determined state label middle middle' first first'
      exact ih later'

variable (step) in
def Leads (state : S) (goal : S → Prop) : Prop := ∃ labels last, Run step state labels last ∧ goal last

theorem leads_here (state : S) (goal) (reached : goal state) : Leads step state goal := ⟨[], state, .nil state, reached⟩

theorem leads_step (state middle : S) (label : L) (goal) (first : step state label middle)
    (later : Leads step middle goal) : Leads step state goal := by
  obtain ⟨labels, last, run, reached⟩ := later
  exact ⟨label :: labels, last, .cons state middle last label labels first run, reached⟩

end Run

inductive Path : S → List (L × S) → Prop where
  | nil (state) : Path state []
  | cons (state next : S) (label : L) (rest : List (L × S)) (first : step state label next) (later : Path next rest) :
      Path state ((label, next) :: rest)

variable {step : S → L → S → Prop}

theorem Run.path (state last : S) (labels) (label : L) (run : Run step state (labels ++ [label]) last) :
    ∃ path, Path step state (path ++ [(label, last)]) := by
  induction labels generalizing state with
  | nil =>
    cases run with
    | cons _ _ _ _ _ first later =>
      cases later with
      | nil => exact ⟨[], .cons state last label [] first (.nil last)⟩
  | cons other _ ih =>
    cases run with
    | cons _ next _ _ _ first later =>
      obtain ⟨path, rest⟩ := ih next later
      exact ⟨(other, next) :: path, .cons state next other _ first rest⟩

theorem Path.arrives (state : S) (path) (run : Path step state path) (moment) (member : moment ∈ path) : ∃ before, step before moment.1 moment.2 := by
  induction run with
  | nil => cases member
  | cons state _ _ _ first _ ih =>
    cases member with
    | head => exact ⟨state, first⟩
    | tail _ member => exact ih member

theorem Path.invariant (holds : S → Prop) (fair : L → S → Prop)
    (keeps : ∀ state label next, holds state → step state label next → fair label next → holds next) (state : S)
    (path : List (L × S)) (run : Path step state path) (start : holds state) (each : ∀ moment ∈ path, fair moment.1 moment.2) :
    ∀ moment ∈ path, holds moment.2 := by
  induction run with
  | nil =>
    intro moment member
    cases member
  | cons state next label _ first _ ih =>
    have reached := keeps state label next start first (each (label, next) (List.mem_cons_self ..))
    intro moment member
    cases member with
    | head => exact reached
    | tail _ member => exact ih reached (fun moment member => each moment (List.mem_cons_of_mem _ member)) moment member

end LibCommons
