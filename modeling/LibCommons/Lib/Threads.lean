import LibCommons.Lib.Run

namespace LibCommons

open Function (update update_eq_self update_idem update_of_ne update_self)

-- A move takes a thread to its next phase in one critical section, or in one call outside of any.
structure Threads (I W P : Type) where
  world : W
  phase : I → P

namespace Threads

variable {I W P L : Type} [DecidableEq I] (move : I → W → P → L → W → P → Prop)

inductive Step : Threads I W P → I × L → Threads I W P → Prop where
  | move (state : Threads I W P) (i : I) (label : L) (world : W) (phase : P)
      (moves : move i state.world (state.phase i) label world phase) :
      Step state (i, label) ⟨world, update state.phase i phase⟩

section

variable (holds : W → Prop) (fits : I → W → P → Prop)

-- A move keeps its own part and does not disturb another thread's.
structure Keeps : Prop where
  own : ∀ i world phase label next after, holds world → fits i world phase → move i world phase label next after →
    holds next ∧ fits i next after
  others : ∀ i j world phase other label next after, j ≠ i → holds world → fits i world phase → fits j world other →
    move i world phase label next after → fits j next other

def Good (state : Threads I W P) : Prop := holds state.world ∧ ∀ i, fits i state.world (state.phase i)

variable {move holds fits} (keeps : Keeps move holds fits)

include keeps

theorem good_step (state label next) (good : Good holds fits state) (step : Step move state label next) : Good holds fits next := by
  cases step with
  | move i label world phase moves =>
    obtain ⟨held, fit⟩ := keeps.own i _ _ label world phase good.1 (good.2 i) moves
    refine ⟨held, ?_⟩
    intro j
    by_cases mine : j = i
    · subst mine
      simpa using fit
    · simpa [mine] using keeps.others i j _ _ _ label world phase mine good.1 (good.2 i) (good.2 j) moves

theorem good_run {state last} {labels} (run : Run (Step move) state labels last) (good : Good holds fits state) : Good holds fits last :=
  Run.invariant (Good holds fits) (good_step keeps) state last labels run good

theorem good_labels (fine : I → L → Prop)
    (each : ∀ i world phase label next after, holds world → fits i world phase → move i world phase label next after → fine i label)
    (state last : Threads I W P) (labels : List (I × L)) (run : Run (Step move) state labels last)
    (good : Good holds fits state) : ∀ i label, (i, label) ∈ labels → fine i label := by
  induction run with
  | nil =>
    intro i label member
    cases member
  | cons state middle _ label _ first _ ih =>
    have onward := ih (good_step keeps state label middle good first)
    cases first with
    | move i label world phase moves =>
      intro j other member
      cases member with
      | head => exact each i _ _ label world phase good.1 (good.2 i) moves
      | tail _ member => exact onward j other member

omit keeps

theorem good_until {ends : L → Prop}
    (keeps : Keeps (fun i world phase label next after => move i world phase label next after ∧ ¬ ends label) holds fits)
    {state last : Threads I W P} {labels : List (I × L)} (run : Run (Step move) state labels last)
    (good : Good holds fits state) : (∃ i label, (i, label) ∈ labels ∧ ends label) ∨ Good holds fits last := by
  induction run with
  | nil => exact .inr good
  | cons state _ _ label _ first _ ih =>
    cases first with
    | move i label world phase moves =>
      by_cases final : ends label
      · exact .inl ⟨i, label, List.mem_cons_self .., final⟩
      have kept := good_step keeps state (i, label) _ good (.move state i label world phase ⟨moves, final⟩)
      cases ih kept with
      | inl found =>
        obtain ⟨j, other, member, final⟩ := found
        exact .inl ⟨j, other, List.mem_cons_of_mem _ member, final⟩
      | inr holds => exact .inr holds

end

section

-- Resources that are at rest in the world or in the hands of a thread.
variable {X : Type} (known rests : W → X → Prop) (held : P → X → Prop)

def Accounted (state : Threads I W P) : Prop := ∀ x, known state.world x → rests state.world x ∨ ∃ i, held (state.phase i) x

variable {move known rests held}

theorem accounted_step (hands : ∀ i world phase label next after, move i world phase label next after → ∀ x, known next x →
      held after x ∨ known world x ∧ (rests world x ∨ held phase x → rests next x ∨ held after x))
    {state} {label} {next} (accounted : Accounted known rests held state)
    (step : Step move state label next) : Accounted known rests held next := by
  cases step with
  | move i label world phase moves =>
    intro x exists'
    have mine : held phase x → ∃ j, held (update state.phase i phase j) x := by
      intro holds
      exact ⟨i, by rwa [update_self]⟩
    cases hands i _ _ label world phase moves x exists' with
    | inl holds => exact .inr (mine holds)
    | inr before =>
      obtain ⟨was, onward⟩ := before
      cases accounted x was with
      | inl rest => exact (onward (.inl rest)).imp_right mine
      | inr holder =>
        obtain ⟨j, holds⟩ := holder
        by_cases same : j = i
        · subst same
          exact (onward (.inr holds)).imp_right mine
        · refine .inr ⟨j, ?_⟩
          dsimp only
          rwa [update_of_ne same]

end

theorem go {move : I → W → P → L → W → P → Prop} {state last : Threads I W P} {labels : List (I × L)} (i : I) {label : L}
    {world : W} {phase : P} (moves : move i state.world (state.phase i) label world phase)
    (later : Run (Step move) ⟨world, update state.phase i phase⟩ labels last) :
    Run (Step move) state ((i, label) :: labels) last :=
  .cons _ _ _ _ _ (.move state i label world phase moves) later

theorem run_mono {less move} (within : ∀ i world phase label next after, less i world phase label next after → move i world phase label next after)
    (state last : Threads I W P) (labels : List (I × L)) (run : Run (Step less) state labels last) :
    Run (Step move) state labels last := by
  induction run with
  | nil state => exact .nil state
  | cons state _ _ label _ first _ ih =>
    cases first with
    | move i label world phase moves =>
      exact .cons _ _ _ _ _ (.move state i label world phase (within i _ _ label world phase moves)) ih

section

variable {move}

theorem unmoved {state last} {labels} (run : Run (Step move) state labels last) {i}
    (still : ∀ label, (i, label) ∉ labels) : last.phase i = state.phase i := by
  induction run with
  | nil => rfl
  | cons _ _ _ label _ first _ ih =>
    rw [ih fun label member => still label (List.mem_cons_of_mem _ member)]
    cases first with
    | move _ label =>
      apply update_of_ne
      intro same
      exact still label (same ▸ List.mem_cons_self ..)

theorem exists_spare [Infinite I] (labels : List (I × L)) : ∃ i, ∀ label, (i, label) ∉ labels := by
  obtain ⟨i, absent⟩ := Infinite.exists_notMem_finset (labels.map Prod.fst).toFinset
  refine ⟨i, ?_⟩
  intro _ member
  exact absent (List.mem_toFinset.mpr (List.mem_map_of_mem member))

end

inductive Walk (i : I) : W → P → List L → W → P → Prop where
  | stay (world phase) : Walk i world phase [] world phase
  | move (world next last : W) (phase after final : P) (label : L) (labels : List L)
      (moves : move i world phase label next after) (later : Walk i next after labels last final) :
      Walk i world phase (label :: labels) last final

variable {move}

omit [DecidableEq I] in
theorem Walk.append {i} {world middle last} {phase after final} {labels later}
    (front : Walk move i world phase labels middle after) (back : Walk move i middle after later last final) :
    Walk move i world phase (labels ++ later) last final := by
  induction front with
  | stay => exact back
  | move _ _ _ _ _ _ _ _ moves _ ih => exact .move _ _ _ _ _ _ _ _ moves (ih back)

theorem walk_run {i} {world last} {phase final} {labels} (walk : Walk move i world phase labels last final) (phases) (stands : phases i = phase) :
    Run (Step move) ⟨world, phases⟩ (labels.map fun label => (i, label)) ⟨last, update phases i final⟩ := by
  induction walk generalizing phases with
  | stay =>
    rw [← stands, update_eq_self]
    exact .nil _
  | move world next _ _ after _ label _ moves _ ih =>
    subst stands
    have rest := ih (update phases i after) (update_self ..)
    rw [update_idem] at rest
    exact .cons _ _ _ _ _ (.move ⟨world, phases⟩ i label next after moves) rest

theorem walk_reaches {i} {last} {final} {labels} {state} (walk : Walk move i state.world (state.phase i) labels last final) :
    ∃ middle, Run (Step move) state (labels.map fun label => (i, label)) middle ∧ middle.world = last ∧
      middle.phase i = final ∧ ∀ j, j ≠ i → middle.phase j = state.phase j :=
  ⟨_, walk_run walk state.phase rfl, rfl, update_self .., fun _ other => update_of_ne other ..⟩

end Threads

end LibCommons
