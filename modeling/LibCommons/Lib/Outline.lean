import LibCommons.Lib.Process

namespace LibCommons.Process

-- What a program may do next and end with, given what it has learned from its calls.
structure Outline (Op : Type) (Res : Op → Type) (K A : Type) where
  may : K → Op → Prop
  learn : K → (op : Op) → Res op → K
  finish : K → A → Prop
  sees : (op : Op) → Res op → Prop := fun _ _ => True

variable {I W Op K A : Type} {Res : Op → Type} [DecidableEq I]

def Follows (outline : Outline Op Res K A) : K → Prog Op Res A → Prop
  | know, .ret value => outline.finish know value
  | know, .call op next => outline.may know op ∧
      ∀ result, outline.sees op result → Follows outline (outline.learn know op result) (next result)

def Tracks (outline : Outline Op Res K A) (know : I → K) (pool : Pool I W Op Res A) : Prop := ∀ i, Follows outline (know i) (pool.threads i)

def Outline.after (outline : Outline Op Res K A) (know : I → K) : Event I Op Res → I → K
  | .act i op result => Function.update know i (outline.learn (know i) op result)
  | .wait _ _ => know
  | .drift => know

variable {outline : Outline Op Res K A} {semantics : Semantics I W Op Res} {know : I → K}
  {pool next last : Pool I W Op Res A} {event : Event I Op Res}

omit [DecidableEq I] in
theorem tracks_may (tracks : Tracks outline know pool) {i} {op} {onward} (stands : pool.threads i = .call op onward) : outline.may (know i) op := by
  have follows := tracks i
  rw [stands] at follows
  exact follows.1

theorem tracks_step (visible : ∀ i op world result after, semantics.exec i op world result after → outline.sees op result)
    (tracks : Tracks outline know pool) (step : Step semantics pool event next) :
    Tracks outline (outline.after know event) next := by
  cases step with
  | act i op _ result world stands done =>
    intro j
    by_cases same : j = i
    · subst same
      have follows := tracks j
      rw [stands] at follows
      simpa [Outline.after] using follows.2 result (visible j op pool.world result world done)
    · simpa [Outline.after, same] using tracks j
  | wait | drift => exact tracks

-- A fact holds along every run, if each call and each move of the world keeps it.
structure Keeps (outline : Outline Op Res K A) (semantics : Semantics I W Op Res) (holds : W → (I → K) → Prop) : Prop where
  sees : ∀ i op world result after, semantics.exec i op world result after → outline.sees op result
  act : ∀ world know i op result after, holds world know → outline.may (know i) op →
    semantics.exec i op world result after → holds after (Function.update know i (outline.learn (know i) op result))
  wait : ∀ world know i op after, holds world know → outline.may (know i) op → semantics.idle i op world after → holds after know
  drift : ∀ world know after, holds world know → semantics.drift world after → holds after know

variable {holds : W → (I → K) → Prop}

theorem keeps_step (keeps : Keeps outline semantics holds) (tracks : Tracks outline know pool) (initial : holds pool.world know)
    (step : Step semantics pool event next) : holds next.world (outline.after know event) := by
  cases step with
  | act i op _ result world stands done =>
    exact keeps.act pool.world know i op result world initial (tracks_may tracks stands) done
  | wait i op _ world stands moved =>
    exact keeps.wait pool.world know i op world initial (tracks_may tracks stands) moved
  | drift world moved => exact keeps.drift pool.world know world initial moved

theorem keeps_run (keeps : Keeps outline semantics holds) (tracks : Tracks outline know pool) (initial : holds pool.world know)
    {labels} (run : Run (Step semantics) pool labels last) :
    ∃ known, Tracks outline known last ∧ holds last.world known := by
  induction run generalizing know with
  | nil => exact ⟨know, tracks, initial⟩
  | cons _ _ _ _ _ first _ ih =>
    exact ih (tracks_step keeps.sees tracks first) (keeps_step keeps tracks initial first)

end LibCommons.Process
