import LibCommons.Lib.Run

namespace LibCommons.Process

open Function

inductive Prog (Op : Type) (Res : Op → Type) (A : Type) where
  | ret (value : A)
  | call (op : Op) (next : Res op → Prog Op Res A)

-- What a call does in one atomic step, what may happen while it is pending, and what happens by itself.
structure Semantics (I W Op : Type) (Res : Op → Type) where
  exec : I → (op : Op) → W → Res op → W → Prop
  idle : I → Op → W → W → Prop
  drift : W → W → Prop

structure Pool (I W Op : Type) (Res : Op → Type) (A : Type) where
  world : W
  threads : I → Prog Op Res A

inductive Event (I Op : Type) (Res : Op → Type) where
  | act (thread : I) (op : Op) (result : Res op)
  | wait (thread : I) (op : Op)
  | drift

variable {I W Op A : Type} {Res : Op → Type} [DecidableEq I]

-- One program makes its call, or the world moves under a pending call or on its own.
inductive Step (semantics : Semantics I W Op Res) : Pool I W Op Res A → Event I Op Res → Pool I W Op Res A → Prop where
  | act (pool : Pool I W Op Res A) (i : I) (op : Op) (next : Res op → Prog Op Res A) (result : Res op) (world : W)
      (stands : pool.threads i = .call op next) (done : semantics.exec i op pool.world result world) :
      Step semantics pool (.act i op result) { world := world, threads := update pool.threads i (next result) }
  | wait (pool : Pool I W Op Res A) (i : I) (op : Op) (next : Res op → Prog Op Res A) (world : W)
      (stands : pool.threads i = .call op next) (moved : semantics.idle i op pool.world world) :
      Step semantics pool (.wait i op) { pool with world := world }
  | drift (pool : Pool I W Op Res A) (world : W) (moved : semantics.drift pool.world world) :
      Step semantics pool .drift { pool with world := world }

variable {semantics : Semantics I W Op Res} {pool next : Pool I W Op Res A} {event : Event I Op Res}

theorem thread_step (step : Step semantics pool event next) (i : I) : next.threads i = pool.threads i ∨ ∃ op onward result, event = .act i op result ∧
      pool.threads i = .call op onward ∧ next.threads i = onward result ∧
      semantics.exec i op pool.world result next.world := by
  cases step with
  | act j op onward result _ stands done =>
    by_cases same : i = j
    · subst same
      exact .inr ⟨op, onward, result, rfl, stands, by simp, done⟩
    · exact .inl (by simp [same])
  | wait | drift => exact .inl rfl

variable {i : I} {op : Op} {result : Res op}

theorem act_thread (step : Step semantics pool (.act i op result) next) :
    ∃ onward, pool.threads i = .call op onward ∧ next.threads i = onward result ∧
      (∀ j, j ≠ i → next.threads j = pool.threads j) ∧ semantics.exec i op pool.world result next.world := by
  cases step with
  | act _ _ onward _ _ stands done =>
    refine ⟨onward, stands, by simp, ?_, done⟩
    intro _ other
    simp [other]

variable {labels : List (Event I Op Res)}

theorem silent_stays (run : Run (Step semantics) pool labels next) (silent : ∀ op result, Event.act i op result ∉ labels) :
    next.threads i = pool.threads i := by
  induction run with
  | nil => rfl
  | cons _ _ _ label _ first _ ih =>
    rw [ih fun op result present => silent op result (List.mem_cons_of_mem label present)]
    obtain same | ⟨op, _, result, asked, -⟩ := thread_step first i
    · exact same
    · exact absurd (by simp [asked]) (silent op result)

theorem ended_stays {value} (run : Run (Step semantics) pool labels next) (ended : pool.threads i = .ret value) :
    next.threads i = .ret value ∧ ∀ op result, Event.act i op result ∉ labels := by
  induction run with
  | nil => exact ⟨ended, by simp⟩
  | cons _ middle _ _ _ first _ ih =>
    have still : middle.threads i = .ret value := by
      obtain same | ⟨op, _, result, -, stands, -⟩ := thread_step first i
      · rw [same, ended]
      · rw [ended] at stands
        cases stands
    obtain ⟨final, none⟩ := ih still
    refine ⟨final, ?_⟩
    intro op result present
    obtain rfl | present := List.mem_cons.mp present
    · obtain ⟨_, stands, -⟩ := act_thread first
      rw [ended] at stands
      cases stands
    · exact none op result present

variable {world : W}

theorem leads_act {onward} {goal} (stands : pool.threads i = .call op onward) (done : semantics.exec i op pool.world result world)
    (later : Run.Leads (Step semantics) ⟨world, update pool.threads i (onward result)⟩ goal) :
    Run.Leads (Step semantics) pool goal :=
  Run.leads_step pool _ _ goal (.act pool i op onward result world stands done) later

variable (semantics) in
inductive Walk (i : I) : W → Prog Op Res A → W → Prog Op Res A → Prop where
  | stay (world prog) : Walk i world prog world prog
  | act (world after last : W) (op : Op) (onward : Res op → Prog Op Res A) (result : Res op) (prog : Prog Op Res A)
      (done : semantics.exec i op world result after) (later : Walk i after (onward result) last prog) :
      Walk i world (.call op onward) last prog

variable {last : W} {prog final : Prog Op Res A}

theorem walk_run (walk : Walk semantics i world prog last final) (threads) (stands : threads i = prog) :
    ∃ labels, Run (Step semantics) ⟨world, threads⟩ labels ⟨last, update threads i final⟩ := by
  induction walk generalizing threads with
  | stay =>
    refine ⟨[], ?_⟩
    rw [← stands, Function.update_eq_self]
    exact .nil _
  | act world after _ op onward result _ done _ ih =>
    obtain ⟨_, rest⟩ := ih (update threads i (onward result)) (Function.update_self ..)
    rw [Function.update_idem] at rest
    exact ⟨_, .cons _ _ _ _ _ (.act ⟨world, threads⟩ i op onward result after stands done) rest⟩

theorem leads_walk (walk : Walk semantics i world prog last final) (threads goal) (stands : threads i = prog)
    (later : Run.Leads (Step semantics) ⟨last, update threads i final⟩ goal) :
    Run.Leads (Step semantics) ⟨world, threads⟩ goal := by
  obtain ⟨labels, front⟩ := walk_run walk threads stands
  obtain ⟨others, end', back, reached⟩ := later
  exact ⟨labels ++ others, end', front.append back, reached⟩

variable {W' : Type} (concrete : Semantics I W Op Res) (abstract : Semantics I W' Op Res) (represents : W → W' → Prop)

-- A world that can do for every call and every move what another does.
structure Simulates : Prop where
  exec : ∀ i op world result after, concrete.exec i op world result after → ∀ model, represents world model →
    ∃ final, abstract.exec i op model result final ∧ represents after final
  idle : ∀ i op world after, concrete.idle i op world after → ∀ model, represents world model →
    ∃ final, abstract.idle i op model final ∧ represents after final
  drift : ∀ world after, concrete.drift world after → ∀ model, represents world model →
    ∃ final, abstract.drift model final ∧ represents after final

variable {concrete abstract represents}

theorem simulates_step (simulates : Simulates concrete abstract represents) (pool next : Pool I W Op Res A)
    (event : Event I Op Res) (step : Step concrete pool event next) (model : W')
    (related : represents pool.world model) :
    ∃ final, Step abstract ⟨model, pool.threads⟩ event ⟨final, next.threads⟩ ∧ represents next.world final := by
  cases step with
  | act i op onward result world stands done =>
    obtain ⟨final, does, related⟩ := simulates.exec i op _ result world done model related
    exact ⟨final, .act ⟨model, pool.threads⟩ i op onward result final stands does, related⟩
  | wait i op onward world stands moved =>
    obtain ⟨final, moves, related⟩ := simulates.idle i op _ world moved model related
    exact ⟨final, .wait ⟨model, pool.threads⟩ i op onward final stands moves, related⟩
  | drift world moved =>
    obtain ⟨final, moves, related⟩ := simulates.drift _ world moved model related
    exact ⟨final, .drift ⟨model, pool.threads⟩ final moves, related⟩

theorem simulates_run (simulates : Simulates concrete abstract represents) (pool last : Pool I W Op Res A)
    (labels : List (Event I Op Res)) (run : Run (Step concrete) pool labels last) (model : W')
    (related : represents pool.world model) :
    ∃ final, Run (Step abstract) ⟨model, pool.threads⟩ labels ⟨final, last.threads⟩ ∧ represents last.world final := by
  induction run generalizing model with
  | nil => exact ⟨model, .nil _, related⟩
  | cons pool middle _ label _ first _ ih =>
    obtain ⟨between, step, related⟩ := simulates_step simulates pool middle label first model related
    obtain ⟨final, run, related⟩ := ih between related
    exact ⟨final, .cons _ _ _ _ _ step run, related⟩

end LibCommons.Process
