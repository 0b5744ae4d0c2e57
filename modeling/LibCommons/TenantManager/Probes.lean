import LibCommons.TenantManager.Breaker

namespace LibCommons.TenantClient

open List Option

variable {I : Type} [DecidableEq I] (c : Settings)

section

omit [DecidableEq I]

theorem streak_from_append (count : Nat) (past rest : List (Label I)) :
    streakFrom count (past ++ rest) = streakFrom (streakFrom count past) rest := by
  induction past generalizing count with
  | nil => rfl
  | cons _ _ ih =>
    rw [cons_append, streakFrom, streakFrom]
    split
    · exact ih count
    · exact ih 0
    · exact ih (count + 1)

variable {label : Label I} (past : List (Label I))

theorem streak_quiet (quiet : label.recorded = none) : streak (past ++ [label]) = streak past := by
  rw [streak, streak_from_append, streakFrom, quiet]
  rfl

theorem streak_success (succeeded : label.recorded = some .success) : streak (past ++ [label]) = 0 := by
  rw [streak, streak_from_append, streakFrom, succeeded]
  rfl

theorem streak_failure (failed : label.recorded = some .failure) : streak (past ++ [label]) = streak past + 1 := by
  rw [streak, streak_from_append, streakFrom, failed]
  rfl

theorem last_failure_append (last : Option Int) (past : List (Label I)) (label : Label I) :
    lastFailureFrom last (past ++ [label]) = label.failedAt.or (lastFailureFrom last past) := by
  induction past generalizing last with
  | nil => rfl
  | cons _ _ ih => exact ih _

theorem failed_at_iff (label : Label I) (failed : Int) : label.failedAt = some failed ↔
      label.recorded = some .failure ∧ ∃ i call response, label = .answer i call response failed := by
  cases label with
  | check => simp [Label.failedAt, Label.recorded]
  | answer _ call response =>
    by_cases failure : call.records response = some .failure
    · simp [Label.failedAt, Label.recorded, failure]
    · simp [Label.failedAt, Label.recorded, failure]

theorem failed_at_none (fine : label.recorded ≠ some .failure) : label.failedAt = none := by
  cases found : label.failedAt with
  | none => rfl
  | some failed => exact absurd ((failed_at_iff label failed).mp found).1 fine

end

inductive Moves (b : Breaker) (label : Label I) : Breaker → Prop where
  | kept (quiet : label.recorded = none) : Moves b label b
  | probed (i call now) (shown : label = .check i call now true) (positive : 0 < c.cbThreshold)
      (wasOpen : b.cbState = .cbOpen) (elapsed : c.cbTimeout < now - b.cbLastFailure) :
      Moves b label { b with cbState := .cbHalfOpen }
  | succeeded (succeeded : label.recorded = some .success) : Moves b label (recordSuccess c b)
  | failed (i call response now) (shown : label = .answer i call response now) (failed : label.recorded = some .failure) :
      Moves b label (recordFailure c now b)

theorem check_cases (now : Int) (b next passes) (checked : checkCircuitBreaker c now b = (next, passes)) :
    (next = b ∧ passes = true ∧ (c.cbThreshold ≤ 0 ∨ b.cbState ≠ .cbOpen)) ∨
    (next = b ∧ passes = false ∧ b.cbState = .cbOpen ∧ now - b.cbLastFailure ≤ c.cbTimeout) ∨
    (next = { b with cbState := .cbHalfOpen } ∧ passes = true ∧ 0 < c.cbThreshold ∧ b.cbState = .cbOpen ∧ c.cbTimeout < now - b.cbLastFailure) := by
  unfold checkCircuitBreaker at checked
  by_cases disabled : c.cbThreshold ≤ 0
  · rw [if_pos disabled] at checked
    obtain ⟨rfl, rfl⟩ := Prod.mk.inj checked
    exact .inl ⟨rfl, rfl, .inl disabled⟩
  rw [if_neg disabled] at checked
  cases shown : b.cbState with
  | cbOpen =>
    simp only [shown] at checked
    by_cases elapsed : c.cbTimeout < now - b.cbLastFailure
    · rw [if_pos elapsed] at checked
      obtain ⟨rfl, rfl⟩ := Prod.mk.inj checked
      exact .inr (.inr ⟨rfl, rfl, by omega, rfl, elapsed⟩)
    · rw [if_neg elapsed] at checked
      obtain ⟨rfl, rfl⟩ := Prod.mk.inj checked
      exact .inr (.inl ⟨rfl, rfl, rfl, by omega⟩)
  | cbClosed | cbHalfOpen =>
    simp only [shown] at checked
    obtain ⟨rfl, rfl⟩ := Prod.mk.inj checked
    exact .inl ⟨rfl, rfl, .inr (by simp)⟩

theorem step_moves (state next : State I) (label : Label I) (step : Step c state label next) : Moves c state.breaker label next.breaker := by
  cases step with
  | check i call now b passes _ checked =>
    rcases check_cases c now state.breaker b passes checked with ⟨rfl, _⟩ | ⟨rfl, _⟩ | ⟨rfl, rfl, positive, wasOpen, elapsed⟩
    · exact .kept rfl
    · exact .kept rfl
    · exact .probed i call now rfl positive wasOpen elapsed
  | answer i call response now =>
    cases shown : call.records response with
    | none => exact .kept shown
    | some verdict =>
      cases verdict with
      | success => exact .succeeded shown
      | failure => exact .failed i call response now rfl shown

-- The breaker's counter and clock against what has been recorded.
structure Agrees (past : List (Label I)) (b : Breaker) : Prop where
  disabled : c.cbThreshold ≤ 0 → b.cbState = .cbClosed
  counted : 0 < c.cbThreshold → b.cbFailures = streak past
  opened : b.cbState = .cbOpen → c.cbThreshold ≤ streak past ∧ lastFailure past = some b.cbLastFailure

omit [DecidableEq I] in
theorem agrees_moves (past : List (Label I)) (label : Label I) (b next : Breaker) (agrees : Agrees c past b)
    (moves : Moves c b label next) : Agrees c (past ++ [label]) next := by
  have quietly : label.recorded = none → lastFailure (past ++ [label]) = lastFailure past := by
    intro quiet
    rw [lastFailure, last_failure_append, failed_at_none (by simp [quiet]), Option.none_or]
    rfl
  cases moves with
  | kept quiet =>
    refine ⟨agrees.disabled, ?_, ?_⟩
    · rw [streak_quiet past quiet]
      exact agrees.counted
    · rw [streak_quiet past quiet, quietly quiet]
      exact agrees.opened
  | probed _ _ _ shown =>
    have quiet : label.recorded = none := by rw [shown]; rfl
    refine ⟨fun disabled => by omega, ?_, ?_⟩
    · rw [streak_quiet past quiet]
      exact agrees.counted
    · intro impossible
      cases impossible
  | succeeded succeeded =>
    by_cases disabled : c.cbThreshold ≤ 0
    · rw [recordSuccess, if_pos disabled]
      refine ⟨agrees.disabled, fun positive => by omega, ?_⟩
      intro opened
      rw [agrees.disabled disabled] at opened
      cases opened
    · rw [recordSuccess, if_neg disabled]
      refine ⟨fun _ => rfl, ?_, ?_⟩
      · rw [streak_success past succeeded]
        exact fun _ => rfl
      · intro impossible
        cases impossible
  | failed i call response now shown failed =>
    by_cases disabled : c.cbThreshold ≤ 0
    · rw [recordFailure, if_pos disabled]
      refine ⟨agrees.disabled, fun positive => by omega, ?_⟩
      intro opened
      rw [agrees.disabled disabled] at opened
      cases opened
    · have counted := agrees.counted (by omega)
      have dated : lastFailure (past ++ [label]) = some now := by
        rw [lastFailure, last_failure_append, (failed_at_iff label now).mpr ⟨failed, i, call, response, shown⟩, Option.some_or]
      rw [recordFailure, if_neg disabled]
      refine ⟨fun still => absurd still disabled, ?_, ?_⟩
      · intro _
        rw [streak_failure past failed, ← counted]
      intro opened
      refine ⟨?_, dated⟩
      rw [streak_failure past failed, ← counted]
      by_cases reached : c.cbThreshold ≤ ((b.cbFailures + 1 : Nat) : Int)
      · exact reached
      have still : b.cbState = .cbOpen := by
        simpa [show ¬ c.cbThreshold ≤ (b.cbFailures : Int) + 1 by simpa using reached] using opened
      have enough := (agrees.opened still).1
      rw [← counted] at enough
      push_cast
      omega

theorem agrees_run (labels : List (Label I)) (state : State I) (run : Run (Step c) start labels state) : Agrees c labels state.breaker := by
  have first : Agrees c ([] : List (Label I)) (start (I := I)).breaker := ⟨fun _ => rfl, fun _ => rfl, by rintro ⟨⟩⟩
  exact Run.history (fun past state => Agrees c past state.breaker)
    (fun past state label next agrees step => agrees_moves c past label _ _ agrees (step_moves c state next label step))
    start state labels [] run first

def openSince (b : Breaker) : Option Int := if b.cbState = .cbOpen then some b.cbLastFailure else none

def Refuses (label : Label I) : Prop := ∀ i call now, label ≠ .check i call now true

omit [DecidableEq I] in
theorem reopened_moves (past : List (Label I)) (label : Label I) (b next : Breaker) (agrees : Agrees c past b)
    (positive : 0 < c.cbThreshold) (refuses : Refuses label) (moves : Moves c b label next) :
    openSince next = reopenedNext c past label (openSince b) := by
  cases moves with
  | kept quiet => simp only [reopenedNext, quiet]
  | probed i call now shown => exact absurd shown (refuses i call now)
  | succeeded succeeded =>
    simp only [reopenedNext, succeeded, recordSuccess, if_neg (not_le.mpr positive)]
    rfl
  | failed i call response now shown failed =>
    have counted := agrees.counted positive
    have dated : label.failedAt = some now := (failed_at_iff label now).mpr ⟨failed, i, call, response, shown⟩
    simp only [reopenedNext, failed, recordFailure, if_neg (not_le.mpr positive), streak_failure past failed, dated,
      openSince, counted, Nat.cast_add, Nat.cast_one]
    by_cases reached : c.cbThreshold ≤ (streak past : Int) + 1
    · simp only [reached, if_true]
    have shut : b.cbState ≠ .cbOpen := by
      intro opened
      have enough := (agrees.opened opened).1
      omega
    simp only [reached, if_false, shut]

theorem reopened_run (past middle : List (Label I)) (state last : State I) (run : Run (Step c) state middle last)
    (agrees : Agrees c past state.breaker) (positive : 0 < c.cbThreshold) (refuses : ∀ label ∈ middle, Refuses label) :
    openSince last.breaker = reopenedFrom c past (openSince state.breaker) middle := by
  induction run generalizing past with
  | nil => rfl
  | cons state next _ label _ first _ ih =>
    have moves := step_moves c state next label first
    rw [ih (past ++ [label]) (agrees_moves c past label _ _ agrees moves)
      (fun other member => refuses other (mem_cons_of_mem label member)), reopenedFrom,
      reopened_moves c past label _ _ agrees positive (refuses label mem_cons_self) moves]

variable (state : State I)

theorem check_refused (next) (i : I) (call) (now : Int) (passes) (positive : 0 < c.cbThreshold)
    (step : Step c state (.check i call now passes) next) :
    passes = false ↔ ∃ failed, openSince state.breaker = some failed ∧ now - failed ≤ c.cbTimeout := by
  cases step with
  | check _ _ _ b _ _ checked =>
    rcases check_cases c now state.breaker b passes checked with
      ⟨_, rfl, free⟩ | ⟨_, rfl, opened, fresh⟩ | ⟨_, rfl, _, opened, elapsed⟩
    · have shut : state.breaker.cbState ≠ .cbOpen := free.resolve_left (by omega)
      simp [openSince, shut]
    · simp only [openSince, opened, if_true, some.injEq, exists_eq_left', fresh]
    · simp only [openSince, opened, if_true, some.injEq, exists_eq_left', Bool.true_eq_false, false_iff]
      omega

theorem probe_half_open (next) (i : I) (label) (agrees : state.breaker.cbState = .cbOpen → 0 < c.cbThreshold) (probes : Probes i state label)
    (step : Step c state label next) : openSince next.breaker = none := by
  obtain ⟨opened, _, now, rfl⟩ := probes
  cases step with
  | check _ _ _ b _ _ checked =>
    rcases check_cases c now state.breaker b true checked with ⟨_, _, free⟩ | ⟨_, refused, _⟩ | ⟨rfl, _⟩
    · have positive := agrees opened
      exact absurd opened (free.resolve_left (by omega))
    · cases refused
    · rfl

omit [DecidableEq I] in
theorem open_positive (past : List (Label I)) (b : Breaker) (agrees : Agrees c past b) (opened : b.cbState = .cbOpen) : 0 < c.cbThreshold := by
  by_contra disabled
  rw [agrees.disabled (by omega)] at opened
  cases opened

-- What a check finds, as long as the checks before it in the window were refused.
theorem window_check (earlier middle : List (Label I)) (probe : Label I) (before after last next : State I) (i j : I)
    (call : Call) (now : Int) (passes : Bool) (front : Run (Step c) start earlier before) (probes : Probes i before probe)
    (first : Step c before probe after) (window : Run (Step c) after middle last)
    (refuses : ∀ label ∈ middle, Refuses label) (second : Step c last (.check j call now passes) next) :
    passes = false ↔ Reopened c (earlier ++ [probe]) middle now := by
  have agrees := agrees_run c earlier before front
  have positive := open_positive c earlier before.breaker agrees probes.1
  have behind := agrees_moves c earlier probe _ _ agrees (step_moves c before after probe first)
  rw [check_refused c last next j call now passes positive second,
    reopened_run c (earlier ++ [probe]) middle after last window behind positive refuses,
    probe_half_open c before after i probe (fun _ => positive) probes first]
  rfl

theorem step_unique (label first second) (step : Step c state label first) (again : Step c state label second) : first = second := by
  cases step with
  | check _ _ _ b _ _ checked =>
    cases again with
    | check _ _ _ b' _ _ checked' =>
      obtain rfl : b = b' := (Prod.mk.inj (checked.symm.trans checked')).1
      rfl
  | answer =>
    cases again with
    | answer => rfl

omit [DecidableEq I] in
theorem refuses_or_passes (label : Label I) : Refuses label ∨ ∃ i call now, label = .check i call now true := by
  by_cases passing : ∃ i call now, label = .check i call now true
  · exact .inr passing
  · exact .inl fun i call now shown => passing ⟨i, call, now, shown⟩

omit [DecidableEq I] in
theorem unjudged_front {i : I} {front back : List (Label I)} (unjudged : Unjudged i (front ++ back)) : Unjudged i front :=
  fun call response now member => unjudged call response now (mem_append_left back member)

theorem breaker_promise_iff (labels : List (Label I)) (last : State I) (run : Run (Step c) start labels last) :
    Promise c labels ↔
      ∀ earlier probe middle later before i j call now passes,
        labels = earlier ++ probe :: (middle ++ .check j call now passes :: later) → Run (Step c) start earlier before →
        Probes i before probe → Unjudged i middle → Reopened c (earlier ++ [probe]) middle now := by
  have window : ∀ earlier probe middle later before i j call now passes,
      labels = earlier ++ probe :: (middle ++ .check j call now passes :: later) → Run (Step c) start earlier before →
      Probes i before probe → (∀ label ∈ middle, Refuses label) →
      (passes = false ↔ Reopened c (earlier ++ [probe]) middle now) := by
    intro earlier probe middle later before i j call now passes shape front probes refuses
    subst shape
    obtain ⟨before', after, front', first, rest⟩ := Run.at_label _ _ _ _ _ run
    obtain rfl := Run.unique (step_unique c) start before before' earlier front front'
    obtain ⟨at', next, between, second, _⟩ := Run.at_label _ _ _ _ _ rest
    exact window_check c earlier middle probe before after at' next i j call now passes front probes first between refuses second
  constructor
  · intro promise earlier probe middle later before i j call now passes shape front probes unjudged
    have refuses : ∀ label ∈ middle, Refuses label := by
      intro label member
      rcases refuses_or_passes label with refused | ⟨k, call', now', rfl⟩
      · exact refused
      obtain ⟨m, m', rfl⟩ := append_of_mem member
      have passed := promise.single earlier probe m (m' ++ .check j call now passes :: later) before i k call' now' true
        (by rw [shape]; simp) front probes (unjudged_front unjudged)
      cases passed
    exact (window earlier probe middle later before i j call now passes shape front probes refuses).mp
      (promise.single earlier probe middle later before i j call now passes shape front probes unjudged)
  · intro reopened
    refine ⟨?_, ?_, ?_⟩
    · intro earlier label later before after _ front step _ opened
      have agrees := agrees_run c earlier before front
      exact ((agrees_moves c earlier label _ _ agrees (step_moves c before after label step)).opened opened).1
    · intro earlier later before i call now passes failed shape front opened dated fresh
      subst shape
      obtain ⟨before', next, front', step, _⟩ := Run.at_label _ _ _ _ _ run
      obtain rfl := Run.unique (step_unique c) start before before' earlier front front'
      have agrees := agrees_run c earlier before front
      rw [check_refused c before next i call now passes (open_positive c earlier _ agrees opened) step]
      have same : before.breaker.cbLastFailure = failed := some.inj ((agrees.opened opened).2.symm.trans dated)
      exact ⟨failed, by rw [openSince, if_pos opened, same], fresh⟩
    · -- by the length of the window: a check that passed earlier in it is refused already
      intro earlier probe middle
      induction size : middle.length using Nat.strong_induction_on generalizing middle with
      | _ _ ih =>
        intro later before i j call now passes shape front probes unjudged
        have refuses : ∀ label ∈ middle, Refuses label := by
          intro label member
          rcases refuses_or_passes label with refused | ⟨k, call', now', rfl⟩
          · exact refused
          obtain ⟨m, m', rfl⟩ := append_of_mem member
          have passed := ih m.length (by simp [← size]) m rfl (m' ++ .check j call now passes :: later) before i k call'
            now' true (by rw [shape]; simp) front probes (unjudged_front unjudged)
          cases passed
        exact (window earlier probe middle later before i j call now passes shape front probes refuses).mpr
          (reopened earlier probe middle later before i j call now passes shape front probes unjudged)

def quickSettings : Settings := ⟨1, 10⟩

def judgedProbe : List (Label Nat) :=
  [.check 0 .getTenantConfig 0 true, .answer 0 .getTenantConfig .transportError 5, .check 1 .getTenantConfig 20 true,
    .answer 1 .getTenantConfig (.answered 200 true) 25]

theorem judged_probe_run : ∃ last, Run (Step quickSettings) start judgedProbe last :=
  ⟨_, .cons _ _ _ _ _ (.check _ _ _ _ _ _ rfl rfl) (.cons _ _ _ _ _ (.answer _ _ _ _ _ rfl)
    (.cons _ _ _ _ _ (.check _ _ _ _ _ _ rfl rfl) (.cons _ _ _ _ _ (.answer _ _ _ _ _ rfl) (.nil _))))⟩

theorem judged_probe_promise : Promise quickSettings judgedProbe := by
  obtain ⟨last, run⟩ := judged_probe_run
  apply (breaker_promise_iff quickSettings judgedProbe last run).mpr
  intro earlier _ middle _ _ _ _ _ _ _ shape front probes _
  exfalso
  obtain ⟨opened, _, _, rfl⟩ := probes
  cases earlier with
  | nil =>
    cases front
    cases opened
  | cons _ earlier =>
    cases earlier with
    | nil => simp [judgedProbe] at shape
    | cons _ earlier =>
      cases earlier with
      | nil =>
        cases middle with
        | nil | cons => simp [judgedProbe] at shape
      | cons =>
        have size := congrArg List.length shape
        simp only [judgedProbe, length_append, length_cons, length_nil] at size
        omega

def doubledProbe : List (Label Nat) :=
  [.check 0 .getTenantConfig 0 true, .answer 0 .getTenantConfig .transportError 5, .check 1 .getTenantConfig 20 true,
    .check 2 .getActiveTenantsByService 21 true]

theorem doubled_probe_passes :
    (∃ last, Run (Step quickSettings) start doubledProbe last) ∧ ¬ Promise quickSettings doubledProbe := by
  constructor
  · exact ⟨_, .cons _ _ _ _ _ (.check _ _ _ _ _ _ rfl rfl) (.cons _ _ _ _ _ (.answer _ _ _ _ _ rfl)
      (.cons _ _ _ _ _ (.check _ _ _ _ _ _ rfl rfl) (.cons _ _ _ _ _ (.check _ _ _ _ _ _ rfl rfl) (.nil _))))⟩
  intro promise
  have opened : Run (Step quickSettings) start (doubledProbe.take 2) _ :=
    .cons _ _ _ _ _ (.check _ _ _ _ _ _ rfl rfl) (.cons _ _ _ _ _ (.answer _ _ _ _ _ rfl) (.nil _))
  have refused := promise.single (doubledProbe.take 2) (.check 1 .getTenantConfig 20 true) [] [] _ 1 2
    .getActiveTenantsByService 21 true rfl opened ⟨rfl, _, _, rfl⟩ (by simp [Unjudged])
  cases refused

end LibCommons.TenantClient
