import LibCommons.Outbox.Runs

namespace LibCommons.Outbox.Runs

open Function (update update_of_ne update_self)

def Live (phase : RunPhase) : Prop := phase ∉ [RunPhase.idle, .called, .refused, .ended]

def Added (phase : RunPhase) : Prop := phase ∈ [RunPhase.added, .dispatching, .finished]

-- The function has read its run and its channel and the once is not done yet.
def Aimed : CallPhase → Prop
  | .read _ _ | .cancelled _ | .closed _ => True
  | _ => False

def PastStop : CallPhase → Prop
  | .unlocking _ | .returned | .panicked | .waiting | .drained | .answered => True
  | _ => False

instance (phase : RunPhase) : Decidable (Live phase) := inferInstanceAs (Decidable (_ ∉ _))
instance (phase : RunPhase) : Decidable (Added phase) := inferInstanceAs (Decidable (_ ∈ _))

-- Runs exclude each other, and only the current run can be in the wait group.
structure Serial (s : State) : Prop where
  live : ∀ run, Live (s.runs run) → s.dispatcher.running = true ∧ s.dispatcher.cancelFunc = some run
  current : ∀ run, s.dispatcher.cancelFunc = some run → Live (s.runs run)
  counted : ∀ run, Added (s.runs run) → s.dispatcher.dispatchWg = 1
  empty : (∀ run, ¬ Added (s.runs run)) → s.dispatcher.dispatchWg = 0
  captured : ∀ caller run stop, s.calls caller = .read (some run) stop → Live (s.runs run) ∨ s.runs run = .ended
  unused : ∃ bound, ∀ number, bound ≤ number → s.calls (.shutdown number) = .idle

theorem serial_start (made : Bool) : Serial (start made) := by
  constructor <;> simp [start, Live, Added]

section

variable {s : State} {run : Nat} {caller : Caller} {label : Label} {d : Dispatcher} {next : CallPhase} {d d' : Dispatcher}

theorem call_frame {phase} (step : CallStep caller d phase label d' next) :
    d'.running = d.running ∧ d'.cancelFunc = d.cancelFunc ∧ d'.dispatchWg = d.dispatchWg := by
  cases step with
  | read =>
    unfold readState
    split <;> exact ⟨rfl, rfl, rfl⟩
  | _ => exact ⟨rfl, rfl, rfl⟩

theorem call_captures {phase} (step : CallStep caller d phase label d' next) {stop target}
    (captured : next = .read (some target) stop) : d.cancelFunc = some target := by
  cases step with
  | read =>
    unfold readState at captured
    split at captured <;> exact (CallPhase.read.inj captured).1
  | unlock panics => cases panics <;> cases captured
  | _ => cases captured

theorem serial_call {phase} (serial : Serial s) (step : CallStep caller s.dispatcher (s.calls caller) label d phase) :
    Serial { s with dispatcher := d, calls := update s.calls caller phase } := by
  obtain ⟨running, cancelFunc, count⟩ := call_frame step
  refine ⟨?_, ?_, ?_, ?_, ?_, ?_⟩
  · intro run live
    rw [running, cancelFunc]
    exact serial.live run live
  · intro run current
    rw [cancelFunc] at current
    exact serial.current run current
  · intro run added
    rw [count]
    exact serial.counted run added
  · intro none
    rw [count]
    exact serial.empty none
  · intro other run stop captured
    by_cases same : other = caller
    · subst same
      simp only [update_self] at captured
      exact .inl (serial.current run (call_captures step captured))
    · simp only [update_of_ne same] at captured
      exact serial.captured other run stop captured
  · obtain ⟨bound, idle⟩ := serial.unused
    cases caller with
    | stop => exact ⟨bound, fun other above => by simpa using idle other above⟩
    | shutdown number =>
      refine ⟨max bound (number + 1), fun other above => ?_⟩
      have different : other ≠ number := by omega
      simpa [different] using idle other (by omega)

variable {phase : RunPhase}

theorem added_live (added : Added phase) : Live phase := by
  cases phase <;> simp_all [Added, Live]

theorem live_unique (serial : Serial s) {other} (first : Live (s.runs run)) (second : Live (s.runs other)) : other = run := by
  have same := (serial.live other second).2.symm.trans (serial.live run first).2
  exact Option.some.inj same

theorem count_zero (serial : Serial s) (live : Live (s.runs run)) (out : ¬ Added (s.runs run)) : s.dispatcher.dispatchWg = 0 := by
  apply serial.empty
  intro _ added
  rw [live_unique serial live (added_live added)] at added
  exact out added

theorem moved_iff {holds : RunPhase → Prop} (same : holds phase ↔ holds (s.runs run)) (other : Nat) :
    holds (update s.runs run phase other) ↔ holds (s.runs other) := by
  by_cases here : other = run
  · subst here
    rw [update_self]
    exact same
  · rw [update_of_ne here]

theorem serial_same (serial : Serial s) (running : d.running = s.dispatcher.running)
    (cancelFunc : d.cancelFunc = s.dispatcher.cancelFunc) (count : d.dispatchWg = s.dispatcher.dispatchWg)
    (live : Live phase ↔ Live (s.runs run)) (added : Added phase ↔ Added (s.runs run))
    (ended : s.runs run = .ended → phase = .ended) :
    Serial { s with dispatcher := d, runs := update s.runs run phase } := by
  have lives := moved_iff live
  have adds := moved_iff added
  refine ⟨?_, ?_, ?_, ?_, ?_, serial.unused⟩
  · intro other is
    rw [running, cancelFunc]
    exact serial.live other ((lives other).mp is)
  · intro other is
    rw [cancelFunc] at is
    exact (lives other).mpr (serial.current other is)
  · intro other is
    rw [count]
    exact serial.counted other ((adds other).mp is)
  · intro none
    rw [count]
    exact serial.empty fun other is => none other ((adds other).mpr is)
  · intro caller other stop captured
    refine (serial.captured caller other stop captured).imp (lives other).mpr ?_
    intro was
    by_cases same : other = run
    · subst same
      simpa using ended was
    · simpa [same] using was

theorem serial_count (serial : Serial s) {count : Nat} (live : Live (s.runs run)) (stays : Live phase)
    (counts : count = if Added phase then 1 else 0) :
    Serial { s with
      dispatcher := { s.dispatcher with dispatchWg := count }, runs := update s.runs run phase } := by
  have lives := moved_iff (iff_of_true stays live)
  have only : ∀ other, Added (update s.runs run phase other) → Added phase := by
    intro other added
    have here : other = run := live_unique serial live ((lives other).mp (added_live added))
    rwa [here, update_self] at added
  refine ⟨?_, ?_, ?_, ?_, ?_, serial.unused⟩
  · intro other is
    exact serial.live other ((lives other).mp is)
  · intro other is
    exact (lives other).mpr (serial.current other is)
  · intro other is
    rw [counts, if_pos (only other is)]
  · intro none
    have out : ¬ Added phase := by simpa using none run
    rw [counts, if_neg out]
  · intro caller other stop captured
    rcases serial.captured caller other stop captured with is | ended
    · exact .inl ((lives other).mpr is)
    by_cases same : other = run
    · rw [same] at ended
      rw [ended] at live
      exact absurd live (by decide)
    · exact .inr (by simpa [same] using ended)

theorem register_fields {dispatcher next} (done : registerRun dispatcher run = (true, next)) :
    dispatcher.running = false ∧ next.running = true ∧ next.cancelFunc = some run ∧
      next.dispatchWg = dispatcher.dispatchWg ∧ next.cancelled = dispatcher.cancelled := by
  unfold registerRun at done
  cases busy : dispatcher.running with
  | true => simp [busy] at done
  | false =>
    simp only [busy, Bool.false_eq_true, if_false, Prod.mk.injEq, true_and] at done
    subst done
    refine ⟨rfl, rfl, rfl, ?_, ?_⟩ <;> dsimp only <;> split <;> rfl

variable (serial : Serial s)

include serial

theorem serial_register (was : s.runs run = .called) (done : registerRun s.dispatcher run = (true, d)) :
    Serial { s with dispatcher := d, runs := update s.runs run .ready } := by
  obtain ⟨free, running, cancelFunc, count, -⟩ := register_fields done
  have none : ∀ other, ¬ Live (s.runs other) := by
    intro other live
    have busy := (serial.live other live).1
    rw [free] at busy
    cases busy
  have only : ∀ other, Live (update s.runs run .ready other) → other = run := by
    intro other live
    by_contra different
    rw [update_of_ne different] at live
    exact none other live
  have out : ∀ other, ¬ Added (update s.runs run .ready other) := by
    intro other added
    rw [only other (added_live added), update_self] at added
    exact absurd added (by decide)
  refine ⟨?_, ?_, ?_, ?_, ?_, serial.unused⟩
  · intro other live
    rw [only other live]
    exact ⟨running, cancelFunc⟩
  · intro other current
    rw [cancelFunc] at current
    cases current
    simp only [update_self]
    decide
  · intro other added
    exact absurd added (out other)
  · intro _
    rw [count]
    exact serial.empty fun other added => none other (added_live added)
  · intro caller other stop captured
    rcases serial.captured caller other stop captured with live | ended
    · exact absurd live (none other)
    by_cases same : other = run
    · rw [same, was] at ended
      cases ended
    · exact .inr (by simpa [same] using ended)

theorem serial_clear (was : s.runs run = .returning) : Serial { s with dispatcher := clearRun s.dispatcher, runs := update s.runs run .ended } := by
  have live : Live (s.runs run) := by rw [was]; decide
  have count := count_zero serial live (by rw [was]; decide)
  have none : ∀ other, ¬ Live (update s.runs run .ended other) := by
    intro other is
    by_cases same : other = run
    · rw [same, update_self] at is
      exact absurd is (by decide)
    · rw [update_of_ne same] at is
      exact same (live_unique serial live is)
  refine ⟨?_, ?_, ?_, ?_, ?_, serial.unused⟩
  · intro other is
    exact absurd is (none other)
  · intro other current
    cases current
  · intro other added
    exact absurd (added_live added) (none other)
  · intro _
    exact count
  · intro caller other stop captured
    by_cases same : other = run
    · exact .inr (by simp [same])
    · rcases serial.captured caller other stop captured with is | ended
      · exact absurd (live_unique serial live is) same
      · exact .inr (by simpa [same] using ended)

theorem serial_run (step : RunStep run s.dispatcher (s.runs run) label d phase) :
    Serial { s with dispatcher := d, runs := update s.runs run phase } := by
  generalize was : s.runs run = before at step
  cases step with
  | cancelParent => exact serial_same serial rfl rfl rfl (by rw [was]) (by rw [was]) (by rw [was]; exact id)
  | register _ done => exact serial_register serial was done
  | add =>
    have live : Live (s.runs run) := by rw [was]; decide
    refine serial_count serial live (by decide) ?_
    rw [count_zero serial live (by rw [was]; decide)]
    rfl
  | done =>
    refine serial_count serial (by rw [was]; decide) (by decide) ?_
    rw [serial.counted run (by rw [was]; decide)]
    rfl
  | stopped _ selects =>
    refine serial_same serial rfl rfl rfl ?_ ?_ ?_ <;> rcases selects with rfl | rfl <;> rw [was] <;> decide
  | clear => exact serial_clear serial was
  | repository => exact serial_same serial rfl rfl rfl (by rw [was]) (by rw [was]) (by rw [was]; decide)
  | _ =>
    exact serial_same serial rfl rfl rfl (by rw [was]; decide) (by rw [was]; decide) (by rw [was]; decide)

theorem serial_step {next} (step : Step s label next) : Serial next := by
  cases step with
  | run _ _ _ _ _ step => exact serial_run serial step
  | call _ _ _ _ _ step => exact serial_call serial step
  | crash =>
    exact ⟨serial.live, serial.current, serial.counted, serial.empty, serial.captured, serial.unused⟩

end

variable (run : Nat)

-- A Stop that has aimed at this run, or has not aimed yet.
def Harmless : CallPhase → Prop
  | .read cancel _ => cancel = some run
  | .cancelled _ | .closed _ => False
  | _ => True

-- As long as the run lasts, the once is done only after the run is cancelled.
def Guarded (s : State) : Prop := s.runs run = .ended ∨ (Live (s.runs run) ∧
    (s.dispatcher.cancelled run = true ∨ (s.dispatcher.once = false ∧ ∀ caller, Harmless run (s.calls caller))))

def Gone (s : State) : Prop := s.runs run = .ended ∨ s.dispatcher.cancelled run = true

def Quiet (s : State) : Prop := s.runs run = .ended ∨ (s.dispatcher.cancelled run = true ∧ s.runs run ≠ .dispatching)

section

variable {s next : State} {run : Nat} {label : Label}
  {caller : Caller} {phase after : CallPhase} {d d' : Dispatcher} {run : Nat}

theorem call_cancelled (step : CallStep caller d phase label d' after) (gone : d.cancelled run = true) : d'.cancelled run = true := by
  cases step with
  | read =>
    unfold readState
    split <;> exact gone
  | cancel target =>
    by_cases same : run = target
    · simp [Dispatcher.cancel, same]
    · simpa [Dispatcher.cancel, same] using gone
  | _ => exact gone

variable {other : Nat}

theorem run_cancelled {phase after} (step : RunStep other d phase label d' after) (gone : d.cancelled run = true) : d'.cancelled run = true := by
  have cancels : (d.cancel other).cancelled run = true := by
    by_cases same : run = other
    · simp [Dispatcher.cancel, same]
    · simpa [Dispatcher.cancel, same] using gone
  cases step with
  | cancelParent | refuse => exact cancels
  | register _ done =>
    rw [(register_fields done).2.2.2.2]
    exact gone
  | _ => exact gone

theorem step_cancelled (step : Step s label next) (gone : s.dispatcher.cancelled run = true) : next.dispatcher.cancelled run = true := by
  cases step with
  | run _ _ _ _ _ step => exact run_cancelled step gone
  | call _ _ _ _ _ step => exact call_cancelled step gone
  | crash => exact gone

theorem run_ended {after} (step : RunStep other d .ended label d' after) : after = .ended := by
  cases step with
  | cancelParent => rfl
  | stopped _ selects => simp at selects

theorem run_live {phase after} (step : RunStep other d phase label d' after) (live : Live phase) : Live after ∨ after = .ended := by
  cases step with
  | cancelParent => exact .inl live
  | clear => exact .inr rfl
  | refuse | call => exact absurd live (by decide)
  | _ => exact .inl (by decide)

theorem step_ended (step : Step s label next) (ended : s.runs run = .ended) : next.runs run = .ended := by
  cases step with
  | run other _ _ _ _ step =>
    by_cases same : run = other
    · subst same
      rw [ended] at step
      simpa using run_ended step
    · simpa [same] using ended
  | call | crash => exact ended

theorem step_live (step : Step s label next) (live : Live (s.runs run)) : Live (next.runs run) ∨ next.runs run = .ended := by
  cases step with
  | run other _ _ _ _ step =>
    by_cases same : run = other
    · subst same
      simpa using run_live step live
    · simpa [same] using .inl live
  | call | crash => exact .inl live

theorem run_once {phase after} (step : RunStep other d phase label d' after) (running : d.running = true) : d'.once = d.once := by
  cases step with
  | register _ done =>
    rw [(register_fields done).1] at running
    cases running
  | _ => rfl

theorem call_harmless (step : CallStep caller d phase label d' after) (current : d.cancelFunc = some run)
    (once : d.once = false) (harmless : Harmless run phase) :
    d'.cancelled run = true ∨ (d'.once = false ∧ Harmless run after) := by
  cases step with
  | read =>
    refine .inr ?_
    unfold readState
    split <;> exact ⟨once, current⟩
  | noCancel => cases harmless
  | cancel =>
    cases harmless
    exact .inl (by simp [Dispatcher.cancel])
  | close | store => exact harmless.elim
  | unlock panics => cases panics <;> exact .inr ⟨once, trivial⟩
  | _ => exact .inr ⟨once, trivial⟩

theorem guarded_step (serial : Serial s) (guarded : Guarded run s) (step : Step s label next) : Guarded run next := by
  rcases guarded with ended | ⟨live, guarded⟩
  · exact .inl (step_ended step ended)
  rcases step_live step live with still | ended
  swap
  · exact .inl ended
  refine .inr ⟨still, ?_⟩
  rcases guarded with gone | ⟨once, harmless⟩
  · exact .inl (step_cancelled step gone)
  obtain ⟨running, current⟩ := serial.live run live
  cases step with
  | run _ _ _ _ _ step => exact .inr ⟨(run_once step running).trans once, harmless⟩
  | call caller _ _ _ _ step =>
    rcases call_harmless step current once (harmless caller) with gone | ⟨still, fine⟩
    · exact .inl gone
    refine .inr ⟨still, ?_⟩
    intro other
    by_cases same : other = caller
    · subst same
      simpa using fine
    · simpa [same] using harmless other
  | crash => exact .inr ⟨once, harmless⟩

theorem gone_step (gone : Gone run s) (step : Step s label next) : Gone run next := gone.imp (step_ended step) (step_cancelled step)

theorem call_silent (step : CallStep caller d phase label d' after) (run : Nat) : label ≠ .started run ∧ label ≠ .repository run := by
  cases step <;> exact ⟨nofun, nofun⟩

theorem other_silent {phase after} (step : RunStep other d phase label d' after) (different : run ≠ other) :
    label ≠ .started run ∧ label ≠ .repository run := by
  cases step <;> simp [Ne.symm different]

theorem quiet_step (quiet : Quiet run s) (step : Step s label next) : Quiet run next ∧ label ≠ .started run ∧ label ≠ .repository run := by
  have kept : Gone run next := gone_step (quiet.imp id And.left) step
  cases step with
  | call _ _ _ _ _ step =>
    exact ⟨kept.elim .inl fun gone => quiet.imp id fun both => ⟨gone, both.2⟩, call_silent step run⟩
  | crash => exact ⟨quiet, nofun, nofun⟩
  | run other _ _ phase _ step =>
    by_cases same : run = other
    swap
    · refine ⟨?_, other_silent step same⟩
      exact kept.elim .inl fun gone => quiet.imp (fun ended => by simpa [same] using ended) fun both => ⟨gone, by simpa [same] using both.2⟩
    subst same
    generalize was : s.runs run = before at step
    have idle : before ≠ .dispatching := by
      rw [← was]
      rcases quiet with ended | ⟨-, other⟩
      · rw [ended]
        nofun
      · exact other
    have cancelled : before ≠ .ended → s.dispatcher.cancelled run = true := by
      rw [← was]
      exact fun lasts => (quiet.resolve_left lasts).1
    have after : phase ≠ .dispatching ∧ label ≠ .started run ∧ label ≠ .repository run := by
      cases step with
      | start live =>
        have gone := cancelled nofun
        rw [live] at gone
        cases gone
      | repository => exact absurd rfl idle
      | cancelParent => exact ⟨idle, nofun, nofun⟩
      | _ => exact ⟨nofun, nofun, nofun⟩
    refine ⟨kept.elim .inl fun gone => .inr ⟨gone, ?_⟩, after.2⟩
    simpa using after.1

theorem quiet_run {labels} {last} (quiet : Quiet run s) (steps : Run Step s labels last) :
    Label.started run ∉ labels ∧ Label.repository run ∉ labels := by
  induction steps with
  | nil => simp
  | cons _ _ _ _ _ first _ ih =>
    obtain ⟨still, notStarted, notRepository⟩ := quiet_step quiet first
    obtain ⟨started, repository⟩ := ih still
    simp [notStarted.symm, notRepository.symm, started, repository]

structure Follows (run : Nat) (caller : Caller) (s : State) : Prop where
  serial : Serial s
  guarded : Guarded run s
  past : PastStop (s.calls caller) → Gone run s
  drained : s.calls caller = .drained → Quiet run s

theorem guarded_gone (guarded : Guarded run s) (late : s.dispatcher.once = true ∨ ∃ caller panics, s.calls caller = .closed panics) : Gone run s := by
  rcases guarded with ended | ⟨-, gone | ⟨once, harmless⟩⟩
  · exact .inl ended
  · exact .inr gone
  · rcases late with done | ⟨caller, _, closed⟩
    · rw [once] at done
      cases done
    · have aimed := harmless caller
      rw [closed] at aimed
      exact aimed.elim

theorem call_past (step : CallStep caller d phase label d' after) (past : PastStop after) :
    PastStop phase ∨ d.once = true ∨ ∃ panics, phase = .closed panics := by
  cases step with
  | fast done | late done => exact .inr (.inl done)
  | store panics => exact .inr (.inr ⟨panics, rfl⟩)
  | unlock | wait | drain | answer => exact .inl trivial
  | giveUp _ selects =>
    rcases selects with rfl | rfl
    · exact .inl trivial
    · exact .inl trivial
  | _ => exact past.elim

theorem drained_quiet (serial : Serial s) (gone : Gone run s) (none : s.dispatcher.dispatchWg = 0) : Quiet run s := by
  refine gone.imp id fun cancelled => ⟨cancelled, ?_⟩
  intro dispatching
  have one := serial.counted run (by rw [dispatching]; decide)
  rw [none] at one
  cases one

theorem call_drained (step : CallStep caller d phase label d' after) (drained : after = .drained) : phase = .waiting ∧ d.dispatchWg = 0 ∧ d' = d := by
  cases step with
  | drain none => exact ⟨rfl, none, rfl⟩
  | unlock panics => cases panics <;> cases drained
  | _ => cases drained

theorem follows_step (follows : Follows run caller s) (step : Step s label next) : Follows run caller next := by
  refine ⟨serial_step follows.serial step, guarded_step follows.serial follows.guarded step, ?_, ?_⟩
  · intro past
    refine gone_step ?_ step
    cases step with
    | run | crash => exact follows.past past
    | call other _ _ _ _ step =>
      by_cases same : caller = other
      · subst same
        simp only [update_self] at past
        rcases call_past step past with before | done | ⟨panics, closed⟩
        · exact follows.past before
        · exact guarded_gone follows.guarded (.inl done)
        · exact guarded_gone follows.guarded (.inr ⟨caller, panics, closed⟩)
      · exact follows.past (by simpa [same] using past)
  · intro drained
    cases step with
    | run other _ d phase alive step' =>
      exact (quiet_step (follows.drained drained) (.run s other label d phase alive step')).1
    | crash => exact follows.drained drained
    | call other _ d phase alive step =>
      by_cases same : caller = other
      · subst same
        simp only [update_self] at drained
        obtain ⟨waited, none, rfl⟩ := call_drained step drained
        have gone := follows.past (by rw [waited]; trivial)
        have quiet : Quiet run s := drained_quiet follows.serial gone none
        exact quiet
      · have quiet := follows.drained (by simpa [same] using drained)
        exact (quiet_step quiet (.call s other label d phase alive step)).1

theorem called_phase (step : Step s (.called caller) next) : next.calls caller = .fastPath := by
  cases step with
  | run other _ _ _ _ step =>
    generalize s.runs other = before at step
    cases step
  | call other _ _ _ _ step =>
    generalize s.calls other = before at step
    cases step
    simp

theorem follows_called (serial : Serial s) (guarded : Guarded run s) (step : Step s (.called caller) next) : Follows run caller next := by
  have phase := called_phase step
  refine ⟨serial_step serial step, guarded_step serial guarded step, ?_, ?_⟩
  · intro past
    rw [phase] at past
    exact past.elim
  · intro drained
    rw [phase] at drained
    cases drained

theorem answered_phase (step : Step s (.answered caller true) next) : s.calls caller = .drained := by
  cases step with
  | run other _ _ _ _ step =>
    generalize s.runs other = before at step
    cases step
  | call other _ _ _ _ step =>
    generalize was : s.calls other = before at step
    cases step
    exact was

-- Once a later Shutdown has returned nil, no cycle of the run starts or calls the repository.
def StopsRun (run : Nat) (s : State) : Prop := ∀ labels last, Run Step s labels last → ∀ earlier middle later number,
    labels = earlier ++ Label.called (.shutdown number) :: (middle ++ Label.answered (.shutdown number) true :: later) →
    Label.started run ∉ later ∧ Label.repository run ∉ later

theorem guarded_stops (serial : Serial s) (guarded : Guarded run s) : StopsRun run s := by
  rintro _ last steps earlier middle later number rfl
  obtain ⟨before, called, front, call, rest⟩ := Run.at_label s last earlier _ _ steps
  obtain ⟨serial, guarded⟩ := Run.invariant (fun state => Serial state ∧ Guarded run state)
    (fun state label next both step => ⟨serial_step both.1 step, guarded_step both.1 both.2 step⟩) s before earlier front
    ⟨serial, guarded⟩
  obtain ⟨waiting, _, between, answer, tail⟩ := Run.at_label called last middle later _ rest
  have follows := Run.invariant (Follows run (.shutdown number)) (fun state label next holds step => follows_step holds step)
    called waiting middle between (follows_called serial guarded call)
  have quiet := follows.drained (answered_phase answer)
  exact quiet_run (quiet_step quiet answer).1 tail

theorem registered_inv (step : Step s (.registered run) next) :
    s.crashed = false ∧ s.runs run = .called ∧ ∃ d, registerRun s.dispatcher run = (true, d) ∧
      next = { s with dispatcher := d, runs := update s.runs run .ready } := by
  cases step with
  | run other _ d _ alive step =>
    generalize was : s.runs other = before at step
    cases step with
    | register _ done => exact ⟨alive, was, d, done, rfl⟩
  | call other _ _ _ _ step =>
    generalize s.calls other = before at step
    cases step

section

variable {caller : Caller}

theorem stops_later {labels} (stops : StopsRun run s) (steps : Run Step s labels next) : StopsRun run next := by
  rintro _ last more earlier middle later number rfl
  refine stops _ last (steps.append more) (labels ++ earlier) middle later number ?_
  simp

variable {d : Dispatcher}

theorem call_goes {phase after} (alive : s.crashed = false) (was : s.calls caller = phase) (step : CallStep caller s.dispatcher phase label d after) :
    ∃ next, Step s label next ∧ next.crashed = false ∧ next.dispatcher = d ∧ next.runs = s.runs ∧ next.calls caller = after := by
  have moved := Step.call s caller label d after alive (was ▸ step)
  exact ⟨_, moved, alive, rfl, rfl, update_self ..⟩

theorem run_goes {phase after} (alive : s.crashed = false) (was : s.runs run = phase) (step : RunStep run s.dispatcher phase label d after) :
    ∃ next, Step s label next ∧ next.crashed = false ∧ next.dispatcher = d ∧ next.calls = s.calls ∧ next.runs run = after := by
  have moved := Step.run s run label d after alive (was ▸ step)
  exact ⟨_, moved, alive, rfl, rfl, update_self ..⟩

structure Exposed (run : Nat) (s : State) : Prop where
  serial : Serial s
  alive : s.crashed = false
  ready : s.runs run = .ready
  uncancelled : s.dispatcher.cancelled run = false

variable (exposed : Exposed run s)

include exposed

theorem done_breaks (done : s.dispatcher.once = true) : ¬ StopsRun run s := by
  intro stops
  obtain ⟨bound, unused⟩ := exposed.serial.unused
  have count : s.dispatcher.dispatchWg = 0 := count_zero exposed.serial (by rw [exposed.ready]; decide) (by rw [exposed.ready]; decide)
  obtain ⟨_, call, alive1, same1, runs1, phase1⟩ := call_goes exposed.alive (unused bound (le_refl bound)) (.call _)
  obtain ⟨_, fast, alive2, same2, runs2, phase2⟩ := call_goes alive1 phase1 (.fast _ (by rw [same1, done]))
  obtain ⟨s3, wait, alive3, same3, runs3, phase3⟩ := call_goes alive2 phase2 (.wait _ bound rfl)
  have drained : s3.dispatcher.dispatchWg = 0 := by rw [same3, same2, same1, count]
  obtain ⟨_, drain, alive4, same4, runs4, phase4⟩ := call_goes alive3 phase3 (.drain _ drained)
  obtain ⟨s5, answer, alive5, same5, runs5, _⟩ := call_goes alive4 phase4 (.answer _)
  have ready : s5.runs run = .ready := by rw [runs5, runs4, runs3, runs2, runs1, exposed.ready]
  obtain ⟨s6, add, alive6, same6, -, phase6⟩ := run_goes alive5 ready (.add _)
  have live : s6.dispatcher.cancelled run = false := by
    rw [same6]
    rw [same5, same4, same3, same2, same1]
    exact exposed.uncancelled
  obtain ⟨s7, start, -⟩ := run_goes alive6 phase6 (.start _ live)
  have steps := Run.cons _ _ _ _ _ call (.cons _ _ _ _ _ fast (.cons _ _ _ _ _ wait (.cons _ _ _ _ _ drain
    (.cons _ _ _ _ _ answer (.cons _ _ _ _ _ add (.cons _ _ _ _ _ start (.nil s7)))))))
  have silent := (stops _ s7 steps [] [.silent, .silent, .silent] [.silent, .started run] bound rfl).1
  simp at silent

theorem closed_breaks {panics} (closed : s.calls caller = .closed panics) : ¬ StopsRun run s := by
  intro stops
  obtain ⟨next, store, alive, same, runs, -⟩ := call_goes exposed.alive closed (.store _ panics)
  have later : Exposed run next := ⟨serial_step exposed.serial store, alive, by rw [runs, exposed.ready], by rw [same]; exact exposed.uncancelled⟩
  exact done_breaks later (by rw [same]) (stops_later stops (.cons _ _ _ _ _ store (.nil next)))

theorem cancelled_breaks {stop} (cancelled : s.calls caller = .cancelled stop) : ¬ StopsRun run s := by
  intro stops
  obtain ⟨next, close, alive, same, runs, phase⟩ := call_goes exposed.alive cancelled (.close _ stop)
  have later : Exposed run next := ⟨serial_step exposed.serial close, alive, by rw [runs, exposed.ready], by rw [same]; exact exposed.uncancelled⟩
  exact closed_breaks later phase (stops_later stops (.cons _ _ _ _ _ close (.nil next)))

theorem read_breaks (cancel : Option Nat) (stop : Nat) (read : s.calls caller = .read cancel stop)
    (other : cancel ≠ some run) : ¬ StopsRun run s := by
  intro stops
  cases cancel with
  | none =>
    obtain ⟨next, skip, alive, same, runs, phase⟩ := call_goes exposed.alive read (.noCancel _ stop)
    have later : Exposed run next := ⟨serial_step exposed.serial skip, alive, by rw [runs, exposed.ready], by rw [same]; exact exposed.uncancelled⟩
    exact cancelled_breaks later phase (stops_later stops (.cons _ _ _ _ _ skip (.nil next)))
  | some target =>
    obtain ⟨next, cancel, alive, same, runs, phase⟩ := call_goes exposed.alive read (.cancel _ target stop)
    have different : run ≠ target := fun equal => other (by rw [equal])
    have kept : next.dispatcher.cancelled run = false := by
      rw [same]
      simpa [Dispatcher.cancel, different] using exposed.uncancelled
    have later : Exposed run next := ⟨serial_step exposed.serial cancel, alive, by rw [runs, exposed.ready], kept⟩
    exact cancelled_breaks later phase (stops_later stops (.cons _ _ _ _ _ cancel (.nil next)))

end

end

-- At the registration of a run no earlier Stop is to mark, or has marked, the once as done.
def Unaimed (s : State) : Prop := s.dispatcher.once = false ∧ ∀ caller, ¬ Aimed (s.calls caller)

theorem shutdown_stops_run_iff (made : Bool) (labels : List Label) (s next : State) (run : Nat)
    (reached : Run Step (start made) labels s) (registers : Step s (.registered run) next) :
    StopsRun run next ↔ next.dispatcher.cancelled run = true ∨ Unaimed next := by
  have serial : Serial s :=
    Run.invariant Serial (fun _ _ _ holds step => serial_step holds step) _ s labels reached (serial_start made)
  obtain ⟨alive, called, d, _, rfl⟩ := registered_inv registers
  have after := serial_step serial registers
  constructor
  · intro stops
    by_contra! otherwise
    obtain ⟨uncancelled, aimed⟩ := otherwise
    have exposed : Exposed run { s with dispatcher := d, runs := update s.runs run .ready } :=
      ⟨after, alive, update_self .., by simpa using uncancelled⟩
    refine aimed ⟨?_, ?_⟩
    · by_contra once
      exact done_breaks exposed (by simpa using once) stops
    intro caller aims
    cases phase : s.calls caller with
    | read cancel stop =>
      refine read_breaks exposed cancel stop phase ?_ stops
      rintro rfl
      -- The run was not registered when that Stop read its target.
      rcases serial.captured caller run stop phase with live | ended
      · rw [called] at live
        exact absurd live (by decide)
      · rw [called] at ended
        cases ended
    | cancelled => exact cancelled_breaks exposed phase stops
    | closed => exact closed_breaks exposed phase stops
    | _ =>
      simp only [phase] at aims
      exact aims
  · intro holds
    refine guarded_stops after (.inr ⟨?_, ?_⟩)
    · simp only [update_self]
      decide
    refine holds.imp id fun unaimed => ⟨unaimed.1, ?_⟩
    intro caller
    have free := unaimed.2 caller
    cases phase : s.calls caller <;> simp_all [Aimed, Harmless]

def sampleDispatcher (held running : Bool) (cancelFunc : Option Nat) : Dispatcher :=
  { stop := some 0, made := 1, closed := fun _ => false, once := false, held := held, running := running
    cancelFunc := cancelFunc, cancelled := fun _ => false, dispatchWg := 0 }

theorem sample_run_stopped : ∃ labels s next, Run Step (start true) labels s ∧ Step s (.registered 0) next ∧
    Unaimed next ∧ StopsRun 0 next := by
  have idle : (start true).runs 0 = .idle := rfl
  obtain ⟨s, call, alive, same, calls, phase⟩ := run_goes rfl idle (.call _)
  have register : registerRun s.dispatcher 0 = (true, sampleDispatcher false true (some 0)) := by
    rw [same]
    rfl
  obtain ⟨next, registers, -, same', calls', -⟩ := run_goes alive phase (.register _ _ register)
  have unaimed : Unaimed next := by
    refine ⟨by rw [same']; rfl, ?_⟩
    intro _
    rw [calls', calls]
    exact id
  have reached : Run Step (start true) [.silent] s := .cons _ _ _ _ _ call (.nil s)
  exact ⟨_, s, next, reached, registers, unaimed,
    (shutdown_stops_run_iff true _ s next 0 reached registers).mpr (.inr unaimed)⟩

theorem runs_serialized (made : Bool) (labels : List Label) (s : State) (reached : Run Step (start made) labels s) :
    (∀ run, Live (s.runs run) ↔ s.dispatcher.cancelFunc = some run) ∧ (∀ run, Live (s.runs run) → s.dispatcher.running = true) ∧
    s.dispatcher.dispatchWg ≤ 1 ∧ (s.dispatcher.dispatchWg = 0 ↔ ∀ run, ¬ Added (s.runs run)) := by
  have serial : Serial s := Run.invariant Serial (fun _ _ _ holds step => serial_step holds step) _ s labels reached (serial_start made)
  refine ⟨fun run => ⟨fun live => (serial.live run live).2, serial.current run⟩, fun run live => (serial.live run live).1, ?_⟩
  by_cases idle : ∀ run, ¬ Added (s.runs run)
  · simp [serial.empty idle, idle]
  · obtain ⟨run, added⟩ := not_forall_not.mp idle
    simp [serial.counted run added, idle]

theorem registered_run_alone : ∃ labels s, Run Step (start true) labels s ∧ Live (s.runs 0) ∧ ∀ run, Live (s.runs run) → run = 0 := by
  have steps : Run Step (start true) _ _ := .cons _ _ _ _ _ (.run _ 0 _ _ _ rfl (.call _)) <|
    .cons _ _ _ _ _ (.run _ 0 _ _ _ rfl (.register _ _ rfl)) (.nil _)
  obtain ⟨current, -⟩ := runs_serialized true _ _ steps
  refine ⟨_, _, steps, (current 0).mpr rfl, ?_⟩
  intro run live
  exact (Option.some.inj ((current run).mp live)).symm

-- A Stop finds nothing to cancel; a run registers; the Stop closes the old channel and marks the once.
theorem shutdown_misses_run : ∃ labels s next, Run Step (start true) labels s ∧ Step s (.registered 0) next ∧
    ¬ StopsRun 0 next := by
  have uncalled : (start true).calls (.stop 0) = .idle := rfl
  obtain ⟨_, called, alive1, same1, runs1, phase1⟩ := call_goes rfl uncalled (.call _)
  obtain ⟨_, slow, alive2, same2, runs2, phase2⟩ := call_goes alive1 phase1 (.slow _ (by rw [same1]; rfl))
  obtain ⟨s3, lock, alive3, same3, runs3, phase3⟩ := call_goes alive2 phase2 (.lock _ (by rw [same2, same1]; rfl))
  have locked : s3.dispatcher = sampleDispatcher true false none := by
    rw [same3]
    rw [same2, same1]
    rfl
  obtain ⟨_, enter, alive4, same4, runs4, phase4⟩ := call_goes alive3 phase3 (.enter _ (by rw [locked]; rfl))
  obtain ⟨s5, read, alive5, same5, runs5, phase5⟩ := call_goes alive4 phase4 (.read _)
  rw [same4, locked] at same5 phase5
  have idle : s5.runs 0 = .idle := by
    rw [runs5, runs4, runs3, runs2, runs1]
    rfl
  obtain ⟨s6, call, alive6, same6, calls6, phase6⟩ := run_goes alive5 idle (.call _)
  have register : registerRun s6.dispatcher 0 = (true, sampleDispatcher true true (some 0)) := by
    rw [same6, same5]
    rfl
  obtain ⟨s7, registers, alive7, same7, calls7, phase7⟩ := run_goes alive6 phase6 (.register _ _ register)
  have reached := Run.cons _ _ _ _ _ called (.cons _ _ _ _ _ slow (.cons _ _ _ _ _ lock (.cons _ _ _ _ _ enter
    (.cons _ _ _ _ _ read (.cons _ _ _ _ _ call (.nil s6))))))
  have serial := Run.invariant Serial (fun _ _ _ holds step => serial_step holds step) _ s6 _ reached (serial_start true)
  have exposed : Exposed 0 s7 := ⟨serial_step serial registers, alive7, phase7, by rw [same7]; rfl⟩
  exact ⟨_, s6, s7, reached, registers, read_breaks exposed none 0 (by rw [calls7, calls6, phase5]; rfl) nofun⟩

end LibCommons.Outbox.Runs
