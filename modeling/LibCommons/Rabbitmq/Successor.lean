import LibCommons.Rabbitmq.Ownership

namespace LibCommons.Rabbitmq

open Process
open Function (forall_update_iff update update_of_ne update_self)

def PubOp.steady : PubOp → Bool
  | .invalidate | .setHealth _ | .shut | .markClosed | .prepare | .install => false
  | _ => true

structure Steady {I : Type} (world after : World I) : Prop where
  closed : after.publisher.closed = world.publisher.closed
  shutdown : after.publisher.shutdown = world.publisher.shutdown
  confirms : after.publisher.confirms = world.publisher.confirms
  ch : after.publisher.ch = world.publisher.ch
  health : after.publisher.health = world.publisher.health
  installed : after.installed = world.installed

section

variable {I : Type} {setting : Setting} {world after : World I} {actor : Actor I} {op : PubOp} {result : PubRes op}

theorem exec_steady (steady : op.steady = true) (done : PubExec setting actor op world result after) : Steady world after := by
  cases op with
  | invalidate | setHealth | shut | markClosed | prepare | install => cases steady
  | lock | load | takeReturn | readDone | pollDone | backoff =>
    obtain ⟨-, rfl⟩ := done
    exact ⟨rfl, rfl, rfl, rfl, rfl, rfl⟩
  | publishWithContext =>
    rcases done with ⟨-, rfl⟩ | ⟨-, rfl⟩ <;> exact ⟨rfl, rfl, rfl, rfl, rfl, rfl⟩
  | select =>
    cases result with
    | confirmed =>
      obtain ⟨_, -, rfl⟩ := done
      exact ⟨rfl, rfl, rfl, rfl, rfl, rfl⟩
    | streamClosed =>
      obtain ⟨-, -, rfl⟩ := done
      exact ⟨rfl, rfl, rfl, rfl, rfl, rfl⟩
    | signalled =>
      obtain ⟨-, rfl⟩ := done
      exact ⟨rfl, rfl, rfl, rfl, rfl, rfl⟩
    | timedOut | cancelled =>
      cases done
      exact ⟨rfl, rfl, rfl, rfl, rfl, rfl⟩
  | closeChannel =>
    rcases done with ⟨-, rfl⟩ | ⟨-, -, rfl | rfl⟩ <;> exact ⟨rfl, rfl, rfl, rfl, rfl, rfl⟩
  | drainConfirms =>
    obtain ⟨_, rfl⟩ := done
    exact ⟨rfl, rfl, rfl, rfl, rfl, rfl⟩
  | awaitClose =>
    obtain ⟨rfl, -, -⟩ := done
    exact ⟨rfl, rfl, rfl, rfl, rfl, rfl⟩
  | _ =>
    cases done
    exact ⟨rfl, rfl, rfl, rfl, rfl, rfl⟩

theorem alive_on {ch} {change} (same : (change (world.channels ch)).alive = (world.channels ch).alive) :
    ∀ k, ((world.onChannel ch change).channels k).alive = (world.channels k).alive :=
  (forall_update_iff world.channels fun k channel => channel.alive = (world.channels k).alive).mpr ⟨same, fun _ _ => rfl⟩

theorem exec_alive (steady : op.steady = true) (other : ∀ ch, op ≠ .closeChannel ch)
    (done : PubExec setting actor op world result after) : ∀ ch, (after.channels ch).alive = (world.channels ch).alive := by
  cases op with
  | invalidate | setHealth | shut | markClosed | prepare | install => cases steady
  | closeChannel ch => exact absurd rfl (other ch)
  | lock | load | readDone | pollDone | backoff =>
    obtain ⟨-, rfl⟩ := done
    exact fun _ => rfl
  | takeReturn =>
    obtain ⟨-, rfl⟩ := done
    exact alive_on rfl
  | drainReturns =>
    cases done
    exact alive_on rfl
  | publishWithContext =>
    rcases done with ⟨-, rfl⟩ | ⟨-, rfl⟩
    · exact alive_on rfl
    · exact fun _ => rfl
  | select =>
    cases result with
    | confirmed =>
      obtain ⟨_, -, rfl⟩ := done
      exact alive_on rfl
    | streamClosed =>
      obtain ⟨-, -, rfl⟩ := done
      exact fun _ => rfl
    | signalled =>
      obtain ⟨-, rfl⟩ := done
      exact fun _ => rfl
    | timedOut | cancelled =>
      cases done
      exact fun _ => rfl
  | drainConfirms =>
    obtain ⟨_, rfl⟩ := done
    exact alive_on rfl
  | awaitClose =>
    obtain ⟨rfl, -, -⟩ := done
    exact fun _ => rfl
  | _ =>
    cases done
    exact fun _ => rfl

end

def Stage.Spent (setting : Setting) : Stage → Prop
  | .monitor _ .installed | .monitor _ .restored | .monitor _ .ended => True
  | .monitor _ (.marked _) => setting.recovery = none
  | _ => False

def Stage.Plain : Stage → Prop
  | .monitor _ .waiting | .monitor _ .fired | .monitor _ (.marked _) | .monitor _ .ended => True
  | _ => False

section

variable {setting : Setting} {stage : Stage} {op : PubOp}

theorem spent_learn (result : PubRes op) (spent : stage.Spent setting) (may : pubMay setting stage op) :
    (pubLearn stage op result).Spent setting := by
  cases op with
  | lock =>
    simp only [pubMay, Stage.entering] at may
    split at may <;> first | exact spent.elim | cases may
  | unlock =>
    simp only [pubMay, Stage.leaving] at may
    split at may <;> first | exact spent.elim | trivial
  | setHealth =>
    obtain ⟨_, emits⟩ := may
    cases emits with
    | dead | restored => trivial
    | recovers _ _ helped => exact absurd spent helped
    | _ => exact spent.elim
  | signal => exact spent
  | drainReturns | select | takeReturn =>
    obtain ⟨publishing, pub, rfl, -⟩ := may
    exact spent.elim
  | publishWithContext =>
    obtain ⟨_, rfl, -⟩ := may
    exact spent.elim
  | closeChannel =>
    rcases may with ⟨_, rfl⟩ | rfl | ⟨ch, rfl⟩ <;> exact spent.elim
  | drainConfirms | install =>
    rcases may with rfl | ⟨_, rfl⟩ <;> exact spent.elim
  | shut | awaitClose =>
    cases may
    exact spent.elim
  | _ =>
    obtain ⟨_, rfl⟩ := may
    exact spent.elim

theorem plain_learn (alone : setting.recovery = none) (result : PubRes op) (plain : stage.Plain) (may : pubMay setting stage op) :
    (pubLearn stage op result).Plain := by
  cases op with
  | lock =>
    simp only [pubMay, Stage.entering] at may
    split at may <;> first | exact plain.elim | cases may
  | unlock =>
    simp only [pubMay, Stage.leaving] at may
    split at may <;> first | exact plain.elim | cases may
  | setHealth =>
    obtain ⟨_, emits⟩ := may
    cases emits with
    | dead => trivial
    | recovers _ _ helped => exact absurd alone helped
    | _ => exact plain.elim
  | signal => exact plain
  | markClosed =>
    obtain ⟨ch, rfl⟩ := may
    trivial
  | awaitClose =>
    simp only [pubLearn]
    split <;> trivial
  | drainReturns | select | takeReturn =>
    obtain ⟨publishing, pub, rfl, -⟩ := may
    exact plain.elim
  | publishWithContext =>
    obtain ⟨_, rfl, -⟩ := may
    exact plain.elim
  | closeChannel =>
    rcases may with ⟨_, rfl⟩ | rfl | ⟨ch, rfl⟩ <;> exact plain.elim
  | drainConfirms | install =>
    rcases may with rfl | ⟨_, rfl⟩ <;> exact plain.elim
  | shut =>
    cases may
    exact plain.elim
  | _ =>
    obtain ⟨_, rfl⟩ := may
    exact plain.elim

theorem waiting_may {ch} (may : pubMay setting (.monitor ch .waiting) op) : op = .awaitClose ch := by
  cases op with
  | awaitClose =>
    cases may
    rfl
  | setHealth =>
    obtain ⟨_, emits⟩ := may
    cases emits
  | _ => simp [pubMay, Stage.entering, Stage.leaving] at may

theorem refused_idle (may : pubMay setting (.reconnect .left) op) : False := by
  cases op with
  | setHealth =>
    obtain ⟨_, emits⟩ := may
    cases emits
  | _ => simp [pubMay, Stage.entering, Stage.leaving] at may

end

-- Either only recovery replaces channels, or only monitors give one up.
structure Succession {I : Type} (setting : Setting) (calls : I → Call) (world : World I) (know : Actor I → Stage) : Prop where
  spent : ∀ ch, ch + 1 < world.installed → (know (.monitor ch)).Spent setting
  unborn : ∀ ch, world.installed ≤ ch → know (.monitor ch) = .monitor ch .waiting
  plain : setting.recovery = none → ∀ ch, (know (.monitor ch)).Plain
  rule : (∀ i stage, know (.call i) = .reconnect stage → stage = .left) ∨ (setting.recovery = none ∧ (∀ i, (calls i).publishing = none) ∧
      (world.publisher.closed = true → world.publisher.shutdown = false → (know (.monitor world.publisher.confirms)).Spent setting))

section

variable {I : Type} [DecidableEq I] {setting : Setting} {calls : I → Call} {world after : World I}
  {know : Actor I → Stage} {actor : Actor I}

def Cleared (setting : Setting) (world : World I) (know : Actor I → Stage) : Prop :=
  world.publisher.closed = true → world.publisher.shutdown = false → (know (.monitor world.publisher.confirms)).Spent setting

variable {op : PubOp} {ch : Nat}

theorem spent_kept (result : PubRes op) (may : pubMay setting (know actor) op) (spent : (know (.monitor ch)).Spent setting) :
    (update know actor (pubLearn (know actor) op result) (.monitor ch)).Spent setting := by
  by_cases same : .monitor ch = actor
  · subst same
    rw [update_self]
    exact spent_learn result spent may
  · rwa [update_of_ne same]

theorem gone_kept (op : PubOp) (result : PubRes op) (may : pubMay setting (know actor) op)
    (gone : ∀ i stage, know (.call i) = .reconnect stage → stage = .left) (i : I) (stage : ReconnectStage)
    (found : update know actor (pubLearn (know actor) op result) (.call i) = .reconnect stage) :
    stage = .left := by
  by_cases same : .call i = actor
  · subst same
    rw [update_self] at found
    have root := learn_root result may
    rw [found] at root
    cases was : know (.call i) with
    | reconnect before =>
      obtain rfl := gone i before was
      rw [was] at may
      exact (refused_idle may).elim
    | _ =>
      rw [was] at root
      cases root
  · rw [update_of_ne same] at found
    exact gone i stage found

variable {result : PubRes op}

theorem succession_next (succession : Succession setting calls world know) (may : pubMay setting (know actor) op)
    (born : ∀ ch, actor = .monitor ch → ch < world.installed) (grown : world.installed ≤ after.installed)
    (replaced : ∀ ch, world.installed ≤ ch + 1 → ch + 1 < after.installed →
      (update know actor (pubLearn (know actor) op result) (.monitor ch)).Spent setting)
    (cleared : setting.recovery = none → (∀ i, (calls i).publishing = none) → Cleared setting world know →
      Cleared setting after (update know actor (pubLearn (know actor) op result))) :
    Succession setting calls after (update know actor (pubLearn (know actor) op result)) := by
  constructor
  · intro ch earlier
    rcases Nat.lt_or_ge (ch + 1) world.installed with before | now
    · exact spent_kept result may (succession.spent ch before)
    · exact replaced ch now earlier
  · intro ch later
    have apart : .monitor ch ≠ actor := by
      intro same
      have known := born ch same.symm
      omega
    rw [update_of_ne apart]
    exact succession.unborn ch (grown.trans later)
  · intro alone ch
    by_cases same : .monitor ch = actor
    · subst same
      rw [update_self]
      exact plain_learn alone result (succession.plain alone ch) may
    · rw [update_of_ne same]
      exact succession.plain alone ch
  · rcases succession.rule with gone | ⟨alone, silent, clear⟩
    · exact .inl (gone_kept op result may gone)
    · exact .inr ⟨alone, silent, cleared alone silent clear⟩

omit [DecidableEq I] in
theorem latest (owned : Owned calls world know) (succession : Succession setting calls world know) {stage}
    (was : know (.monitor ch) = .monitor ch stage) (busy : stage ≠ .waiting) (unspent : ¬ (know (.monitor ch)).Spent setting) :
    ch = world.publisher.confirms := by
  have number := owned.shape.number
  by_contra other
  rcases Nat.lt_or_ge (ch + 1) world.installed with earlier | _
  · exact unspent (succession.spent ch earlier)
  have asleep := succession.unborn ch (by omega)
  rw [was] at asleep
  cases asleep
  exact busy rfl

omit [DecidableEq I] in
theorem born_act (succession : Succession setting calls world know) (op : PubOp) (result : PubRes op)
    (may : pubMay setting (know actor) op) (done : PubExec setting actor op world result after) (ch : Nat)
    (own : actor = .monitor ch) : ch < world.installed := by
  subst own
  by_contra beyond
  rw [succession.unborn ch (le_of_not_gt beyond)] at may
  obtain rfl := waiting_may may
  exact beyond done.2.1

theorem cleared_kept (result : PubRes op) (may : pubMay setting (know actor) op)
    (same : after.publisher.closed = world.publisher.closed ∧ after.publisher.shutdown = world.publisher.shutdown ∧
      after.publisher.confirms = world.publisher.confirms) (clear : Cleared setting world know) :
    Cleared setting after (update know actor (pubLearn (know actor) op result)) := by
  intro closed running
  rw [same.1] at closed
  rw [same.2.1] at running
  rw [same.2.2]
  exact spent_kept result may (clear closed running)

theorem succession_same (succession : Succession setting calls world know) (may : pubMay setting (know actor) op)
    (born : ∀ ch, actor = .monitor ch → ch < world.installed) (installed : after.installed = world.installed)
    (cleared : setting.recovery = none → (∀ i, (calls i).publishing = none) → Cleared setting world know →
      Cleared setting after (update know actor (pubLearn (know actor) op result))) :
    Succession setting calls after (update know actor (pubLearn (know actor) op result)) := by
  refine succession_next succession may born installed.ge ?_ cleared
  intro _ _ _
  omega

theorem succession_install (owned : Owned calls world know) (succession : Succession setting calls world know)
    (accepted : world.publisher.reconnectRefusal = none) (may : pubMay setting (know actor) .install)
    (born : ∀ ch, actor = .monitor ch → ch < world.installed) :
    Succession setting calls world.install (update know actor (pubLearn (know actor) .install none)) := by
  obtain ⟨closed, running⟩ := reconnect_accepted accepted
  have number := owned.shape.number
  refine succession_next succession may born (Nat.le_succ _) ?_ fun _ _ _ => (by rintro ⟨⟩)
  intro ch _ earlier
  obtain rfl : ch = world.publisher.confirms := by
    have within : ch + 1 < world.installed + 1 := earlier
    omega
  rcases may with was | ⟨_, was⟩
  · obtain ⟨i, rfl⟩ := reconnect_actor owned was
    have apart : Actor.monitor world.publisher.confirms ≠ .call i := (by rintro ⟨⟩)
    rw [update_of_ne apart]
    rcases succession.rule with gone | ⟨-, -, clear⟩
    · cases gone i _ was
    · exact clear closed running
  · obtain rfl := monitor_actor owned was
    obtain rfl := latest owned succession was (by rintro ⟨⟩) (by rw [was]; exact id)
    rw [update_self, was]
    trivial

theorem succession_act (owned : Owned calls world know) (succession : Succession setting calls world know)
    (may : pubMay setting (know actor) op) (done : PubExec setting actor op world result after) :
    Succession setting calls after (update know actor (pubLearn (know actor) op result)) := by
  have born := born_act succession op result may done
  have idle : Succession setting calls world (update know actor (pubLearn (know actor) op result)) :=
    succession_same succession may born rfl fun _ _ => cleared_kept result may ⟨rfl, rfl, rfl⟩
  cases op with
  | invalidate =>
    cases done
    refine succession_same succession may born rfl ?_
    intro _ silent _
    obtain ⟨_, was⟩ := may
    obtain ⟨i, rfl, own⟩ := publish_actor owned was
    rw [silent i] at own
    cases own
  | setHealth =>
    cases done
    exact succession_same succession may born rfl fun _ _ => cleared_kept _ may ⟨rfl, rfl, rfl⟩
  | shut =>
    simp only [PubExec] at done
    split at done
    · obtain ⟨rfl, rfl⟩ := done
      exact idle
    · obtain ⟨rfl, rfl⟩ := done
      exact succession_same succession may born rfl fun _ _ _ _ => (by rintro ⟨⟩)
  | markClosed =>
    obtain ⟨rfl, rfl⟩ := done
    refine succession_same succession may born rfl ?_
    intro alone _ _ _ _
    obtain ⟨ch, was⟩ := may
    obtain rfl := monitor_actor owned was
    have same := latest owned succession was (by rintro ⟨⟩) (by rw [was]; exact id)
    change (update know (.monitor ch) _ (.monitor world.publisher.confirms)).Spent setting
    rw [← same, update_self, was]
    exact alone
  | prepare =>
    have helped : setting.recovery ≠ none := by
      intro alone
      obtain ⟨ch, was⟩ := may
      obtain rfl := monitor_actor owned was
      have plain := succession.plain alone ch
      rw [was] at plain
      exact plain
    simp only [PubExec] at done
    split at done
    · obtain ⟨rfl, rfl⟩ := done
      exact idle
    · obtain ⟨rfl, rfl⟩ := done
      exact succession_same succession may born rfl fun alone => absurd alone helped
  | install =>
    simp only [PubExec] at done
    split at done
    · obtain ⟨-, rfl⟩ := done
      exact idle
    rename_i accepted
    rcases done with ⟨rfl, rfl⟩ | ⟨-, rfl⟩ | ⟨_, -, rfl⟩
    · exact succession_install owned succession accepted may born
    · exact idle
    · exact idle
  | _ =>
    have steady := exec_steady rfl done
    exact succession_same succession may born steady.installed fun _ _ => cleared_kept _ may ⟨steady.closed, steady.shutdown, steady.confirms⟩

omit [DecidableEq I] in
theorem succession_broker (succession : Succession setting calls world know) (moved : Broker world after) : Succession setting calls after know := by
  cases moved <;> exact { succession with }

theorem succession_keeps : Keeps (pubOutline setting) (pubSemantics setting)
    fun world know => Owned calls world know ∧ Succession setting calls world know where
  sees _ _ _ _ _ _ := trivial
  act _ _ _ _ _ _ both may done := ⟨owned_act both.1 may done, succession_act both.1 both.2 may done⟩
  wait _ _ _ _ _ _ _ moved := moved.elim
  drift _ _ _ both moved := ⟨owned_broker both.1 moved, succession_broker both.2 moved⟩

end

def Spares {I : Type} (before after : World I) : Prop := (before.publisher.closed = false → after.publisher.closed = false) ∧
    ∀ ch, before.publisher.ch = some ch →
      after.publisher.ch = some ch ∧ ((before.channels ch).alive = true → (after.channels ch).alive = true)

-- No step in the handling of the close of a replaced channel harms the current one.
def DeadSpareSuccessors {I : Type} [DecidableEq I] (setting : Setting) (calls : I → Call) : Prop :=
  ∀ labels pool, Run (Step (pubSemantics setting)) (launched setting calls) labels pool →
    ∀ ch op result next, Step (pubSemantics setting) pool (.act (.monitor ch) op result) next →
      pool.world.publisher.ch ≠ some ch → Spares pool.world next.world

section

variable {I : Type} {setting : Setting} {calls : I → Call} {world after : World I} {know : Actor I → Stage}

theorem spares_none (owned : Owned calls world know) (none : world.publisher.ch = none) : Spares world after := by
  refine ⟨?_, ?_⟩
  · intro opened
    exact absurd none (owned.shape.opened opened).1
  · intro ch found
    rw [none] at found
    cases found

variable {ch : Nat}

theorem unspent_spares (owned : Owned calls world know) (succession : Succession setting calls world know)
    {stage} (was : know (.monitor ch) = .monitor ch stage) (busy : stage ≠ .waiting)
    (unspent : ¬ (know (.monitor ch)).Spent setting) (dead : world.publisher.ch ≠ some ch) : Spares world after := by
  refine spares_none owned ?_
  cases found : world.publisher.ch with
  | none => rfl
  | some current =>
    have same := owned.shape.current current found
    rw [latest owned succession was busy unspent, ← same] at dead
    exact absurd found dead

theorem monitor_spares (owned : Owned calls world know) (succession : Succession setting calls world know) {op}
    {result} (may : pubMay setting (know (.monitor ch)) op)
    (done : PubExec setting (.monitor ch) op world result after) (dead : world.publisher.ch ≠ some ch) : Spares world after := by
  have root : (know (.monitor ch)).root = .monitor ch .waiting := owned.roots (.monitor ch)
  have steps : op.steady = true → (∀ other, op ≠ .closeChannel other) → Spares world after := by
    intro quiet other
    have steady := exec_steady quiet done
    refine ⟨fun opened => steady.closed.trans opened, ?_⟩
    intro current found
    exact ⟨steady.ch.trans found, fun alive => (exec_alive quiet other done current).trans alive⟩
  cases op with
  | invalidate =>
    obtain ⟨publishing, was⟩ := may
    rw [was] at root
    cases root
  | setHealth =>
    cases done
    exact ⟨id, fun _ found => ⟨found, id⟩⟩
  | shut =>
    rw [may] at root
    cases root
  | markClosed | prepare =>
    obtain ⟨own, was⟩ := may
    cases monitor_actor owned was
    exact unspent_spares owned succession was (by rintro ⟨⟩) (by rw [was]; exact id) dead
  | install =>
    rcases may with was | ⟨own, was⟩
    · rw [was] at root
      cases root
    · cases monitor_actor owned was
      exact unspent_spares owned succession was (by rintro ⟨⟩) (by rw [was]; exact id) dead
  | closeChannel =>
    rcases may with ⟨_, was⟩ | was | ⟨_, was⟩
    · rw [was] at root
      cases root
    · rw [was] at root
      cases root
    · have fits := owned.fits (.monitor ch)
      rw [was] at fits
      exact spares_none owned fits
  | _ => exact steps rfl (by rintro _ ⟨⟩)

theorem stage_gone (gone : ∀ i, calls i ≠ .reconnect true) (i : I) (stage : ReconnectStage)
    (found : Actor.stage calls (.call i) = .reconnect stage) : stage = .left := by
  have other := gone i
  simp only [Actor.stage] at found
  revert other found
  cases calls i with
  | reconnect given =>
    cases given with
    | true => exact fun _ other => absurd rfl other
    | false =>
      intro found _
      cases found
      rfl
  | publish | close => rintro ⟨⟩

variable (ordered : (∀ i, calls i ≠ .reconnect true) ∨ (setting.recovery = none ∧ ∀ i, (calls i).publishing = none))

include ordered

theorem succession_launched : Succession setting calls (constructed I) (Actor.stage calls) := by
  refine ⟨fun ch later => absurd later (Nat.not_lt.mpr (Nat.le_add_left 1 ch)), fun _ _ => rfl, fun _ _ => trivial, ?_⟩
  rcases ordered with gone | ⟨alone, silent⟩
  · exact .inl (stage_gone gone)
  · exact .inr ⟨alone, silent, (by rintro ⟨⟩)⟩

theorem ordered_spares [DecidableEq I] : DeadSpareSuccessors setting calls := by
  intro _ _ run _ _ _ _ step dead
  obtain ⟨_, tracks, owned, succession⟩ := keeps_run succession_keeps (tracks_launched calls) ⟨owned_launched calls, succession_launched ordered⟩ run
  obtain ⟨_, stands, -, -, done⟩ := act_thread step
  exact monitor_spares owned succession (tracks_may tracks stands) done dead

end

section

variable {I : Type} [DecidableEq I] {setting : Setting} {calls : I → Call}

theorem recovery_breaks {recovery} (helped : setting.recovery = some recovery) {i}
    (call : calls i = .reconnect true) : ¬ DeadSpareSuccessors setting calls := by
  have reaches : Run.Leads (Step (pubSemantics setting)) (launched setting calls) fun pool =>
      (∃ onward, pool.threads (.monitor 0) = .call .prepare onward) ∧ pool.world.publisher.ch = some 1 ∧
        pool.world.publisher.closed = false ∧ pool.world.publisher.shutdown = false := by
    refine leads_broker (.die 0 zero_lt_one) ?_
    refine leads_solo (.monitor 0) _ rfl (walk_exec (.awaitClose 0) true _ ⟨rfl, zero_lt_one, rfl⟩
      (walk_exec .markClosed 0 _ ⟨rfl, rfl⟩ (.stay _ _))) ?_
    refine leads_solo (.call i) (Call.reconnect true).program (by simp [launched, call]) (walk_exec .lock () _ ⟨rfl, rfl⟩
      (walk_exec .install none _ (.inl ⟨rfl, rfl⟩) (walk_exec .unlock () _ rfl (.stay _ _)))) ?_
    refine leads_solo (.monitor 0) (.call (.signal 0) fun _ => attemptAutoRecovery recovery) (by simp [helped])
      (walk_exec (.signal 0) () _ rfl (walk_exec (.setHealth .reconnecting) () _ rfl (walk_exec .lock () _ ⟨rfl, rfl⟩ (.stay _ _)))) ?_
    exact Run.leads_here _ _ ⟨⟨_, rfl⟩, rfl, rfl, rfl⟩
  intro spares
  obtain ⟨labels, pool, run, ⟨onward, stands⟩, current, opened, running⟩ := reaches
  have done : PubExec setting (.monitor 0) .prepare pool.world (some (pool.world.publisher.ch, pool.world.publisher.confirms))
      pool.world.prepare := by
    simp [PubExec, running]
  have kept := spares labels pool run 0 .prepare _ _ (.act pool _ _ onward _ _ stands done) (by simp [current])
  cases kept.1 opened

theorem timeout_breaks (i j : I) (call : calls i = .reconnect true) (exchange routingKey : String) (mandatory immediate : Bool) (body : List UInt8)
    (other : calls j = .publish exchange routingKey mandatory immediate body) : ¬ DeadSpareSuccessors setting calls := by
  have apart : Actor.call i ≠ Actor.call j := by
    intro same
    cases same
    rw [call] at other
    cases other
  have reaches : Run.Leads (Step (pubSemantics setting)) (launched setting calls) fun pool =>
      (∃ onward, pool.threads (.monitor 0) = .call .markClosed onward) ∧ pool.world.publisher.ch = some 1 ∧ pool.world.publisher.closed = false := by
    refine leads_solo (.call j) (publish exchange routingKey mandatory immediate body) (by simp [launched, other, Call.program])
      (walk_exec .lock () _ ⟨rfl, rfl⟩ (walk_exec .load (constructed I).publisher _ ⟨rfl, rfl⟩
        (walk_exec (.drainReturns 0) () _ rfl (walk_exec (.publishWithContext 0 _) none _ (.inl ⟨rfl, rfl⟩)
          (walk_exec (.select 0 0) .timedOut _ rfl (walk_exec .invalidate () _ rfl
            (walk_exec (.setHealth .degraded) () _ rfl (walk_exec .signalCurrent () _ rfl
              (walk_exec (.closeChannel 0) none _ (.inl ⟨rfl, rfl⟩) (walk_exec .unlock () _ rfl (.stay _ _))))))))))) ?_
    refine leads_solo (.call i) (Call.reconnect true).program (by simp [launched, call, apart])
      (walk_exec .lock () _ ⟨rfl, rfl⟩ (walk_exec .install none _ (.inl ⟨rfl, rfl⟩) (walk_exec .unlock () _ rfl (.stay _ _)))) ?_
    refine leads_solo (.monitor 0) (closeMonitor setting.recovery 0) (by simp [launched])
      (walk_exec (.awaitClose 0) true _ ⟨rfl, Nat.zero_lt_two, rfl⟩ (.stay _ _)) ?_
    exact Run.leads_here _ _ ⟨⟨_, rfl⟩, rfl, rfl⟩
  intro spares
  obtain ⟨labels, pool, run, ⟨onward, stands⟩, current, opened⟩ := reaches
  have kept := spares labels pool run 0 .markClosed _ _ (.act pool _ _ onward _ _ stands ⟨rfl, rfl⟩) (by simp [current])
  cases kept.1 opened

end

theorem dead_spare_successors_iff {I : Type} [DecidableEq I] (setting : Setting) (calls : I → Call) :
    DeadSpareSuccessors setting calls ↔
      (∀ i, calls i ≠ .reconnect true) ∨ (setting.recovery = none ∧ ∀ i, (calls i).publishing = none) := by
  refine ⟨?_, (ordered_spares ·)⟩
  intro spares
  by_contra! disordered
  obtain ⟨⟨i, call⟩, others⟩ := disordered
  cases found : setting.recovery with
  | some => exact recovery_breaks found call spares
  | none =>
    obtain ⟨j, publishes⟩ := others found
    cases other : calls j with
    | publish exchange routingKey mandatory immediate body =>
      exact timeout_breaks i j call exchange routingKey mandatory immediate body other spares
    | close | reconnect => simp [other, Call.publishing] at publishes

def strandedCalls (reconnects : Bool) : Call :=
  if reconnects then .reconnect true else .publish "orders" "created" false false [1]

theorem stale_close_event_harms : ¬ DeadSpareSuccessors ⟨none, false⟩ strandedCalls :=
  timeout_breaks true false rfl "orders" "created" false false [1] rfl

end LibCommons.Rabbitmq
