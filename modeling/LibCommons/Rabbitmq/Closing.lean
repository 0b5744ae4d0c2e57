import LibCommons.Rabbitmq.Successor

namespace LibCommons.Rabbitmq

open Process
open Function (forall_update_iff update update_of_ne update_self)

def Shows : (op : PubOp) → PubRes op → Prop
  | .load, pub => pub.closed = true
  | .install, err => err = some .reconnectAfterClose
  | _, _ => True

def Refused : Reply → Prop
  | .published err => ∃ closed, err = some closed ∧ closed.isPublisherClosed = true
  | .reconnected err => err = some .reconnectAfterClose
  | _ => True

-- A program that is refused if the publisher was closed before it looks at it.
def refusedOutline : Outline PubOp PubRes Unit Reply where
  may _ _ := True
  learn _ _ _ := ()
  finish _ := Refused
  sees := Shows

theorem refused_publish (exchange routingKey : String) (mandatory immediate : Bool) (body : List UInt8) :
    Follows refusedOutline () (publish exchange routingKey mandatory immediate body) := by
  refine ⟨trivial, ?_⟩
  intro _ _
  refine ⟨trivial, ?_⟩
  intro pub closed
  have shut : pub.closed = true := closed
  simp only [shut, if_true]
  refine ⟨trivial, ?_⟩
  intro _ _
  refine ⟨_, rfl, ?_⟩
  cases pub.recoveryExhausted <;> rfl

theorem refused_reconnect : Follows refusedOutline () (Call.reconnect true).program := by
  refine ⟨trivial, ?_⟩
  intro _ _
  refine ⟨trivial, ?_⟩
  intro _ refused
  refine ⟨trivial, ?_⟩
  intro _ _
  exact refused

section

variable {I : Type} {setting : Setting} {calls : I → Call} {world after : World I} {actor : Actor I}
  {know : Actor I → Stage}

structure Shut (world : World I) : Prop where
  shutdown : world.publisher.shutdown = true
  closed : world.publisher.closed = true

theorem exec_shut {op} {result} (shut : Shut world) (done : PubExec setting actor op world result after) :
    Shut after ∧ after.installed = world.installed ∧ Shows op result := by
  have unmoved : op.steady = true → Shut after ∧ after.installed = world.installed := by
    intro quiet
    have steady := exec_steady quiet done
    exact ⟨⟨steady.shutdown.trans shut.shutdown, steady.closed.trans shut.closed⟩, steady.installed⟩
  cases op with
  | load =>
    obtain ⟨same, installed⟩ := unmoved rfl
    refine ⟨same, installed, ?_⟩
    obtain ⟨rfl, -⟩ := done
    exact shut.closed
  | invalidate =>
    cases done
    exact ⟨⟨shut.shutdown, rfl⟩, rfl, trivial⟩
  | setHealth =>
    cases done
    exact ⟨⟨shut.shutdown, shut.closed⟩, rfl, trivial⟩
  | shut | prepare =>
    simp only [PubExec, shut.shutdown, if_true] at done
    obtain ⟨-, rfl⟩ := done
    exact ⟨shut, rfl, trivial⟩
  | markClosed =>
    obtain ⟨-, rfl⟩ := done
    exact ⟨⟨shut.shutdown, rfl⟩, rfl, trivial⟩
  | install =>
    have refusal : world.publisher.reconnectRefusal = some .reconnectAfterClose := by
      simp [Publisher.reconnectRefusal, shut.closed, shut.shutdown]
    simp only [PubExec, refusal] at done
    obtain ⟨rfl, rfl⟩ := done
    exact ⟨shut, rfl, rfl⟩
  | _ =>
    obtain ⟨same, installed⟩ := unmoved rfl
    exact ⟨same, installed, trivial⟩

theorem broker_shut (shut : Shut world) (moved : Broker world after) : Shut after ∧ after.installed = world.installed := by
  cases moved <;> exact ⟨⟨shut.shutdown, shut.closed⟩, rfl⟩

variable [DecidableEq I] {pool : PubPool I}

theorem shut_step {next} {event} (shut : Shut pool.world) (step : Step (pubSemantics setting) pool event next) :
    Shut next.world ∧ next.world.installed = pool.world.installed ∧
      ∀ other, Follows refusedOutline () (pool.threads other) → Follows refusedOutline () (next.threads other) := by
  have same : Shut next.world ∧ next.world.installed = pool.world.installed := by
    cases step with
    | act _ _ _ _ _ _ done =>
      obtain ⟨later, installed, -⟩ := exec_shut shut done
      exact ⟨later, installed⟩
    | wait _ _ _ _ _ moved => exact moved.elim
    | drift _ moved => exact broker_shut shut moved
  refine ⟨same.1, same.2, ?_⟩
  intro other follows
  obtain kept | ⟨_, _, result, -, stands, moved, done⟩ := thread_step step other
  · rwa [kept]
  · rw [stands] at follows
    rw [moved]
    exact follows.2 result (exec_shut shut done).2.2

theorem shut_run {last} {labels} (shut : Shut pool.world) (run : Run (Step (pubSemantics setting)) pool labels last) :
    Shut last.world ∧ last.world.installed = pool.world.installed ∧
      ∀ other, Follows refusedOutline () (pool.threads other) → Follows refusedOutline () (last.threads other) := by
  induction run with
  | nil => exact ⟨shut, rfl, fun _ => id⟩
  | cons _ _ _ _ _ first _ ih =>
    obtain ⟨now, installed, keeps⟩ := shut_step shut first
    obtain ⟨final, still, carry⟩ := ih now
    exact ⟨final, still.trans installed, fun other follows => carry other (keeps other follows)⟩

end

def Stage.Closes : Stage → Prop
  | .close .shut | .close .leaving | .close .left => True
  | _ => False

def Stage.Closed : Stage → Prop
  | .close .leaving | .close .left => True
  | _ => False

def Stage.Muted : Stage → Prop
  | .publish _ .invalidated | .close .shut | .monitor _ (.marked _) => True
  | _ => False

section

variable {setting : Setting} {stage : Stage} {own : CloseStage} {op : PubOp}

theorem close_may (may : pubMay setting (.close own) op) :
    (op = .lock ∧ own = .called) ∨ (op = .unlock ∧ own = .leaving) ∨ (op = .shut ∧ own = .locked) ∨
      (own = .shut ∧ ((∃ ch, op = .closeChannel ch) ∨ (∃ confirms, op = .drainConfirms confirms) ∨ op = .setHealth .disconnected)) := by
  cases op with
  | lock => cases own <;> first | exact .inl ⟨rfl, rfl⟩ | cases may
  | unlock => cases own <;> first | exact .inr (.inl ⟨rfl, rfl⟩) | cases may
  | shut =>
    cases may
    exact .inr (.inr (.inl ⟨rfl, rfl⟩))
  | closeChannel ch =>
    rcases may with ⟨publishing, same⟩ | same | ⟨own, same⟩ <;> cases same
    exact .inr (.inr (.inr ⟨rfl, .inl ⟨ch, rfl⟩⟩))
  | drainConfirms confirms =>
    rcases may with same | ⟨own, same⟩ <;> cases same
    exact .inr (.inr (.inr ⟨rfl, .inr (.inl ⟨confirms, rfl⟩)⟩))
  | setHealth =>
    obtain ⟨next, emits⟩ := may
    cases emits
    exact .inr (.inr (.inr ⟨rfl, .inr (.inr rfl)⟩))
  | _ => simp [pubMay] at may

theorem closes_learn (result : PubRes op) (closes : stage.Closes) (may : pubMay setting stage op) : (pubLearn stage op result).Closes := by
  cases stage with
  | close =>
    rcases close_may may with ⟨rfl, rfl⟩ | ⟨rfl, rfl⟩ | ⟨rfl, rfl⟩ | ⟨rfl, ⟨_, rfl⟩ | ⟨_, rfl⟩ | rfl⟩
    · exact closes.elim
    · trivial
    · exact closes.elim
    · simp only [pubLearn]
      split <;> trivial
    · trivial
    · trivial
  | _ => exact closes.elim

variable {result : PubRes op} {later : CloseStage}

theorem close_before (may : pubMay setting stage op) (found : pubLearn stage op result = .close later) : ∃ own, stage = .close own := by
  have root := learn_root result may
  rw [found] at root
  cases stage with
  | close own => exact ⟨own, rfl⟩
  | _ => cases root

theorem closes_close (closes : stage.Closes) : ∃ own, stage = .close own := by
  cases stage with
  | close own => exact ⟨own, rfl⟩
  | _ => exact closes.elim

theorem steady_close (quiet : op.steady = true) (may : pubMay setting (.close own) op) (found : pubLearn (.close own) op result = .close later) :
    (own = .called ∧ later = .locked) ∨ (own = .leaving ∧ later = .left) ∨
      (own = .shut ∧ (later = .shut ∨ later = .leaving ∧ ∃ ch, op = .closeChannel ch)) := by
  rcases close_may may with ⟨rfl, rfl⟩ | ⟨rfl, rfl⟩ | ⟨rfl, rfl⟩ | ⟨rfl, ⟨ch, rfl⟩ | ⟨_, rfl⟩ | rfl⟩
  · cases found
    exact .inl ⟨rfl, rfl⟩
  · cases found
    exact .inr (.inl ⟨rfl, rfl⟩)
  · cases quiet
  · refine .inr (.inr ⟨rfl, ?_⟩)
    cases result with
    | none =>
      cases found
      exact .inl rfl
    | some =>
      cases found
      exact .inr ⟨rfl, ch, rfl⟩
  · cases found
    exact .inr (.inr ⟨rfl, .inl rfl⟩)
  · cases quiet

theorem steady_closes (quiet : op.steady = true) (may : pubMay setting stage op) (closes : (pubLearn stage op result).Closes) : stage.Closes := by
  obtain ⟨_, found⟩ := closes_close closes
  obtain ⟨_, rfl⟩ := close_before may found
  rw [found] at closes
  rcases steady_close quiet may found with ⟨rfl, rfl⟩ | ⟨rfl, rfl⟩ | ⟨rfl, -⟩
  · exact closes.elim
  · trivial
  · trivial

theorem steady_closed (quiet : op.steady = true) (may : pubMay setting stage op)
    (going : pubLearn stage op result ≠ .close .leaving) (closed : (pubLearn stage op result).Closed) : stage.Closed := by
  have closes : (pubLearn stage op result).Closes := by
    unfold Stage.Closed at closed
    split at closed
    · rename_i same
      rw [same]
      trivial
    · rename_i same
      rw [same]
      trivial
    · exact closed.elim
  obtain ⟨_, found⟩ := closes_close closes
  obtain ⟨_, rfl⟩ := close_before may found
  rw [found] at closed going
  rcases steady_close quiet may found with ⟨rfl, rfl⟩ | ⟨rfl, rfl⟩ | ⟨rfl, rfl | ⟨rfl, -⟩⟩
  · exact closed.elim
  · trivial
  · exact closed.elim
  · exact absurd rfl going

theorem muted_learn (muted : stage.Muted) (may : pubMay setting stage op) (silent : ∀ state, op ≠ .setHealth state)
    (going : pubLearn stage op result ≠ .close .leaving) : (pubLearn stage op result).Muted := by
  cases op with
  | lock =>
    simp only [pubMay, Stage.entering] at may
    split at may <;> first | exact muted.elim | cases may
  | unlock =>
    simp only [pubMay, Stage.leaving] at may
    split at may <;> first | exact muted.elim | cases may
  | setHealth state => exact absurd rfl (silent state)
  | signal | drainConfirms => exact muted
  | closeChannel =>
    rcases may with ⟨publishing, rfl⟩ | rfl | ⟨_, rfl⟩
    · exact muted.elim
    · cases result with
      | none => trivial
      | some => exact absurd rfl going
    · exact muted.elim
  | drainReturns | select | takeReturn =>
    obtain ⟨_, pub, rfl, -⟩ := may
    exact muted.elim
  | publishWithContext =>
    obtain ⟨_, rfl, -⟩ := may
    exact muted.elim
  | install =>
    rcases may with rfl | ⟨_, rfl⟩ <;> exact muted.elim
  | shut | awaitClose =>
    cases may
    exact muted.elim
  | _ =>
    obtain ⟨_, rfl⟩ := may
    exact muted.elim

end

-- Nobody reconnects and Close does not fail: health is written by those who have just closed it.
structure Lone {I : Type} (setting : Setting) (calls : I → Call) : Prop where
  alone : setting.recovery = none
  gone : ∀ i, calls i ≠ .reconnect true
  sound : (∀ i, calls i ≠ .close) ∨ setting.closeMayFail = false

structure Voiced {I : Type} (world : World I) (know : Actor I → Stage) : Prop where
  single : world.installed = 1
  opened : world.publisher.closed = false → world.publisher.health = .connected
  failing : world.publisher.closed = true → world.publisher.health = .connected → ∃ actor, (know actor).Muted
  shutter : world.publisher.shutdown = true → ∃ actor, (know actor).Closes
  closes : ∀ actor, (know actor).Closes → world.publisher.shutdown = true
  final : ∀ actor, (know actor).Closed → world.publisher.health ≠ .connected
  refused : ∀ i stage, know (.call i) = .reconnect stage → stage = .left
  plain : ∀ ch, (know (.monitor ch)).Plain

section

variable {I : Type} [DecidableEq I] {setting : Setting} {calls : I → Call} {world after : World I}
  {know : Actor I → Stage} {actor : Actor I}

theorem exists_kept {holds : Stage → Prop} {mine : Stage} (some : ∃ other, holds (know other))
    (kept : holds (know actor) → holds mine) : ∃ other, holds (update know actor mine other) := by
  obtain ⟨other, here⟩ := some
  refine ⟨other, ?_⟩
  by_cases same : other = actor
  · subst same
    rw [update_self]
    exact kept here
  · rwa [update_of_ne same]

variable {op : PubOp} {result : PubRes op}

theorem voiced_next (lone : Lone setting calls) (voiced : Voiced world know) (may : pubMay setting (know actor) op)
    (installed : after.installed = world.installed)
    (opened : after.publisher.closed = false → after.publisher.health = .connected)
    (failing : after.publisher.closed = true → after.publisher.health = .connected →
      ∃ other, (update know actor (pubLearn (know actor) op result) other).Muted)
    (shutter : after.publisher.shutdown = true → world.publisher.shutdown = true ∨ (pubLearn (know actor) op result).Closes)
    (closes : world.publisher.shutdown = true ∨ (pubLearn (know actor) op result).Closes → after.publisher.shutdown = true)
    (final : (∃ other, (know other).Closed) ∨ (pubLearn (know actor) op result).Closed →
      after.publisher.health ≠ .connected) : Voiced after (update know actor (pubLearn (know actor) op result)) := by
  constructor
  · exact installed.trans voiced.single
  · exact opened
  · exact failing
  · intro shut
    rcases shutter shut with before | now
    · exact exists_kept (voiced.shutter before) fun here => closes_learn result here may
    · exact ⟨actor, by rwa [update_self]⟩
  · refine (forall_update_iff know fun _ stage => stage.Closes → after.publisher.shutdown = true).mpr ⟨?_, ?_⟩
    · exact fun now => closes (.inr now)
    · exact fun other _ before => closes (.inl (voiced.closes other before))
  · refine (forall_update_iff know fun _ stage => stage.Closed → after.publisher.health ≠ .connected).mpr ⟨?_, ?_⟩
    · exact fun now => final (.inr now)
    · exact fun other _ before => final (.inl ⟨other, before⟩)
  · exact gone_kept op result may voiced.refused
  · intro ch
    by_cases same : .monitor ch = actor
    · subst same
      rw [update_self]
      exact plain_learn lone.alone result (voiced.plain ch) may
    · rw [update_of_ne same]
      exact voiced.plain ch

variable {ch : Nat}

omit [DecidableEq I] in
theorem leaving_written (lone : Lone setting calls) (owned : Owned calls world know) {result}
    (may : pubMay setting (know actor) (.closeChannel ch)) (done : PubExec setting actor (.closeChannel ch) world result after) :
    pubLearn (know actor) (.closeChannel ch) result ≠ .close .leaving := by
  intro leaving
  rcases may with ⟨_, was⟩ | was | ⟨_, was⟩
  · rw [was] at leaving
    cases leaving
  · rcases done with ⟨rfl, -⟩ | ⟨-, fails, -⟩
    · rw [was] at leaving
      cases leaving
    rcases lone.sound with never | safe
    · obtain ⟨i, -, call⟩ := close_actor owned was
      exact never i call
    · exact absurd (fails.symm.trans safe) (by rintro ⟨⟩)
  · rw [was] at leaving
    cases leaving

theorem voiced_steady (lone : Lone setting calls) (voiced : Voiced world know) (may : pubMay setting (know actor) op)
    (quiet : op.steady = true) (steady : Steady world after) (going : pubLearn (know actor) op result ≠ .close .leaving) :
    Voiced after (update know actor (pubLearn (know actor) op result)) := by
  refine voiced_next lone voiced may steady.installed ?_ ?_ ?_ ?_ ?_
  · rw [steady.closed, steady.health]
    exact voiced.opened
  · rw [steady.closed, steady.health]
    intro closed well
    refine exists_kept (voiced.failing closed well) fun muted => muted_learn muted may ?_ going
    rintro _ rfl
    cases quiet
  · rw [steady.shutdown]
    exact .inl
  · rw [steady.shutdown]
    exact fun before => before.elim id fun now => voiced.closes actor (steady_closes quiet may now)
  · rw [steady.health]
    rintro (⟨other, before⟩ | now)
    · exact voiced.final other before
    · exact voiced.final actor (steady_closed quiet may going now)

omit [DecidableEq I] in
theorem plain_actor (owned : Owned calls world know) (voiced : Voiced world know) {stage}
    (was : know actor = .monitor ch stage) : (Stage.monitor ch stage).Plain := by
  obtain rfl := monitor_actor owned was
  exact was ▸ voiced.plain ch

omit [DecidableEq I] in
theorem emits_closed (lone : Lone setting calls) (owned : Owned calls world know) (voiced : Voiced world know)
    {state} {next} (emits : Emits setting (know actor) state next) :
    world.publisher.closed = true ∧ state ≠ .connected := by
  have fits := owned.fits actor
  generalize was : know actor = stage at emits fits
  cases emits with
  | invalidated => exact ⟨fits, (by rintro ⟨⟩)⟩
  | shut =>
    refine ⟨?_, (by rintro ⟨⟩)⟩
    have shut := voiced.closes actor (by rw [was]; trivial)
    by_contra opened
    exact absurd (shut.symm.trans (owned.shape.opened (by simpa using opened)).2) (by rintro ⟨⟩)
  | dead =>
    refine ⟨fits.2 ?_, (by rintro ⟨⟩)⟩
    have number := owned.shape.number
    have single := voiced.single
    have known := fits.1
    omega
  | recovers _ _ helped => exact absurd lone.alone helped
  | aborting | retrying | restored => exact (plain_actor owned voiced was).elim

omit [DecidableEq I] in
theorem shut_again (owned : Owned calls world know) (voiced : Voiced world know) (was : know actor = .close .locked)
    (before : world.publisher.shutdown = true) : world.publisher.health ≠ .connected := by
  obtain ⟨other, closes⟩ := voiced.shutter before
  refine voiced.final other ?_
  obtain ⟨own, found⟩ := closes_close closes
  rw [found] at closes ⊢
  cases own with
  | shut =>
    have apart : other ≠ actor := by
      rintro rfl
      rw [was] at found
      cases found
    have free := holder_alone owned apart (by rw [found]; rfl)
    rw [was] at free
    cases free
  | leaving | left => trivial
  | called | locked => exact closes.elim

theorem voiced_act (lone : Lone setting calls) (owned : Owned calls world know) (voiced : Voiced world know)
    (may : pubMay setting (know actor) op) (done : PubExec setting actor op world result after) :
    Voiced after (update know actor (pubLearn (know actor) op result)) := by
  cases op with
  | invalidate =>
    cases done
    have stage := may
    obtain ⟨publishing, was⟩ := stage
    refine voiced_next lone voiced may rfl (by rintro ⟨⟩) ?_ .inl ?_ ?_
    · exact fun _ _ => ⟨actor, by rw [update_self, was]; trivial⟩
    · exact fun before => before.elim id fun now => by rw [was] at now; exact now.elim
    · rintro (⟨other, before⟩ | now)
      · exact voiced.final other before
      · rw [was] at now
        exact now.elim
  | setHealth =>
    cases done
    have stage := may
    obtain ⟨next, emits⟩ := stage
    obtain ⟨closed, ill⟩ := emits_closed lone owned voiced emits
    refine voiced_next lone voiced may rfl ?_ ?_ .inl ?_ fun _ => ill
    · exact fun opened => absurd (closed.symm.trans opened) (by rintro ⟨⟩)
    · exact fun _ well => absurd well ill
    · rintro (before | now)
      · exact before
      obtain ⟨later, found⟩ := closes_close now
      obtain ⟨own, was⟩ := close_before may found
      rw [was] at emits
      cases emits
      exact voiced.closes actor (by rw [was]; trivial)
  | shut =>
    simp only [PubExec] at done
    split at done
    · rename_i before
      obtain ⟨rfl, rfl⟩ := done
      have ill := shut_again owned voiced may before
      refine voiced_next lone voiced may rfl voiced.opened ?_ (fun _ => .inl before) (fun _ => before) fun _ => ill
      exact fun _ well => absurd well ill
    · obtain ⟨rfl, rfl⟩ := done
      refine voiced_next lone voiced may rfl (by rintro ⟨⟩) ?_ (fun _ => .inr trivial) (fun _ => rfl) ?_
      · exact fun _ _ => ⟨actor, by rw [update_self]; trivial⟩
      · rintro (⟨other, before⟩ | now)
        · exact voiced.final other before
        · exact now.elim
  | markClosed =>
    obtain ⟨rfl, rfl⟩ := done
    have stage := may
    obtain ⟨ch, was⟩ := stage
    refine voiced_next lone voiced may rfl (by rintro ⟨⟩) ?_ .inl ?_ ?_
    · exact fun _ _ => ⟨actor, by rw [update_self, was]; trivial⟩
    · exact fun before => before.elim id fun now => by rw [was] at now; exact now.elim
    · rintro (⟨other, before⟩ | now)
      · exact voiced.final other before
      · rw [was] at now
        exact now.elim
  | prepare =>
    obtain ⟨ch, was⟩ := may
    exact (plain_actor owned voiced was).elim
  | install =>
    rcases may with was | ⟨ch, was⟩
    · obtain ⟨i, rfl⟩ := reconnect_actor owned was
      cases voiced.refused i _ was
    · exact (plain_actor owned voiced was).elim
  | closeChannel =>
    exact voiced_steady lone voiced may rfl (exec_steady rfl done) (leaving_written lone owned may done)
  | _ =>
    refine voiced_steady lone voiced may rfl (exec_steady rfl done) ?_
    intro leaving
    obtain ⟨own, was⟩ := close_before may leaving
    rw [was] at may leaving
    rcases steady_close rfl may leaving with ⟨-, wrong⟩ | ⟨-, wrong⟩ | ⟨-, wrong | ⟨-, ch, wrong⟩⟩ <;> cases wrong

omit [DecidableEq I] in
theorem voiced_broker (voiced : Voiced world know) (moved : Broker world after) : Voiced after know := by
  cases moved <;> exact { voiced with }

theorem voiced_keeps (lone : Lone setting calls) : Keeps (pubOutline setting) (pubSemantics setting)
    fun world know => Owned calls world know ∧ Voiced world know where
  sees _ _ _ _ _ _ := trivial
  act _ _ _ _ _ _ both may done := ⟨owned_act both.1 may done, voiced_act lone both.1 both.2 may done⟩
  wait _ _ _ _ _ _ _ moved := moved.elim
  drift _ _ _ both moved := ⟨owned_broker both.1 moved, voiced_broker both.2 moved⟩

omit [DecidableEq I] in
theorem voiced_launched (lone : Lone setting calls) : Voiced (constructed I) (Actor.stage calls) := by
  refine ⟨rfl, fun _ => rfl, (by rintro ⟨⟩), (by rintro ⟨⟩), ?_, ?_, ?_, fun _ => trivial⟩
  · intro actor closes
    obtain ⟨publishing, was⟩ | was | was | was | ⟨ch, was⟩ := stage_cases calls actor <;> rw [was] at closes <;> exact closes.elim
  · intro actor closed
    obtain ⟨_, was⟩ | was | was | was | ⟨_, was⟩ := stage_cases calls actor <;> rw [was] at closed <;> exact closed.elim
  · exact stage_gone lone.gone

end

-- No call is between its start and its end, and no monitor has a close event to handle.
structure Idle {I : Type} (setting : Setting) (calls : I → Call) (pool : PubPool I) : Prop where
  calls : ∀ i, pool.threads (.call i) = (calls i).program ∨ ∃ reply, pool.threads (.call i) = .ret reply
  monitors : ∀ ch, (pool.threads (.monitor ch) = closeMonitor setting.recovery ch ∧
      (ch < pool.world.installed → (pool.world.channels ch).alive = true)) ∨
    ∃ reply, pool.threads (.monitor ch) = .ret reply

section

variable {I : Type} [DecidableEq I]

-- What later calls will return once a Close has, and what can be seen of the publisher.
def CloseIsTerminal (setting : Setting) (calls : I → Call) : Prop :=
  ∀ earlier middle, Run (Step (pubSemantics setting)) (launched setting calls) earlier middle →
    ∀ i err, middle.threads (.call i) = .ret (.closed err) → ∀ later last, Run (Step (pubSemantics setting)) middle later last →
        (∀ j result, (calls j).publishing ≠ none → middle.threads (.call j) = (calls j).program →
          last.threads (.call j) = .ret (.published result) →
          ∃ closed, result = some closed ∧ closed.isPublisherClosed = true) ∧
        (∀ j result, calls j = .reconnect true → middle.threads (.call j) = (calls j).program →
          last.threads (.call j) = .ret (.reconnected result) → result = some .reconnectAfterClose) ∧
        last.world.installed = middle.world.installed ∧ last.world.publisher.health ≠ .connected

def HealthAgrees (setting : Setting) (calls : I → Call) : Prop :=
  ∀ labels last, Run (Step (pubSemantics setting)) (launched setting calls) labels last → Idle setting calls last →
    (last.world.publisher.health = .connected ↔ last.world.publisher.accepts = true)

variable {setting : Setting} {calls : I → Call} {pool : PubPool I}

omit [DecidableEq I] in
theorem idle_unmuted {know} (idle : Idle setting calls pool) (tracks : Tracks (pubOutline setting) know pool)
    (actor : Actor I) : ¬ (know actor).Muted := by
  intro muted
  have follows := tracks actor
  have ended : ∀ reply, pool.threads actor ≠ .ret reply := by
    intro reply same
    rw [same] at follows
    generalize know actor = stage at follows muted
    cases stage with
    | publish =>
      obtain ⟨err, _, -, rfl, -⟩ := follows
      exact muted
    | close | monitor =>
      obtain ⟨-, rfl⟩ := follows
      exact muted
    | reconnect => exact muted
  have unlocked : (know actor).entering ≠ true := by
    intro entering
    generalize know actor = stage at entering muted
    unfold Stage.entering at entering
    split at entering <;> first | exact muted | cases entering
  cases actor with
  | call i =>
    rcases idle.calls i with fresh | ⟨reply, same⟩
    · rw [fresh] at follows
      cases kind : calls i with
      | publish | close =>
        rw [kind] at follows
        exact unlocked follows.1
      | reconnect given =>
        rw [kind] at follows fresh
        cases given with
        | true => exact unlocked follows.1
        | false => exact ended _ fresh
    · exact ended reply same
  | monitor ch =>
    rcases idle.monitors ch with ⟨fresh, -⟩ | ⟨reply, same⟩
    · rw [fresh] at follows
      rw [follows.1] at muted
      exact muted
    · exact ended reply same

variable {err : Option String}

theorem closed_stage {stage} (follows : Follows (pubOutline setting) stage (.ret (.closed err))) : stage = .close .left := by
  cases stage with
  | publish =>
    obtain ⟨err, _, same, -⟩ := follows
    cases same
  | close =>
    obtain ⟨-, rfl⟩ := follows
    rfl
  | reconnect =>
    obtain ⟨⟨_, same⟩, -⟩ := follows
    cases same
  | monitor =>
    obtain ⟨same, -⟩ := follows
    cases same

variable {world : World I}

omit [DecidableEq I] in
theorem exec_shutdown {after} {actor} {op} {result} (done : PubExec setting actor op world result after) (before : world.publisher.shutdown = true) :
    after.publisher.shutdown = true := by
  cases op with
  | invalidate | setHealth =>
    cases done
    exact before
  | markClosed =>
    obtain ⟨-, rfl⟩ := done
    exact before
  | shut | prepare =>
    simp only [PubExec, before, if_true] at done
    obtain ⟨-, rfl⟩ := done
    exact before
  | install =>
    simp only [PubExec] at done
    split at done
    · obtain ⟨-, rfl⟩ := done
      exact before
    · rcases done with ⟨-, rfl⟩ | ⟨-, rfl⟩ | ⟨_, -, rfl⟩ <;> exact before
  | _ => exact (exec_steady rfl done).shutdown.trans before

theorem closes_keeps : Keeps (pubOutline setting) (pubSemantics setting)
    fun (world : World I) know => ∀ actor, (know actor).Closes → world.publisher.shutdown = true where
  sees _ _ _ _ _ _ := trivial
  act world know actor op result after shut may done := by
    change PubExec setting actor op world result after at done
    refine (forall_update_iff know fun _ stage => stage.Closes → after.publisher.shutdown = true).mpr ⟨?_, ?_⟩
    · intro closes
      obtain ⟨_, found⟩ := closes_close closes
      obtain ⟨_, was⟩ := close_before may found
      have known := shut actor
      rw [was] at may closes known
      rcases close_may may with ⟨rfl, rfl⟩ | ⟨rfl, rfl⟩ | ⟨rfl, rfl⟩ | ⟨rfl, -⟩
      · exact closes.elim
      · exact exec_shutdown done (known trivial)
      · by_cases before : world.publisher.shutdown = true
        · exact exec_shutdown done before
        · simp only [PubExec, before, if_false, Bool.false_eq_true] at done
          obtain ⟨-, rfl⟩ := done
          rfl
      · exact exec_shutdown done (known trivial)
    · exact fun other _ closes => exec_shutdown done (shut other closes)
  wait _ _ _ _ _ _ _ moved := moved.elim
  drift _ _ _ shut moved := by
    cases moved <;> exact shut

variable {i : I}

theorem close_shut {labels} (run : Run (Step (pubSemantics setting)) (launched setting calls) labels pool)
    (closed : pool.threads (.call i) = .ret (.closed err)) : Shut pool.world := by
  have start : ∀ actor, (Actor.stage calls actor).Closes → (constructed I).publisher.shutdown = true := by
    intro actor closes
    obtain ⟨publishing, was⟩ | was | was | was | ⟨_, was⟩ := stage_cases calls actor <;> rw [was] at closes <;> exact closes.elim
  obtain ⟨_, tracks, shut⟩ := keeps_run closes_keeps (tracks_launched calls) start run
  obtain ⟨_, _, owned⟩ := keeps_run owned_keeps (tracks_launched calls) (owned_launched calls) run
  have shutdown : pool.world.publisher.shutdown = true := by
    refine shut (.call i) ?_
    have follows := tracks (.call i)
    rw [closed] at follows
    rw [closed_stage follows]
    trivial
  refine ⟨shutdown, ?_⟩
  by_contra opened
  have running := (owned.shape.opened (by simpa using opened)).2
  exact absurd (shutdown.symm.trans running) (by rintro ⟨⟩)

theorem closed_refuses {middle last} {earlier later} (front : Run (Step (pubSemantics setting)) (launched setting calls) earlier middle)
    (closed : middle.threads (.call i) = .ret (.closed err)) (back : Run (Step (pubSemantics setting)) middle later last) :
    last.world.installed = middle.world.installed ∧ ∀ j reply, ((calls j).publishing ≠ none ∨ calls j = .reconnect true) →
        middle.threads (.call j) = (calls j).program → last.threads (.call j) = .ret reply → Refused reply := by
  obtain ⟨-, installed, carries⟩ := shut_run (close_shut front closed) back
  refine ⟨installed, ?_⟩
  intro j _ kind fresh ended
  have follows : Follows refusedOutline () (calls j).program := by
    rcases kind with publishes | call
    · revert publishes
      cases calls j with
      | publish exchange routingKey mandatory immediate body =>
        exact fun _ => refused_publish exchange routingKey mandatory immediate body
      | close | reconnect => exact fun none => absurd rfl none
    · rw [call]
      exact refused_reconnect
  have final := carries (.call j) (fresh ▸ follows)
  rw [ended] at final
  exact final

theorem lone_terminal (lone : Lone setting calls) : CloseIsTerminal setting calls := by
  intro _ _ front i _ closed _ _ back
  obtain ⟨installed, refuses⟩ := closed_refuses front closed back
  refine ⟨?_, ?_, installed, ?_⟩
  · exact fun j result publishes fresh ended => refuses j _ (.inl publishes) fresh ended
  · exact fun j result call fresh ended => refuses j _ (.inr call) fresh ended
  · obtain ⟨_, tracks, -, voiced⟩ :=
      keeps_run (voiced_keeps lone) (tracks_launched calls) ⟨owned_launched calls, voiced_launched lone⟩ (front.append back)
    refine voiced.final (.call i) ?_
    have follows := tracks (.call i)
    rw [(ended_stays back closed).1] at follows
    rw [closed_stage follows]
    trivial

theorem lone_agrees (lone : Lone setting calls) : HealthAgrees setting calls := by
  intro _ last run idle
  obtain ⟨_, tracks, owned, voiced⟩ := keeps_run (voiced_keeps lone) (tracks_launched calls) ⟨owned_launched calls, voiced_launched lone⟩ run
  constructor
  · intro well
    have opened : last.world.publisher.closed = false := by
      by_contra closed
      obtain ⟨actor, muted⟩ := voiced.failing (by simpa using closed) well
      exact idle_unmuted idle tracks actor muted
    have held := (owned.shape.opened opened).1
    simp [Publisher.accepts, opened, Option.isSome_iff_ne_none.mpr held]
  · intro accepts
    simp only [Publisher.accepts, Bool.and_eq_true, Bool.not_eq_true'] at accepts
    exact voiced.opened accepts.1

-- Close returns early when the channel does not close, and writes no health.
theorem failing_close_breaks (fails : setting.closeMayFail = true) (i : I) (call : calls i = .close) : ¬ CloseIsTerminal setting calls := by
  have reaches : Run.Leads (Step (pubSemantics setting)) (launched setting calls) fun pool =>
      (∃ err, pool.threads (.call i) = .ret (.closed err)) ∧ pool.world.publisher.health = .connected := by
    refine leads_solo (.call i) close (by simp [launched, call, Call.program]) (walk_exec .lock () _ ⟨rfl, rfl⟩
      (walk_exec .shut (some (some 0, 0)) _ ⟨rfl, rfl⟩ (walk_exec (.closeChannel 0) (some "closed") _
        (.inr ⟨(by rintro ⟨⟩), fails, .inl rfl⟩) (walk_exec .unlock () _ rfl (.stay _ _))))) ?_
    exact Run.leads_here _ _ ⟨⟨_, update_self ..⟩, rfl⟩
  intro terminal
  obtain ⟨labels, pool, run, ⟨err, closed⟩, well⟩ := reaches
  exact (terminal labels pool run i err closed [] pool (.nil pool)).2.2.2 well

theorem reconnect_breaks (alone : setting.recovery = none) (call : calls i = .reconnect true) : ¬ HealthAgrees setting calls := by
  have reaches : Run.Leads (Step (pubSemantics setting)) (launched setting calls) fun pool =>
      Idle setting calls pool ∧ pool.world.publisher.health = .disconnected ∧ pool.world.publisher.accepts = true := by
    refine leads_broker (.die 0 Nat.zero_lt_one) ?_
    refine leads_solo (.monitor 0) _ rfl (walk_exec (.awaitClose 0) true _ ⟨rfl, Nat.zero_lt_one, rfl⟩
      (walk_exec .markClosed 0 _ ⟨rfl, rfl⟩ (.stay _ _))) ?_
    refine leads_solo (.call i) (Call.reconnect true).program (by simp [launched, call]) (walk_exec .lock () _ ⟨rfl, rfl⟩
      (walk_exec .install none _ (.inl ⟨rfl, rfl⟩) (walk_exec .unlock () _ rfl (.stay _ _)))) ?_
    refine leads_solo (.monitor 0) (.call (.signal 0) fun _ => emitHealthState .disconnected (.ret .monitored))
      (by simp [alone]) (walk_exec (.signal 0) () _ rfl (walk_exec (.setHealth .disconnected) () _ rfl (.stay _ _))) ?_
    refine Run.leads_here _ _ ⟨⟨?_, ?_⟩, rfl, rfl⟩
    · intro j
      by_cases same : j = i
      · subst same
        exact .inr ⟨.reconnected none, by simp⟩
      · exact .inl (by simp [launched, same])
    · intro ch
      rcases ch with _ | _ | ch
      · exact .inr ⟨_, rfl⟩
      · exact .inl ⟨rfl, fun _ => rfl⟩
      · refine .inl ⟨rfl, fun known => ?_⟩
        have bound : ch + 2 < 2 := known
        omega
  intro agrees
  obtain ⟨labels, pool, run, idle, ill, accepts⟩ := reaches
  have well := (agrees labels pool run idle).mpr accepts
  exact absurd (ill.symm.trans well) (by rintro ⟨⟩)

def World.abandoned (world : World I) : World I :=
  (world.withPublisher fun pub => { pub with recoveryExhausted := true }).withPublisher fun pub => { pub with health := .disconnected }

omit [DecidableEq I] in
theorem attempts_fail (ch : Nat) {stop} (running : world.stopped stop = false) (attempts : Nat) :
    Walk (pubSemantics setting) (.monitor ch) world (recoveryAttempts stop attempts) world.abandoned (.ret .monitored) := by
  induction attempts with
  | zero => exact walk_exec .exhaust () _ rfl (walk_exec (.setHealth .disconnected) () _ rfl (.stay _ _))
  | succ _ ih =>
    exact walk_exec (.pollDone stop) false _ ⟨running.symm, rfl⟩ (walk_exec (.backoff stop) false _ ⟨(by rintro ⟨⟩), rfl⟩
      (walk_exec .provider (.error "unavailable") _ rfl ih))

theorem recovery_disagrees {recovery} (helped : setting.recovery = some recovery) : ¬ HealthAgrees setting calls := by
  obtain ⟨attempts, positive⟩ := recovery
  obtain ⟨more, rfl⟩ : ∃ more, attempts = more + 1 := ⟨attempts - 1, by omega⟩
  have reaches : Run.Leads (Step (pubSemantics setting)) (launched setting calls) fun pool =>
      Idle setting calls pool ∧ pool.world.publisher.health = .connected ∧ pool.world.publisher.accepts = false := by
    refine leads_broker (.die 0 Nat.zero_lt_one) ?_
    refine leads_solo (.monitor 0) (closeMonitor (some ⟨more + 1, positive⟩) 0) (by simp [launched, helped])
      (walk_exec (.awaitClose 0) true _ ⟨rfl, Nat.zero_lt_one, rfl⟩ (walk_exec .markClosed 0 _ ⟨rfl, rfl⟩
        (walk_exec (.signal 0) () _ rfl (walk_exec (.setHealth .reconnecting) () _ rfl
          (walk_exec .lock () _ ⟨rfl, rfl⟩ (walk_exec .prepare (some (some 0, 0)) _ ⟨rfl, rfl⟩
            (walk_exec (.closeChannel 0) none _ (.inl ⟨rfl, rfl⟩) (walk_exec (.drainConfirms 0) () _ ⟨0, rfl⟩
              (walk_exec .renewDone () _ rfl (walk_exec .unlock () _ rfl (walk_exec .readDone 1 _ ⟨rfl, rfl⟩
                (walk_exec (.pollDone 1) false _ ⟨rfl, rfl⟩ (walk_exec (.backoff 1) false _ ⟨(by rintro ⟨⟩), rfl⟩
                  (walk_exec .provider (.ok true) _ rfl (walk_exec .lock () _ ⟨rfl, rfl⟩
                    (walk_exec .install none _ (.inl ⟨rfl, rfl⟩) (walk_exec .unlock () _ rfl (.stay _ _)))))))))))))))))) ?_
    refine leads_broker (.die 1 Nat.one_lt_two) ?_
    refine leads_solo (.monitor 1) (closeMonitor (some ⟨more + 1, positive⟩) 1) (by simp [launched, helped])
      (walk_exec (.awaitClose 1) true _ ⟨rfl, Nat.one_lt_two, rfl⟩ (walk_exec .markClosed 1 _ ⟨rfl, rfl⟩
        (walk_exec (.signal 1) () _ rfl (walk_exec (.setHealth .reconnecting) () _ rfl
          (walk_exec .lock () _ ⟨rfl, rfl⟩ (walk_exec .prepare (some (some 1, 1)) _ ⟨rfl, rfl⟩
            (walk_exec (.closeChannel 1) none _ (.inl ⟨rfl, rfl⟩) (walk_exec (.drainConfirms 1) () _ ⟨0, rfl⟩
              (walk_exec .renewDone () _ rfl (walk_exec .unlock () _ rfl (walk_exec .readDone 2 _ ⟨rfl, rfl⟩
                (attempts_fail 1 rfl (more + 1))))))))))))) ?_
    refine leads_solo (.monitor 0) (emitHealthState .connected (.ret .monitored)) rfl (walk_exec (.setHealth .connected) () _ rfl (.stay _ _)) ?_
    refine Run.leads_here _ _ ⟨⟨fun j => .inl (by simp [launched]), ?_⟩, rfl, rfl⟩
    intro ch
    rcases ch with _ | _ | ch
    · exact .inr ⟨_, rfl⟩
    · exact .inr ⟨_, rfl⟩
    · refine .inl ⟨rfl, fun known => ?_⟩
      have bound : ch + 2 < 2 := known
      omega
  intro agrees
  obtain ⟨labels, pool, run, idle, well, refuses⟩ := reaches
  have accepts := (agrees labels pool run idle).mp well
  exact absurd (refuses.symm.trans accepts) (by rintro ⟨⟩)

end

theorem close_terminal_and_health_iff {I : Type} [DecidableEq I] (setting : Setting) (calls : I → Call) :
    (CloseIsTerminal setting calls ∧ HealthAgrees setting calls) ↔
      setting.recovery = none ∧ (∀ i, calls i ≠ .reconnect true) ∧
        ((∀ i, calls i ≠ .close) ∨ setting.closeMayFail = false) := by
  constructor
  · rintro ⟨terminal, agrees⟩
    have alone : setting.recovery = none := by
      cases found : setting.recovery with
      | none => rfl
      | some => exact absurd agrees (recovery_disagrees found)
    refine ⟨alone, fun i call => reconnect_breaks alone call agrees, ?_⟩
    by_contra! unsound
    obtain ⟨⟨i, call⟩, fails⟩ := unsound
    exact failing_close_breaks (by simpa using fails) i call terminal
  · rintro ⟨alone, gone, sound⟩
    exact ⟨lone_terminal ⟨alone, gone, sound⟩, lone_agrees ⟨alone, gone, sound⟩⟩

theorem failed_close_stays_connected : ¬ (CloseIsTerminal ⟨none, true⟩ (fun _ : Unit => .close) ∧
    HealthAgrees ⟨none, true⟩ (fun _ : Unit => .close)) :=
  fun both => failing_close_breaks rfl () rfl both.1

end LibCommons.Rabbitmq
