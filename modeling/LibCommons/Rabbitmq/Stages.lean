import LibCommons.Lib.Outline
import LibCommons.Rabbitmq.Channels

namespace LibCommons.Rabbitmq

open Process

-- In sent it has published, in acked it has its ack, in corrupted it has given up; ok: nil.
inductive PublishStage where
  | called
  | locked
  | loaded (pub : Publisher)
  | drained (pub : Publisher)
  | sent (pub : Publisher)
  | acked (pub : Publisher)
  | corrupted
  | invalidated
  | degraded
  | leaving (ok : Bool)
  | left (ok : Bool)

inductive CloseStage where
  | called
  | locked
  | shut
  | leaving
  | left

inductive ReconnectStage where
  | called
  | locked
  | leaving
  | left

inductive MonitorStage where
  | waiting
  | fired
  | marked (closedCh : Nat)
  | recovering
  | preparing
  | refusing
  | prepared
  | retrying
  | offering
  | declined
  | installed
  | restored
  | aborting
  | ended

inductive Stage where
  | publish (publishing : Publishing) (stage : PublishStage)
  | close (stage : CloseStage)
  | reconnect (stage : ReconnectStage)
  | monitor (ch : Nat) (stage : MonitorStage)

def Stage.holds : Stage → Bool
  | .publish _ .called | .publish _ (.left _) => false
  | .publish _ _ => true
  | .close .called | .close .left => false
  | .close _ => true
  | .reconnect .called | .reconnect .left => false
  | .reconnect _ => true
  | .monitor _ .preparing | .monitor _ .refusing | .monitor _ .prepared | .monitor _ .offering | .monitor _ .declined
  | .monitor _ .installed => true
  | .monitor _ _ => false

def Stage.entering : Stage → Bool
  | .publish _ .called | .close .called | .reconnect .called | .monitor _ .recovering | .monitor _ .retrying => true
  | _ => false

def Stage.entered : Stage → Stage
  | .publish publishing .called => .publish publishing .locked
  | .close .called => .close .locked
  | .reconnect .called => .reconnect .locked
  | .monitor ch .recovering => .monitor ch .preparing
  | .monitor ch .retrying => .monitor ch .offering
  | stage => stage

def Stage.leaving : Stage → Bool
  | .publish _ .degraded | .publish _ (.leaving _) | .close .leaving | .reconnect .leaving | .monitor _ .refusing | .monitor _ .prepared
  | .monitor _ .declined | .monitor _ .installed => true
  | _ => false

def Stage.left : Stage → Stage
  | .publish publishing .degraded => .publish publishing (.left false)
  | .publish publishing (.leaving ok) => .publish publishing (.left ok)
  | .close .leaving => .close .left
  | .reconnect .leaving => .reconnect .left
  | .monitor ch .refusing => .monitor ch .aborting
  | .monitor ch .prepared => .monitor ch .retrying
  | .monitor ch .declined => .monitor ch .retrying
  | .monitor ch .installed => .monitor ch .restored
  | stage => stage

inductive Emits (setting : Setting) : Stage → HealthState → Stage → Prop where
  | invalidated (publishing) : Emits setting (.publish publishing .invalidated) .degraded (.publish publishing .degraded)
  | shut : Emits setting (.close .shut) .disconnected (.close .leaving)
  | dead (ch closedCh) (alone : setting.recovery = none) : Emits setting (.monitor ch (.marked closedCh)) .disconnected (.monitor ch .ended)
  | recovers (ch closedCh) (helped : setting.recovery ≠ none) :
      Emits setting (.monitor ch (.marked closedCh)) .reconnecting (.monitor ch .recovering)
  | aborting (ch) : Emits setting (.monitor ch .aborting) .disconnected (.monitor ch .ended)
  | retrying (ch) : Emits setting (.monitor ch .retrying) .disconnected (.monitor ch .ended)
  | restored (ch) : Emits setting (.monitor ch .restored) .connected (.monitor ch .ended)

def Stage.emitted (state : HealthState) : Stage → Stage
  | .publish publishing _ => .publish publishing .degraded
  | .close _ => .close .leaving
  | .monitor ch _ => .monitor ch (if state = .reconnecting then .recovering else .ended)
  | stage => stage

theorem emits_emitted {setting} {stage next} {state} (emits : Emits setting stage state next) : stage.emitted state = next := by
  cases emits <;> rfl

def pubMay (setting : Setting) (stage : Stage) : PubOp → Prop
  | .lock => stage.entering = true
  | .unlock => stage.leaving = true
  | .load => ∃ publishing, stage = .publish publishing .locked
  | .drainReturns returns => ∃ publishing pub, stage = .publish publishing (.loaded pub) ∧ returns = pub.returns
  | .publishWithContext ch publishing => ∃ pub, stage = .publish publishing (.drained pub) ∧ pub.ch = some ch
  | .select confirms closedCh => ∃ publishing pub, stage = .publish publishing (.sent pub) ∧ confirms = pub.confirms ∧
      closedCh = pub.closedCh
  | .takeReturn returns => ∃ publishing pub, stage = .publish publishing (.acked pub) ∧ returns = pub.returns
  | .invalidate => ∃ publishing, stage = .publish publishing .corrupted
  | .setHealth state => ∃ next, Emits setting stage state next
  | .signalCurrent => ∃ publishing, stage = .publish publishing .degraded
  | .signal closedCh => ∃ ch, stage = .monitor ch (.marked closedCh)
  | .closeChannel _ => (∃ publishing, stage = .publish publishing .degraded) ∨ stage = .close .shut ∨
      ∃ ch, stage = .monitor ch .prepared
  | .drainConfirms _ => stage = .close .shut ∨ ∃ ch, stage = .monitor ch .prepared
  | .shut => stage = .close .locked
  | .awaitClose ch => stage = .monitor ch .waiting
  | .markClosed => ∃ ch, stage = .monitor ch .fired
  | .prepare => ∃ ch, stage = .monitor ch .preparing
  | .renewDone => ∃ ch, stage = .monitor ch .prepared
  | .readDone | .pollDone _ | .backoff _ | .provider | .exhaust => ∃ ch, stage = .monitor ch .retrying
  | .install => stage = .reconnect .locked ∨ ∃ ch, stage = .monitor ch .offering

def waited (pub : Publisher) : Ready → PublishStage
  | .confirmed confirmed => if confirmed.ack then .acked pub else .leaving false
  | .streamClosed | .signalled => .leaving false
  | .timedOut | .cancelled _ => .corrupted

def pubLearn (stage : Stage) : (op : PubOp) → PubRes op → Stage
  | .lock, _ => stage.entered
  | .unlock, _ => stage.left
  | .load, pub =>
    match stage with
    | .publish publishing _ => .publish publishing (if pub.accepts then .loaded pub else .leaving false)
    | _ => stage
  | .drainReturns _, _ =>
    match stage with
    | .publish publishing (.loaded pub) => .publish publishing (.drained pub)
    | _ => stage
  | .publishWithContext _ _, err =>
    match stage with
    | .publish publishing (.drained pub) => .publish publishing (if err.isNone then .sent pub else .leaving false)
    | _ => stage
  | .select _ _, ready =>
    match stage with
    | .publish publishing (.sent pub) => .publish publishing (waited pub ready)
    | _ => stage
  | .takeReturn _, ret =>
    match stage with
    | .publish publishing _ => .publish publishing (.leaving ret.isNone)
    | _ => stage
  | .invalidate, _ =>
    match stage with
    | .publish publishing _ => .publish publishing .invalidated
    | _ => stage
  | .setHealth state, _ => stage.emitted state
  | .closeChannel _, err =>
    match stage with
    | .close _ => .close (if err.isNone then .shut else .leaving)
    | _ => stage
  | .shut, current => .close (if current.isNone then .leaving else .shut)
  | .awaitClose ch, closed => .monitor ch (if closed then .fired else .ended)
  | .markClosed, closedCh =>
    match stage with
    | .monitor ch _ => .monitor ch (.marked closedCh)
    | _ => stage
  | .prepare, current =>
    match stage with
    | .monitor ch _ => .monitor ch (if current.isNone then .refusing else .prepared)
    | _ => stage
  | .install, err =>
    match stage with
    | .monitor ch _ => .monitor ch (if err.isNone then .installed else .declined)
    | .reconnect _ => .reconnect .leaving
    | _ => stage
  | .signalCurrent, _ | .signal _, _ | .drainConfirms _, _ | .renewDone, _ | .readDone, _ | .pollDone _, _
  | .backoff _, _ | .provider, _ | .exhaust, _ => stage

def pubFinish : Stage → Reply → Prop
  | .publish _ stage, reply => ∃ err ok, reply = .published err ∧ stage = .left ok ∧ (err = none → ok = true)
  | .close stage, reply => (∃ err, reply = .closed err) ∧ stage = .left
  | .reconnect stage, reply => (∃ err, reply = .reconnected err) ∧ stage = .left
  | .monitor _ stage, reply => reply = .monitored ∧ stage = .ended

def pubOutline (setting : Setting) : Outline PubOp PubRes Stage Reply where
  may := pubMay setting
  learn := pubLearn
  finish := pubFinish

def Call.stage : Call → Stage
  | .publish exchange routingKey _ immediate body => .publish ⟨exchange, routingKey, true, immediate, body⟩ .called
  | .close => .close .called
  | .reconnect given => .reconnect (if given then .called else .left)

def Actor.stage {I : Type} (calls : I → Call) : Actor I → Stage
  | .call i => (calls i).stage
  | .monitor ch => .monitor ch .waiting

def Call.publishing : Call → Option Publishing
  | .publish exchange routingKey _ immediate body => some ⟨exchange, routingKey, true, immediate, body⟩
  | _ => none

theorem stage_cases {I} (calls : I → Call) (actor : Actor I) :
    (∃ publishing, Actor.stage calls actor = .publish publishing .called) ∨ Actor.stage calls actor = .close .called ∨
      Actor.stage calls actor = .reconnect .called ∨ Actor.stage calls actor = .reconnect .left ∨
      ∃ ch, Actor.stage calls actor = .monitor ch .waiting := by
  cases actor with
  | monitor ch => exact .inr (.inr (.inr (.inr ⟨ch, rfl⟩)))
  | call i =>
    simp only [Actor.stage]
    cases calls i with
    | publish => exact .inl ⟨_, rfl⟩
    | close => exact .inr (.inl rfl)
    | reconnect given =>
      cases given with
      | true => exact .inr (.inr (.inl rfl))
      | false => exact .inr (.inr (.inr (.inl rfl)))

variable {setting : Setting}

theorem follows_leave_publish (publishing) {err} {ok}
    (told : err = none → ok = true) : Follows (pubOutline setting) (.publish publishing (.leaving ok))
      (.call .unlock fun _ => .ret (.published err)) := by
  refine ⟨rfl, ?_⟩
  intro _ _
  exact ⟨err, ok, rfl, rfl, told⟩

theorem follows_invalidate (publishing) (ch : Nat) (err) : Follows (pubOutline setting) (.publish publishing .corrupted)
      (invalidateChannel ch (.call .unlock fun _ => .ret (.published (some err)))) := by
  refine ⟨⟨publishing, rfl⟩, ?_⟩
  intro _ _
  refine ⟨⟨_, .invalidated publishing⟩, ?_⟩
  intro _ _
  refine ⟨⟨publishing, rfl⟩, ?_⟩
  intro _ _
  refine ⟨.inl ⟨publishing, rfl⟩, ?_⟩
  intro _ _
  refine ⟨rfl, ?_⟩
  intro _ _
  exact ⟨some err, false, rfl, rfl, (by rintro ⟨⟩)⟩

theorem follows_publish (exchange routingKey mandatory immediate body) :
    Follows (pubOutline setting) (.publish ⟨exchange, routingKey, true, immediate, body⟩ .called)
      (publish exchange routingKey mandatory immediate body) := by
  generalize same : (⟨exchange, routingKey, true, immediate, body⟩ : Publishing) = publishing
  refine ⟨rfl, ?_⟩
  intro _ _
  refine ⟨⟨publishing, rfl⟩, ?_⟩
  intro pub _
  dsimp only
  by_cases closed : pub.closed = true
  · have refused : pub.accepts = false := by simp [Publisher.accepts, closed]
    simp only [pubOutline, pubLearn, refused, closed, if_true]
    exact follows_leave_publish publishing (by rintro ⟨⟩)
  cases found : pub.ch with
  | none =>
    have refused : pub.accepts = false := by simp [Publisher.accepts, found]
    simp only [pubOutline, pubLearn, refused, closed, if_false, Bool.false_eq_true]
    exact follows_leave_publish publishing (by rintro ⟨⟩)
  | some ch =>
    have accepted : pub.accepts = true := by simp [Publisher.accepts, found, closed]
    simp only [pubOutline, pubLearn, Stage.entered, accepted, closed, if_true, if_false, Bool.false_eq_true]
    refine ⟨⟨publishing, pub, rfl, rfl⟩, ?_⟩
    intro _ _
    refine ⟨⟨pub, by rw [same]; rfl, found⟩, ?_⟩
    intro publishErr _
    cases publishErr with
    | some => exact follows_leave_publish publishing (by rintro ⟨⟩)
    | none =>
      refine ⟨⟨publishing, pub, rfl, rfl, rfl⟩, ?_⟩
      intro ready _
      cases ready with
      | confirmed confirmed =>
        cases acked : confirmed.ack with
        | false =>
          simp only [pubLearn, waited, acked, if_false, Bool.false_eq_true]
          exact follows_leave_publish publishing (by rintro ⟨⟩)
        | true =>
          simp only [pubLearn, waited, acked, if_true]
          refine ⟨⟨publishing, pub, rfl, rfl⟩, ?_⟩
          intro ret _
          cases ret with
          | some => exact follows_leave_publish publishing (by rintro ⟨⟩)
          | none => exact follows_leave_publish publishing fun _ => rfl
      | streamClosed | signalled => exact follows_leave_publish publishing (by rintro ⟨⟩)
      | timedOut | cancelled => exact follows_invalidate publishing ch _

theorem follows_leave_close (err) : Follows (pubOutline setting) (.close .leaving) (.call .unlock fun _ => .ret (.closed err)) := by
  refine ⟨rfl, ?_⟩
  intro _ _
  exact ⟨⟨err, rfl⟩, rfl⟩

theorem follows_close : Follows (pubOutline setting) (.close .called) close := by
  have drained : ∀ confirms, Follows (pubOutline setting) (.close .shut)
      (.call (.drainConfirms confirms) fun _ => emitHealthState .disconnected (.call .unlock fun _ => .ret (.closed none))) := by
    intro confirms
    refine ⟨.inl rfl, ?_⟩
    intro _ _
    refine ⟨⟨_, .shut⟩, ?_⟩
    intro _ _
    exact follows_leave_close none
  refine ⟨rfl, ?_⟩
  intro _ _
  refine ⟨rfl, ?_⟩
  intro current _
  cases current with
  | none => exact follows_leave_close none
  | some current =>
    obtain ⟨currentCh, confirms⟩ := current
    cases currentCh with
    | none => exact drained confirms
    | some =>
      refine ⟨.inr (.inl rfl), ?_⟩
      intro closeErr _
      cases closeErr with
      | none => exact drained confirms
      | some => exact follows_leave_close _

variable {ch : Nat}

theorem follows_over {stage} {state} (emits : Emits setting (.monitor ch stage) state (.monitor ch .ended)) :
    Follows (pubOutline setting) (.monitor ch stage) (emitHealthState state (.ret .monitored)) := by
  refine ⟨⟨_, emits⟩, ?_⟩
  intro _ _
  simp only [pubOutline, pubLearn, emits_emitted emits]
  exact ⟨rfl, rfl⟩

theorem follows_attempt (stop : Nat) {retry} (onward : Follows (pubOutline setting) (.monitor ch .retrying) retry) :
    Follows (pubOutline setting) (.monitor ch .retrying) (executeRecoveryAttempt stop retry) := by
  have aborted : Follows (pubOutline setting) (.monitor ch .retrying) (emitHealthState .disconnected (.ret .monitored)) := follows_over (.retrying ch)
  refine ⟨⟨ch, rfl⟩, ?_⟩
  intro stopped _
  cases stopped with
  | true => exact aborted
  | false =>
    refine ⟨⟨ch, rfl⟩, ?_⟩
    intro stopped _
    cases stopped with
    | true => exact aborted
    | false =>
      refine ⟨⟨ch, rfl⟩, ?_⟩
      intro newCh _
      match newCh with
      | .error _ => exact onward
      | .ok false => exact onward
      | .ok true =>
        refine ⟨rfl, ?_⟩
        intro _ _
        refine ⟨.inr ⟨ch, rfl⟩, ?_⟩
        intro err _
        cases err with
        | some =>
          refine ⟨rfl, ?_⟩
          intro _ _
          exact onward
        | none =>
          refine ⟨rfl, ?_⟩
          intro _ _
          exact follows_over (.restored ch)

theorem follows_attempts (ch stop attempts : Nat) : Follows (pubOutline setting) (.monitor ch .retrying) (recoveryAttempts stop attempts) := by
  induction attempts with
  | zero =>
    refine ⟨⟨ch, rfl⟩, ?_⟩
    intro _ _
    exact follows_over (.retrying ch)
  | succ _ ih => exact follows_attempt stop ih

theorem follows_prepare {next} (refused : Follows (pubOutline setting) (.monitor ch .aborting) (next false))
    (onward : Follows (pubOutline setting) (.monitor ch .retrying) (next true)) :
    Follows (pubOutline setting) (.monitor ch .recovering) (prepareForRecovery next) := by
  have drained : ∀ confirms, Follows (pubOutline setting) (.monitor ch .prepared)
      (.call (.drainConfirms confirms) fun _ => .call .renewDone fun _ => .call .unlock fun _ => next true) := by
    intro confirms
    refine ⟨.inr ⟨ch, rfl⟩, ?_⟩
    intro _ _
    refine ⟨⟨ch, rfl⟩, ?_⟩
    intro _ _
    refine ⟨rfl, ?_⟩
    intro _ _
    exact onward
  refine ⟨rfl, ?_⟩
  intro _ _
  refine ⟨⟨ch, rfl⟩, ?_⟩
  intro current _
  cases current with
  | none =>
    refine ⟨rfl, ?_⟩
    intro _ _
    exact refused
  | some current =>
    obtain ⟨currentCh, confirms⟩ := current
    cases currentCh with
    | none => exact drained confirms
    | some =>
      refine ⟨.inr (.inr ⟨ch, rfl⟩), ?_⟩
      intro _ _
      exact drained confirms

theorem follows_monitor (ch : Nat) : Follows (pubOutline setting) (.monitor ch .waiting) (closeMonitor setting.recovery ch) := by
  refine ⟨rfl, ?_⟩
  intro closed _
  cases closed with
  | false => exact ⟨rfl, rfl⟩
  | true =>
    refine ⟨⟨ch, rfl⟩, ?_⟩
    intro closedCh _
    refine ⟨⟨ch, rfl⟩, ?_⟩
    intro _ _
    cases found : setting.recovery with
    | none => exact follows_over (.dead ch closedCh found)
    | some recovery =>
      refine ⟨⟨_, .recovers ch closedCh (by simp [found])⟩, ?_⟩
      intro _ _
      apply follows_prepare
      · exact follows_over (.aborting ch)
      · refine ⟨⟨ch, rfl⟩, ?_⟩
        intro stop _
        exact follows_attempts ch stop recovery.maxAttempts

theorem follows_call (call : Call) : Follows (pubOutline setting) call.stage call.program := by
  cases call with
  | publish exchange routingKey mandatory immediate body =>
    exact follows_publish exchange routingKey mandatory immediate body
  | close => exact follows_close
  | reconnect given =>
    cases given with
    | false => exact ⟨⟨_, rfl⟩, rfl⟩
    | true =>
      refine ⟨rfl, ?_⟩
      intro _ _
      refine ⟨.inl rfl, ?_⟩
      intro err _
      refine ⟨rfl, ?_⟩
      intro _ _
      exact ⟨⟨err, rfl⟩, rfl⟩

theorem tracks_launched {I} (calls : I → Call) : Tracks (pubOutline setting) (Actor.stage calls) (launched setting calls) := by
  intro actor
  cases actor with
  | call i => exact follows_call (calls i)
  | monitor ch => exact follows_monitor ch

end LibCommons.Rabbitmq
