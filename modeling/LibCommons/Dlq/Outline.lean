import LibCommons.Lib.Outline
import LibCommons.Dlq.Store

namespace LibCommons.Dlq

open Process

-- What a call knows of its popped message, the retry function, the clock and its acceptance.
structure Knowledge where
  hand : Option FailedMessage
  retried : Bool
  seen : Option Time
  accepted : Bool

def Knowledge.spent (know : Knowledge) : Int := if know.retried then 1 else 0

def GivesBack (know : Knowledge) (popped msg : FailedMessage) : Prop :=
  (0 < popped.maxRetries → msg.maxRetries = popped.maxRetries) ∧ msg.retryCount = popped.retryCount + know.spent

def dlqMay (know : Knowledge) : DlqOp → Prop
  | .rPush _ msg => 0 < msg.maxRetries ∧ ∀ popped, know.hand = some popped → GivesBack know popped msg
  | .lPop _ => know.hand = none
  | .retryFunc _ _ => ∃ msg, know.hand = some msg ∧ know.retried = false ∧ msg.retryCount < msg.maxRetries ∧
      (msg.nextRetryAt = 0 ∨ ∃ time, know.seen = some time ∧ msg.nextRetryAt ≤ time)
  | .recordExhausted _ | .logPruned _ => ∃ msg, know.hand = some msg ∧ msg.maxRetries ≤ msg.retryCount
  | _ => True

def dlqLearn (know : Knowledge) : (op : DlqOp) → DlqRes op → Knowledge
  | .now, time => { know with seen := some time }
  | .rPush _ _, err => if err = none then { know with hand := none, accepted := know.accepted || know.hand.isNone } else know
  | .lPop _, popped =>
    match popped with
    | .item msg => { know with hand := some msg, retried := false }
    | .empty | .failed _ => know
  | .retryFunc _ _, err => if err = none then { know with hand := none } else { know with retried := true }
  | .recordExhausted _, _ | .recordLost _, _ | .logPruned _, _ => { know with hand := none }
  | .backoffDuration _, _ | .done, _ | .marshal _, _ | .getClient, _ | .scan _, _ | .recordRetried _, _ | .lLen _, _ => know

def dlqFinish (know : Knowledge) (reply : Reply) : Prop :=
  (know.hand = none ∨ ∃ count err, reply = .pruned count (some err)) ∧ (reply = .enqueued none → know.accepted = true)

def dlqOutline : Outline DlqOp DlqRes Knowledge Reply where
  may := dlqMay
  learn := dlqLearn
  finish := dlqFinish

section

variable {know : Knowledge}

def Knowledge.Same (know later : Knowledge) : Prop := later.hand = know.hand ∧ later.retried = know.retried

variable {msg : FailedMessage} (h : Handler)

theorem follows_stamp {next} (onward : ∀ later stamped, know.Same later → 0 < stamped.maxRetries →
      (0 < msg.maxRetries → stamped.maxRetries = msg.maxRetries) → stamped.retryCount = msg.retryCount →
      Follows dlqOutline later (next stamped)) : Follows dlqOutline know (stampInitialEnqueue h msg next) := by
  have positive : 0 < stampedMaxRetries h msg := by
    have := h.positive
    unfold stampedMaxRetries
    split <;> omega
  have kept : 0 < msg.maxRetries → stampedMaxRetries h msg = msg.maxRetries := by
    intro _
    exact if_neg (by omega)
  unfold stampInitialEnqueue
  dsimp only
  split
  · refine ⟨trivial, ?_⟩
    intro _ _
    dsimp only
    split
    · refine ⟨trivial, ?_⟩
      intro _ _
      exact onward _ _ ⟨rfl, rfl⟩ positive kept rfl
    · exact onward _ _ ⟨rfl, rfl⟩ positive kept rfl
  · exact onward know _ ⟨rfl, rfl⟩ positive kept rfl

theorem resolve_fields {ctxTenant} {resolved} {tenant} (done : resolveAndValidateTenant ctxTenant msg = .ok (tenant, resolved)) :
    resolved.maxRetries = msg.maxRetries ∧ resolved.retryCount = msg.retryCount := by
  unfold resolveAndValidateTenant at done
  dsimp only at done
  split at done
  · cases done
  split at done
  · split at done
    · cases done
    · cases done
      exact ⟨rfl, rfl⟩
  · cases done
    exact ⟨rfl, rfl⟩

theorem follows_enqueue (ctxTenant) {next} (gives : ∀ popped, know.hand = some popped → GivesBack know popped msg)
    (fails : ∀ later err, know.Same later → Follows dlqOutline later (next (some err)))
    (onward : ∀ later : Knowledge, later.hand = none → (know.hand = none → later.accepted = true) →
      Follows dlqOutline later (next none)) : Follows dlqOutline know (enqueue h ctxTenant msg next) := by
  unfold enqueue
  split
  · exact fails know _ ⟨rfl, rfl⟩
  refine follows_stamp h ?_
  intro later _ same positive kept count
  dsimp only
  split
  · exact fails later _ same
  rename_i tenant resolved done
  obtain ⟨max, retries⟩ := resolve_fields done
  refine ⟨trivial, ?_⟩
  intro marshalErr _
  cases marshalErr with
  | some => exact fails later _ same
  | none =>
    dsimp only
    split
    · exact fails later _ same
    refine ⟨trivial, ?_⟩
    intro clientErr _
    cases clientErr with
    | some => exact fails later _ same
    | none =>
      refine ⟨⟨max ▸ positive, ?_⟩, ?_⟩
      · intro popped held
        obtain ⟨maxKept, countKept⟩ := gives popped (same.1 ▸ held)
        refine ⟨?_, ?_⟩
        · intro known
          have before := maxKept known
          rw [max, kept (by omega), before]
        · have spent : later.spent = know.spent := by simp only [Knowledge.spent, same.2]
          rw [retries, count, countKept]
          exact congrArg _ spent.symm
      · intro pushErr _
        cases pushErr with
        | some => exact fails later _ same
        | none =>
          refine onward _ rfl ?_
          intro own
          simp [dlqOutline, dlqLearn, same.1, own]

theorem follows_dequeue (ctxTenant : String) {source : String} {next : Popped → DlqProg} (free : know.hand = none)
    (empty : ∀ later, know.Same later → Follows dlqOutline later (next .empty))
    (fails : ∀ later err, know.Same later → Follows dlqOutline later (next (.failed err)))
    (onward : ∀ later popped, later.hand = some popped → later.retried = false →
      Follows dlqOutline later (next (.item { popped with source := source }))) :
    Follows dlqOutline know (dequeue h ctxTenant source next) := by
  unfold dequeue
  split
  · exact fails know _ ⟨rfl, rfl⟩
  dsimp only
  split
  · exact fails know _ ⟨rfl, rfl⟩
  refine ⟨trivial, ?_⟩
  intro clientErr _
  cases clientErr with
  | some => exact fails know _ ⟨rfl, rfl⟩
  | none =>
    refine ⟨free, ?_⟩
    intro popped _
    cases popped with
    | empty => exact empty know ⟨rfl, rfl⟩
    | failed => exact fails know _ ⟨rfl, rfl⟩
    | item msg => exact onward _ msg rfl rfl

variable (c : Consumer)

theorem follows_process_message (ctxTenant source) {popped} {next} (held : know.hand = some popped) (fresh : know.retried = false)
    (onward : ∀ later : Knowledge, later.hand = none → ∀ worked, Follows dlqOutline later (next worked)) :
    Follows dlqOutline know (processMessage c ctxTenant { popped with source := source } next) := by
  have lost : ∀ later : Knowledge, Follows dlqOutline later (.call (.recordLost (sanitizeMetricSource c source)) fun _ => next true) := by
    intro later
    refine ⟨trivial, ?_⟩
    intro _ _
    exact onward _ rfl true
  refine ⟨trivial, ?_⟩
  intro now _
  dsimp only
  split
  · refine follows_enqueue c.handler _ ?_ (fun later err _ => lost later) (fun later free _ => onward later free false)
    intro _ same
    cases held.symm.trans same
    exact ⟨fun _ => rfl, by simp [Knowledge.spent, dlqOutline, dlqLearn, fresh]⟩
  rename_i ready
  split
  · rename_i exhausted
    refine ⟨⟨popped, held, exhausted⟩, ?_⟩
    intro _ _
    exact onward _ rfl true
  rename_i budget
  refine ⟨⟨popped, held, fresh, by simpa using budget, ?_⟩, ?_⟩
  · by_cases unset : popped.nextRetryAt = 0
    · exact .inl unset
    · refine .inr ⟨now, rfl, ?_⟩
      by_contra early
      exact ready ⟨unset, by simpa using early⟩
  intro retryErr _
  cases retryErr with
  | none =>
    refine ⟨trivial, ?_⟩
    intro _ _
    exact onward _ rfl true
  | some err =>
    refine ⟨trivial, ?_⟩
    intro later _
    refine ⟨trivial, ?_⟩
    intro _ _
    refine follows_enqueue c.handler _ ?_ (fun later err _ => lost later) (fun later free _ => onward later free true)
    intro _ same
    cases held.symm.trans same
    exact ⟨fun _ => rfl, rfl⟩

theorem follows_rotations (ctxTenant source) {leave goOn} (left processed : Nat)
    (free : know.hand = none) (leaves : ∀ later : Knowledge, later.hand = none → ∀ n, Follows dlqOutline later (leave n))
    (goes : ∀ later : Knowledge, later.hand = none → ∀ n, Follows dlqOutline later (goOn n)) :
    Follows dlqOutline know (drainRotations c ctxTenant source leave goOn left processed) := by
  induction left generalizing know with
  | zero => exact goes know free processed
  | succ _ ih =>
    refine ⟨trivial, ?_⟩
    intro _ _
    dsimp only
    split
    · exact leaves know free processed
    refine follows_dequeue c.handler ctxTenant free ?_ ?_ ?_
    · intro later same
      exact leaves later (same.1.trans free) processed
    · intro later _ same
      exact leaves later (same.1.trans free) processed
    · intro _ _ held fresh
      refine follows_process_message c ctxTenant source held fresh ?_
      intro final none worked
      cases worked with
      | true => exact goes final none (processed + 1)
      | false => exact ih none

theorem follows_queue_length (ctxTenant source) {next} (onward : ∀ result, Follows dlqOutline know (next result)) :
    Follows dlqOutline know (queueLength h ctxTenant source next) := by
  unfold queueLength
  split
  · exact onward _
  dsimp only
  split
  · exact onward _
  refine ⟨trivial, ?_⟩
  intro clientErr _
  cases clientErr with
  | some => exact onward _
  | none => exact ⟨trivial, fun result _ => onward result⟩

theorem follows_drain_source (ctxTenant source) {next} (limit processed : Nat)
    (free : know.hand = none) (onward : ∀ later : Knowledge, later.hand = none → ∀ n, Follows dlqOutline later (next n)) :
    Follows dlqOutline know (drainSource c ctxTenant source next limit processed) := by
  induction limit generalizing know processed with
  | zero => exact onward know free processed
  | succ _ ih =>
    refine ⟨trivial, ?_⟩
    intro _ _
    dsimp only
    split
    · exact onward know free processed
    refine follows_queue_length c.handler ctxTenant source ?_
    intro length
    match length with
    | .error _ => exact onward know free processed
    | .ok 0 => exact onward know free processed
    | .ok (more + 1) =>
      exact follows_rotations c ctxTenant source _ processed free onward fun later none n => ih n none

theorem follows_round (source) {leave} {next} (tenants) (processed : Nat) (progressed) (free : know.hand = none)
    (leaves : ∀ later : Knowledge, later.hand = none → Follows dlqOutline later leave)
    (onward : ∀ later : Knowledge, later.hand = none → ∀ n more, Follows dlqOutline later (next n more)) :
    Follows dlqOutline know (drainRound c source leave next tenants processed progressed) := by
  induction tenants generalizing know processed progressed with
  | nil => exact onward know free processed progressed
  | cons tenant _ ih =>
    unfold drainRound
    split
    · exact onward know free processed progressed
    refine ⟨trivial, ?_⟩
    intro _ _
    dsimp only
    split
    · exact leaves know free
    · exact follows_drain_source c tenant source 1 0 free fun later none n => ih (processed + 1) _ none

variable {next : DlqProg}

theorem follows_rounds (source tenants) (left processed : Nat) (free : know.hand = none)
    (onward : ∀ later : Knowledge, later.hand = none → Follows dlqOutline later next) :
    Follows dlqOutline know (drainRounds c source tenants next left processed) := by
  induction left generalizing know processed with
  | zero => exact onward know free
  | succ _ ih =>
    unfold drainRounds
    split
    · exact onward know free
    refine follows_round c source tenants processed false free onward ?_
    intro later none n more
    cases more with
    | true => exact ih n none
    | false => exact onward later none

theorem follows_process_source (ctxTenant source) (free : know.hand = none)
    (onward : ∀ later : Knowledge, later.hand = none → Follows dlqOutline later next) :
    Follows dlqOutline know (processSource c ctxTenant source next) := by
  unfold processSource scanQueues
  split
  · exact onward know free
  refine ⟨trivial, ?_⟩
  intro clientErr _
  cases clientErr with
  | some => exact onward know free
  | none =>
    refine ⟨trivial, ?_⟩
    intro found _
    cases found with
    | error => exact onward know free
    | ok => exact follows_rounds c source _ c.batchSize 0 free onward

theorem follows_prune (ctxTenant source) (left pruned : Nat) (free : know.hand = none) :
    Follows dlqOutline know (pruneLoop h ctxTenant source left pruned) := by
  induction left generalizing know pruned with
  | zero => exact ⟨.inl free, nofun⟩
  | succ _ ih =>
    refine follows_dequeue h ctxTenant free ?_ ?_ ?_
    · intro later same
      exact ⟨.inl (same.1.trans free), nofun⟩
    · intro _ _ same
      exact ⟨.inl (same.1.trans free), nofun⟩
    · intro _ popped held fresh
      dsimp only
      split
      · rename_i exhausted
        exact ⟨⟨popped, held, exhausted⟩, fun _ _ => ih (pruned + 1) rfl⟩
      refine follows_enqueue h _ ?_ ?_ ?_
      · intro _ same
        cases held.symm.trans same
        exact ⟨fun _ => rfl, by simp [Knowledge.spent, fresh]⟩
      · intro _ _ _
        exact ⟨.inr ⟨pruned, _, rfl⟩, nofun⟩
      · intro _ none _
        exact ih pruned none

end

def Knowledge.initial : Knowledge where
  hand := none
  retried := false
  seen := none
  accepted := false

theorem follows_program (call : Call) : Follows dlqOutline .initial call.program := by
  cases call with
  | enqueue h ctxTenant =>
    simp only [Call.program]
    refine follows_enqueue h ctxTenant ?_ ?_ ?_
    · intro _ held
      cases held
    · intro _ _ same
      exact ⟨.inl same.1, nofun⟩
    · intro _ free accepted
      exact ⟨.inl free, fun _ => accepted rfl⟩
  | processOnce c ctxTenant =>
    have sources : ∀ sources : List String, ∀ know : Knowledge, know.hand = none → Follows dlqOutline know (processSources c ctxTenant sources) := by
      intro sources
      induction sources with
      | nil => exact fun know free => ⟨.inl free, nofun⟩
      | cons source _ ih => exact fun know free => follows_process_source c ctxTenant source free ih
    exact sources c.sources .initial rfl
  | pruneExhaustedMessages h ctxTenant source limit =>
    simp only [Call.program, pruneExhaustedMessages]
    split
    · exact ⟨.inl rfl, nofun⟩
    · split
      · exact ⟨.inl rfl, nofun⟩
      · exact follows_prune h ctxTenant source limit.toNat 0 rfl

end LibCommons.Dlq
