import LibCommons.Idempotency.Scenario
import LibCommons.Idempotency.Replay

namespace LibCommons.Idempotency

open List Lease Process

namespace Scenario

variable {H I : Type} [ResponseHeader H] [DecidableEq I] {s : Scenario H I}
  {pool next : RequestPool H I} {event : RequestEvent H I}

omit [ResponseHeader H] [DecidableEq I] in
theorem change_time (change : s.Change pool next event) : pool.world.now ≤ next.world.now := by
  cases change with
  | calm _ later => exact later
  | created _ _ _ _ _ taken => rw [taken]; exact le_rfl
  | swapped _ _ _ _ _ _ _ done => rw [done]; exact le_rfl

theorem run_time {last} {labels} (consistent : s.Consistent pool)
    (run : Run (Step s.semantics) pool labels last) : pool.world.now ≤ last.world.now := by
  refine Run.relates s.Consistent (fun first second => first.world.now ≤ second.world.now)
    (fun pool event next => consistent_step) (fun _ => le_rfl) (fun _ _ _ => le_trans) ?_ pool last
    labels run consistent
  intro _ _ _ held step
  exact change_time (step_change held step)

variable {entry : Entry I Bytes}

-- A finished record is nobody's processing record, and no Acquire finds the key free.
theorem finished_step (consistent : s.Consistent pool) {j} (found : live pool.world s.key = some entry)
    (finished : (s.ticket j).Finished entry.value) (step : Step s.semantics pool event next)
    (before : next.world.now < entry.deadline) : live next.world s.key = some entry := by
  cases step_change consistent step with
  | calm same =>
    refine live_of_cells ?_ before
    rw [same]
    exact (live_some found).1
  | created _ _ _ _ free =>
    rw [found] at free
    cases free
  | swapped _ _ _ living expected =>
    rw [found] at living
    cases living
    rw [expected] at finished
    exact (Ticket.finished_not_processing finished).elim

variable {i : I}

theorem waits_step (waits : s.Waits i (pool.threads i)) (found : live pool.world s.key = some entry) (step : Step s.semantics pool event next) :
    (next.threads i = pool.threads i ∧ ∀ op result, event ≠ .act i op result) ∨ (next.threads i = .ret (s.lostReply i entry.value) ∧
        ∃ lease, event = .act i (.acquire s.key (s.ticket i).processing lease) (.ok (entry.value, false))) := by
  by_cases acts : ∃ op result, event = .act i op result
  · obtain ⟨op, result, rfl⟩ := acts
    obtain ⟨_, stands, went, -, done⟩ := act_thread step
    rw [stands] at waits
    obtain ⟨_, lease, asked, living, -, ended⟩ | ⟨lease, _, -, free, -⟩ := waits_exec waits done
    · rw [found] at living
      cases living
      exact .inr ⟨went.trans ended, lease, asked⟩
    · rw [found] at free
      cases free
  · obtain same | ⟨op, _, result, asked, -⟩ := thread_step step i
    · exact .inl ⟨same, fun op result asked => acts ⟨op, result, asked⟩⟩
    · exact absurd ⟨op, result, asked⟩ acts

theorem acquire_waits (consistent : s.Consistent pool) {key} {candidate} {ttl} {result}
    (step : Step s.semantics pool (.act i (.acquire key candidate ttl) result) next) : s.Waits i (pool.threads i) := by
  obtain ⟨_, stands, -⟩ := act_thread step
  rw [stands]
  obtain waits | holds := typed_call consistent stands
  · exact waits
  · exact holds.elim

variable (s) in
-- While a finished record is held, a new request is answered from it or not at all.
structure Closed (pool last : RequestPool H I) (labels : List (RequestEvent H I)) (entry : Entry I Bytes) : Prop where
  kept : live last.world s.key = some entry
  answered : ∀ i key candidate ttl result, Process.Event.act i (.acquire key candidate ttl) result ∈ labels →
    last.threads i = .ret (s.lostReply i entry.value)
  waited : ∀ i, s.Waits i (pool.threads i) → last.threads i = pool.threads i ∨ last.threads i = .ret (s.lostReply i entry.value)
  idle : ∀ i, s.Waits i (pool.threads i) → ∀ beat, Process.Event.act i (.start beat) () ∉ labels

theorem finished_run (pool last labels) (consistent : s.Consistent pool) (j : I) (entry) (found : live pool.world s.key = some entry)
    (finished : (s.ticket j).Finished entry.value) (run : Run (Step s.semantics) pool labels last)
    (before : last.world.now < entry.deadline) : s.Closed pool last labels entry := by
  induction run with
  | nil => exact ⟨found, by simp, fun i _ => .inl rfl, by simp⟩
  | cons _ _ _ _ _ first later ih =>
    have held := consistent_step consistent first
    have time := run_time held later
    have living := finished_step consistent found finished first (lt_of_le_of_lt time before)
    have closed := ih held living before
    refine ⟨closed.kept, ?_, ?_, ?_⟩
    · intro i key candidate ttl result present
      obtain rfl | present := mem_cons.mp present
      · have waits := acquire_waits consistent first
        obtain ⟨-, other⟩ | ⟨ended, -⟩ := waits_step waits found first
        · exact absurd rfl (other _ _)
        · exact (ended_stays later ended).1
      · exact closed.answered i key candidate ttl result present
    · intro i waits
      obtain ⟨same, -⟩ | ⟨ended, -⟩ := waits_step waits found first
      · rw [← same] at waits ⊢
        exact closed.waited i waits
      · exact .inr (ended_stays later ended).1
    · intro i waits beat present
      obtain ⟨same, other⟩ | ⟨ended, _, asked⟩ := waits_step waits found first
      · rw [← same] at waits
        obtain rfl | present := mem_cons.mp present
        · exact other _ _ rfl
        · exact closed.idle i waits beat present
      · obtain rfl | present := mem_cons.mp present
        · cases asked
        · exact (ended_stays later ended).2 _ _ present

variable (s) in
def Created (i : I) (past : List (RequestEvent H I)) : Prop :=
  ∃ lease current, Process.Event.act i (.acquire s.key (s.ticket i).processing lease) (.ok (current, true)) ∈ past

variable (s) in
def Stage (past : List (RequestEvent H I)) (pool : RequestPool H I) (i : I) : Prop := (∃ reply, pool.threads i = .ret reply) ∨
    (s.Waits i (pool.threads i) ∧ ∀ op result, Process.Event.act i op result ∉ past) ∨
    (s.Holds i (pool.threads i) ∧ s.Created i past)

omit [DecidableEq I] in
theorem stage_call (past pool) (i : I) (stage : s.Stage past pool i) (op : Op) (onward) (stands : pool.threads i = .call op onward) :
    (s.Waits i (.call op onward) ∧ ∀ op result, Process.Event.act i op result ∉ past) ∨ (s.Holds i (.call op onward) ∧ s.Created i past) := by
  unfold Stage at stage
  rw [stands] at stage
  obtain ⟨reply, ended⟩ | stage := stage
  · cases ended
  · exact stage

theorem stage_step (past pool next event) (i : I)
    (stage : s.Stage past pool i) (step : Step s.semantics pool event next) : s.Stage (past ++ [event]) next i := by
  by_cases acts : ∃ op result, event = .act i op result
  · obtain ⟨op, result, rfl⟩ := acts
    obtain ⟨onward, stands, went, -, done⟩ := act_thread step
    unfold Stage
    rw [went]
    obtain ⟨waits, -⟩ | ⟨holds, lease, current, made⟩ := stage_call past pool i stage op onward stands
    · obtain ⟨_, lease, -, -, -, ended⟩ | ⟨lease, current, asked, -, holds, -⟩ := waits_exec waits done
      · exact .inl ⟨_, ended⟩
      · exact .inr (.inr ⟨holds, lease, current, by simp [asked]⟩)
    · exact (holds_next holds result).imp id fun still => .inr ⟨still, lease, current, mem_append_left _ made⟩
  · have same : next.threads i = pool.threads i := by
      obtain same | ⟨op, _, result, asked, -⟩ := thread_step step i
      · exact same
      · exact absurd ⟨op, result, asked⟩ acts
    unfold Stage at stage ⊢
    rw [same]
    obtain ended | ⟨waits, none⟩ | ⟨holds, lease, current, made⟩ := stage
    · exact .inl ended
    · refine .inr (.inl ⟨waits, ?_⟩)
      intro op result present
      obtain earlier | now := mem_append.mp present
      · exact none op result earlier
      · exact acts ⟨op, result, (mem_singleton.mp now).symm⟩
    · exact .inr (.inr ⟨holds, lease, current, mem_append_left _ made⟩)

variable (world : StoreWorld I)

theorem run_stage (labels pool) (run : Run (Step s.semantics) (s.initial world) labels pool) (i : I) : s.Stage labels pool i := by
  refine Run.history (fun past pool => s.Stage past pool i) (fun past pool event next => stage_step past pool next event i) _ _ labels [] run ?_
  obtain ⟨reply, -, ended, -⟩ | waits := handle_carries s.m s.range (s.request i) (s.arrival i) s.key (s.owner i) s.stored (s.carries i)
  · exact .inl ⟨reply, ended⟩
  · exact .inr (.inl ⟨waits, by simp⟩)

theorem stale_write (pool next event) (consistent : s.Consistent pool) (i : I) (wrote : WrittenBy i event)
    (gone : ∀ entry, live pool.world s.key = some entry → entry.writer = some i → entry.value ≠ (s.ticket i).processing)
    (step : Step s.semantics pool event next) : next.world.cells = pool.world.cells := by
  cases step_change consistent step with
  | calm same => exact same
  | created _ _ _ asked =>
    rw [asked] at wrote
    exact wrote.elim
  | swapped _ entry _ found expected own written =>
    obtain rfl := written_unique wrote written
    exact absurd expected (gone entry found own)

theorem complete_lands (pool next) (consistent : s.Consistent pool) (i : I) (key expected completed ttl)
    (step : Step s.semantics pool (.act i (.complete key expected completed ttl) (.ok true)) next) :
    ∃ entry, live next.world s.key = some entry ∧ entry.value = completed ∧ entry.writer = some i ∧ (s.ticket i).Finished completed := by
  obtain ⟨_, stands, -, -, done⟩ := act_thread step
  have holds := call_holds consistent stands (by simp)
  obtain ⟨⟨rfl, rfl, finished, positive⟩, -⟩ := id holds
  simp only [semantics, storeSemantics, StoreExec, if_pos positive] at done
  obtain ⟨entry, found, equal, after⟩ := swaps_true done
  have own := own_entry consistent stands holds (live_some found).1 equal
  refine ⟨{ entry with value := completed, deadline := pool.world.now + s.lifetime.ticks ttl }, ?_, rfl, own, finished⟩
  rw [after]
  exact live_put_same _ (Nat.lt_add_of_pos_right (s.lifetime.positive ttl positive))

variable (s) in
structure AtMostOnce (world : StoreWorld I) (past : List (RequestEvent H I)) (pool : RequestPool H I) : Prop where
  arrives : ∀ i, (∃ reply refusal, (s.initial world).threads i = .ret reply ∧ reply.answer = .refused refusal) ∨
    ∃ lease next, (s.initial world).threads i = .call (.acquire s.key (s.ticket i).processing lease) next
  acquired : ∀ earlier later i beat, past = earlier ++ Process.Event.act i (.start beat) () :: later → s.Created i earlier
  loses : ∀ i key candidate ttl stored, Process.Event.act i (.acquire key candidate ttl) (.ok (stored, false)) ∈ past →
    ∀ beat, Process.Event.act i (.start beat) () ∉ past
  stale : ∀ i event next, WrittenBy i event → Step s.semantics pool event next →
    (∀ entry, live pool.world s.key = some entry → entry.writer = some i →
      entry.value ≠ (s.ticket i).processing) → next.world.cells = pool.world.cells
  completes : ∀ j key expected completed ttl next, Step s.semantics pool (.act j (.complete key expected completed ttl) (.ok true)) next →
    (s.ticket j).Finished completed ∧ ∃ entry, live next.world s.key = some entry ∧ entry.value = completed
  quiet : ∀ j entry later last, live pool.world s.key = some entry → (s.ticket j).Finished entry.value →
    Run (Step s.semantics) pool later last → last.world.now < entry.deadline →
    live last.world s.key = some entry ∧
    (∀ i, ¬ s.Created i past → ∀ beat, Process.Event.act i (.start beat) () ∉ later) ∧
    ∀ i key candidate ttl result, Process.Event.act i (.acquire key candidate ttl) result ∈ later → ∃ reply, last.threads i = .ret reply ∧
        (fingerprintOf s.m (s.request i) ≠ fingerprintOf s.m (s.request j) → reply.answer = .refused .keyReuse) ∧
        (reply.answer = .replayed ∨ ∃ refusal, reply.answer = .refused refusal)

theorem start_created (earlier later pool) (i : I) (beat)
    (run : Run (Step s.semantics) (s.initial world) (earlier ++ Process.Event.act i (.start beat) () :: later) pool) :
    s.Created i earlier := by
  obtain ⟨middle, _, first, step, -⟩ := Run.at_label _ _ earlier later _ run
  obtain ⟨onward, stands, -⟩ := act_thread step
  obtain ⟨waits, -⟩ | ⟨-, created⟩ := stage_call _ _ i (run_stage world earlier middle first i) _ onward stands
  · obtain ⟨_, asked, -⟩ := waits_call waits
    cases asked
  · exact created

theorem lost_idle (past pool) (i : I) (key candidate stored ttl) (run : Run (Step s.semantics) (s.initial world) past pool)
    (lost : Process.Event.act i (.acquire key candidate ttl) (.ok (stored, false)) ∈ past) (beat) :
    Process.Event.act i (.start beat) () ∉ past := by
  obtain ⟨earlier, later, rfl⟩ := append_of_mem lost
  obtain ⟨middle, _, first, step, rest⟩ := Run.at_label _ _ earlier later _ run
  obtain ⟨onward, stands, went, -, done⟩ := act_thread step
  obtain ⟨waits, silent⟩ | ⟨holds, -⟩ := stage_call _ _ i (run_stage world earlier middle first i) _ onward stands
  · obtain ⟨_, _, -, -, -, ended⟩ | ⟨_, _, won, -⟩ := waits_exec waits done
    · rw [ended] at went
      have ceased := (ended_stays rest went).2 (.start beat) ()
      simp [silent (.start beat) (), ceased]
    · cases won
  · exact holds.elim

-- Three requests under one key, two of them alike; a lease lasts one tick.
def sampleGuard : Middleware PlainHeader where
  digest := fun bytes => String.ofList (bytes.map fun byte => Char.ofNat byte.toNat)
  processingTTL := 1
  responseCodec := { encode := fun _ _ => none, decode := fun _ => none }
  failClosed := true
  ttlProvider := some fun request => if request.path = "/v1/refunds" then .error "no retention" else .ok 100

def sampleRequests (i : Fin 3) : Request :=
  if i = 2 then { sampleRequest with path := "/v1/refunds" } else sampleRequest

def sampleScenario : Scenario PlainHeader (Fin 3) where
  m := sampleGuard
  range := entryOrder
  key := storeKey sampleGuard "acme" "key-1"
  request := sampleRequests
  arrival := fun _ => sampleBefore
  owner := fun i => if i = 0 then "a" else if i = 1 then "b" else "c"
  lifetime := { ticks := Int.toNat, positive := fun ttl positive => Int.lt_toNat.mpr positive }
  faults := false
  stored := rfl
  carries := by
    intro i
    refine ⟨?_, "key-1", "acme", ?_, by decide, ?_, by decide, rfl⟩
    · revert i; decide
    · revert i; decide +kernel
    · revert i; decide +kernel
  distinct := by decide

def sampleWorld (now : Nat) (entry : Option (Entry (Fin 3) Bytes)) : StoreWorld (Fin 3) :=
  { now := now, cells := fun key => if key = sampleScenario.key then entry else none }

def sampleLease (i : Fin 3) (start : Nat) : Entry (Fin 3) Bytes :=
  { value := (sampleScenario.ticket i).processing, deadline := start + 1, writer := some i }

def sampleFence : Entry (Fin 3) Bytes := { value := (sampleScenario.ticket 1).fenced, deadline := 101, writer := some 1 }

theorem sample_put (now : Nat) (before after) : put (sampleWorld now before) sampleScenario.key after = sampleWorld now after := by
  simp only [put, sampleWorld]
  congr 1
  funext key
  by_cases same : key = sampleScenario.key <;> simp [Function.update, same]

def sampleRunning (i : Fin 3) : RequestProg PlainHeader :=
  handleStoreAcquired sampleGuard (sampleRequests i) sampleScenario.key (sampleScenario.ticket i).processing
    (sampleScenario.ticket i).record 100 1 sampleBefore

theorem sample_asks (i) (repeated : i ≠ 2) : (sampleScenario.initial (sampleWorld 0 none)).threads i =
    .call (.acquire sampleScenario.key (sampleScenario.ticket i).processing 1)
      (afterAcquire sampleGuard entryOrder (sampleRequests i) sampleScenario.key (sampleScenario.ticket i).fingerprint
        (sampleScenario.ticket i).processing (sampleScenario.ticket i).record 100 1 sampleBefore) := by
  fin_cases i
  · rfl
  · rfl
  · exact absurd rfl repeated

def sampleOutcome : Outcome PlainHeader where
  err := none
  response := sampleBefore
  seed := 0

def samplePast : List (RequestEvent PlainHeader (Fin 3)) :=
  [.act 0 (.acquire sampleScenario.key (sampleScenario.ticket 0).processing 1) (.ok ([], true)), .drift,
    .act 1 (.acquire sampleScenario.key (sampleScenario.ticket 1).processing 1) (.ok ([], true)),
    .act 1 (.start none) (), .act 1 (.await none) (some sampleOutcome),
    .act 1 (.complete sampleScenario.key (sampleScenario.ticket 1).processing (sampleScenario.ticket 1).fenced 100) (.ok true)]

theorem sample_acquires (i) (now : Nat) (found) (free : ∀ entry ∈ found, entry.deadline ≤ now) :
    sampleScenario.semantics.exec i (.acquire sampleScenario.key (sampleScenario.ticket i).processing 1)
      (sampleWorld now found) (.ok ([], true)) (sampleWorld now (some (sampleLease i now))) := by
  have absent : live (sampleWorld now found) sampleScenario.key = none := by
    rw [live, Option.filter_eq_none_iff]
    intro entry present
    have late := free entry (by simpa [sampleWorld] using present)
    rw [Bool.not_eq_true, decide_eq_false_iff_not]
    exact not_lt.mpr late
  simp only [semantics, storeSemantics, StoreExec]
  rw [if_pos (by decide), Acquires, absent]
  exact ⟨⟨[], rfl⟩, (sample_put now found _).symm⟩

theorem sample_fences : sampleScenario.semantics.exec 1 (.complete sampleScenario.key
    (sampleScenario.ticket 1).processing (sampleScenario.ticket 1).fenced 100) (sampleWorld 1 (some (sampleLease 1 1)))
    (.ok true) (sampleWorld 1 (some sampleFence)) := by
  have held : held (sampleWorld 1 (some (sampleLease 1 1))) sampleScenario.key (sampleScenario.ticket 1).processing = some (sampleLease 1 1) := by
    simp [held, live, sampleWorld, sampleLease]
  simp only [semantics, storeSemantics, StoreExec]
  rw [if_pos (by decide), Swaps, held]
  exact .inl ⟨rfl, (sample_put 1 _ _).symm⟩

def sampleReply : Reply PlainHeader :=
  { respondPostHandlerStoreError sampleGuard (sampleRequests 1) (setHeader sampleBefore idempotencyFenced "true") with
    fence := some true }

theorem sample_run : ∃ pool, Run (Step sampleScenario.semantics) (sampleScenario.initial (sampleWorld 0 none)) samplePast pool ∧
    pool.world = sampleWorld 1 (some sampleFence) ∧ pool.threads 0 = sampleRunning 0 ∧
    pool.threads 1 = .ret sampleReply ∧
    pool.threads 2 = .ret (respondUnavailable sampleGuard (sampleRequests 2) sampleBefore) := by
  refine ⟨_, .cons _ _ _ _ _ (.act _ 0 _ _ _ _ (sample_asks 0 (by decide)) (sample_acquires 0 0 none (by simp))) <|
    .cons _ _ _ _ _ (.drift _ (sampleWorld 1 (some (sampleLease 0 0))) ⟨rfl, by decide⟩) <|
    .cons _ _ _ _ _ (.act _ 1 _ _ _ _ (sample_asks 1 (by decide)) (sample_acquires 1 1 _ (by simp [sampleLease]))) <|
    .cons _ _ _ _ _ (.act _ 1 _ _ _ _ rfl rfl) <|
    .cons _ _ _ _ _ (.act _ 1 _ _ _ _ rfl rfl) <|
    .cons _ _ _ _ _ (.act _ 1 _ _ _ _ rfl sample_fences) <| .nil _, rfl, rfl, rfl, rfl⟩

theorem sample_fence_live : live (sampleWorld 1 (some sampleFence)) sampleScenario.key = some sampleFence := by
  simp [live, sampleWorld, sampleFence]

-- Stronger readings: no handler starts at all, and every other request is told of the reuse.
def StartsNothing : Prop := ∀ (H I : Type) [ResponseHeader H] [DecidableEq I] (s : Scenario H I) (world : StoreWorld I)
    (past later : List (RequestEvent H I)) (pool last : RequestPool H I) (j : I) (entry : Entry I Bytes),
    s.faults = false → (∀ entry, world.cells s.key = some entry → entry.writer = none) →
    Run (Step s.semantics) (s.initial world) past pool → live pool.world s.key = some entry →
    (s.ticket j).Finished entry.value → Run (Step s.semantics) pool later last → last.world.now < entry.deadline →
    ∀ i beat, Process.Event.act i (.start beat) () ∉ later

def RefusesAllOthers : Prop := ∀ (H I : Type) [ResponseHeader H] [DecidableEq I] (s : Scenario H I) (world : StoreWorld I)
    (past later : List (RequestEvent H I)) (pool last : RequestPool H I) (j : I) (entry : Entry I Bytes),
    s.faults = false → (∀ entry, world.cells s.key = some entry → entry.writer = none) →
    Run (Step s.semantics) (s.initial world) past pool → live pool.world s.key = some entry →
    (s.ticket j).Finished entry.value → Run (Step s.semantics) pool later last → last.world.now < entry.deadline →
    ∀ i reply, (∀ op result, Process.Event.act i op result ∉ past) → last.threads i = .ret reply →
      fingerprintOf s.m (s.request i) ≠ fingerprintOf s.m (s.request j) → reply.answer = .refused .keyReuse

end Scenario

end LibCommons.Idempotency
