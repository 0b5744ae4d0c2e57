import LibCommons.Idempotency.AtMostOnce

namespace LibCommons.Idempotency

open Process

section

variable {H : Type} [ResponseHeader H] (m : Middleware H) (range : MapRange) (request : Request) (response : Response H)

theorem respond_stored_fence (fingerprint stored) : (respondStored m range request response fingerprint stored).fence = none := by
  unfold respondStored
  split
  · split
    · simp [respondUnreadableRecord, refuseTerminal]
    unfold respondLegacy
    split_ifs
    · simp [respondKeyReuse]
    · simp [respondConflict]
    · rfl
  · split_ifs
    · simp [respondKeyReuse]
    · simp [respondOutcomeUnknown, refuseTerminal]
    · simp [respondReplayUnavailable]
    · simp [respondConflict]
    · obtain ⟨cached, sent⟩ | refused := replay_cases m range request response _
      · rw [sent]
      · simp [refused, respondPostHandlerStoreError]
    · simp [respondUnrecognisedState, refuseTerminal]

end

namespace Scenario

variable {H I : Type} [ResponseHeader H] [DecidableEq I] {s : Scenario H I}

theorem fence_written {pool next} {event} (consistent : s.Consistent pool) {i}
    {reply} (active : ∀ earlier, pool.threads i ≠ .ret earlier) (step : Step s.semantics pool event next)
    (ended : next.threads i = .ret reply) (reported : reply.fence = some true) :
    ∃ entry, Lease.live next.world s.key = some entry ∧ entry.value = (s.ticket i).fenced ∧ entry.writer = some i := by
  obtain same | ⟨op, onward, result, rfl, stands, went, done⟩ := thread_step step i
  · rw [same] at ended
    exact absurd ended (active reply)
  rw [ended] at went
  have unreported : s.Holds i (onward result) → False := by
    intro still
    rw [← went] at still
    exact still reported
  obtain waits | holds := typed_call consistent stands
  · obtain ⟨entry, _, -, -, -, lost⟩ | ⟨_, _, -, -, holds, -⟩ := waits_exec waits done
    · rw [lost] at went
      cases went
      rw [lostReply, respond_stored_fence] at reported
      cases reported
    · exact (unreported holds).elim
  · cases op with
    | acquire => exact holds.elim
    | start => exact (unreported (holds.2 result)).elim
    | await | release => exact (unreported (holds.2.2 result)).elim
    | complete key expected completed ttl =>
      by_cases worked : result = .ok true
      · subst worked
        obtain ⟨entry, living, value, writer, -⟩ := complete_lands pool next consistent i key expected completed ttl step
        obtain ⟨_, recorded, fences⟩ := holds.2.1
        rw [← went] at recorded
        cases recorded
        exact ⟨entry, living, value.trans (fences reported), writer⟩
      · exact (unreported (holds.2.2 result worked)).elim

variable (s) in
def Protected (i : I) (world : StoreWorld I) : Prop :=
  ∃ entry, Lease.live world s.key = some entry ∧ entry.writer = some i ∧ (s.ticket i).Finished entry.value

theorem settling_step (pool next event) (consistent : s.Consistent pool) (i : I)
    (settling : Settling (s.ticket i) (pool.threads i)) (step : Step s.semantics pool event next) :
    Settling (s.ticket i) (next.threads i) ∨ ((∃ reply, next.threads i = .ret reply) ∧ s.Protected i next.world) := by
  obtain same | ⟨op, _, result, rfl, stands, went, -⟩ := thread_step step i
  · rw [same]
    exact .inl settling
  rw [stands] at settling
  cases op with
  | complete key expected completed ttl =>
    obtain ⟨-, ⟨reply, recorded, -⟩, again⟩ := settling
    by_cases worked : result = .ok true
    · subst worked
      obtain ⟨entry, living, rfl, writer, finished⟩ := complete_lands pool next consistent i key expected completed ttl step
      exact .inr ⟨⟨reply, went.trans recorded⟩, entry, living, writer, finished⟩
    · rw [went]
      exact .inl (again result worked)
  | _ => exact settling.elim

theorem await_settles (pool next) (consistent : s.Consistent pool) (i : I) (beat outcome) (kept : Kept s.m (s.request i) outcome)
    (step : Step s.semantics pool (.act i (.await beat) (some outcome)) next) :
    Settling (s.ticket i) (next.threads i) := by
  obtain ⟨_, stands, went, -⟩ := act_thread step
  rw [went]
  exact (call_holds consistent stands (by simp)).2.1 outcome kept

variable (s) in
def Returned (i : I) (past : List (RequestEvent H I)) : Prop :=
  ∃ beat outcome, Process.Event.act i (.await beat) (some outcome) ∈ past ∧ Kept s.m (s.request i) outcome

variable (world : StoreWorld I) (found : ∀ entry, world.cells s.key = some entry → entry.writer = none)

include found

theorem run_settles (past pool) (i : I) (run : Run (Step s.semantics) (s.initial world) past pool) (returned : s.Returned i past) :
    (∃ reply, pool.threads i = .ret reply) ∨ Settling (s.ticket i) (pool.threads i) := by
  refine (Run.history (fun past pool => s.Consistent pool ∧ (s.Returned i past →
    (∃ reply, pool.threads i = .ret reply) ∨ Settling (s.ticket i) (pool.threads i))) ?_ _ _ past [] run
    ⟨initial_consistent world found, ?_⟩).2 returned
  · rintro _ pool event next ⟨consistent, before⟩ step
    refine ⟨consistent_step consistent step, ?_⟩
    rintro ⟨beat, outcome, present, kept⟩
    obtain earlier | now := List.mem_append.mp present
    · obtain ⟨reply, ended⟩ | settling := before ⟨beat, outcome, earlier, kept⟩
      · exact .inl ⟨reply, (ended_stays (.cons _ _ _ _ _ step (.nil _)) ended).1⟩
      · exact (settling_step pool next event consistent i settling step).symm.imp And.left id
    · cases List.mem_singleton.mp now
      exact .inr (await_settles pool next consistent i beat outcome kept step)
  · rintro ⟨_, _, present, -⟩
    cases present

theorem kept_answer (past pool next event) (i : I) (reply)
    (run : Run (Step s.semantics) (s.initial world) past pool) (active : ∀ earlier, pool.threads i ≠ .ret earlier)
    (step : Step s.semantics pool event next) (ended : next.threads i = .ret reply) (returned : s.Returned i (past ++ [event])) :
    reply.answer = .refused .unfenced ∨ s.Protected i next.world := by
  have consistent := run_consistent _ pool past (initial_consistent world found) run
  have settled : Settling (s.ticket i) (next.threads i) ∨ s.Protected i next.world := by
    obtain ⟨beat, outcome, present, kept⟩ := returned
    obtain earlier | now := List.mem_append.mp present
    · obtain ⟨reply, before⟩ | settling := run_settles world found past pool i run ⟨beat, outcome, earlier, kept⟩
      · exact absurd before (active reply)
      · exact (settling_step pool next event consistent i settling step).imp id And.right
    · cases List.mem_singleton.mp now
      exact .inl (await_settles pool next consistent i beat outcome kept step)
  obtain settling | guarded := settled
  · rw [ended] at settling
    exact .inl settling.1
  · exact .inr guarded

theorem fence_refuses (past later pool last) (j : I) (entry)
    (run : Run (Step s.semantics) (s.initial world) past pool) (living : Lease.live pool.world s.key = some entry)
    (fenced : entry.value = (s.ticket j).fenced) (after : Run (Step s.semantics) pool later last)
    (before : last.world.now < entry.deadline) (i : I) (absent : ∀ op result, Process.Event.act i op result ∉ past) :
    (∀ beat, Process.Event.act i (.start beat) () ∉ later) ∧ ∀ reply, last.threads i = .ret reply → ∃ refusal, reply.answer = .refused refusal := by
  have consistent := run_consistent _ pool past (initial_consistent world found) run
  have closed := finished_run pool last later consistent j entry living (fenced ▸ Ticket.fenced_finished _) after before
  have same := silent_stays run absent
  obtain ⟨reply, refusal, ended, answer⟩ | waits := handle_carries s.m s.range (s.request i) (s.arrival i) s.key (s.owner i) s.stored (s.carries i)
  · obtain ⟨stays, silent⟩ := ended_stays after (same.trans ended)
    refine ⟨fun beat => silent (.start beat) (), ?_⟩
    intro _ given
    rw [stays] at given
    cases given
    exact ⟨refusal, answer⟩
  · have waiting : s.Waits i (pool.threads i) := by
      rw [same]
      exact waits
    refine ⟨closed.idle i waiting, ?_⟩
    intro _ ended
    obtain still | lost := closed.waited i waiting
    · obtain ⟨_, _, asks, -⟩ := waiting
      rw [still, asks] at ended
      cases ended
    rw [lost] at ended
    cases ended
    rw [lostReply, fenced]
    exact respond_fenced s.m s.range (s.request i) (s.arrival i) (s.ticket j) _

omit found

theorem fence_report_truthful (s : Scenario H I) (world : StoreWorld I)
    (found : ∀ entry, world.cells s.key = some entry → entry.writer = none) (past : List (RequestEvent H I))
    (pool next : RequestPool H I) (event : RequestEvent H I) (i : I) (reply : Reply H)
    (run : Run (Step s.semantics) (s.initial world) past pool) (active : ∀ earlier, pool.threads i ≠ .ret earlier)
    (step : Step s.semantics pool event next) (ended : next.threads i = .ret reply) :
    (reply.fence = some true → ∃ entry, Lease.live next.world s.key = some entry ∧
      entry.value = (s.ticket i).fenced ∧ ∀ later last, Run (Step s.semantics) next later last →
        last.world.now < entry.deadline → ∀ k, (∀ op result, Process.Event.act k op result ∉ past ++ [event]) →
          (∀ beat, Process.Event.act k (.start beat) () ∉ later) ∧
          ∀ given, last.threads k = .ret given → ∃ refusal, given.answer = .refused refusal) ∧
    (s.Returned i (past ++ [event]) → reply.answer = .refused .unfenced ∨ s.Protected i next.world) := by
  have consistent := run_consistent _ pool past (initial_consistent world found) run
  constructor
  · intro reported
    obtain ⟨entry, living, fenced, -⟩ := fence_written consistent active step ended reported
    refine ⟨entry, living, fenced, ?_⟩
    intro later last after before k absent
    have whole := Run.snoc run step
    exact fence_refuses world found _ later next last i entry whole living fenced after before k absent
  · exact kept_answer world found past pool next event i reply run active step ended

theorem sample_fence_report : ∃ pool next event,
    Run (Step sampleScenario.semantics) (sampleScenario.initial (sampleWorld 0 none)) (samplePast.take 5) pool ∧
    Step sampleScenario.semantics pool event next ∧ next.threads 1 = .ret sampleReply ∧ sampleReply.fence = some true ∧
    sampleScenario.Returned 1 (samplePast.take 5 ++ [event]) ∧
    (∃ entry, Lease.live next.world sampleScenario.key = some entry ∧
      entry.value = (sampleScenario.ticket 1).fenced) ∧
    (sampleReply.answer = .refused .unfenced ∨ sampleScenario.Protected 1 next.world) := by
  obtain ⟨last, run, -, -, ended, -⟩ := sample_run
  obtain ⟨pool, _, first, step, rest⟩ := Run.at_label _ _ (samplePast.take 5) [] _ run
  cases rest
  obtain ⟨_, stands, -⟩ := act_thread step
  have active : ∀ earlier, pool.threads 1 ≠ .ret earlier := by
    intro _ before
    rw [stands] at before
    cases before
  have returned : sampleScenario.Returned 1 samplePast :=
    ⟨none, sampleOutcome, by simp [samplePast], rfl, by decide, by decide⟩
  obtain ⟨fence, answer⟩ := fence_report_truthful sampleScenario (sampleWorld 0 none) (by simp [sampleWorld])
    (samplePast.take 5) pool last _ 1 sampleReply first active step ended
  obtain ⟨entry, living, fenced, -⟩ := fence rfl
  exact ⟨pool, last, _, first, step, ended, rfl, returned, ⟨entry, living, fenced⟩, answer returned⟩

end Scenario

end LibCommons.Idempotency
