import LibCommons.Idempotency.Protocol

namespace LibCommons.Idempotency

open Lease

open Process (Step)

-- Any number of mutating requests under one key of one middleware; owners are UUIDs.
structure Scenario (H I : Type) where
  m : Middleware H
  range : MapRange
  key : String
  request : I → Request
  arrival : I → Response H
  owner : I → String
  lifetime : Lifetime
  faults : Bool
  stored : m.hasStore = true
  carries : ∀ i, Carries m key (request i)
  distinct : Function.Injective owner

abbrev RequestPool (H I : Type) := Process.Pool I (StoreWorld I) Op (Res H) (Reply H)

abbrev RequestEvent (H I : Type) := Process.Event I Op (Res H)

namespace Scenario

variable {H I : Type} [ResponseHeader H] (s : Scenario H I)

def semantics : Process.Semantics I (StoreWorld I) Op (Res H) := storeSemantics H s.lifetime s.faults

def ticket (i : I) : Ticket := { key := s.key, fingerprint := fingerprintOf s.m (s.request i), owner := s.owner i }

def initial (world : StoreWorld I) : RequestPool H I :=
  { world := world, threads := fun i => handle s.m s.range (s.request i) (s.owner i) (s.arrival i) }

def Waits (i : I) (program : RequestProg H) : Prop := Waiting s.m s.range (s.request i) (s.arrival i) (s.ticket i) program

def Holds (i : I) (program : RequestProg H) : Prop := Holding (s.ticket i) (Kept s.m (s.request i)) program

def lostReply (i : I) (stored : Bytes) : Reply H := respondStored s.m s.range (s.request i) (s.arrival i) (s.ticket i).fingerprint stored

-- What is so of every reachable pool of requests and of what each wrote.
structure Consistent (pool : RequestPool H I) : Prop where
  typed : ∀ i, (∃ reply, pool.threads i = .ret reply) ∨ s.Waits i (pool.threads i) ∨ s.Holds i (pool.threads i)
  written : ∀ entry j, pool.world.cells s.key = some entry → entry.writer = some j →
    entry.value = (s.ticket j).processing ∨ (s.ticket j).Finished entry.value
  inherited : ∀ entry, pool.world.cells s.key = some entry → entry.writer = none →
    ∀ i, (∃ reply, pool.threads i = .ret reply) ∨ s.Waits i (pool.threads i)

def WrittenBy (i : I) : RequestEvent H I → Prop
  | .act j (.complete _ _ _ _) _ => i = j
  | .act j (.release _ _) _ => i = j
  | .wait j _ => i = j
  | _ => False

inductive Change (pool next : RequestPool H I) (event : RequestEvent H I) : Prop where
  | calm (same : next.world.cells = pool.world.cells) (later : pool.world.now ≤ next.world.now)
  | created (i : I) (current : Bytes) (lease : Duration)
      (asked : event = .act i (.acquire s.key (s.ticket i).processing lease) (.ok (current, true)))
      (free : live pool.world s.key = none)
      (taken : next.world = put pool.world s.key (some ⟨(s.ticket i).processing, pool.world.now + s.lifetime.ticks lease, some i⟩))
  | swapped (i : I) (entry : Entry I Bytes) (final : Option (Entry I Bytes))
      (found : live pool.world s.key = some entry) (expected : entry.value = (s.ticket i).processing)
      (own : entry.writer = some i) (wrote : WrittenBy i event) (done : next.world = put pool.world s.key final)
      (left : ∀ after ∈ final, after.writer = some i ∧ (after.value = (s.ticket i).processing ∨ (s.ticket i).Finished after.value))

variable {s} {i : I} {event : RequestEvent H I}

omit [ResponseHeader H] in
theorem written_unique {j} (first : WrittenBy i event) (second : WrittenBy j event) : i = j := by
  unfold WrittenBy at first second
  split at first <;> simp_all

variable {op : Op} {onward : Res H op → RequestProg H}

theorem waits_call (waits : s.Waits i (.call op onward)) : ∃ lease, op = .acquire s.key (s.ticket i).processing lease ∧ 0 < lease := by
  obtain ⟨lease, _, same, positive, -⟩ := waits
  cases same
  exact ⟨lease, rfl, positive⟩

theorem waits_exec (waits : s.Waits i (.call op onward)) {world after} {result} (done : s.semantics.exec i op world result after) :
    (∃ entry lease, (Process.Event.act i op result : RequestEvent H I) =
        .act i (.acquire s.key (s.ticket i).processing lease) (.ok (entry.value, false)) ∧
      live world s.key = some entry ∧ after = world ∧ onward result = .ret (s.lostReply i entry.value)) ∨
    ∃ lease current, (Process.Event.act i op result : RequestEvent H I) =
        .act i (.acquire s.key (s.ticket i).processing lease) (.ok (current, true)) ∧
      live world s.key = none ∧ s.Holds i (onward result) ∧ after = put world s.key
        (some ⟨(s.ticket i).processing, world.now + s.lifetime.ticks lease, some i⟩) := by
  obtain ⟨lease, _, same, positive, won, lost⟩ := waits
  cases same
  simp only [semantics, storeSemantics, StoreExec, if_pos positive, Acquires] at done
  split at done
  · rename_i entry found
    obtain ⟨rfl, same⟩ := done
    exact .inl ⟨entry, lease, rfl, found, same, lost entry.value⟩
  · rename_i free
    obtain ⟨⟨current, rfl⟩, taken⟩ := done
    exact .inr ⟨lease, current, rfl, free, won current, taken⟩

omit [ResponseHeader H] in
theorem holds_next (holds : s.Holds i (.call op onward)) (result : Res H op) : (∃ reply, onward result = .ret reply) ∨ s.Holds i (onward result) := by
  cases op with
  | acquire => exact holds.elim
  | start => exact .inr (holds.2 result)
  | await | release => exact .inr (holds.2.2 result)
  | complete =>
    by_cases worked : result = .ok true
    · obtain ⟨reply, ended, -⟩ := holds.2.1
      exact .inl ⟨reply, by rw [worked, ended]⟩
    · exact .inr (holds.2.2 result worked)

variable {pool : RequestPool H I}

theorem typed_call (consistent : s.Consistent pool) (stands : pool.threads i = .call op onward) :
    s.Waits i (.call op onward) ∨ s.Holds i (.call op onward) := by
  have typed := consistent.typed i
  rw [stands] at typed
  obtain ⟨reply, ended⟩ | typed := typed
  · cases ended
  · exact typed

theorem call_holds (consistent : s.Consistent pool) (stands : pool.threads i = .call op onward)
    (other : ∀ key candidate ttl, op ≠ .acquire key candidate ttl) : s.Holds i (.call op onward) := by
  obtain waits | holds := typed_call consistent stands
  · obtain ⟨_, asked, -⟩ := waits_call waits
    exact absurd asked (other _ _ _)
  · exact holds

theorem own_entry (consistent : s.Consistent pool) (stands : pool.threads i = .call op onward)
    (holds : s.Holds i (.call op onward)) {entry} (found : pool.world.cells s.key = some entry)
    (expected : entry.value = (s.ticket i).processing) : entry.writer = some i := by
  cases wrote : entry.writer with
  | none =>
    obtain ⟨reply, ended⟩ | waits := consistent.inherited entry found wrote i
    · rw [stands] at ended
      cases ended
    · rw [stands] at waits
      obtain ⟨_, rfl, -⟩ := waits_call waits
      exact holds.elim
  | some j =>
    obtain same | finished := consistent.written entry j found wrote
    · rw [expected] at same
      have owner : s.owner i = s.owner j := Ticket.processing_owner same
      rw [s.distinct owner]
    · rw [expected] at finished
      exact (Ticket.finished_not_processing finished).elim

variable {next : RequestPool H I}

omit [ResponseHeader H] in
theorem calm_of_same (same : next.world = pool.world) : s.Change pool next event := .calm (by rw [same]) (by rw [same])

theorem swap_change (consistent : s.Consistent pool) (stands : pool.threads i = .call op onward)
    (holds : s.Holds i (.call op onward)) {faults : Bool} {after : Entry I Bytes → Option (Entry I Bytes)}
    {result : Except StoreError Bool} (wrote : WrittenBy i event)
    (swapped : Swaps faults s.key (s.ticket i).processing after pool.world result next.world)
    (left : ∀ entry, entry.writer = some i → ∀ written ∈ after entry, written.writer = some i ∧
      (written.value = (s.ticket i).processing ∨ (s.ticket i).Finished written.value)) : s.Change pool next event := by
  obtain ⟨same, -⟩ | ⟨entry, found, expected, done⟩ := swaps_cases swapped
  · exact calm_of_same same
  · have own := own_entry consistent stands holds (live_some found).1 expected
    exact .swapped i entry (after entry) found expected own wrote done (left entry own)

variable [DecidableEq I]

theorem step_change (consistent : s.Consistent pool) (step : Step s.semantics pool event next) : s.Change pool next event := by
  cases step with
  | act i op _ _ _ stands done =>
    obtain waits | holds := typed_call consistent stands
    · obtain ⟨entry, lease, -, -, same, -⟩ | ⟨lease, current, asked, free, -, taken⟩ := waits_exec waits done
      · exact calm_of_same same
      · exact .created i current lease asked free taken
    cases op with
    | acquire => exact holds.elim
    | start | await => exact calm_of_same done
    | complete =>
      obtain ⟨⟨rfl, rfl, finished, positive⟩, -⟩ := id holds
      simp only [semantics, storeSemantics, StoreExec, if_pos positive] at done
      refine swap_change consistent stands holds rfl done ?_
      intro entry own written present
      cases present
      exact ⟨own, .inr finished⟩
    | release =>
      obtain ⟨rfl, rfl, -⟩ := id holds
      refine swap_change consistent stands holds rfl done ?_
      intro _ own _ present
      cases present
  | wait _ op _ _ stands moved =>
    obtain waits | holds := typed_call consistent stands
    · obtain ⟨_, rfl, -⟩ := waits_call waits
      exact calm_of_same moved
    cases op with
    | await beat =>
      cases beat with
      | none => exact calm_of_same moved
      | some beat =>
        obtain ⟨_, swapped⟩ := moved
        obtain ⟨keyed, own, -⟩ := holds.1 beat rfl
        rw [keyed, own] at swapped
        refine swap_change consistent stands holds rfl swapped ?_
        intro _ wrote _ present
        cases present
        exact ⟨wrote, .inl rfl⟩
    | acquire => exact holds.elim
    | start | complete | release => exact calm_of_same moved
  | drift _ moved => exact .calm moved.1 moved.2

theorem typed_step (consistent : s.Consistent pool) (step : Step s.semantics pool event next) (i : I) :
    (∃ reply, next.threads i = .ret reply) ∨ s.Waits i (next.threads i) ∨ s.Holds i (next.threads i) := by
  obtain same | ⟨_, _, result, rfl, stands, went, done⟩ := Process.thread_step step i
  · rw [same]
    exact consistent.typed i
  rw [went]
  obtain waits | holds := typed_call consistent stands
  · obtain ⟨_, _, -, -, -, ended⟩ | ⟨_, _, -, -, holds, -⟩ := waits_exec waits done
    · exact .inl ⟨_, ended⟩
    · exact .inr (.inr holds)
  · exact (holds_next holds result).imp id .inr

theorem consistent_step (consistent : s.Consistent pool) (step : Step s.semantics pool event next) : s.Consistent next := by
  have change := step_change consistent step
  refine ⟨typed_step consistent step, ?_, ?_⟩
  · intro entry j found wrote
    cases change with
    | calm same =>
      rw [same] at found
      exact consistent.written entry j found wrote
    | created _ _ _ _ _ taken =>
      rw [taken, cells_put_same] at found
      cases found
      cases wrote
      exact .inl rfl
    | swapped _ _ _ _ _ _ _ done left =>
      rw [done, cells_put_same] at found
      obtain ⟨writer, value⟩ := left entry found
      rw [wrote] at writer
      cases writer
      exact value
  · intro entry found nobody i
    have before : pool.world.cells s.key = some entry := by
      cases change with
      | calm same => rwa [same] at found
      | created _ _ _ _ _ taken =>
        rw [taken, cells_put_same] at found
        cases found
        cases nobody
      | swapped _ _ _ _ _ _ _ done left =>
        rw [done, cells_put_same] at found
        rw [(left entry found).1] at nobody
        cases nobody
    obtain same | ⟨_, _, _, rfl, stands, went, done⟩ := Process.thread_step step i
    · rw [same]
      exact consistent.inherited entry before nobody i
    obtain ⟨reply, ended⟩ | waits := consistent.inherited entry before nobody i
    · rw [stands] at ended
      cases ended
    -- An Acquire that won would have left an entry with a writer.
    rw [stands] at waits
    obtain ⟨_, _, -, -, -, ended⟩ | ⟨_, _, -, -, -, taken⟩ := waits_exec waits done
    · exact .inl ⟨_, went.trans ended⟩
    · rw [taken, cells_put_same] at found
      cases found
      cases nobody

omit [DecidableEq I] in
theorem initial_consistent (world : StoreWorld I)
    (found : ∀ entry, world.cells s.key = some entry → entry.writer = none) : s.Consistent (s.initial world) := by
  have arrives : ∀ i, (∃ reply, (s.initial world).threads i = .ret reply) ∨ s.Waits i ((s.initial world).threads i) := by
    intro i
    obtain ⟨reply, -, ended, -⟩ | waits := handle_carries s.m s.range (s.request i) (s.arrival i) s.key (s.owner i) s.stored (s.carries i)
    · exact .inl ⟨reply, ended⟩
    · exact .inr waits
  refine ⟨fun i => (arrives i).imp id .inl, ?_, fun _ _ _ => arrives⟩
  intro entry _ present wrote
  rw [found entry present] at wrote
  cases wrote

theorem run_consistent (pool last : RequestPool H I) (labels : List (RequestEvent H I)) (consistent : s.Consistent pool)
    (run : Run (Step s.semantics) pool labels last) : s.Consistent last :=
  Run.invariant s.Consistent (fun _ _ _ => consistent_step) pool last labels run consistent

end Scenario

end LibCommons.Idempotency
