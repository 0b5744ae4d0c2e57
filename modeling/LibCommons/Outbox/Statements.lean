import LibCommons.Outbox.Postgres

namespace LibCommons.Outbox

open Checked List

def idsOf (rows : List Row) : List UUID := rows.map fun row => row.event.id

variable {table : Table} {row : Row}

theorem same_row {other} (member : row ∈ table.rows) (found : other ∈ table.rows) (same : row.event.id = other.event.id) : row = other :=
  inj_on_of_nodup_map table.unique member found same

def touch (events : List Row) (assignment : Assignment) (row : Row) : Row :=
  if row ∈ events then assignment.set row else row

@[simp] theorem touch_id (events : List Row) (assignment : Assignment) (row : Row) :
    (touch events assignment row).event.id = row.event.id := by
  unfold touch
  split
  · exact assignment.keepsID row
  · rfl

variable {events : List Row} (assignment : Assignment)

theorem touch_taken (taken : row ∈ events) : touch events assignment row = assignment.set row := if_pos taken

theorem touch_left (left : row ∉ events) : touch events assignment row = row := if_neg left

@[simp] theorem touch_none : touch [] assignment = id := by
  funext row
  exact touch_left assignment (by simp)

structure Picked (table : Table) (status : OutboxEventStatus) (owned : Row → Bool) (events : List Row) : Prop where
  inTable : ∀ row ∈ events, row ∈ table.rows
  sameStatus : ∀ row ∈ events, row.event.status = status
  sameTenant : ∀ row ∈ events, owned row = true
  unique : (idsOf events).Nodup

variable {status : OutboxEventStatus} {owned : Row → Bool}

theorem picked_sublist {part} (picked : Picked table status owned events) (sublist : part.Sublist events) : Picked table status owned part where
  inTable row member := picked.inTable row (sublist.subset member)
  sameStatus row member := picked.sameStatus row (sublist.subset member)
  sameTenant row member := picked.sameTenant row (sublist.subset member)
  unique := (sublist.map _).nodup picked.unique

theorem picked_member (picked : Picked table status owned events) (member : row ∈ table.rows) : row.event.id ∈ idsOf events ↔ row ∈ events := by
  constructor
  · intro listed
    obtain ⟨other, found, same⟩ := mem_map.mp listed
    exact same_row member (picked.inTable other found) same.symm ▸ found
  · exact mem_map_of_mem

section

variable (table : Table) (found : Row → Bool) (order : Row → Row → Prop) [DecidableRel order] (limit : Int)
  (locked : UUID → Bool)

theorem mem_sorted (row : Row)
    (member : row ∈ ((table.rows.filter fun row => found row && !locked row.event.id).insertionSort order).take limit.toNat) :
    row ∈ table.rows ∧ found row = true := by
  have sorted := mem_of_mem_take member
  rw [mem_insertionSort, mem_filter] at sorted
  exact ⟨sorted.1, (Bool.and_eq_true_iff.mp sorted.2).1⟩

theorem sorted_unique : (idsOf (((table.rows.filter fun row => found row && !locked row.event.id).insertionSort order).take limit.toNat)).Nodup := by
  have filtered : (idsOf (table.rows.filter fun row => found row && !locked row.event.id)).Nodup := (filter_sublist.map _).nodup table.unique
  have sorted : (idsOf ((table.rows.filter fun row => found row && !locked row.event.id).insertionSort order)).Nodup :=
    ((perm_insertionSort _ _).map _).nodup_iff.mpr filtered
  exact ((take_sublist _ _).map _).nodup sorted

theorem sorted_picked (status : OutboxEventStatus) (owned : Row → Bool) : Picked table status owned
      (((table.rows.filter fun row => (row.event.status = status && found row && owned row) && !locked row.event.id).insertionSort
        order).take limit.toNat) := by
  have fits : ∀ row ∈ ((table.rows.filter fun row =>
      (row.event.status = status && found row && owned row) && !locked row.event.id).insertionSort order).take limit.toNat,
      row ∈ table.rows ∧ (row.event.status = status ∧ found row = true) ∧ owned row = true := by
    intro row member
    simpa only [Bool.and_eq_true, decide_eq_true_eq] using mem_sorted table _ order limit locked row member
  exact ⟨fun row member => (fits row member).1, fun row member => (fits row member).2.1.1,
    fun row member => (fits row member).2.2, sorted_unique table _ order limit locked⟩

end

variable {events : List Row}

theorem collect_ids (named : ∀ row ∈ events, row.event.id ≠ 0) : collectEventIDs events = idsOf events := by
  refine filter_eq_self.mpr fun id member => ?_
  obtain ⟨row, found, rfl⟩ := mem_map.mp member
  simpa using named row found

variable {table after : Table} {assignment : Assignment}

theorem exec_update_ok {guard} {count} (updated : execUpdate table guard assignment = .ok (after, count)) :
    after = table.update guard assignment ∧ count = (table.rows.filter guard).length := by
  unfold execUpdate at updated
  split at updated
  · cases updated
  · cases updated
    exact ⟨rfl, rfl⟩

variable {status : OutboxEventStatus} {owned : Row → Bool}

theorem update_picked (assignment : Assignment) (picked : Picked table status owned events) :
    (table.update (whereIDs (idsOf events) status owned) assignment).rows = table.rows.map (touch events assignment) := by
  apply map_congr_left
  intro row member
  have listed := picked_member picked member
  by_cases taken : row ∈ events
  · rw [touch_taken assignment taken]
    apply guarded_taken
    simp [whereIDs, listed.mpr taken, picked.sameStatus row taken, picked.sameTenant row taken]
  · rw [touch_left assignment taken]
    apply guarded_left
    simp [whereIDs, mt listed.mp taken]

variable {now : Time} {fromStatus : OutboxEventStatus} {ids : List UUID}

theorem mark_events_ok (marked : markEventsWithStatus now status ids owned fromStatus table = .ok after) :
    after = table.update (whereIDs ids fromStatus owned) (assignStatus status now) := by
  simp only [markEventsWithStatus, bind_ok_iff, pure_ok_iff] at marked
  obtain ⟨_, _, ⟨_, _⟩, executed, _, _, rfl⟩ := marked
  exact (exec_update_ok executed).1

theorem mark_stuck_ok (marked : markStuckEventsReprocessing now ids owned table = .ok after) :
    after = table.update (whereIDs ids .processing owned) (assignReprocessing now) := by
  simp only [markStuckEventsReprocessing, bind_ok_iff, pure_ok_iff] at marked
  obtain ⟨_, _, ⟨_, _⟩, executed, _, _, rfl⟩ := marked
  exact (exec_update_ok executed).1

theorem mark_exhausted_ok (marked : markStuckEventsInvalid now ids owned table = .ok after) :
    after = table.update (whereIDs ids .processing owned) (assignStuckInvalid now) := by
  simp only [markStuckEventsInvalid, bind_ok_iff, pure_ok_iff] at marked
  obtain ⟨_, _, ⟨_, _⟩, executed, _, _, rfl⟩ := marked
  exact (exec_update_ok executed).1

theorem unless_empty_ok {mark} (named : ∀ row ∈ table.rows, row.event.id ≠ 0) (picked : Picked table status owned events)
    (marks : mark table = .ok after → after = table.update (whereIDs (collectEventIDs events) status owned) assignment)
    (marked : unlessEmpty (collectEventIDs events) mark table = .ok after) :
    after.rows = table.rows.map (touch events assignment) := by
  have ids := collect_ids fun row taken => named row (picked.inTable row taken)
  unfold unlessEmpty at marked
  split at marked
  · rw [marks marked, ids, update_picked assignment picked]
  next empty =>
  obtain rfl : events = [] := by simpa [ids, idsOf] using empty
  cases marked
  simp

variable {handed : List Row}

theorem claim_events_ok (named : ∀ row ∈ table.rows, row.event.id ≠ 0) (picked : Picked table fromStatus owned events)
    (claimed : claimEvents events fromStatus owned now table = .ok (after, handed)) :
    after.rows = table.rows.map (touch events (assignStatus .processing now)) ∧ handed = events.map (assignStatus .processing now).set := by
  have ids := collect_ids fun row taken => named row (picked.inTable row taken)
  unfold claimEvents at claimed
  simp only [ids] at claimed
  split at claimed
  · next empty =>
    obtain rfl : events = [] := by simpa [idsOf] using empty
    cases claimed
    simp
  simp only [bind_ok_iff, pure_ok_iff, Prod.mk.injEq] at claimed
  obtain ⟨_, statement, rfl, rfl⟩ := claimed
  rw [mark_events_ok statement]
  exact ⟨update_picked _ picked, rfl⟩

variable {limit : Int} {locked : UUID → Bool}

theorem claim_rows_ok {found} {key} (named : ∀ row ∈ table.rows, row.event.id ≠ 0)
    (claimed : claimRows found key fromStatus owned limit locked now table = .ok (after, handed)) :
    ∃ events, Picked table fromStatus owned events ∧ (∀ row ∈ events, found row = true) ∧
      after.rows = table.rows.map (touch events (assignStatus .processing now)) ∧
      handed = events.map (assignStatus .processing now).set := by
  have picked := sorted_picked table found (fun first second => key first ≤ key second) limit locked fromStatus owned
  refine ⟨_, picked, ?_, claim_events_ok named picked claimed⟩
  intro row member
  have fits := (mem_sorted table _ _ limit locked row member).2
  simp only [Bool.and_eq_true] at fits
  exact fits.1.2

theorem split_picked (maxAttempts : Int) (picked : Picked table status owned events) :
    Picked table status owned (splitStuckEvents events maxAttempts).1 ∧ Picked table status owned (splitStuckEvents events maxAttempts).2 ∧
      (∀ row ∈ (splitStuckEvents events maxAttempts).1, row.event.attempts + 1 < maxAttempts) ∧
      ∀ row ∈ (splitStuckEvents events maxAttempts).2, maxAttempts ≤ row.event.attempts + 1 := by
  refine ⟨picked_sublist picked filter_sublist, picked_sublist picked filter_sublist, ?_, ?_⟩
  · intro row member
    simpa using (Bool.and_eq_true_iff.mp (mem_filter.mp member).2).2
  · intro row member
    simpa using (Bool.and_eq_true_iff.mp (mem_filter.mp member).2).2

def reclaimed (retried exhausted : List Row) (now : Time) (row : Row) : Row :=
  if row ∈ retried then (assignReprocessing now).set row
  else if row ∈ exhausted then (assignStuckInvalid now).set row
  else row

@[simp] theorem reclaimed_id (retried exhausted : List Row) (now : Time) (row : Row) :
    (reclaimed retried exhausted now row).event.id = row.event.id := by
  unfold reclaimed
  split
  · rfl
  · split <;> rfl

variable {repo : Repository} {tenantID : String}

theorem reclaim_ok {processingBefore} {maxAttempts} {retryEvents exhaustedEvents} (named : ∀ row ∈ table.rows, row.event.id ≠ 0)
    (performed : reclaimStuckProcessing repo tenantID limit processingBefore maxAttempts locked now table =
      .ok (after, retryEvents, exhaustedEvents)) :
    ∃ owned retried exhausted, Picked table .processing owned retried ∧ Picked table .processing owned exhausted ∧
      (∀ row ∈ retried, row.event.attempts + 1 < maxAttempts) ∧
      (∀ row ∈ exhausted, maxAttempts ≤ row.event.attempts + 1) ∧
      after.rows = table.rows.map (reclaimed retried exhausted now) ∧
      retryEvents = retried.map (assignReprocessing now).set ∧
      exhaustedEvents = exhausted.map (assignStuckInvalid now).set := by
  simp only [reclaimStuckProcessing, bind_ok_iff, pure_ok_iff, Prod.mk.injEq] at performed
  obtain ⟨_, _, _, _, owned, _, first, marked, _, exhausted, rfl, rfl, rfl⟩ := performed
  have picked : Picked table .processing owned (selectRows table
      (fun row => row.event.status = .processing && row.event.updatedAt ≤ processingBefore && owned row)
      (fun row => row.event.updatedAt) limit locked) :=
    sorted_picked table (fun row => row.event.updatedAt ≤ processingBefore) _ limit locked .processing owned
  generalize selectRows table _ _ limit locked = events at picked marked exhausted
  obtain ⟨pickedRetry, pickedSpent, left, spent⟩ := split_picked maxAttempts picked
  refine ⟨owned, _, _, pickedRetry, pickedSpent, left, spent, ?_, rfl, rfl⟩
  generalize (splitStuckEvents events maxAttempts).1 = retried at pickedRetry left marked
  generalize (splitStuckEvents events maxAttempts).2 = spentRows at pickedSpent spent exhausted
  have firstRows := unless_empty_ok named pickedRetry (mark_stuck_ok) marked
  have apart : ∀ row ∈ spentRows, row ∉ retried := by
    intro row member retriedRow
    have := left row retriedRow
    have := spent row member
    omega
  -- The exhausted rows are where the first statement found them.
  have pickedAgain : Picked first .processing owned spentRows := by
    refine ⟨?_, pickedSpent.sameStatus, pickedSpent.sameTenant, pickedSpent.unique⟩
    intro row member
    rw [firstRows, ← touch_left (assignReprocessing now) (apart row member)]
    exact mem_map_of_mem (pickedSpent.inTable row member)
  have namedAgain : ∀ row ∈ first.rows, row.event.id ≠ 0 := by
    intro row member
    rw [firstRows] at member
    obtain ⟨old, found, rfl⟩ := mem_map.mp member
    simpa using named old found
  have secondRows := unless_empty_ok namedAgain pickedAgain (mark_exhausted_ok) exhausted
  rw [secondRows, firstRows, map_map]
  apply map_congr_left
  intro row member
  rw [Function.comp_apply, reclaimed]
  split
  · next retriedRow =>
    rw [touch_taken _ retriedRow]
    apply touch_left
    intro again
    have same := same_row (pickedSpent.inTable _ again) member rfl
    exact apart row (same ▸ again) retriedRow
  · next notRetried => rw [touch_left _ notRetried, touch]

theorem mark_event_ok {id} (marked : markEvent repo tenantID id assignment table = .ok after) :
    ∃ row ∈ table.rows, row.event.id = id ∧ row.event.status = .processing ∧ after.rows = table.rows.map (touch [row] assignment) := by
  simp only [markEvent, bind_ok_iff, pure_ok_iff, ensureRowsAffected, refuse_ok_iff] at marked
  obtain ⟨_, _, ⟨_, _⟩, executed, _, affected, rfl⟩ := marked
  obtain ⟨rfl, rfl⟩ := exec_update_ok executed
  obtain ⟨row, hit⟩ := exists_mem_of_ne_nil _ (mt length_eq_zero_iff.mpr affected)
  obtain ⟨member, guard⟩ := mem_filter.mp hit
  have fits := guard
  simp only [Bool.and_eq_true, decide_eq_true_eq] at fits
  refine ⟨row, member, fits.1.1, fits.1.2, ?_⟩
  apply map_congr_left
  intro other found
  by_cases same : other = row
  · subst same
    rw [touch_taken assignment (by simp)]
    exact guarded_taken _ guard
  rw [touch_left assignment (by simpa using same)]
  apply guarded_left
  have distinct : other.event.id ≠ id := fun equal => same (same_row found member (equal.trans fits.1.1.symm))
  simp [distinct]

theorem create_ok {event} (created : create repo tenantID event now table = .ok after) :
    ∃ row : Row, after.rows = row :: table.rows ∧ row.event.id ≠ 0 ∧ row.event.id ∉ idsOf table.rows ∧
      row.event.status = .pending ∧ row.event.attempts = 0 := by
  simp only [create, validateCreateEvent, bind_ok_iff, refuse_ok_iff] at created
  obtain ⟨_, ⟨_, named, _⟩, _, _, _, _, inserted⟩ := created
  split at inserted
  · next fresh =>
    cases inserted
    exact ⟨_, rfl, named, fresh, rfl, rfl⟩
  · cases inserted

end LibCommons.Outbox
