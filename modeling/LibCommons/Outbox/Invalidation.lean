import LibCommons.Outbox.Statements

namespace LibCommons.Outbox

open Checked

def Invalid (table : Table) (id : UUID) : Prop := ∃ row ∈ table.rows, row.event.id = id ∧ row.event.status = .invalid

structure Shift (table after : Table) (spent : List UUID) : Prop where
  named : (∀ row ∈ table.rows, row.event.id ≠ 0) → ∀ row ∈ after.rows, row.event.id ≠ 0
  grows : ∀ row ∈ table.rows, ∃ later ∈ after.rows, later.event.id = row.event.id ∧ row.event.attempts ≤ later.event.attempts
  invalid : ∀ id, Invalid after id ↔ Invalid table id ∨ id ∈ spent
  first : ∀ id ∈ spent, ¬ Invalid table id
  once : spent.Nodup

theorem shift_refl (table) : Shift table table [] where
  named := id
  grows row member := ⟨row, member, rfl, le_refl _⟩
  invalid := by simp
  first := by simp
  once := List.nodup_nil

variable {table : Table}

theorem shift_map {after} {change} {spent} (rows : after.rows = table.rows.map change) (sameID : ∀ row, (change row).event.id = row.event.id)
    (grows : ∀ row ∈ table.rows, row.event.attempts ≤ (change row).event.attempts) (status : ∀ row ∈ table.rows,
      (change row).event.status = .invalid ↔ row.event.status = .invalid ∨ row.event.id ∈ spent)
    (live : ∀ id ∈ spent, ∃ row ∈ table.rows, row.event.id = id ∧ row.event.status ≠ .invalid) (once : spent.Nodup) :
    Shift table after spent := by
  have changed : ∀ row ∈ table.rows, change row ∈ after.rows := fun row member => rows ▸ List.mem_map_of_mem member
  refine ⟨?_, ?_, ?_, ?_, once⟩
  · intro named row member
    rw [rows] at member
    obtain ⟨old, found, rfl⟩ := List.mem_map.mp member
    rw [sameID]
    exact named old found
  · intro row member
    exact ⟨change row, changed row member, sameID row, grows row member⟩
  · intro id
    constructor
    · rintro ⟨row, member, rfl, invalid⟩
      rw [rows] at member
      obtain ⟨old, found, rfl⟩ := List.mem_map.mp member
      rw [sameID]
      exact ((status old found).mp invalid).imp (fun still => ⟨old, found, rfl, still⟩) id
    · rintro (⟨row, member, rfl, invalid⟩ | listed)
      · exact ⟨change row, changed row member, sameID row, (status row member).mpr (Or.inl invalid)⟩
      · obtain ⟨row, member, rfl, _⟩ := live id listed
        exact ⟨change row, changed row member, sameID row, (status row member).mpr (Or.inr listed)⟩
  · rintro id listed ⟨_, found, same, invalid⟩
    obtain ⟨_, member, rfl, alive⟩ := live id listed
    obtain rfl := same_row found member same
    exact alive invalid

theorem picked_live {status} {owned} {events} (picked : Picked table status owned events) (alive : status ≠ .invalid) :
    ∀ id ∈ idsOf events, ∃ row ∈ table.rows, row.event.id = id ∧ row.event.status ≠ .invalid := by
  intro _ listed
  obtain ⟨row, taken, rfl⟩ := List.mem_map.mp listed
  exact ⟨row, picked.inTable row taken, rfl, (picked.sameStatus row taken).symm ▸ alive⟩

section

variable (table after : Table) (status : OutboxEventStatus) (owned : Row → Bool) (events : List Row)
  (assignment : Assignment) (picked : Picked table status owned events) (alive : status ≠ .invalid)
  (rows : after.rows = table.rows.map (touch events assignment))
  (grows : ∀ row, row.event.attempts ≤ (assignment.set row).event.attempts)

include grows in
theorem touch_grows (row) : row.event.attempts ≤ (touch events assignment row).event.attempts := by
  unfold touch
  split
  · exact grows row
  · exact le_refl _

include picked alive rows grows in
theorem touch_spares (valid : ∀ row ∈ events, (assignment.set row).event.status ≠ .invalid) : Shift table after [] := by
  apply shift_map rows (touch_id events assignment) (fun row _ => touch_grows events assignment grows row) _ (by simp) List.nodup_nil
  intro row _
  by_cases taken : row ∈ events
  · rw [touch_taken assignment taken]
    simp [valid row taken, picked.sameStatus row taken, alive]
  · rw [touch_left assignment taken]
    simp

include picked alive rows grows in
theorem touch_spends (spends : ∀ row ∈ events, (assignment.set row).event.status = .invalid) : Shift table after (idsOf events) := by
  apply shift_map rows (touch_id events assignment) (fun row _ => touch_grows events assignment grows row) _ (picked_live picked alive) picked.unique
  intro row member
  rw [picked_member picked member]
  by_cases taken : row ∈ events
  · rw [touch_taken assignment taken]
    simp [spends row taken, taken]
  · rw [touch_left assignment taken]
    simp [taken]

end

def Delivers (after : Table) (events : List Row) : Prop := ∀ row ∈ events, row ∈ after.rows

theorem touch_delivers {table after : Table} {events : List Row} {assignment : Assignment}
    (inTable : ∀ row ∈ events, row ∈ table.rows) (rows : after.rows = table.rows.map (touch events assignment)) :
    Delivers after (events.map assignment.set) := by
  intro row member
  obtain ⟨old, taken, rfl⟩ := List.mem_map.mp member
  rw [rows, ← touch_taken assignment taken]
  exact List.mem_map_of_mem (inTable old taken)

variable (repo : Repository) (tenantID : String) (locked : UUID → Bool) (now : Time) (table after : Table)
  (named : ∀ row ∈ table.rows, row.event.id ≠ 0)

include named in
theorem claim_rows_shift (found key fromStatus owned) (limit : Int) (handed) (alive : fromStatus ≠ .invalid)
    (claimed : claimRows found key fromStatus owned limit locked now table = .ok (after, handed)) :
    Shift table after [] ∧ Delivers after handed := by
  obtain ⟨events, picked, _, rows, rfl⟩ := claim_rows_ok named claimed
  exact ⟨touch_spares table after fromStatus owned events _ picked alive rows (fun _ => le_refl _) (fun _ _ => by simp [assignStatus]),
    touch_delivers picked.inTable rows⟩

include named in
theorem list_pending_shift (limit : Int) (handed) (listed : listPending repo tenantID limit locked now table = .ok (after, handed)) :
    Shift table after [] ∧ Delivers after handed := by
  simp only [listPending, bind_ok_iff] at listed
  obtain ⟨_, _, owned, _, claimed⟩ := listed
  exact claim_rows_shift locked now table after named _ _ .pending owned _ handed (by decide) claimed

include named in
theorem list_pending_by_type_shift (eventType) (limit : Int) (handed)
    (listed : listPendingByType repo tenantID eventType limit locked now table = .ok (after, handed)) :
    Shift table after [] ∧ Delivers after handed := by
  simp only [listPendingByType, bind_ok_iff] at listed
  obtain ⟨_, _, _, _, owned, _, claimed⟩ := listed
  exact claim_rows_shift locked now table after named _ _ .pending owned _ handed (by decide) claimed

include named in
theorem list_pending_by_types_shift (eventTypes) (limit : Int) (handed)
    (listed : listPendingByTypes repo tenantID eventTypes limit locked now table = .ok (after, handed)) :
    Shift table after [] ∧ Delivers after handed := by
  simp only [listPendingByTypes, bind_ok_iff] at listed
  obtain ⟨_, _, _, _, owned, _, claimed⟩ := listed
  have picked := sorted_picked table (fun row => (normalizeEventTypes eventTypes).contains row.event.eventType)
    (priorityOrder (normalizeEventTypes eventTypes)) limit locked .pending owned
  obtain ⟨rows, rfl⟩ := claim_events_ok named picked claimed
  exact ⟨touch_spares table after .pending owned _ _ picked (by decide) rows (fun _ => le_refl _) (fun _ _ => by simp [assignStatus]),
    touch_delivers picked.inTable rows⟩

include named in
theorem reset_for_retry_shift (limit : Int) (failedBefore) (maxAttempts : Int) (handed)
    (reset : resetForRetry repo tenantID limit failedBefore maxAttempts locked now table = .ok (after, handed)) :
    Shift table after [] ∧ Delivers after handed := by
  simp only [resetForRetry, bind_ok_iff] at reset
  obtain ⟨_, _, _, _, owned, _, claimed⟩ := reset
  exact claim_rows_shift locked now table after named _ _ .failed owned _ handed (by decide) claimed

include named in
theorem reclaim_shift (limit : Int) (processingBefore) (maxAttempts : Int) (retry invalid)
    (performed : reclaimStuckProcessing repo tenantID limit processingBefore maxAttempts locked now table = .ok (after, retry, invalid)) :
    Shift table after (idsOf invalid) ∧ Delivers after retry := by
  obtain ⟨_, retried, exhausted, pickedRetry, pickedSpent, left, spent, rows, rfl, rfl⟩ := reclaim_ok named performed
  have ids : idsOf (exhausted.map (assignStuckInvalid now).set) = idsOf exhausted := by simp [idsOf, assignStuckInvalid]
  rw [ids]
  constructor
  · apply shift_map rows (reclaimed_id retried exhausted now) _ _ (picked_live pickedSpent (by decide)) pickedSpent.unique
    · intro row _
      unfold reclaimed
      split
      · simp [assignReprocessing]
      · split <;> simp [assignStuckInvalid]
    · intro row member
      rw [picked_member pickedSpent member]
      unfold reclaimed
      split
      · next retriedRow =>
        have apart : row ∉ exhausted := fun spentRow => by
          have := left row retriedRow
          have := spent row spentRow
          omega
        simp [assignReprocessing, pickedRetry.sameStatus row retriedRow, apart]
      · split
        · next spentRow => simp [assignStuckInvalid, spentRow]
        · next left => simp [left]
  · intro _ member
    obtain ⟨old, taken, rfl⟩ := List.mem_map.mp member
    have same : reclaimed retried exhausted now old = (assignReprocessing now).set old := if_pos taken
    rw [rows, ← same]
    exact List.mem_map_of_mem (pickedRetry.inTable old taken)

theorem picked_single (row status) (member : row ∈ table.rows)
    (sameStatus : row.event.status = status) : Picked table status (fun _ => true) [row] := by
  refine ⟨?_, ?_, ?_, ?_⟩ <;> simp [member, sameStatus, idsOf]

theorem mark_published_shift (id publishedAt) (marked : markPublished repo tenantID id publishedAt now table = .ok after) : Shift table after [] := by
  simp only [markPublished, bind_ok_iff] at marked
  obtain ⟨_, _, _, _, marked⟩ := marked
  obtain ⟨row, member, _, processing, rows⟩ := mark_event_ok marked
  exact touch_spares table after .processing _ [row] _ (picked_single table row .processing member processing)
    (by decide) rows (fun _ => le_refl _) (fun _ _ => by simp [assignPublished])

theorem mark_invalid_shift (id errMsg) (marked : markInvalid repo tenantID id errMsg now table = .ok after) : Shift table after [id] := by
  simp only [markInvalid, bind_ok_iff] at marked
  obtain ⟨_, _, _, _, marked⟩ := marked
  obtain ⟨row, member, rfl, processing, rows⟩ := mark_event_ok marked
  exact touch_spends table after .processing _ [row] _ (picked_single table row .processing member processing)
    (by decide) rows (fun _ => le_refl _) (fun _ _ => by simp [assignInvalid])

theorem mark_failed_shift (id errMsg) (maxAttempts : Int) (marked : markFailed repo tenantID id errMsg maxAttempts now table = .ok after) :
    ∃ row ∈ table.rows, ∃ later ∈ after.rows, row.event.id = id ∧ row.event.status = .processing ∧ later.event.id = id ∧
      (maxAttempts ≤ row.event.attempts + 1 ∧ later.event.status = .invalid ∧ Shift table after [id] ∨
        row.event.attempts + 1 < maxAttempts ∧ later.event.status = .failed ∧ Shift table after []) := by
  simp only [markFailed, bind_ok_iff] at marked
  obtain ⟨_, _, _, _, _, _, _, _, marked⟩ := marked
  obtain ⟨row, member, rfl, processing, rows⟩ := mark_event_ok marked
  have picked := picked_single table row .processing member processing
  have delivered := touch_delivers picked.inTable rows _ (List.mem_map_of_mem (List.mem_singleton_self row))
  refine ⟨row, member, _, delivered, rfl, processing, rfl, ?_⟩
  have grows : ∀ other : Row, other.event.attempts ≤
      ((assignFailed maxAttempts (boundErrorCause (repo.sanitizeErrorMessageForStorage errMsg)) now).set
        other).event.attempts := fun other => by simp [assignFailed]
  by_cases spent : maxAttempts ≤ row.event.attempts + 1
  · left
    refine ⟨spent, by simp [assignFailed, spent], ?_⟩
    exact touch_spends table after .processing _ [row] _ picked (by decide) rows grows (by simp [assignFailed, spent])
  right
  refine ⟨not_le.mp spent, by simp [assignFailed, spent], ?_⟩
  exact touch_spares table after .processing _ [row] _ picked (by decide) rows grows (by simpa [assignFailed] using spent)

theorem create_shift (event) (created : create repo tenantID event now table = .ok after) : Shift table after [] := by
  obtain ⟨_, rows, named, _, pending, _⟩ := create_ok created
  refine ⟨?_, ?_, ?_, by simp, List.nodup_nil⟩
  · rw [rows]
    simpa using fun namedRows => And.intro named namedRows
  · intro other member
    exact ⟨other, by simp [rows, member], rfl, le_refl _⟩
  · simp [Invalid, rows, pending]

end LibCommons.Outbox
