import LibCommons.Lib.Checked
import LibCommons.Outbox.Event

namespace LibCommons.Outbox

open Checked

inductive RepositoryError where
  | stateTransitionConflict
  | limitMustBePositive
  | idRequired
  | aggregateIDRequired
  | maxAttemptsMustBePositive
  | eventTypeRequired
  | tenantIDRequired
  | payloadRequired
  | payloadTooLarge
  | payloadNotJSON
  | transitionInvalid (status next : OutboxEventStatus)
  -- The database's own refusals: SQLSTATE 22001 and 23505.
  | valueTooLong
  | duplicateKey
deriving DecidableEq, Repr

-- The configuration the statements read, with two library calls.
structure Repository where
  tenantColumn : Bool
  requireTenant : Bool
  sanitizeErrorMessageForStorage : String → String
  jsonValid : List UInt8 → Bool

structure Table where
  rows : List Row
  unique : (rows.map fun row => row.event.id).Nodup

-- What an UPDATE assigns; no statement of the repository assigns the key.
structure Assignment where
  set : Row → Row
  keepsID : ∀ row, (set row).event.id = row.event.id

def Assignment.guarded (assignment : Assignment) (guard : Row → Bool) : Row → Row :=
  fun row => if guard row then assignment.set row else row

variable (assignment : Assignment)

theorem guarded_id (guard : Row → Bool) (row : Row) : (assignment.guarded guard row).event.id = row.event.id := by
  unfold Assignment.guarded
  split
  · exact assignment.keepsID row
  · rfl

variable {guard : Row → Bool} {row : Row}

theorem guarded_taken (taken : guard row = true) : assignment.guarded guard row = assignment.set row := by
  simp [Assignment.guarded, taken]

theorem guarded_left (left : guard row = false) : assignment.guarded guard row = row := by
  simp [Assignment.guarded, left]

variable (table : Table)

def Table.update (guard : Row → Bool) (assignment : Assignment) : Table where
  rows := table.rows.map (assignment.guarded guard)
  unique := by
    have same : (table.rows.map (assignment.guarded guard)).map (fun row => row.event.id) = table.rows.map fun row => row.event.id := by
      rw [List.map_map]
      exact List.map_congr_left fun row _ => guarded_id assignment guard row
    rw [same]
    exact table.unique

-- VARCHAR(512) refuses a longer value instead of cutting it.
def tooLong (row : Row) : Bool := row.event.lastError.any fun text => maxLastErrorLength < text.length

def execUpdate (guard : Row → Bool) (assignment : Assignment) : Except RepositoryError (Table × Nat) :=
  if (table.rows.filter guard).any (fun row => tooLong (assignment.set row)) then .error .valueTooLong
  else .ok (table.update guard assignment, (table.rows.filter guard).length)

def ensureRowsAffected (rows : Nat) : Except RepositoryError Unit := refuse (rows = 0) .stateTransitionConflict

def ensureRowsAffectedExact (rows expected : Nat) : Except RepositoryError Unit := refuse (rows ≠ expected) .stateTransitionConflict

def validateOutboxTransition (status next : OutboxEventStatus) : Except RepositoryError Unit :=
  refuse (!status.canTransitionTo next) (.transitionInvalid status next)

variable (repo : Repository) (tenantID : String)

-- The condition tenantFilterClause adds to a WHERE clause.
def tenantFilterClause : Except RepositoryError (Row → Bool) := do
  refuse ((repo.tenantColumn || repo.requireTenant) && tenantID = "") .tenantIDRequired
  return fun row => !repo.tenantColumn || row.tenantID = tenantID

-- ORDER BY key ASC LIMIT limit FOR UPDATE SKIP LOCKED; locked are the rows of other transactions.
def selectRows (found : Row → Bool) (key : Row → Time) (limit : Int) (locked : UUID → Bool) : List Row :=
  ((table.rows.filter fun row => found row && !locked row.event.id).insertionSort
    fun first second => key first ≤ key second).take limit.toNat

def collectEventIDs (events : List Row) : List UUID := (events.map fun row => row.event.id).filter (· ≠ 0)

def assignStatus (status : OutboxEventStatus) (now : Time) : Assignment where
  set row := { row with event := { row.event with status := status, updatedAt := now } }
  keepsID _ := rfl

-- WHERE id = ANY(ids) AND status = status, with the tenant condition.
def whereIDs (ids : List UUID) (status : OutboxEventStatus) (owned : Row → Bool) : Row → Bool :=
  fun row => ids.contains row.event.id && row.event.status = status && owned row

variable (now : Time)

def markEventsWithStatus (status : OutboxEventStatus) (ids : List UUID) (owned : Row → Bool)
    (fromStatus : OutboxEventStatus) (table : Table) : Except RepositoryError Table := do
  validateOutboxTransition fromStatus status
  let (table, rows) ← execUpdate table (whereIDs ids fromStatus owned) (assignStatus status now)
  ensureRowsAffectedExact rows ids.length
  return table

def applyProcessingState (events : List Row) (now : Time) : List Row := events.map (assignStatus .processing now).set

def claimRows (found : Row → Bool) (key : Row → Time) (fromStatus : OutboxEventStatus) (owned : Row → Bool)
    (limit : Int) (locked : UUID → Bool) (now : Time) (table : Table) : Except RepositoryError (Table × List Row) :=
  let events := selectRows table (fun row => row.event.status = fromStatus && found row && owned row) key limit locked
  let ids := collectEventIDs events
  if ids.length = 0 then .ok (table, events)
  else do
    let table ← markEventsWithStatus now .processing ids owned fromStatus table
    return (table, applyProcessingState events now)

def listPending (limit : Int) (locked : UUID → Bool) (now : Time) (table : Table) : Except RepositoryError (Table × List Row) := do
  refuse (limit ≤ 0) .limitMustBePositive
  let owned ← tenantFilterClause repo tenantID
  claimRows (fun _ => true) (fun row => row.event.createdAt) .pending owned limit locked now table

def listPendingByType (eventType : String) (limit : Int) (locked : UUID → Bool) (now : Time)
    (table : Table) : Except RepositoryError (Table × List Row) := do
  refuse (limit ≤ 0) .limitMustBePositive
  refuse (Go.trimSpace eventType = "") .eventTypeRequired
  let owned ← tenantFilterClause repo tenantID
  claimRows (fun row => row.event.eventType = Go.trimSpace eventType) (fun row => row.event.createdAt) .pending owned limit locked now table

def claimEvents (events : List Row) (fromStatus : OutboxEventStatus) (owned : Row → Bool) (now : Time) (table : Table) :
    Except RepositoryError (Table × List Row) :=
  let ids := collectEventIDs events
  if ids.length = 0 then .ok (table, events)
  else do
    let table ← markEventsWithStatus now .processing ids owned fromStatus table
    return (table, applyProcessingState events now)

def normalizeEventTypes (eventTypes : List String) : List String := ((eventTypes.map Go.trimSpace).filter (· ≠ "")).eraseDups

def priorityOrder (types : List String) (first second : Row) : Prop :=
  types.idxOf first.event.eventType < types.idxOf second.event.eventType ∨
    (types.idxOf first.event.eventType = types.idxOf second.event.eventType ∧ (first.event.createdAt < second.event.createdAt ∨
        (first.event.createdAt = second.event.createdAt ∧ first.event.id ≤ second.event.id)))

instance (types : List String) : DecidableRel (priorityOrder types) := fun first second => by
  unfold priorityOrder
  infer_instance

def selectPriorityRows (found : Row → Bool) (types : List String) (limit : Int) (locked : UUID → Bool) :
    List Row :=
  ((table.rows.filter fun row => found row && !locked row.event.id).insertionSort (priorityOrder types)).take limit.toNat

def listPendingByTypes (eventTypes : List String) (limit : Int)
    (locked : UUID → Bool) (now : Time) (table : Table) : Except RepositoryError (Table × List Row) := do
  refuse (limit ≤ 0) .limitMustBePositive
  refuse (normalizeEventTypes eventTypes = []) .eventTypeRequired
  let owned ← tenantFilterClause repo tenantID
  let found := fun row => row.event.status = .pending && (normalizeEventTypes eventTypes).contains row.event.eventType && owned row
  claimEvents (selectPriorityRows table found (normalizeEventTypes eventTypes) limit locked) .pending owned now table

def resetForRetry (limit : Int) (failedBefore : Time) (maxAttempts : Int)
    (locked : UUID → Bool) (now : Time) (table : Table) : Except RepositoryError (Table × List Row) := do
  refuse (limit ≤ 0) .limitMustBePositive
  refuse (maxAttempts ≤ 0) .maxAttemptsMustBePositive
  let owned ← tenantFilterClause repo tenantID
  claimRows (fun row => row.event.attempts < maxAttempts && row.event.updatedAt ≤ failedBefore)
    (fun row => row.event.updatedAt) .failed owned limit locked now table

def assignReprocessing : Assignment where
  set row := { row with event := { row.event with status := .processing, attempts := row.event.attempts + 1, updatedAt := now } }
  keepsID _ := rfl

def assignStuckInvalid : Assignment where
  set row := { row with event :=
    { row.event with
      status := .invalid
      attempts := row.event.attempts + 1
      lastError := accumulateLastError row.event.lastError stuckInProcessingCause false
      updatedAt := now } }
  keepsID _ := rfl

def markStuckEventsReprocessing (ids : List UUID) (owned : Row → Bool) (table : Table) :
    Except RepositoryError Table := do
  validateOutboxTransition .processing .processing
  let (table, rows) ← execUpdate table (whereIDs ids .processing owned) (assignReprocessing now)
  ensureRowsAffectedExact rows ids.length
  return table

def markStuckEventsInvalid (ids : List UUID) (owned : Row → Bool) (table : Table) :
    Except RepositoryError Table := do
  validateOutboxTransition .processing .invalid
  let (table, rows) ← execUpdate table (whereIDs ids .processing owned) (assignStuckInvalid now)
  ensureRowsAffectedExact rows ids.length
  return table

def splitStuckEvents (events : List Row) (maxAttempts : Int) : List Row × List Row :=
  (events.filter fun row => row.event.id ≠ 0 && !(row.event.attempts + 1 ≥ maxAttempts),
    events.filter fun row => row.event.id ≠ 0 && row.event.attempts + 1 ≥ maxAttempts)

def unlessEmpty (ids : List UUID) (mark : Table → Except RepositoryError Table) (table : Table) :
    Except RepositoryError Table := if ids.length > 0 then mark table else .ok table

-- The retry events come back for dispatch, the exhausted ones for the callback only.
def reclaimStuckProcessing (limit : Int) (processingBefore : Time) (maxAttempts : Int) (locked : UUID → Bool) (now : Time) (table : Table) :
    Except RepositoryError (Table × List Row × List Row) := do
  refuse (limit ≤ 0) .limitMustBePositive
  refuse (maxAttempts ≤ 0) .maxAttemptsMustBePositive
  let owned ← tenantFilterClause repo tenantID
  let events := selectRows table
    (fun row => row.event.status = .processing && row.event.updatedAt ≤ processingBefore && owned row)
    (fun row => row.event.updatedAt) limit locked
  let (retryEvents, exhaustedEvents) := splitStuckEvents events maxAttempts
  let retryIDs := collectEventIDs retryEvents
  let table ← unlessEmpty retryIDs (markStuckEventsReprocessing now retryIDs owned) table
  let exhaustedIDs := collectEventIDs exhaustedEvents
  let table ← unlessEmpty exhaustedIDs (markStuckEventsInvalid now exhaustedIDs owned) table
  return (table, retryEvents.map (assignReprocessing now).set, exhaustedEvents.map (assignStuckInvalid now).set)

variable (id : UUID)

-- Guarded by PROCESSING and by nothing else: any dispatcher may mark any event.
def markEvent (assignment : Assignment) (table : Table) :
    Except RepositoryError Table := do
  let owned ← tenantFilterClause repo tenantID
  let (table, rows) ← execUpdate table (fun row => row.event.id = id && row.event.status = .processing && owned row)
    assignment
  ensureRowsAffected rows
  return table

def assignPublished (publishedAt now : Time) : Assignment where
  set row := { row with event := { row.event with status := .published, publishedAt := some publishedAt, updatedAt := now } }
  keepsID _ := rfl

def assignFailed (maxAttempts : Int) (errMsg : String) (now : Time) : Assignment where
  set row := { row with event :=
    { row.event with
      status := if row.event.attempts + 1 ≥ maxAttempts then .invalid else .failed
      attempts := row.event.attempts + 1
      lastError := accumulateLastError row.event.lastError errMsg true
      updatedAt := now } }
  keepsID _ := rfl

variable (errMsg : String)

def assignInvalid (now : Time) : Assignment where
  set row := { row with event := { row.event with status := .invalid, lastError := some errMsg, updatedAt := now } }
  keepsID _ := rfl

def markPublished (publishedAt now : Time) (table : Table) :
    Except RepositoryError Table := do
  validateOutboxTransition .processing .published
  refuse (id = 0) .idRequired
  markEvent repo tenantID id (assignPublished publishedAt now) table

def markFailed (maxAttempts : Int) (now : Time) (table : Table) : Except RepositoryError Table := do
  validateOutboxTransition .processing .failed
  validateOutboxTransition .processing .invalid
  refuse (id = 0) .idRequired
  refuse (maxAttempts ≤ 0) .maxAttemptsMustBePositive
  markEvent repo tenantID id (assignFailed maxAttempts (boundErrorCause (repo.sanitizeErrorMessageForStorage errMsg)) now) table

def markInvalid (now : Time) (table : Table) :
    Except RepositoryError Table := do
  validateOutboxTransition .processing .invalid
  refuse (id = 0) .idRequired
  markEvent repo tenantID id (assignInvalid (repo.sanitizeErrorMessageForStorage errMsg) now) table

def defaultMaxPayloadBytes : Nat := 1048576

def maxEventTypeLength : Nat := 255

variable (event : OutboxEvent)

def validateCreateEvent : Except RepositoryError Unit := do
  refuse (event.id = 0) .idRequired
  refuse (Go.trimSpace event.eventType = "") .eventTypeRequired
  refuse (event.aggregateID = 0) .aggregateIDRequired
  refuse (event.payload.length = 0) .payloadRequired
  refuse (event.payload.length > defaultMaxPayloadBytes) .payloadTooLarge
  refuse (!repo.jsonValid event.payload) .payloadNotJSON

-- A caller's status, attempts and last error are not stored; time 0 is the zero time.
def normalizedCreateValues (now : Time) : OutboxEvent :=
  let createdAt := if event.createdAt = 0 then now else event.createdAt
  { event with
    eventType := Go.trimSpace event.eventType
    status := .pending
    attempts := 0
    publishedAt := none
    lastError := some ""
    createdAt := createdAt
    updatedAt := if event.updatedAt = 0 ∨ event.updatedAt < createdAt then createdAt else event.updatedAt }

theorem fresh_unique {table : Table} (fresh : row.event.id ∉ table.rows.map (fun row => row.event.id)) :
    ((row :: table.rows).map fun row => row.event.id).Nodup :=
  List.nodup_cons.mpr ⟨fresh, table.unique⟩

def create (now : Time) (table : Table) :
    Except RepositoryError Table := do
  validateCreateEvent repo event
  let _ ← tenantFilterClause repo tenantID
  let row : Row := ⟨normalizedCreateValues event now, if repo.tenantColumn then tenantID else ""⟩
  refuse (row.event.eventType.length > maxEventTypeLength) .valueTooLong
  if fresh : row.event.id ∉ table.rows.map (fun row => row.event.id) then
    .ok ⟨row :: table.rows, fresh_unique fresh⟩
  else .error .duplicateKey

end LibCommons.Outbox
