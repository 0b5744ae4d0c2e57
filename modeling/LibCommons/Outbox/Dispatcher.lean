import LibCommons.Lib.Process
import LibCommons.Outbox.Postgres

namespace LibCommons.Outbox

inductive DispatchError where
  | handler (text : String)
  | eventPayloadRequired
  | publishAttempt (attempt maxAttempts : Nat) (err : DispatchError)
  | context (text : String)
  | retryWaitInterrupted (err : DispatchError)
  | stuckAttemptsExhausted
deriving DecidableEq, Repr

structure DispatcherConfig where
  batchSize : Int
  publishMaxAttempts : Int
  maxDispatchAttempts : Int
  retryWindow : Time
  processingTimeout : Time
  priorityBudget : Int
  maxFailedPerBatch : Int
  priorityEventTypes : List String

-- Both lifecycle callbacks are set; multiType: a MultiTypePendingRepository.
structure Dispatcher where
  cfg : DispatcherConfig
  multiType : Bool
  isNonRetryableError : DispatchError → Bool
  sanitizeErrorForStorage : DispatchError → String

structure DispatchResult where
  processed : Nat
  published : Nat
  failed : Nat
  stateUpdateFailed : Nat
deriving DecidableEq, Repr

-- A mark names the event the dispatcher holds; only its id goes to the repository.
inductive DispatchOp where
  | now
  | ctxErr
  | listPending (limit : Int)
  | listPendingByType (eventType : String) (limit : Int)
  | listPendingByTypes (eventTypes : List String) (limit : Int)
  | resetForRetry (limit : Int) (failedBefore : Time) (maxAttempts : Int)
  | reclaimStuckProcessing (limit : Int) (processingBefore : Time) (maxAttempts : Int)
  | handle (event : OutboxEvent)
  | waitContext
  | markPublished (event : OutboxEvent) (publishedAt : Time)
  | markFailed (event : OutboxEvent) (errMsg : String) (maxAttempts : Int)
  | markInvalid (event : OutboxEvent) (errMsg : String)
  | onInvalid (event : OutboxEvent) (err : DispatchError)
  | onFailed (event : OutboxEvent) (err : DispatchError)

-- A repository call that reports an error answers none or false.
abbrev DispatchRes : DispatchOp → Type
  | .now => Time
  | .ctxErr => Bool
  | .listPending _ | .listPendingByType _ _ | .listPendingByTypes _ _ | .resetForRetry _ _ _ =>
    Option (List OutboxEvent)
  | .reclaimStuckProcessing _ _ _ => Option (List OutboxEvent × List OutboxEvent)
  | .handle _ | .waitContext => Option DispatchError
  | .markPublished _ _ | .markFailed _ _ _ | .markInvalid _ _ => Bool
  | .onInvalid _ _ | .onFailed _ _ => Unit

abbrev DispatchProg := Process.Prog DispatchOp DispatchRes DispatchResult

def defaultPublishMaxAttempts : Nat := 3

section

variable (dispatcher : Dispatcher)

def collectByType (budget : Int) : List String → List OutboxEvent → (List OutboxEvent → DispatchProg) → DispatchProg
  | [], result, next => next result
  | eventType :: rest, result, next =>
    if budget - result.length ≤ 0 then next result
    else .call (.listPendingByType eventType (budget - result.length)) fun events =>
      match events with
      | none => collectByType budget rest result next
      | some events => collectByType budget rest (result ++ events) next

def collectPriorityEvents (budget : Int) (next : List OutboxEvent → DispatchProg) : DispatchProg :=
  if budget ≤ 0 ∨ dispatcher.cfg.priorityEventTypes = [] then next []
  else if dispatcher.multiType then
    .call (.listPendingByTypes dispatcher.cfg.priorityEventTypes budget) fun events => next (events.getD [])
  else collectByType budget dispatcher.cfg.priorityEventTypes [] next

def invokeOnInvalid (event : OutboxEvent) (err : DispatchError) (next : DispatchProg) : DispatchProg :=
  .call (.onInvalid event err) fun _ => next

def invokeOnFailed (event : OutboxEvent) (err : DispatchError) (next : DispatchProg) : DispatchProg :=
  .call (.onFailed event err) fun _ => next

def invokeEach (events : List OutboxEvent) (next : DispatchProg) : DispatchProg :=
  events.foldr (fun event rest => invokeOnInvalid event .stuckAttemptsExhausted rest) next

def resetStuckProcessing (limit : Int) (processingBefore : Time) (next : List OutboxEvent → DispatchProg) : DispatchProg :=
  .call (.reclaimStuckProcessing limit processingBefore dispatcher.cfg.maxDispatchAttempts) fun answer =>
    match answer with
    | none => next []
    | some (retry, invalid) => invokeEach invalid (next retry)

def deduplicateEvents : List OutboxEvent → List OutboxEvent
  | [] => []
  | event :: rest => event :: (deduplicateEvents rest).filter fun other => other.id ≠ event.id

def collectEvents (next : List OutboxEvent → DispatchProg) : DispatchProg := .call .now fun failedNow => .call .now fun processingNow =>
    collectPriorityEvents dispatcher (min dispatcher.cfg.priorityBudget dispatcher.cfg.batchSize) fun priorityEvents =>
      if dispatcher.multiType ∧ dispatcher.cfg.priorityEventTypes ≠ [] then next (deduplicateEvents priorityEvents)
      else if dispatcher.cfg.batchSize - priorityEvents.length ≤ 0 then next (deduplicateEvents priorityEvents)
      else
        resetStuckProcessing dispatcher (dispatcher.cfg.batchSize - priorityEvents.length)
            (processingNow - dispatcher.cfg.processingTimeout) fun stuckEvents =>
          let collected := priorityEvents ++ stuckEvents
          let failedLimit := min (dispatcher.cfg.batchSize - collected.length) dispatcher.cfg.maxFailedPerBatch
          if failedLimit ≤ 0 then next (deduplicateEvents collected)
          else
            .call (.resetForRetry failedLimit (failedNow - dispatcher.cfg.retryWindow) dispatcher.cfg.maxDispatchAttempts)
              fun failedEvents =>
                let collected := collected ++ failedEvents.getD []
                let remaining := dispatcher.cfg.batchSize - collected.length
                if remaining ≤ 0 then next (deduplicateEvents collected)
                else .call (.listPending remaining) fun pendingEvents => next (deduplicateEvents (collected ++ pendingEvents.getD []))

def publishEvent (event : OutboxEvent) (next : Option DispatchError → DispatchProg) : DispatchProg :=
  if event.payload.length = 0 then next (some .eventPayloadRequired) else .call (.handle event) next

-- for attempt := range maxAttempts, with the attempts still left.
def publishAttempts (event : OutboxEvent) (maxAttempts : Nat) (next : Option DispatchError → DispatchProg) : Nat → DispatchProg
  | 0 => next none
  | left + 1 =>
    publishEvent event fun err =>
      match err with
      | none => next none
      | some err =>
        if dispatcher.isNonRetryableError err ∨ left = 0 then
          next (some (.publishAttempt (maxAttempts - left) maxAttempts err))
        else .call .waitContext fun waitErr =>
          match waitErr with
          | some waitErr => next (some (.retryWaitInterrupted waitErr))
          | none => publishAttempts event maxAttempts next left

def publishEventWithRetry (event : OutboxEvent) (next : Option DispatchError → DispatchProg) : DispatchProg :=
  let maxAttempts := if dispatcher.cfg.publishMaxAttempts ≤ 0 then defaultPublishMaxAttempts
    else dispatcher.cfg.publishMaxAttempts.toNat
  publishAttempts dispatcher event maxAttempts next maxAttempts

-- Decided on the attempts at the claim; MarkFailed decides on the stored attempts.
def handlePublishError (event : OutboxEvent) (err : DispatchError) (next : DispatchProg) : DispatchProg :=
  if dispatcher.isNonRetryableError err then
    .call (.markInvalid event (dispatcher.sanitizeErrorForStorage err)) fun marked =>
      if marked then invokeOnInvalid event err next else next
  else
    .call (.markFailed event (dispatcher.sanitizeErrorForStorage err) dispatcher.cfg.maxDispatchAttempts) fun marked =>
      if marked then
        if event.attempts + 1 ≥ dispatcher.cfg.maxDispatchAttempts then invokeOnInvalid event err next
        else invokeOnFailed event err next
      else next

def dispatchEvents : List OutboxEvent → DispatchResult → DispatchProg
  | [], result => .ret result
  | event :: rest, result =>
    .call .ctxErr fun stopped =>
      if stopped then .ret result
      else publishEventWithRetry dispatcher event fun err =>
        match err with
        | some err =>
          handlePublishError dispatcher event err
            (dispatchEvents rest { result with processed := result.processed + 1, failed := result.failed + 1 })
        | none =>
          .call .now fun publishedAt => .call (.markPublished event publishedAt) fun marked =>
            dispatchEvents rest
              { result with
                processed := result.processed + 1
                published := result.published + 1
                stateUpdateFailed := result.stateUpdateFailed + if marked then 0 else 1 }

def dispatchOnceResult : DispatchProg := collectEvents dispatcher fun events => dispatchEvents dispatcher events ⟨0, 0, 0, 0⟩

end

structure Mark where
  event : OutboxEvent
  stored : Int
  maxAttempts : Int
deriving DecidableEq, Repr

-- The table, with a record of the marks and of the OnInvalid calls made.
structure DispatchWorld where
  table : Table
  marks : List Mark
  invoked : List UUID

-- A transaction that hands out events. One that reports an error has rolled back.
def Answers (world after : DispatchWorld) (answer : Option (List OutboxEvent))
    (transaction : Time → (UUID → Bool) → Except RepositoryError (Table × List Row)) : Prop :=
  (answer = none ∧ after = world) ∨ ∃ now locked table rows, transaction now locked = .ok (table, rows) ∧
      answer = some (rows.map fun row => row.event) ∧ after = { world with table := table }

def Marks (world after : DispatchWorld) (marked : Bool) (transaction : Time → Except RepositoryError Table) : Prop :=
  (marked = false ∧ after = world) ∨ ∃ now table, transaction now = .ok table ∧ marked = true ∧ after = { world with table := table }

def DispatchExec (repo : Repository) (tenantID : String) : (op : DispatchOp) → DispatchWorld → DispatchRes op → DispatchWorld → Prop
  | .now, world, _, after | .ctxErr, world, _, after | .handle _, world, _, after | .waitContext, world, _, after =>
    after = world
  | .listPending limit, world, answer, after =>
    Answers world after answer fun now locked => listPending repo tenantID limit locked now world.table
  | .listPendingByType eventType limit, world, answer, after =>
    Answers world after answer fun now locked => listPendingByType repo tenantID eventType limit locked now world.table
  | .listPendingByTypes eventTypes limit, world, answer, after =>
    Answers world after answer fun now locked => listPendingByTypes repo tenantID eventTypes limit locked now world.table
  | .resetForRetry limit failedBefore maxAttempts, world, answer, after =>
    Answers world after answer fun now locked => resetForRetry repo tenantID limit failedBefore maxAttempts locked now world.table
  | .reclaimStuckProcessing limit processingBefore maxAttempts, world, answer, after =>
    (answer = none ∧ after = world) ∨ ∃ now locked table retry invalid,
        reclaimStuckProcessing repo tenantID limit processingBefore maxAttempts locked now world.table = .ok (table, retry, invalid) ∧
        answer = some (retry.map (fun row => row.event), invalid.map fun row => row.event) ∧
        after = { world with table := table }
  | .markPublished event publishedAt, world, marked, after =>
    Marks world after marked fun now => markPublished repo tenantID event.id publishedAt now world.table
  | .markFailed event errMsg maxAttempts, world, marked, after =>
    (marked = false ∧ after = world) ∨ ∃ now table, ∃ row ∈ world.table.rows, row.event.id = event.id ∧
        markFailed repo tenantID event.id errMsg maxAttempts now world.table = .ok table ∧ marked = true ∧
        after = { world with table := table, marks := ⟨event, row.event.attempts, maxAttempts⟩ :: world.marks }
  | .markInvalid event errMsg, world, marked, after =>
    Marks world after marked fun now => markInvalid repo tenantID event.id errMsg now world.table
  | .onInvalid event _, world, _, after => after = { world with invoked := event.id :: world.invoked }
  | .onFailed _ _, world, _, after => after = world

-- Any number of dispatchers and tenants on one table; writers create events meanwhile.
def dispatchSemantics {I : Type} (repo : Repository) (tenantID : I → String) :
    Process.Semantics I DispatchWorld DispatchOp DispatchRes where
  exec i := DispatchExec repo (tenantID i)
  idle _ _ _ _ := False
  drift world after := ∃ tenant event now table, create repo tenant event now world.table = .ok table ∧
    after = { world with table := table }

end LibCommons.Outbox
