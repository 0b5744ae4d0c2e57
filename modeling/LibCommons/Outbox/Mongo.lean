import LibCommons.Lib.Keyed
import LibCommons.Lib.Process
import LibCommons.Outbox.LastError

namespace LibCommons.Outbox.Mongo

open Process

structure Document where
  id : UUID
  tenantID : String
  eventType : String
  aggregateID : UUID
  payload : List UInt8
  status : OutboxEventStatus
  attempts : Int
  publishedAt : Option Time
  lastError : String
  createdAt : Time
  updatedAt : Time
  claimToken : Option String
deriving DecidableEq, Repr

-- tenantField: documents carry their tenant, and every filter names it.
structure Repository where
  tenantField : Bool
  sanitizeErrorMessageForStorage : String → String

-- The key of the unique index outbox_id_scope_unique.
def scopeKey (tenantField : Bool) (doc : Document) : UUID × String := (doc.id, if tenantField then doc.tenantID else "")

abbrev Collection (tenantField : Bool) := Keyed (scopeKey tenantField)

def toOutboxEvent (doc : Document) : OutboxEvent where
  id := doc.id
  eventType := doc.eventType
  aggregateID := doc.aggregateID
  payload := doc.payload
  status := doc.status
  attempts := doc.attempts
  publishedAt := doc.publishedAt
  lastError := some (Go.trimSpace doc.lastError)
  createdAt := doc.createdAt
  updatedAt := doc.updatedAt

def maxListScanMultiplier : Nat := 8

-- validateDecodedDocument and validateClaimDocument trim what they decode.
def decoded (doc : Document) : Document := { doc with lastError := Go.trimSpace doc.lastError }

-- The three callers of claimMatching.
inductive ClaimQuery where
  | pending (eventType : String)
  | failed (failedBefore : Time) (maxAttempts : Int)
  | stuck (processingBefore : Time) (maxAttempts : Int)
deriving DecidableEq

def ClaimQuery.fromStatus : ClaimQuery → OutboxEventStatus
  | .pending _ => .pending
  | .failed _ _ => .failed
  | .stuck _ _ => .processing

def returnStatus : OutboxEventStatus := .processing

def ClaimQuery.filter : ClaimQuery → Document → Bool
  | .pending eventType, doc => doc.status = .pending && (eventType = "" || doc.eventType = eventType)
  | .failed failedBefore maxAttempts, doc =>
    doc.status = .failed && doc.attempts < maxAttempts && doc.updatedAt ≤ failedBefore
  | .stuck processingBefore _, doc => doc.status = .processing && doc.updatedAt ≤ processingBefore

def ClaimQuery.sortKey : ClaimQuery → Document → Time
  | .pending _, doc => doc.createdAt
  | .failed _ _, doc | .stuck _ _, doc => doc.updatedAt

variable (query : ClaimQuery)

def ClaimQuery.sortSpec (first second : Document) : Prop :=
  query.sortKey first < query.sortKey second ∨ (query.sortKey first = query.sortKey second ∧ first.id ≤ second.id)

instance (query : ClaimQuery) : DecidableRel query.sortSpec := fun first second => by
  unfold ClaimQuery.sortSpec
  infer_instance

-- What setForCandidate sets, with the token claimDocuments adds.
def ClaimQuery.set (candidate : Document) (token : String) (now : Time) (doc : Document) : Document :=
  match query with
  | .pending _ | .failed _ _ => { doc with status := .processing, updatedAt := now, claimToken := some token }
  | .stuck _ maxAttempts =>
    let nextAttempts := (decoded candidate).attempts + 1
    { doc with
      status := if nextAttempts ≥ maxAttempts then .invalid else .processing
      attempts := nextAttempts
      lastError :=
        if nextAttempts ≥ maxAttempts then appendErrorCause (decoded candidate).lastError stuckInProcessingCause
        else (decoded candidate).lastError
      updatedAt := now
      claimToken := some token }

def claimGuard (candidate doc : Document) : Bool :=
  doc.status = query.fromStatus && doc.attempts = candidate.attempts && doc.updatedAt = candidate.updatedAt

def rollbackGuard (token : String) (doc : Document) : Bool := doc.status = returnStatus && doc.claimToken = some token

inductive UpdateResult where
  | modified
  | unmatched
  | failed
deriving DecidableEq, Repr

-- A candidate stands for the document as it was read; a bulk write may be in any order.
inductive MongoOp where
  | findClaimCandidates (query : ClaimQuery) (tenantID : String) (limit : Nat)
  | newToken
  | bulkOrder (candidates : List Document)
  | claimOne (query : ClaimQuery) (candidate : Document) (token : String)
  | readBack (query : ClaimQuery) (token : String) (ids : List UUID) (tenantID : String)
  | rollbackOne (query : ClaimQuery) (candidate : Document) (token : String)
  | getByIDAndStatus (id : UUID) (tenantID : String) (status : OutboxEventStatus)
  | updateFailed (read : Document) (nextStatus : OutboxEventStatus) (nextAttempts : Int) (nextLastError : String)
  | updatePublished (id : UUID) (tenantID : String) (publishedAt : Time)
  | updateInvalid (id : UUID) (tenantID : String) (errMsg : String)

abbrev MongoRes : MongoOp → Type
  | .findClaimCandidates _ _ _ | .readBack _ _ _ _ => Option (List Document)
  | .newToken => String
  | .bulkOrder _ => List Document
  | .claimOne _ _ _ | .rollbackOne _ _ _ | .updateFailed _ _ _ _ | .updatePublished _ _ _ | .updateInvalid _ _ _ =>
    UpdateResult
  | .getByIDAndStatus _ _ _ => Option (Option Document)

inductive Reply where
  | events (events : List OutboxEvent)
  | reclaimed (retry invalid : List OutboxEvent)
  | done
  | stateTransitionConflict
  | idRequired
  | limitMustBePositive
  | maxAttemptsMustBePositive
  | failed
deriving DecidableEq, Repr

abbrev MongoProg := Prog MongoOp MongoRes Reply

section

variable (query : ClaimQuery) (tenantID : String)

def claimEach (token : String) : List Document → Nat → Bool → (Option Nat → MongoProg) → MongoProg
  | [], modified, failed, next => next (if failed then none else some modified)
  | candidate :: rest, modified, failed, next =>
    .call (.claimOne query candidate token) fun result =>
      match result with
      | .modified => claimEach token rest (modified + 1) failed next
      | .unmatched => claimEach token rest modified failed next
      | .failed => claimEach token rest modified true next

def claimDocuments (candidates : List Document) (next : Option (List Document × Nat × String) → MongoProg) : MongoProg :=
  .call .newToken fun token => .call (.bulkOrder candidates) fun order => claimEach query token order 0 false fun modified =>
      match modified with
      | none => next none
      | some 0 => next (some ([], 0, token))
      | some (_ + 1) =>
        .call (.readBack query token (candidates.map fun doc => doc.id) ((candidates.map fun doc => doc.tenantID).headD "")) fun found =>
            match found with
            | none => next none
            | some docs => next (some (docs, candidates.length, token))

def rollbackEach (token : String) : List Document → Bool → (Bool → MongoProg) → MongoProg
  | [], failed, next => next (!failed)
  | candidate :: rest, failed, next =>
    .call (.rollbackOne query candidate token) fun result =>
      match result with
      | .modified | .unmatched => rollbackEach token rest failed next
      | .failed => rollbackEach token rest true next

def rollbackMissingClaims (candidates claimed : List Document) (token : String) (next : Bool → MongoProg) : MongoProg :=
  let missing := candidates.filter fun candidate => candidate.id ∉ claimed.map fun doc => doc.id
  if missing.length = 0 then next true
  else .call (.bulkOrder missing) fun order => rollbackEach query token order false next

-- for attempts := 0; len(claimed) < limit && attempts < maxListScanMultiplier
def claimMatching (limit : Nat) (next : Option (List Document) → MongoProg) : Nat → List Document → MongoProg
  | 0, claimed => next (some claimed)
  | left + 1, claimed =>
    if limit ≤ claimed.length then next (some claimed)
    else .call (.findClaimCandidates query tenantID (limit - claimed.length)) fun found =>
      match found with
      | none => next none
      | some candidates =>
        if candidates.length = 0 then next (some claimed)
        else claimDocuments query candidates fun result =>
          match result with
          | none => next none
          | some (batch, modified, token) =>
            if modified ≠ batch.length then
              rollbackMissingClaims query candidates batch token fun ok =>
                if ok then claimMatching limit next left (claimed ++ batch) else next none
            else if query.fromStatus = returnStatus then next (some (claimed ++ batch))
            else if batch.length = 0 ∧ candidates.length < limit - claimed.length then next (some (claimed ++ batch))
            else claimMatching limit next left (claimed ++ batch)

end

def claimReply : Option (List Document) → MongoProg
  | none => .ret .failed
  | some claimed => .ret (.events (claimed.map toOutboxEvent))

variable (tenantID : String)

def claimPending (eventType : String) (limit : Int) : MongoProg :=
  if limit ≤ 0 then .ret .limitMustBePositive
  else claimMatching (.pending eventType) tenantID limit.toNat claimReply maxListScanMultiplier []

def resetForRetry (limit : Int) (failedBefore : Time) (maxAttempts : Int) : MongoProg :=
  if limit ≤ 0 then .ret .limitMustBePositive
  else if maxAttempts ≤ 0 then .ret .maxAttemptsMustBePositive
  else claimMatching (.failed failedBefore maxAttempts) tenantID limit.toNat claimReply maxListScanMultiplier []

def reclaimReply : Option (List Document) → MongoProg
  | none => .ret .failed
  | some claimed =>
    let events := claimed.map toOutboxEvent
    .ret (.reclaimed (events.filter fun event => event.status ≠ .invalid) (events.filter fun event => event.status = .invalid))

def reclaimStuckProcessing (limit : Int) (processingBefore : Time) (maxAttempts : Int) : MongoProg :=
  if limit ≤ 0 then .ret .limitMustBePositive
  else if maxAttempts ≤ 0 then .ret .maxAttemptsMustBePositive
  else claimMatching (.stuck processingBefore maxAttempts) tenantID limit.toNat reclaimReply maxListScanMultiplier []

def markReply : UpdateResult → MongoProg
  | .modified => .ret .done
  | .unmatched => .ret .stateTransitionConflict
  | .failed => .ret .failed

def markPublished (id : UUID) (publishedAt : Time) : MongoProg :=
  if id = 0 then .ret .idRequired else .call (.updatePublished id tenantID publishedAt) markReply

def markInvalid (repo : Repository) (tenantID : String) (id : UUID) (errMsg : String) : MongoProg :=
  if id = 0 then .ret .idRequired
  else .call (.updateInvalid id tenantID (repo.sanitizeErrorMessageForStorage errMsg)) markReply

-- Read, compute, then compare and set on status and attempts.
def markFailed (repo : Repository) (tenantID : String) (id : UUID) (errMsg : String) (maxAttempts : Int) : MongoProg :=
  if id = 0 then .ret .idRequired
  else if maxAttempts ≤ 0 then .ret .maxAttemptsMustBePositive
  else .call (.getByIDAndStatus id tenantID .processing) fun found =>
    match found with
    | none => .ret .failed
    | some none => .ret .stateTransitionConflict
    | some (some read) =>
      let nextAttempts := (decoded read).attempts + 1
      let nextLastError := appendErrorCause (decoded read).lastError (repo.sanitizeErrorMessageForStorage errMsg)
      let nextStatus := if nextAttempts ≥ maxAttempts then .invalid else .failed
      .call (.updateFailed read nextStatus nextAttempts nextLastError) markReply

structure Move (I : Type) where
  caller : I
  token : String
  before : Document
  after : Document

structure World (I : Type) (tenantField : Bool) where
  docs : Collection tenantField
  tokens : List String
  moves : List (Move I)

section

variable {I : Type} {tenantField : Bool} (world after : World I tenantField)

-- One document's update: atomic, and possibly reported as failed either way.
def Updates (result : UpdateResult) (key : UUID × String) (guard : Document → Bool) (change : Document → Document)
    (keeps : ∀ doc, scopeKey tenantField (change doc) = scopeKey tenantField doc) (record : Document → List (Move I)) :
    Prop :=
  (∃ doc, world.docs.get? key = some doc ∧ guard doc = true ∧ result ≠ .unmatched ∧
      after = { world with docs := world.docs.modify key change keeps, moves := record doc ++ world.moves }) ∨
    ((∀ doc, world.docs.get? key = some doc → guard doc = false) ∧ result ≠ .modified ∧ after = world) ∨
    (result = .failed ∧ after = world)

def tenantMatch (tenantField : Bool) (tenantID : String) (doc : Document) : Bool := !tenantField || doc.tenantID = tenantID

def findDocuments (docs : Collection tenantField) (query : ClaimQuery) (filter : Document → Bool) (tenantID : String) :
    List Document :=
  (docs.items.filter fun doc => filter doc && tenantMatch tenantField tenantID doc).insertionSort query.sortSpec

theorem claim_keeps (query : ClaimQuery) (candidate : Document) (token : String) (now : Time) (doc : Document) :
    scopeKey tenantField (query.set candidate token now doc) = scopeKey tenantField doc := by
  cases query <;> rfl

-- Writes are stamped with a time that Stamp allows; tokens are never issued twice.
def Exec (Stamp : Time → Prop) (i : I) : (op : MongoOp) → World I tenantField → MongoRes op → World I tenantField → Prop
  | .findClaimCandidates query tenantID limit, world, found, after =>
    after = world ∧ (found = none ∨ found = some ((findDocuments world.docs query query.filter tenantID).take limit))
  | .newToken, world, token, after => token ∉ world.tokens ∧ after = { world with tokens := token :: world.tokens }
  | .bulkOrder candidates, world, order, after => order.Perm candidates ∧ after = world
  | .claimOne query candidate token, world, result, after =>
    ∃ now, Stamp now ∧ Updates world after result (scopeKey tenantField candidate) (claimGuard query candidate)
      (query.set candidate token now) (claim_keeps query candidate token now)
      fun doc => [⟨i, token, doc, query.set candidate token now doc⟩]
  | .readBack query token ids tenantID, world, found, after =>
    after = world ∧ (found = none ∨ found = some (findDocuments world.docs query
      (fun doc => doc.claimToken = some token && ids.contains doc.id) tenantID))
  | .rollbackOne query candidate token, world, result, after =>
    ∃ now, Stamp now ∧ Updates world after result (scopeKey tenantField candidate) (rollbackGuard token)
      (fun doc => { doc with status := query.fromStatus, updatedAt := now, claimToken := none }) (fun _ => rfl) fun _ => []
  | .getByIDAndStatus id tenantID status, world, found, after =>
    after = world ∧ (found = none ∨
      found = some ((world.docs.get? (id, if tenantField then tenantID else "")).filter fun doc => doc.status = status))
  | .updateFailed read nextStatus nextAttempts nextLastError, world, result, after =>
    ∃ now, Stamp now ∧ Updates world after result (scopeKey tenantField read)
      (fun doc => doc.status = .processing && doc.attempts = read.attempts)
      (fun doc => { doc with
        status := nextStatus, attempts := nextAttempts, lastError := nextLastError, updatedAt := now, claimToken := none })
      (fun _ => rfl) fun _ => []
  | .updatePublished id tenantID publishedAt, world, result, after =>
    ∃ now, Stamp now ∧ Updates world after result (id, if tenantField then tenantID else "") (fun doc => doc.status = .processing)
      (fun doc => { doc with
        status := .published, publishedAt := some publishedAt, updatedAt := now, claimToken := none })
      (fun _ => rfl) fun _ => []
  | .updateInvalid id tenantID errMsg, world, result, after =>
    ∃ now, Stamp now ∧ Updates world after result (id, if tenantField then tenantID else "") (fun doc => doc.status = .processing)
      (fun doc => { doc with status := .invalid, lastError := errMsg, updatedAt := now, claimToken := none })
      (fun _ => rfl) fun _ => []

end

-- documentFromCreateValues of normalizedCreateValues; Time 0 is the zero time.
def createdDocument (event : OutboxEvent) (tenantID : String) (now : Time) : Document :=
  let createdAt := if event.createdAt = 0 then now else event.createdAt
  { id := event.id
    tenantID := tenantID
    eventType := Go.trimSpace event.eventType
    aggregateID := event.aggregateID
    payload := event.payload
    status := .pending
    attempts := 0
    publishedAt := none
    lastError := ""
    createdAt := createdAt
    updatedAt := if event.updatedAt = 0 ∨ event.updatedAt < createdAt then createdAt else event.updatedAt
    claimToken := none }

def semantics {I : Type} (tenantField : Bool) (Stamp : Time → Prop) : Semantics I (World I tenantField) MongoOp MongoRes where
  exec := Exec Stamp
  idle _ _ _ _ := False
  drift world after := ∃ event tenantID now fresh,
    after = { world with docs := world.docs.insert (createdDocument event tenantID now) fresh }

inductive Call where
  | claimPending (tenantID eventType : String) (limit : Int)
  | resetForRetry (tenantID : String) (limit : Int) (failedBefore : Time) (maxAttempts : Int)
  | reclaimStuckProcessing (tenantID : String) (limit : Int) (processingBefore : Time) (maxAttempts : Int)
  | markPublished (tenantID : String) (id : UUID) (publishedAt : Time)
  | markInvalid (tenantID : String) (id : UUID) (errMsg : String)
  | markFailed (tenantID : String) (id : UUID) (errMsg : String) (maxAttempts : Int)

def Call.program (repo : Repository) : Call → MongoProg
  | .claimPending tenantID eventType limit => Mongo.claimPending tenantID eventType limit
  | .resetForRetry tenantID limit failedBefore maxAttempts => Mongo.resetForRetry tenantID limit failedBefore maxAttempts
  | .reclaimStuckProcessing tenantID limit processingBefore maxAttempts =>
    Mongo.reclaimStuckProcessing tenantID limit processingBefore maxAttempts
  | .markPublished tenantID id publishedAt => Mongo.markPublished tenantID id publishedAt
  | .markInvalid tenantID id errMsg => Mongo.markInvalid repo tenantID id errMsg
  | .markFailed tenantID id errMsg maxAttempts => Mongo.markFailed repo tenantID id errMsg maxAttempts

def Call.cutoff : Call → Option Time
  | .resetForRetry _ _ failedBefore _ => some failedBefore
  | .reclaimStuckProcessing _ _ processingBefore _ => some processingBefore
  | .claimPending _ _ _ | .markPublished _ _ _ | .markInvalid _ _ _ | .markFailed _ _ _ _ => none

def Call.limit : Call → Int
  | .claimPending _ _ limit | .resetForRetry _ limit _ _ | .reclaimStuckProcessing _ limit _ _ => limit
  | .markPublished _ _ _ | .markInvalid _ _ _ | .markFailed _ _ _ _ => 0

def start {I : Type} (repo : Repository) (calls : I → Call) (docs : Collection repo.tenantField) (tokens : List String) :
    Pool I (World I repo.tenantField) MongoOp MongoRes Reply where
  world := ⟨docs, tokens, []⟩
  threads i := (calls i).program repo

end LibCommons.Outbox.Mongo
