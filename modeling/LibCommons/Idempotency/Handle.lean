import LibCommons.Idempotency.Receipt
import LibCommons.Idempotency.Store

namespace LibCommons.Idempotency

-- strings.Cut at the first ':'; the state must be one of the two known.
def decodeLegacyRecord (stored : Bytes) : Option (String × Bytes) :=
  let state := stored.takeWhile fun byte => byte ≠ 58
  let fingerprint := stored.drop (state.length + 1)
  if 58 ∉ stored then none
  else if state = bytesOf keyStateProcessing then some (keyStateProcessing, fingerprint)
  else if state = bytesOf keyStateComplete then some (keyStateComplete, fingerprint)
  else none

variable {H : Type} [ResponseHeader H]

abbrev RequestProg (H : Type) := Process.Prog Op (Res H) (Reply H)

variable (m : Middleware H) (range : MapRange) (request : Request)

def respondLegacy (response : Response H) (state : String) (stored : Bytes) (fingerprint : String) : Reply H :=
  if stored ≠ bytesOf fingerprint then respondKeyReuse m request response
  else if state = keyStateProcessing then respondConflict m request response
  else
    { answer := .alreadyProcessed
      response := ResponseHeader.respond (setHeader response idempotencyReplayed "true")
        { code := 200, title := "IDEMPOTENT", message := "request already processed" }
      err := none }

def respondStored (response : Response H) (fingerprint : String) (stored : Bytes) : Reply H :=
  match unmarshalRecord stored with
  | none =>
    match decodeLegacyRecord stored with
    | none => respondUnreadableRecord m request response
    | some legacy => respondLegacy m request response legacy.1 legacy.2 fingerprint
  | some current =>
    if current.fingerprint ≠ fingerprint then respondKeyReuse m request response
    else if current.outcome = outcomeUnrecorded then respondOutcomeUnknown m request response
    else if current.outcome = outcomeNotReplayable then respondReplayUnavailable m request response
    else if current.state = keyStateProcessing then respondConflict m request response
    else if current.state = keyStateComplete then replay m range request current.response response
    else respondUnrecognisedState m request response

def runChain (response : Response H) (beat : Option Beat) (next : Outcome H → RequestProg H) : RequestProg H :=
  .call (.start beat) fun _ => .call (.await beat) fun outcome =>
    match outcome with
    | none => .ret { answer := .panicked, response := response, err := none }
    | some outcome => next outcome

def bypass (response : Response H) : RequestProg H := runChain response none fun outcome =>
    .ret { answer := .bypassed, response := outcome.response, err := outcome.err }

def onStoreError (response : Response H) : RequestProg H :=
  if !m.failClosed then bypass response else .ret (respondUnavailable m request response)

def fencedRecord (record : StoreRecord) : StoreRecord :=
  { record with state := keyStateComplete, outcome := outcomeUnrecorded, response := [] }

variable (key : String)

def markOutcomeUnknown (processing : Bytes) (record : StoreRecord) (ttl : Duration) (response : Response H)
    (next : Bool → Response H → RequestProg H) : RequestProg H :=
  match marshalRecord (fencedRecord record) with
  | none => next false (setHeader response idempotencyFenced "false")
  | some unknown => .call (.complete key processing unknown ttl) fun applied =>
    match applied with
    | .ok true => next true (setHeader response idempotencyFenced "true")
    | _ => next false (setHeader response idempotencyFenced "false")

def failPostHandler (processing : Bytes) (record : StoreRecord) (ttl : Duration) (response : Response H) :
    RequestProg H :=
  markOutcomeUnknown key processing record ttl response fun fenced response =>
    if !fenced then .ret { respondUnfenced m request response with fence := some false }
    else .ret { respondPostHandlerStoreError m request response with fence := some true }

def releaseOwned (processing : Bytes) (next : RequestProg H) : RequestProg H := .call (.release key processing) fun _ => next

def complete (key : String) (processing : Bytes) (record : StoreRecord) (ttl : Duration) (outcome : Outcome H) :
    RequestProg H :=
  match marshalRecord record with
  | none => failPostHandler m request key processing record ttl outcome.response
  | some completed => .call (.complete key processing completed ttl) fun applied =>
    match applied with
    | .ok true => .ret { answer := .handled, response := outcome.response, err := outcome.err }
    | _ => failPostHandler m request key processing record ttl outcome.response

def afterHandler (processing : Bytes) (record : StoreRecord) (ttl : Duration) (before : HeaderSnapshot)
    (outcome : Outcome H) : RequestProg H :=
  let status := outcome.response.statusCode
  let handled : Reply H := { answer := .handled, response := outcome.response, err := outcome.err }
  if outcome.err.isSome ∨ status ≥ 500 then
    if resolveServerErrorPolicy m request outcome.response status outcome.err = .fence then
      markOutcomeUnknown key processing record ttl outcome.response fun fenced response =>
        .ret { handled with response := response, fence := some fenced }
    else releaseOwned key processing (.ret handled)
  else if status ≥ 400 ∧ resolveClientErrorPolicy m request outcome.response status = .release then
    releaseOwned key processing (.ret handled)
  else
    match captureResponse m outcome.seed outcome.response before with
    | .error .responseTooLarge =>
      complete m request key processing
        { record with state := keyStateComplete, response := [], outcome := outcomeNotReplayable } ttl outcome
    | .error _ => failPostHandler m request key processing record ttl outcome.response
    | .ok encoded =>
      complete m request key processing { record with state := keyStateComplete, response := encoded } ttl outcome

def handleStoreAcquired (processing : Bytes) (record : StoreRecord) (ttl lease : Duration) (response : Response H) : RequestProg H :=
  let before := snapshotResponseHeaders response.header
  let beat := if m.hasExtender then some { key := key, processing := processing, lease := lease } else none
  runChain response beat (afterHandler m request key processing record ttl before)

def afterAcquire (fingerprint : String) (processing : Bytes) (record : StoreRecord) (ttl lease : Duration)
    (response : Response H) : Except StoreError (Bytes × Bool) → RequestProg H
  | .error _ => onStoreError m request response
  | .ok (_, true) => handleStoreAcquired m request key processing record ttl lease response
  | .ok (stored, false) => .ret (respondStored m range request response fingerprint stored)

def handleStore (owner key fingerprint : String) (ttl lease : Duration) (response : Response H) : RequestProg H :=
  let record : StoreRecord := { state := keyStateProcessing, fingerprint := fingerprint, owner := owner }
  match marshalRecord record with
  | none => onStoreError m request response
  | some processing =>
    let lease := if lease ≤ 0 then ttl else lease
    if m.hasExtender ∧ lease < minHeartbeatLease then .ret (respondUnavailable m request response)
    else
      .call (.acquire key processing lease) (afterAcquire m range request key fingerprint processing record ttl lease response)

def handle (owner : String) (response : Response H) : RequestProg H :=
  if !isMutating request.method then bypass response
  else
    match resolveKey m request with
    | .error _ => .ret (respondUnavailable m request response)
    | .ok idempotencyKey =>
      if idempotencyKey = "" then
        if m.requireKey then .ret (respondKeyRequired m request response) else bypass response
      else if (bytesOf idempotencyKey).length > m.maxKeyLength then .ret (respondKeyTooLong m request response)
      else
        match resolveTenant m request with
        | .error _ => .ret (respondTenantMalformed request response)
        | .ok tenant =>
          if tenant = "" then
            if m.requireTenant then .ret (respondTenantRequired m request response) else bypass response
          else if m.configErr.isSome then .ret (respondUnavailable m request response)
          else if !m.hasStore then onStoreError m request response
          else
            match resolveFingerprint m request, resolveTTL m request with
            | .error _, _ => .ret (respondUnavailable m request response)
            | .ok _, .error _ => .ret (respondUnavailable m request response)
            | .ok fingerprint, .ok ttl =>
              handleStore m range request owner (storeKey m tenant idempotencyKey) fingerprint ttl (resolveProcessingTTL m request) response

end LibCommons.Idempotency
