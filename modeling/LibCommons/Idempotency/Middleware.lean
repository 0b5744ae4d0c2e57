import LibCommons.Lib.Checked
import LibCommons.Idempotency.Wire

namespace LibCommons.Idempotency

abbrev Duration := Int

def millisecond : Duration := 1000000

def idempotencyKey : String := "X-Idempotency"
def idempotencyReplayed : String := "X-Idempotency-Replayed"
def idempotencyFenced : String := "X-Idempotency-Fenced"
def headerSetCookie : String := "Set-Cookie"
def headerContentType : String := "Content-Type"
def headerRetryAfter : String := "Retry-After"
def retryAfterSeconds : String := "1"

structure ErrorResponse where
  code : Int
  title : String
  message : String

structure Response (H : Type) where
  statusCode : Int
  header : H
  body : Bytes
  isBodyStream : Bool := false

-- What the middleware calls on a fasthttp.ResponseHeader, and fiber's c.Status(code).JSON(payload).
class ResponseHeader (H : Type) where
  all : H → List (String × String)
  contentType : H → String
  defaultContentType : H → String
  set : H → String → String → H
  add : H → String → String → H
  del : H → String → H
  delCookie : H → String → H
  cookieKey : String → String
  managed : String → Bool
  respond : Response H → ErrorResponse → Response H

-- An error a handler returned; a fiber.Error carries a status.
structure HandlerError where
  fiberCode : Option Int
  message : String

abbrev ProviderError := String

-- A streamed body is what reading it gives and the declared length, negative when chunked; decode is c.Body().
structure Request where
  method : String
  path : String
  idempotencyHeader : String
  contextTenant : String
  body : Bytes
  stream : Option (Except ProviderError Bytes × Int)
  decode : Bytes → Bytes

inductive ClientErrorPolicy where
  | cache
  | release
deriving DecidableEq

inductive ServerErrorPolicy where
  | release
  | fence
deriving DecidableEq

-- An encoder may draw on randomness and on the request's context: the seed.
structure ResponseCodec where
  encode : Nat → Bytes → Option Bytes
  decode : Bytes → Option Bytes

def identityResponseCodec : ResponseCodec where
  encode := fun _ plaintext => some plaintext
  decode := fun encoded => some encoded

inductive Refusal where
  | unavailable
  | keyRequired
  | tenantRequired
  | keyTooLong
  | tenantMalformed
  | postHandlerStoreError
  | unrecognisedState
  | unreadableRecord
  | unfenced
  | outcomeUnknown
  | replayUnavailable
  | conflict
  | keyReuse
deriving DecidableEq

inductive Answer where
  | bypassed
  | handled
  | refused (refusal : Refusal)
  | replayed
  | alreadyProcessed
  | panicked
deriving DecidableEq

-- The fence is the IdempotencyFenced header, none where no fence was attempted.
structure Reply (H : Type) where
  answer : Answer
  response : Response H
  err : Option HandlerError
  fence : Option Bool := none

abbrev Handler (H : Type) := Request → Response H → Response H × Option HandlerError

-- The causes of ErrHeartbeatMisconfigured.
inductive HeartbeatMisconfigured where
  | storeCannotExtend
  | leaseTooShort
  | intervalTooLong

-- The defaults are newMiddleware's. The digest is the hex SHA-256, left open.
structure Middleware (H : Type) where
  hasStore : Bool := true
  hasExtender : Bool := false
  digest : Bytes → String
  keyProvider : Option (Request → Except ProviderError String) := none
  keyPrefix : String := "idempotency:"
  keyTTL : Duration := 7 * 24 * 3600 * 1000 * millisecond
  processingTTL : Duration := 0
  maxKeyLength : Nat := 256
  maxBodyCache : Nat := 1048576
  ttlProvider : Option (Request → Except ProviderError Duration) := none
  processingTTLProvider : Option (Request → Except ProviderError Duration) := none
  fingerprintScopeProvider : Option (Request → String) := none
  fingerprintProvider : Option (Request → Except ProviderError Bytes) := none
  tenantProvider : Option (Request → Except ProviderError String) := none
  responseCodec : ResponseCodec := identityResponseCodec
  clientErrorPolicy : ClientErrorPolicy := .cache
  serverErrorPolicy : ServerErrorPolicy := .release
  clientErrorPolicyFunc : Option (Request → Response H → Int → ClientErrorPolicy) := none
  serverErrorPolicyFunc : Option (Request → Response H → Int → Option HandlerError → ServerErrorPolicy) := none
  onRejected : Option (Handler H) := none
  onConflict : Option (Handler H) := none
  onKeyReuse : Option (Handler H) := none
  onReplayUnavailable : Option (Handler H) := none
  requireKey : Bool := false
  requireTenant : Bool := false
  onKeyRequired : Option (Handler H) := none
  onTenantRequired : Option (Handler H) := none
  failClosed : Bool := false
  onUnavailable : Option (Handler H) := none
  onPostHandlerUnavailable : Option (Handler H) := none
  onUnfenced : Option (Handler H) := none
  onTerminalRefusal : Option (String → Handler H) := none
  heartbeatInterval : Duration := 0
  configErr : Option HeartbeatMisconfigured := none

def minHeartbeatLease : Duration := 3 * (50 * millisecond)

section

variable {H : Type}

-- WithProcessingHeartbeat and the construction check behind it.
def withProcessingHeartbeat (interval : Duration) (m : Middleware H) : Middleware H :=
  if interval > 0 then { m with heartbeatInterval := max interval (50 * millisecond) } else m

def bindHeartbeat (storeExtends : Bool) (m : Middleware H) : Middleware H :=
  if m.heartbeatInterval ≤ 0 then m
  else if !storeExtends then { m with configErr := some .storeCannotExtend }
  else if m.processingTTL > 0 ∧ m.processingTTL < minHeartbeatLease then { m with configErr := some .leaseTooShort }
  else if m.processingTTL > 0 ∧ m.heartbeatInterval ≥ m.processingTTL then { m with configErr := some .intervalTooLong }
  else { m with hasExtender := true }

def newWithStore (storeExtends : Bool) (m : Middleware H) : Middleware H :=
  bindHeartbeat storeExtends { m with hasStore := true, failClosed := true }

end

section

variable {H : Type} [ResponseHeader H]

def refuse (refusal : Refusal) (handler : Option (Handler H)) (document : ErrorResponse) (request : Request)
    (response : Response H) : Reply H :=
  match handler with
  | some handler =>
    { answer := .refused refusal, response := (handler request response).1, err := (handler request response).2 }
  | none => { answer := .refused refusal, response := ResponseHeader.respond response document, err := none }

def setHeader (response : Response H) (name value : String) : Response H :=
  { response with header := ResponseHeader.set response.header name value }

variable (m : Middleware H)

def respondUnavailable : Request → Response H → Reply H := refuse .unavailable m.onUnavailable
    { code := 503, title := "IDEMPOTENCY_UNAVAILABLE",
      message := "idempotency store unavailable; request rejected to preserve at-most-once semantics" }

def respondKeyRequired : Request → Response H → Reply H := refuse .keyRequired m.onKeyRequired
    { code := 400, title := "IDEMPOTENCY_KEY_REQUIRED", message := idempotencyKey ++ " header is required for this request" }

def respondTenantRequired : Request → Response H → Reply H := refuse .tenantRequired m.onTenantRequired
    { code := 400, title := "IDEMPOTENCY_TENANT_REQUIRED", message := "tenant context is required for this request" }

def respondKeyTooLong : Request → Response H → Reply H :=
  refuse .keyTooLong m.onRejected
    { code := 400, title := "VALIDATION_ERROR",
      message := idempotencyKey ++ " must not exceed " ++ toString m.maxKeyLength ++ " bytes" }

def respondTenantMalformed : Request → Response H → Reply H := refuse .tenantMalformed none
    { code := 400, title := "IDEMPOTENCY_TENANT_MALFORMED", message := "tenant must not contain ':'" }

def respondPostHandlerStoreError : Request → Response H → Reply H :=
  refuse .postHandlerStoreError (m.onPostHandlerUnavailable <|> m.onUnavailable)
    { code := 503, title := "IDEMPOTENCY_UNAVAILABLE",
      message := "request processing finished but its replay response could not be persisted; " ++
        "do not retry with a new key — reconcile the original request first" }

def refuseTerminal (refusal : Refusal) (code message : String) : Request → Response H → Reply H :=
  refuse refusal (m.onTerminalRefusal.map (fun handler => handler code) <|> m.onPostHandlerUnavailable)
    { code := 422, title := code, message := message }

def respondUnrecognisedState : Request → Response H → Reply H := refuseTerminal m .unrecognisedState "IDEMPOTENCY_STATE_UNRECOGNISED"
    ("this idempotency key holds a record written by a newer version and cannot be interpreted here; " ++
      "do not retry with a new key — reconcile the original request first")

def respondUnreadableRecord : Request → Response H → Reply H := refuseTerminal m .unreadableRecord "IDEMPOTENCY_RECORD_UNREADABLE"
    ("this idempotency key holds a record that cannot be decoded; " ++ "do not retry with a new key — reconcile the original request first")

def respondOutcomeUnknown : Request → Response H → Reply H := refuseTerminal m .outcomeUnknown "IDEMPOTENCY_OUTCOME_UNRECORDED"
    ("an earlier request with this idempotency key ran without recording its outcome; " ++
      "do not retry with a new key — reconcile the original request first")

def respondUnfenced : Request → Response H → Reply H :=
  refuse .unfenced m.onUnfenced
    { code := 503, title := "IDEMPOTENCY_UNFENCED",
      message := "request processing finished but neither its replay response nor a fence could be persisted; " ++
        "this idempotency key is NOT protected and a resend may execute the operation again — " ++
        "reconcile the original request before sending anything under this key" }

def respondReplayUnavailable : Request → Response H → Reply H := refuse .replayUnavailable m.onReplayUnavailable
    { code := 409, title := "IDEMPOTENCY_REPLAY_UNAVAILABLE",
      message := "the request with this idempotency key already ran and its response was delivered, but that " ++
        "response was too large to store for replay; resending under this key will not execute the operation again " ++
        "and will not reproduce that response" }

def respondConflict (request : Request) (response : Response H) : Reply H := refuse .conflict m.onConflict
    { code := 409, title := "IDEMPOTENCY_CONFLICT", message := "a request with this idempotency key is currently being processed" }
    request (setHeader (setHeader response idempotencyReplayed "true") headerRetryAfter retryAfterSeconds)

def respondKeyReuse : Request → Response H → Reply H :=
  refuse .keyReuse m.onKeyReuse
    { code := 422, title := "IDEMPOTENCY_KEY_REUSE",
      message := "this idempotency key was already used for a different request; " ++
        "do not retry with a new key — reconcile the original request first" }

@[simp] theorem refuse_answer (refusal : Refusal) (handler : Option (Handler H)) (document : ErrorResponse)
    (request : Request) (response : Response H) :
    (refuse refusal handler document request response).answer = .refused refusal := by
  cases handler <;> rfl

@[simp] theorem refuse_fence (refusal : Refusal) (handler : Option (Handler H)) (document : ErrorResponse)
    (request : Request) (response : Response H) :
    (refuse refusal handler document request response).fence = none := by
  cases handler <;> rfl

end

variable {H : Type} (m : Middleware H)

def isMutating (method : String) : Bool := method = "POST" || method = "PUT" || method = "PATCH" || method = "DELETE"

def provided {A : Type} (provider : Option (Request → Except ProviderError A)) (shipped : Except ProviderError A)
    (request : Request) : Except ProviderError A :=
  match provider with
  | some provider => provider request
  | none => shipped

def resolveKey (request : Request) : Except ProviderError String := provided m.keyProvider (.ok request.idempotencyHeader) request

-- The error is ErrTenantMalformed; a provider that fails names no tenant.
def resolveTenant (request : Request) : Except Unit String :=
  let tenant : String :=
    match m.tenantProvider with
    | none => request.contextTenant
    | some provider =>
      match provider request with
      | .error _ => ""
      | .ok tenant => tenant
  if ':' ∈ tenant.toList then .error () else .ok tenant

def bufferedIdentity (request : Request) : Except ProviderError Bytes :=
  match request.stream with
  | none => .ok (request.decode request.body)
  | some (.error e, _) => .error e
  | some (.ok read, declared) =>
    if 0 ≤ declared ∧ (read.length : Int) ≠ declared then .error "idempotency request body stream failed to read"
    else .ok (request.decode read)

def bytesOf (text : String) : Bytes := Bytes.utf8 text.toList

def requestFingerprintInput (method path : String) (body : Bytes) : Bytes := bytesOf method ++ [10] ++ bytesOf path ++ [10] ++ body

def fingerprintScopeDomain : Bytes := bytesOf "lib-commons:idempotency:fingerprint-scope:v1" ++ [0]

def bigEndian64 (n : Nat) : Bytes := (List.range 8).map fun place => UInt8.ofNat (n / 256 ^ (7 - place))

def scopedFingerprintInput (scope method path : String) (body : Bytes) : Bytes :=
  fingerprintScopeDomain ++ bigEndian64 (bytesOf scope).length ++ bytesOf scope ++ requestFingerprintInput method path body

def resolveFingerprint (request : Request) : Except ProviderError String := do
  let identity ← provided m.fingerprintProvider (bufferedIdentity request) request
  match m.fingerprintScopeProvider with
  | some provider => .ok (m.digest (scopedFingerprintInput (provider request) request.method request.path identity))
  | none => .ok (m.digest (requestFingerprintInput request.method request.path identity))

def resolveTTL (request : Request) : Except ProviderError Duration := do
  let ttl ← provided m.ttlProvider (.ok m.keyTTL) request
  if ttl ≤ 0 then .error "idempotency TTL must be positive" else .ok ttl

def resolveProcessingTTL (request : Request) : Duration :=
  match m.processingTTLProvider with
  | none => m.processingTTL
  | some provider =>
    match provider request with
    | .error _ => m.processingTTL
    | .ok lease => if lease ≤ 0 then m.processingTTL else lease

def storeKey (tenant key : String) : String := m.keyPrefix ++ tenant ++ ":" ++ key

def Carries (key : String) (request : Request) : Prop :=
  isMutating request.method = true ∧ ∃ idempotencyKey tenant, resolveKey m request = .ok idempotencyKey ∧
    idempotencyKey ≠ "" ∧ resolveTenant m request = .ok tenant ∧ tenant ≠ "" ∧ storeKey m tenant idempotencyKey = key

def fingerprintOf (request : Request) : String :=
  match resolveFingerprint m request with
  | .ok fingerprint => fingerprint
  | .error _ => ""

theorem resolve_ttl_positive (request : Request) (ttl : Duration) (resolved : resolveTTL m request = .ok ttl) : 0 < ttl := by
  rw [resolveTTL, Checked.bind_ok_iff] at resolved
  obtain ⟨_, -, checked⟩ := resolved
  split_ifs at checked with short
  cases checked
  exact not_le.mp short

def resolveClientErrorPolicy (request : Request) (response : Response H) (status : Int) : ClientErrorPolicy :=
  match m.clientErrorPolicyFunc with
  | some policy => policy request response status
  | none => m.clientErrorPolicy

def effectiveStatus (response : Response H) (status : Int) (err : Option HandlerError) : Int :=
  match err with
  | none => status
  | some err =>
    if status ≠ 200 ∨ response.isBodyStream ∨ 0 < response.body.length then status
    else err.fiberCode.getD status

def resolveServerErrorPolicy (request : Request) (response : Response H) (status : Int) (err : Option HandlerError) :
    ServerErrorPolicy :=
  match m.serverErrorPolicyFunc with
  | some policy => policy request response (effectiveStatus response status err) err
  | none => m.serverErrorPolicy

end LibCommons.Idempotency
