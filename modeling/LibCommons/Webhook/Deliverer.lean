import LibCommons.Webhook.Signature

namespace LibCommons.Webhook

structure Endpoint where
  id : String
  url : String
  secret : Bytes
  active : Bool
  deriving DecidableEq, Repr

structure Event where
  type : String
  payload : Bytes
  timestamp : Int64
  deriving DecidableEq, Repr

-- The errors a result can carry; what other packages report is a cause.
inductive DeliveryError (C : Type) where
  | ssrfBlocked (cause : C)
  | noDecryptor
  | decryptSecret (cause : C)
  | buildRequest (cause : C)
  | httpRequest (cause : C)
  | cancelledDuringBackoff (cause : C)
  | redirectStatus (statusCode : Nat)
  | nonRetryableStatus (statusCode : Nat)
  | exhausted (attempts : Int) (url : String)
  | exhaustedAfter (attempts : Int) (url : String) (last : DeliveryError C)
  deriving DecidableEq, Repr

def DeliveryError.text {C : Type} (causeText : C → String) : DeliveryError C → String
  | .ssrfBlocked cause => "webhook: SSRF blocked: " ++ causeText cause
  | .noDecryptor => "webhook: encrypted secret but no decryptor configured"
  | .decryptSecret cause => "webhook: decrypt secret: " ++ causeText cause
  | .buildRequest cause => "webhook: build request: " ++ causeText cause
  | .httpRequest cause => "webhook: http request: " ++ causeText cause
  | .cancelledDuringBackoff cause => "webhook: context cancelled during backoff: " ++ causeText cause
  | .redirectStatus statusCode => "webhook: non-retryable redirect status " ++ toString statusCode ++ " (redirects blocked)"
  | .nonRetryableStatus statusCode => "webhook: non-retryable status " ++ toString statusCode
  | .exhausted attempts url =>
    "webhook: delivery failed: exhausted " ++ toString attempts ++ " attempts for " ++ url
  | .exhaustedAfter attempts url last =>
    "webhook: delivery failed: exhausted " ++ toString attempts ++ " attempts for " ++ url ++ " (last error: " ++ last.text causeText ++ ")"

structure DeliveryResult (C : Type) where
  endpointID : String
  statusCode : Nat
  success : Bool
  error : Option (DeliveryError C)
  attempts : Nat
  deriving DecidableEq, Repr

structure Target where
  pinnedURL : String
  originalAuthority : String
  sniHostname : String
  deriving DecidableEq, Repr

-- An empty host leaves the one of the URL; the server name is for a pinned TLS client.
structure Request where
  url : String
  host : String
  serverName : Option String
  eventType : String
  timestamp : Bytes
  signature : Option Bytes
  payload : Bytes
  deriving DecidableEq, Repr

structure Recording where
  endpointID : String
  success : Bool
  statusCode : Nat
  attempts : Nat
  deriving DecidableEq, Repr

structure World where
  requests : List Request
  recorded : List Recording
  deriving DecidableEq, Repr

variable {C : Type}

-- WithMaxRetries ignores a value that is not positive; the default is 3.
structure Deliverer (C : Type) where
  maxRetries : Int64
  retries : 0 < maxRetries.toInt
  sigVersion : SignatureVersion
  decryptor : Option (Bytes → Except C Bytes)
  allowPrivateNetwork : Bool
  metrics : Bool

def defaultMaxRetries : Int64 := 3

def withMaxRetries (n : Int64) (d : Deliverer C) : Deliverer C :=
  if positive : 0 < n.toInt then { d with maxRetries := n, retries := positive } else d

-- Name resolution with the SSRF check, http.NewRequest, the wait, client.Do and the logged URL.
structure Outside (C : Type) where
  resolveAndValidateWebhookTarget : String → Bool → Except C Target
  newRequest : String → Except C Unit
  waitContext : Nat → Except C Unit
  clientDo : Nat → Request → Except C Nat
  sanitizeURL : String → String

section

variable (hmac : Bytes → Bytes → Bytes) (outside : Outside C) (d : Deliverer C)

def resolveSecret (raw : Bytes) : Except (DeliveryError C) Bytes :=
  if raw = [] then .ok []
  else if (Bytes.utf8 ['e', 'n', 'c', ':']).isPrefixOf raw = false then .ok raw
  else
    match d.decryptor with
    | none => .error .noDecryptor
    | some decryptor => (decryptor (raw.drop 4)).mapError .decryptSecret

def requestFor (target : Target) (event : Event) (secret : Bytes) : Request where
  url := target.pinnedURL
  host := target.originalAuthority
  serverName :=
    if target.sniHostname ≠ "" ∧ "https://".isPrefixOf target.pinnedURL = true then some target.sniHostname else none
  eventType := event.type
  timestamp := formatTimestamp event.timestamp
  signature :=
    if secret = [] then none else some (computeSignature hmac d.sigVersion event.payload event.timestamp secret)
  payload := event.payload

def doHTTP (target : Target) (event : Event) (secret : Bytes) (attempt : Nat) (world : World) : Except (DeliveryError C) Nat × World :=
  match outside.newRequest target.pinnedURL with
  | .error cause => (.error (.buildRequest cause), world)
  | .ok () =>
    let request := requestFor hmac d target event secret
    ((outside.clientDo attempt request).mapError .httpRequest, { world with requests := world.requests ++ [request] })

def recordMetrics (endpointID : String) (success : Bool) (statusCode attempts : Nat) (world : World) : World :=
  if d.metrics = true then { world with recorded := world.recorded ++ [⟨endpointID, success, statusCode, attempts⟩] }
  else world

def statusOf {A : Type} (outcome : Except A Nat) : Nat :=
  match outcome with
  | .error _ => 0
  | .ok statusCode => statusCode

def exhaust (ep : Endpoint) (result : DeliveryResult C) (world : World) : DeliveryResult C × World :=
  let attempts := (d.maxRetries + 1).toInt
  let url := outside.sanitizeURL ep.url
  let error :=
    match result.error with
    | some last => DeliveryError.exhaustedAfter attempts url last
    | none => .exhausted attempts url
  ({ result with error := some error }, recordMetrics d ep.id false result.statusCode result.attempts world)

-- The result is the one struct the source updates in place.
def retryLoop (ep : Endpoint) (event : Event) (target : Target) (secret : Bytes) :
    Nat → Nat → DeliveryResult C → World → DeliveryResult C × World
  | 0, _, result, world => exhaust outside d ep result world
  | rounds + 1, attempt, result, world =>
    match (if 0 < attempt then outside.waitContext attempt else .ok ()) with
    | .error cause =>
      ({ result with attempts := attempt + 1, error := some (.cancelledDuringBackoff cause) }, world)
    | .ok () =>
      match doHTTP hmac outside d target event secret attempt world with
      | (.error err, world) =>
        retryLoop ep event target secret rounds (attempt + 1)
          { result with attempts := attempt + 1, statusCode := 0, error := some err } world
      | (.ok statusCode, world) =>
        let result := { result with attempts := attempt + 1, statusCode := statusCode }
        if 200 ≤ statusCode ∧ statusCode < 300 then
          ({ result with success := true }, recordMetrics d ep.id true statusCode result.attempts world)
        else if 300 ≤ statusCode ∧ statusCode < 400 then
          ({ result with error := some (.redirectStatus statusCode) }, recordMetrics d ep.id false statusCode result.attempts world)
        else if 400 ≤ statusCode ∧ statusCode < 500 ∧ statusCode ≠ 429 then
          ({ result with error := some (.nonRetryableStatus statusCode) }, recordMetrics d ep.id false statusCode result.attempts world)
        else retryLoop ep event target secret rounds (attempt + 1) result world

-- range d.maxRetries + 1 counts not at all where the sum has wrapped around.
def rounds : Nat := (d.maxRetries + 1).toInt.toNat

def deliverToEndpoint (ep : Endpoint) (event : Event) (world : World) : DeliveryResult C × World :=
  let result : DeliveryResult C := ⟨ep.id, 0, false, none, 0⟩
  match outside.resolveAndValidateWebhookTarget ep.url d.allowPrivateNetwork with
  | .error cause => ({ result with error := some (.ssrfBlocked cause) }, world)
  | .ok target =>
    match resolveSecret d ep.secret with
    | .error err => ({ result with error := some err }, world)
    | .ok secret => retryLoop hmac outside d ep event target secret (rounds d) 0 result world

end

def Is2xx (outcome : Except C Nat) : Prop := ∃ statusCode, outcome = .ok statusCode ∧ 200 ≤ statusCode ∧ statusCode < 300

def Ends (outcome : Except C Nat) : Prop := ∃ statusCode, outcome = .ok statusCode ∧ 200 ≤ statusCode ∧ statusCode < 500 ∧ statusCode ≠ 429

-- What a result says, against the requests made and the outcome of each.
structure Truthful (d : Deliverer C) (ep : Endpoint) (request : Request) (outcome : Nat → Except C Nat)
    (before after : World) (result : DeliveryResult C) : Prop where
  attempts : after.requests = before.requests ++ List.replicate result.attempts request
  bounded : (result.attempts : Int) ≤ d.maxRetries.toInt + 1
  stops : ∀ n, n + 1 < result.attempts → ¬ Ends (outcome n)
  statusCode : ∀ n, result.attempts = n + 1 → result.statusCode = statusOf (outcome n)
  success : result.success = true ↔ ∃ n, result.attempts = n + 1 ∧ Is2xx (outcome n)
  error : result.error = none ↔ result.success = true
  recorded : after.recorded = before.recorded ++
    if d.metrics = true then [⟨ep.id, result.success, result.statusCode, result.attempts⟩] else []

end LibCommons.Webhook
