import LibCommons.Dlq.Handler

namespace LibCommons.Dlq

open Process

structure Consumer where
  handler : Handler
  batchSize : Nat
  sources : List String

variable (c : Consumer)

def sanitizeMetricSource (source : String) : String :=
  if c.sources.contains source then source else "unknown"

variable (ctxTenant : String)

-- True when a retry was attempted, or the message is exhausted or lost.
def processMessage (msg : FailedMessage) (next : Bool → DlqProg) : DlqProg :=
  let tenant := messageTenant ctxTenant msg
  let lost : DlqProg := .call (.recordLost (sanitizeMetricSource c msg.source)) fun _ => next true
  .call .now fun now =>
    if msg.nextRetryAt ≠ 0 ∧ now < msg.nextRetryAt then
      enqueue c.handler tenant msg fun enqueueErr =>
        match enqueueErr with
        | some _ => lost
        | none => next false
    else if msg.retryCount ≥ msg.maxRetries then
      .call (.recordExhausted (sanitizeMetricSource c msg.source)) fun _ => next true
    else .call (.retryFunc tenant msg) fun retryErr =>
      match retryErr with
      | some err => .call .now fun later => .call (.backoffDuration (msg.retryCount + 1)) fun delay =>
        enqueue c.handler tenant
          { msg with retryCount := msg.retryCount + 1, errorMessage := err, nextRetryAt := later + delay } fun requeueErr =>
            match requeueErr with
            | some _ => lost
            | none => next true
      | none => .call (.recordRetried (sanitizeMetricSource c msg.source)) fun _ => next true

-- for rotations < rotationCap: leave ends drainSource, goOn its inner loop.
def drainRotations (c : Consumer) (ctxTenant source : String) (leave goOn : Nat → DlqProg) : Nat → Nat → DlqProg
  | 0, processed => goOn processed
  | left + 1, processed => .call .done fun done =>
    if done then leave processed
    else dequeue c.handler ctxTenant source fun popped =>
      match popped with
      | .empty | .failed _ => leave processed
      | .item msg => processMessage c ctxTenant msg fun worked =>
        if worked then goOn (processed + 1) else drainRotations c ctxTenant source leave goOn left processed

def drainSource (c : Consumer) (ctxTenant source : String) (next : Nat → DlqProg) : Nat → Nat → DlqProg
  | 0, processed => next processed
  | limit + 1, processed => .call .done fun done =>
    if done then next processed
    else queueLength c.handler ctxTenant source fun qLen =>
      match qLen with
      | .error _ => next processed
      | .ok 0 => next processed
      | .ok (more + 1) => drainRotations c ctxTenant source next (drainSource c ctxTenant source next limit)
          (min (more + 1) c.batchSize) processed

-- One round over the tenants; it stops at the batch size or when the context is done.
def drainRound (c : Consumer) (source : String) (leave : DlqProg) (next : Nat → Bool → DlqProg) : List String → Nat → Bool → DlqProg
  | [], processed, progressed => next processed progressed
  | tenant :: rest, processed, progressed =>
    if c.batchSize ≤ processed then next processed progressed
    else .call .done fun done =>
      if done then leave
      else drainSource c tenant source (fun n => drainRound c source leave next rest (processed + 1) (progressed || 0 < n)) 1 0

-- Each round counts at least one, so that BatchSize rounds are enough.
def drainRounds (c : Consumer) (source : String) (tenants : List String) (next : DlqProg) : Nat → Nat → DlqProg
  | 0, _ => next
  | left + 1, processed =>
    if c.batchSize ≤ processed then next
    else drainRound c source next
      (fun processed progressed => if progressed then drainRounds c source tenants next left processed else next)
      tenants processed false

def extractTenantFromKey (h : Handler) (key source : String) : String :=
  let keyPrefix := h.keyPrefix.toList
  let suffix := ':' :: source.toList
  if key.toList.length ≤ keyPrefix.length + suffix.length then ""
  else if key.toList.take keyPrefix.length ≠ keyPrefix then ""
  else if key.toList.drop (key.toList.length - suffix.length) ≠ suffix then ""
  else String.ofList ((key.toList.take (key.toList.length - suffix.length)).drop keyPrefix.length)

def processSource (source : String) (next : DlqProg) : DlqProg := scanQueues c.handler source fun found =>
    match found with
    | .error _ => next
    | .ok tenantKeys =>
      let tenants := (tenantKeys.map fun key => extractTenantFromKey c.handler key source).filter fun tenant => tenant ≠ ""
      let keyContexts := if tenants.length = 0 then [ctxTenant] else tenants
      drainRounds c source keyContexts next c.batchSize 0

def processSources (c : Consumer) (ctxTenant : String) : List String → DlqProg
  | [] => .ret .processed
  | source :: rest => processSource c ctxTenant source (processSources c ctxTenant rest)

def processOnce : DlqProg := processSources c ctxTenant c.sources

end LibCommons.Dlq
