import LibCommons.Go.Strings
import LibCommons.Lib.Process

namespace LibCommons.Dlq

open Process

-- Nanoseconds; 0 is the zero time.
abbrev Time := Int

structure FailedMessage where
  source : String
  originalData : List UInt8
  errorMessage : String
  retryCount : Int
  maxRetries : Int
  createdAt : Time
  nextRetryAt : Time
  tenantID : String
deriving DecidableEq, Repr

-- New puts a positive number in the place of any other.
structure Handler where
  keyPrefix : String
  maxRetries : Int
  positive : 0 < maxRetries

inductive Popped where
  | item (msg : FailedMessage)
  | empty
  | failed (err : String)

-- What the code calls; errors are their texts.
inductive DlqOp where
  | now
  | backoffDuration (retryCount : Int)
  | done
  | marshal (msg : FailedMessage)
  | getClient
  | rPush (key : String) (msg : FailedMessage)
  | lPop (key : String)
  | lLen (key : String)
  | scan (pattern : String)
  | retryFunc (tenantID : String) (msg : FailedMessage)
  | recordRetried (source : String)
  | recordExhausted (source : String)
  | recordLost (source : String)
  | logPruned (msg : FailedMessage)

abbrev DlqRes : DlqOp → Type
  | .now | .backoffDuration _ => Time
  | .done => Bool
  | .marshal _ | .getClient | .rPush _ _ | .retryFunc _ _ => Option String
  | .lPop _ => Popped
  | .lLen _ => Except String Nat
  | .scan _ => Except String (List String)
  | .recordRetried _ | .recordExhausted _ | .recordLost _ | .logPruned _ => Unit

inductive Reply where
  | enqueued (err : Option String)
  | processed
  | pruned (count : Nat) (err : Option String)

abbrev DlqProg := Prog DlqOp DlqRes Reply

def disallowed (c : Char) : Bool := c = ':' || c = '*' || c = '?' || c = '[' || c = ']' || c = '\\'

def validateKeySegment (name value : String) : Option String := (value.toList.find? disallowed).map fun c =>
    "dlq: " ++ name ++ " " ++ Go.quote value ++ " contains disallowed character '" ++ String.ofList (Go.quoteChar c) ++ "'"

def validateSource (source : String) : Option String :=
  if source = "" then some "dlq: source must not be empty" else validateKeySegment "source" source

variable (h : Handler)

def tenantScopedKeyForTenant (tenantID source : String) : String :=
  if tenantID ≠ "" then
    match validateKeySegment "tenantID" tenantID with
    | some _ => ""
    | none => h.keyPrefix ++ tenantID ++ ":" ++ source
  else h.keyPrefix ++ source

def minBackoff : Time := 5000000000

def stampedMaxRetries (msg : FailedMessage) : Int :=
  if msg.maxRetries ≤ 0 then h.maxRetries else msg.maxRetries

def stampInitialEnqueue (msg : FailedMessage) (next : FailedMessage → DlqProg) : DlqProg :=
  if msg.createdAt = 0 then
    .call .now fun now =>
      let stamped := { msg with createdAt := now, maxRetries := stampedMaxRetries h msg }
      if stamped.retryCount < stamped.maxRetries then
        .call (.backoffDuration stamped.retryCount) fun delay => next { stamped with nextRetryAt := now + delay }
      else next stamped
  else next { msg with maxRetries := stampedMaxRetries h msg }

variable (ctxTenant : String)

-- The tenant of a message is its own, or else that of the context.
def messageTenant (msg : FailedMessage) : String := if msg.tenantID ≠ "" then msg.tenantID else ctxTenant

def resolveAndValidateTenant (msg : FailedMessage) : Except String (String × FailedMessage) :=
  let effectiveTenant := messageTenant ctxTenant msg
  let msg := { msg with tenantID := effectiveTenant }
  if effectiveTenant ≠ "" ∧ ctxTenant ≠ "" ∧ effectiveTenant ≠ ctxTenant then
    .error ("dlq: enqueue: tenant mismatch between message (" ++ effectiveTenant ++ ") and context (" ++ ctxTenant ++ ")")
  else if effectiveTenant ≠ "" then
    match validateKeySegment "tenantID" effectiveTenant with
    | some err => .error ("dlq: enqueue: " ++ err)
    | none => .ok (effectiveTenant, msg)
  else .ok (effectiveTenant, msg)

def enqueue (msg : FailedMessage) (next : Option String → DlqProg) : DlqProg :=
  match validateSource msg.source with
  | some err => next (some err)
  | none => stampInitialEnqueue h msg fun msg =>
    match resolveAndValidateTenant ctxTenant msg with
    | .error err => next (some err)
    | .ok (effectiveTenant, msg) => .call (.marshal msg) fun marshalErr =>
      match marshalErr with
      | some err => next (some ("dlq: enqueue: marshal: " ++ err))
      | none =>
        let key := tenantScopedKeyForTenant h effectiveTenant msg.source
        if key = "" then next (some "dlq: enqueue: invalid tenant ID produced empty key")
        else .call .getClient fun clientErr =>
          match clientErr with
          | some err => next (some ("dlq: enqueue: redis client: " ++ err))
          | none => .call (.rPush key msg) fun pushErr =>
            match pushErr with
            | some err => next (some ("dlq: enqueue: rpush: " ++ err))
            | none => next none

-- What was pushed is valid JSON, so what is popped can be decoded.
def dequeue (source : String) (next : Popped → DlqProg) : DlqProg :=
  match validateSource source with
  | some err => next (.failed err)
  | none =>
    let key := tenantScopedKeyForTenant h ctxTenant source
    if key = "" then next (.failed "dlq: dequeue: invalid tenant ID produced empty key")
    else .call .getClient fun clientErr =>
      match clientErr with
      | some err => next (.failed ("dlq: dequeue: redis client: " ++ err))
      | none => .call (.lPop key) fun popped =>
        match popped with
        | .empty => next .empty
        | .failed err => next (.failed ("dlq: dequeue: " ++ err))
        | .item msg => next (.item { msg with source := source })

def queueLength (source : String) (next : Except String Nat → DlqProg) : DlqProg :=
  match validateSource source with
  | some err => next (.error err)
  | none =>
    let key := tenantScopedKeyForTenant h ctxTenant source
    if key = "" then next (.error "dlq: queue length: invalid tenant ID produced empty key")
    else .call .getClient fun clientErr =>
      match clientErr with
      | some err => next (.error ("dlq: queue length: redis client: " ++ err))
      | none => .call (.lLen key) next

-- SCAN is iterated to its end.
def scanQueues (source : String) (next : Except String (List String) → DlqProg) : DlqProg :=
  match validateSource source with
  | some err => next (.error err)
  | none => .call .getClient fun clientErr =>
    match clientErr with
    | some err => next (.error ("dlq: scan queues: redis client: " ++ err))
    | none => .call (.scan (h.keyPrefix ++ "*:" ++ source)) fun found =>
      match found with
      | .error err => next (.error ("dlq: scan queues: " ++ err))
      | .ok keys => next (.ok (keys.filter fun key => key ≠ h.keyPrefix ++ source))

-- for range limit
def pruneLoop (h : Handler) (ctxTenant source : String) : Nat → Nat → DlqProg
  | 0, pruned => .ret (.pruned pruned none)
  | left + 1, pruned => dequeue h ctxTenant source fun popped =>
    match popped with
    | .empty => .ret (.pruned pruned none)
    | .failed err => .ret (.pruned pruned (some ("dlq: prune: dequeue: " ++ err)))
    | .item msg =>
      if msg.retryCount ≥ msg.maxRetries then
        .call (.logPruned msg) fun _ => pruneLoop h ctxTenant source left (pruned + 1)
      else enqueue h (messageTenant ctxTenant msg) msg fun enqueueErr =>
        match enqueueErr with
        | some err => .ret (.pruned pruned (some ("dlq: prune: re-enqueue: " ++ err)))
        | none => pruneLoop h ctxTenant source left pruned

def pruneExhaustedMessages (source : String) (limit : Int) : DlqProg :=
  match validateSource source with
  | some err => .ret (.pruned 0 (some err))
  | none => if limit ≤ 0 then .ret (.pruned 0 none) else pruneLoop h ctxTenant source limit.toNat 0

end LibCommons.Dlq
