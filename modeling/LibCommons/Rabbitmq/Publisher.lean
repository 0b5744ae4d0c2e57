import LibCommons.Go.Strings
import LibCommons.Lib.Process

namespace LibCommons.Rabbitmq

open Process

inductive HealthState where
  | connected
  | reconnecting
  | degraded
  | disconnected
deriving DecidableEq

-- The n-th channel's confirms, returns, closedCh and closeOnce carry its number.
structure Publisher where
  ch : Option Nat
  confirms : Nat
  returns : Nat
  closedCh : Nat
  done : Nat
  health : HealthState
  closed : Bool
  shutdown : Bool
  recoveryExhausted : Bool
deriving DecidableEq

-- Defaults and options leave no other number of attempts.
structure RecoveryConfig where
  maxAttempts : Nat
  positive : 0 < maxAttempts

structure Publishing where
  exchange : String
  routingKey : String
  mandatory : Bool
  immediate : Bool
  body : List UInt8
deriving DecidableEq

structure Confirmation where
  deliveryTag : Nat
  ack : Bool

structure Return where
  exchange : String
  routingKey : String
  replyCode : Nat
  replyText : String

inductive ContextError where
  | canceled
  | deadlineExceeded

def ContextError.error : ContextError → String
  | .canceled => "context canceled"
  | .deadlineExceeded => "context deadline exceeded"

inductive PublishError where
  | publisherClosed
  | recoveryExhausted
  | publisherNotReady
  | publish (err : String)
  | publishNacked (deliveryTag : Nat)
  | confirmTimeout
  | contextCancelled (err : ContextError)
  | publishReturned (ret : Return)

def PublishError.error : PublishError → String
  | .publisherClosed => "publisher is closed"
  | .recoveryExhausted => "publisher is closed: automatic recovery exhausted all attempts"
  | .publisherNotReady => "confirmable publisher not initialized"
  | .publish err => "publish: " ++ err
  | .publishNacked deliveryTag => "message was nacked by broker: delivery_tag=" ++ toString deliveryTag
  | .confirmTimeout => "confirmation timed out"
  | .contextCancelled err => "context cancelled: " ++ err.error
  | .publishReturned ret => "message was returned as unroutable by broker: exchange=" ++ Go.quote ret.exchange ++
      " routing_key=" ++ Go.quote ret.routingKey ++ " code=" ++ toString ret.replyCode ++ " reason=" ++ Go.quote ret.replyText

-- errors.Is(err, ErrPublisherClosed)
def PublishError.isPublisherClosed : PublishError → Bool
  | .publisherClosed | .recoveryExhausted => true
  | _ => false

inductive ReconnectError where
  | channelRequired
  | reconnectWhileOpen
  | reconnectAfterClose
  | returnNotificationUnsupported
  | confirmModeUnavailable (err : String)

-- What the select of waitForConfirm finds ready.
inductive Ready where
  | confirmed (confirmed : Confirmation)
  | streamClosed
  | signalled
  | timedOut
  | cancelled (err : ContextError)

-- invalidate, shut, markClosed, prepare, renewDone, install, exhaust and setHealth go under mu.
inductive PubOp where
  | lock
  | unlock
  | load
  | drainReturns (returns : Nat)
  | publishWithContext (ch : Nat) (publishing : Publishing)
  | select (confirms closedCh : Nat)
  | takeReturn (returns : Nat)
  | invalidate
  | setHealth (state : HealthState)
  | signalCurrent
  | signal (closedCh : Nat)
  | closeChannel (ch : Nat)
  | drainConfirms (confirms : Nat)
  | shut
  | awaitClose (ch : Nat)
  | markClosed
  | prepare
  | renewDone
  | readDone
  | pollDone (done : Nat)
  | backoff (done : Nat)
  | provider
  | install
  | exhaust

abbrev PubRes : PubOp → Type
  | .load => Publisher
  | .publishWithContext _ _ | .closeChannel _ => Option String
  | .select _ _ => Ready
  | .takeReturn _ => Option Return
  | .shut | .prepare => Option (Option Nat × Nat)
  | .awaitClose _ | .pollDone _ | .backoff _ => Bool
  | .markClosed | .readDone => Nat
  | .provider => Except String Bool
  | .install => Option ReconnectError
  | _ => Unit

inductive Reply where
  | published (err : Option PublishError)
  | closed (err : Option String)
  | reconnected (err : Option ReconnectError)
  | monitored

abbrev PubProg := Prog PubOp PubRes Reply

def emitHealthState (state : HealthState) (next : PubProg) : PubProg := .call (.setHealth state) fun _ => next

def waitForConfirm (confirms closedCh : Nat) (next : Option PublishError → PubProg) : PubProg :=
  .call (.select confirms closedCh) fun ready =>
    match ready with
    | .confirmed confirmed => next (if confirmed.ack then none else some (.publishNacked confirmed.deliveryTag))
    | .streamClosed => next (some .publisherClosed)
    | .signalled => next (some .publisherClosed)
    | .timedOut => next (some .confirmTimeout)
    | .cancelled err => next (some (.contextCancelled err))

def isConfirmStreamCorrupted : PublishError → Bool
  | .confirmTimeout | .contextCancelled _ => true
  | _ => false

def invalidateChannel (ch : Nat) (next : PubProg) : PubProg := .call .invalidate fun _ => emitHealthState .degraded <|
    .call .signalCurrent fun _ => .call (.closeChannel ch) fun _ => next

-- The mandatory argument is ignored.
def publishAndWaitConfirm (exchange routingKey : String) (_mandatory immediate : Bool) (body : List UInt8) : PubProg :=
  let leave (err : Option PublishError) : PubProg := .call .unlock fun _ => .ret (.published err)
  .call .lock fun _ => .call .load fun pub =>
    if pub.closed then leave (some (if pub.recoveryExhausted then .recoveryExhausted else .publisherClosed))
    else match pub.ch with
      | none => leave (some .publisherNotReady)
      | some publishChannel =>
        .call (.drainReturns pub.returns) fun _ =>
        .call (.publishWithContext publishChannel ⟨exchange, routingKey, true, immediate, body⟩) fun publishErr =>
        match publishErr with
        | some err => leave (some (.publish err))
        | none => waitForConfirm pub.confirms pub.closedCh fun confirmErr =>
          match confirmErr with
          | some err =>
            if isConfirmStreamCorrupted err then invalidateChannel publishChannel (leave (some err))
            else leave (some err)
          | none => .call (.takeReturn pub.returns) fun ret =>
            match ret with
            | some ret => leave (some (.publishReturned ret))
            | none => leave none

def publish (exchange routingKey : String) (_mandatory immediate : Bool) (body : List UInt8) : PubProg :=
  publishAndWaitConfirm exchange routingKey true immediate body

def close : PubProg :=
  let leave (err : Option String) : PubProg := .call .unlock fun _ => .ret (.closed err)
  .call .lock fun _ => .call .shut fun current =>
    match current with
    | none => leave none
    | some (currentCh, confirms) =>
      let drained : PubProg := .call (.drainConfirms confirms) fun _ => emitHealthState .disconnected (leave none)
      match currentCh with
      | none => drained
      | some ch => .call (.closeChannel ch) fun closeErr =>
        match closeErr with
        | some err => leave (some ("closing publisher channel: " ++ err))
        | none => drained

-- A channel that is not given is nil.
def reconnect (given : Bool) (next : Option ReconnectError → PubProg) : PubProg :=
  if given then .call .lock fun _ => .call .install fun err => .call .unlock fun _ => next err
  else next (some .channelRequired)

def prepareForRecovery (next : Bool → PubProg) : PubProg := .call .lock fun _ => .call .prepare fun current =>
    match current with
    | none => .call .unlock fun _ => next false
    | some (currentCh, confirms) =>
      let drained : PubProg :=
        .call (.drainConfirms confirms) fun _ => .call .renewDone fun _ => .call .unlock fun _ => next true
      match currentCh with
      | none => drained
      | some ch => .call (.closeChannel ch) fun _ => drained

-- The new channel is nobody else's, so closing it is not seen here.
def tryReconnectChannel (retry : PubProg) : PubProg := .call .provider fun newCh =>
    match newCh with
    | .error _ => retry
    | .ok given => reconnect given fun err =>
      match err with
      | some _ => retry
      | none => emitHealthState .connected (.ret .monitored)

def executeRecoveryAttempt (recoveryStop : Nat) (retry : PubProg) : PubProg :=
  let aborted : PubProg := emitHealthState .disconnected (.ret .monitored)
  .call (.pollDone recoveryStop) fun stopped =>
    if stopped then aborted
    else .call (.backoff recoveryStop) fun stopped => if stopped then aborted else tryReconnectChannel retry

def recoveryAttempts (recoveryStop : Nat) : Nat → PubProg
  | 0 => .call .exhaust fun _ => emitHealthState .disconnected (.ret .monitored)
  | attempts + 1 => executeRecoveryAttempt recoveryStop (recoveryAttempts recoveryStop attempts)

def attemptAutoRecovery (recovery : RecoveryConfig) : PubProg := emitHealthState .reconnecting <| prepareForRecovery fun prepared =>
    if prepared then .call .readDone fun recoveryStop => recoveryAttempts recoveryStop recovery.maxAttempts
    else emitHealthState .disconnected (.ret .monitored)

def handleMonitoredClose (recovery : Option RecoveryConfig) : PubProg :=
  .call .markClosed fun monitorClosedCh => .call (.signal monitorClosedCh) fun _ =>
    match recovery with
    | some recovery => attemptAutoRecovery recovery
    | none => emitHealthState .disconnected (.ret .monitored)

-- The goroutine that startCloseMonitor launches for a channel.
def closeMonitor (recovery : Option RecoveryConfig) (ch : Nat) : PubProg :=
  .call (.awaitClose ch) fun closed => if closed then handleMonitoredClose recovery else .ret .monitored

end LibCommons.Rabbitmq
