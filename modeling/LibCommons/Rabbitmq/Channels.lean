import LibCommons.Rabbitmq.Publisher

namespace LibCommons.Rabbitmq

open Process Function

-- The calls made on the publisher, and the monitor of the n-th channel.
inductive Actor (I : Type) where
  | call (i : I)
  | monitor (ch : Nat)
deriving DecidableEq

-- outcomes has an entry for each message confirmed, in order; returned the positions returned.
structure Channel (I : Type) where
  alive : Bool
  sent : List (Actor I × Publishing)
  outcomes : List Bool
  confirms : List Confirmation
  returned : List Nat
  returns : List Return
  monitorDone : Nat

structure World (I : Type) where
  publisher : Publisher
  publishMu : Option (Actor I)
  installed : Nat
  channels : Nat → Channel I
  signalled : Nat → Bool
  dones : Nat
  stopped : Nat → Bool

-- Whether the publisher recovers by itself, and whether closing a channel can fail.
structure Setting where
  recovery : Option RecoveryConfig
  closeMayFail : Bool

def Publisher.reconnectRefusal (pub : Publisher) : Option ReconnectError :=
  if pub.closed = false then some .reconnectWhileOpen
  else if pub.shutdown then some .reconnectAfterClose
  else none

def Publisher.accepts (pub : Publisher) : Bool := !pub.closed && pub.ch.isSome

def freshChannel (I : Type) (done : Nat) : Channel I where
  alive := true
  sent := []
  outcomes := []
  confirms := []
  returned := []
  returns := []
  monitorDone := done

section

variable {I : Type}

def World.onChannel (world : World I) (ch : Nat) (change : Channel I → Channel I) : World I :=
  { world with channels := update world.channels ch (change (world.channels ch)) }

def World.withPublisher (world : World I) (change : Publisher → Publisher) : World I := { world with publisher := change world.publisher }

def World.raise (world : World I) (closedCh : Nat) : World I := { world with signalled := update world.signalled closedCh true }

def World.stop (world : World I) : World I := { world with stopped := update world.stopped world.publisher.done true }

def World.die (world : World I) (ch : Nat) : World I := world.onChannel ch fun channel => { channel with alive := false }

def World.shut (world : World I) : World I := (world.stop.raise world.publisher.closedCh).withPublisher fun pub =>
    { pub with shutdown := true, closed := true, recoveryExhausted := false }

def World.prepare (world : World I) : World I := (world.stop.raise world.publisher.closedCh).withPublisher fun pub =>
    { pub with closed := true, recoveryExhausted := false, ch := none }

def World.renewDone (world : World I) : World I :=
  { world with publisher := { world.publisher with done := world.dones }, dones := world.dones + 1 }

def World.install (world : World I) : World I :=
  { world with
    publisher :=
      { world.publisher with
        ch := some world.installed, confirms := world.installed, returns := world.installed
        closedCh := world.installed, closed := false, recoveryExhausted := false, health := .connected }
    installed := world.installed + 1
    channels := update world.channels world.installed (freshChannel I world.publisher.done) }

def SelectExec (confirms closedCh : Nat) (world : World I) (after : World I) : Ready → Prop
  | .confirmed confirmed => ∃ rest, (world.channels confirms).confirms = confirmed :: rest ∧
      after = world.onChannel confirms fun channel => { channel with confirms := rest }
  | .streamClosed =>
    (world.channels confirms).alive = false ∧ (world.channels confirms).confirms = [] ∧ after = world
  | .signalled => world.signalled closedCh = true ∧ after = world
  | .timedOut | .cancelled _ => after = world

-- Publishing that fails sends nothing. A drain of confirms may end before all have come.
def PubExec (setting : Setting) (actor : Actor I) : (op : PubOp) → World I → PubRes op → World I → Prop
  | .lock, world, _, after => world.publishMu = none ∧ after = { world with publishMu := some actor }
  | .unlock, world, _, after => after = { world with publishMu := none }
  | .load, world, pub, after => pub = world.publisher ∧ after = world
  | .drainReturns returns, world, _, after => after = world.onChannel returns fun channel => { channel with returns := [] }
  | .publishWithContext ch publishing, world, err, after =>
    (err = none ∧ after = world.onChannel ch fun channel =>
      { channel with sent := channel.sent ++ [(actor, publishing)] }) ∨ (err ≠ none ∧ after = world)
  | .select confirms closedCh, world, ready, after => SelectExec confirms closedCh world after ready
  | .takeReturn returns, world, ret, after => ret = (world.channels returns).returns.head? ∧
      after = world.onChannel returns fun channel => { channel with returns := channel.returns.tail }
  | .invalidate, world, _, after => after = world.withPublisher fun pub => { pub with closed := true, ch := none }
  | .setHealth state, world, _, after => after = world.withPublisher fun pub => { pub with health := state }
  | .signalCurrent, world, _, after => after = world.raise world.publisher.closedCh
  | .signal closedCh, world, _, after => after = world.raise closedCh
  | .closeChannel ch, world, err, after =>
    (err = none ∧ after = world.die ch) ∨ (err ≠ none ∧ setting.closeMayFail = true ∧ (after = world ∨ after = world.die ch))
  | .drainConfirms confirms, world, _, after => ∃ count, after = world.onChannel confirms fun channel =>
    { channel with confirms := channel.confirms.drop count }
  | .shut, world, current, after =>
    if world.publisher.shutdown then current = none ∧ after = world
    else current = some (world.publisher.ch, world.publisher.confirms) ∧ after = world.shut
  | .awaitClose ch, world, closed, after => after = world ∧ ch < world.installed ∧
      if closed then (world.channels ch).alive = false
      else world.stopped (world.channels ch).monitorDone = true
  | .markClosed, world, closedCh, after => closedCh = world.publisher.closedCh ∧
      after = world.withPublisher fun pub => { pub with closed := true }
  | .prepare, world, current, after =>
    if world.publisher.shutdown then current = none ∧ after = world
    else current = some (world.publisher.ch, world.publisher.confirms) ∧ after = world.prepare
  | .renewDone, world, _, after => after = world.renewDone
  | .readDone, world, done, after => done = world.publisher.done ∧ after = world
  | .pollDone done, world, stopped, after => stopped = world.stopped done ∧ after = world
  | .backoff done, world, stopped, after => (stopped = true → world.stopped done = true) ∧ after = world
  | .provider, world, _, after => after = world
  | .install, world, err, after =>
    match world.publisher.reconnectRefusal with
    | some refusal => err = some refusal ∧ after = world
    | none => (err = none ∧ after = world.install) ∨ (err = some .returnNotificationUnsupported ∧ after = world) ∨
        ∃ text, err = some (.confirmModeUnavailable text) ∧ after = world
  | .exhaust, world, _, after => after = world.withPublisher fun pub => { pub with recoveryExhausted := true }

-- The broker confirms the next message, returns one it has not acked, or closes the channel.
inductive Broker (world : World I) : World I → Prop where
  | confirm (ch ack) (alive : (world.channels ch).alive = true)
      (next : (world.channels ch).outcomes.length < (world.channels ch).sent.length) :
      Broker world (world.onChannel ch fun channel =>
        { channel with
          outcomes := channel.outcomes ++ [ack]
          confirms := channel.confirms ++ [⟨channel.outcomes.length + 1, ack⟩] })
  | hand (ch position ret) (alive : (world.channels ch).alive = true) (sent : position < (world.channels ch).sent.length)
      (unacked : (world.channels ch).outcomes[position]? ≠ some true) :
      Broker world (world.onChannel ch fun channel =>
        { channel with returned := position :: channel.returned, returns := channel.returns ++ [ret] })
  | die (ch) (known : ch < world.installed) : Broker world (world.die ch)

def pubSemantics (setting : Setting) : Semantics (Actor I) (World I) PubOp PubRes where
  exec := PubExec setting
  idle _ _ _ _ := False
  drift := Broker

end

inductive Call where
  | publish (exchange routingKey : String) (mandatory immediate : Bool) (body : List UInt8)
  | close
  | reconnect (given : Bool)

def Call.program : Call → PubProg
  | .publish exchange routingKey mandatory immediate body =>
    Rabbitmq.publish exchange routingKey mandatory immediate body
  | .close => Rabbitmq.close
  | .reconnect given => Rabbitmq.reconnect given fun err => .ret (.reconnected err)

abbrev PubPool (I : Type) := Pool (Actor I) (World I) PubOp PubRes Reply

def constructed (I : Type) : World I where
  publisher :=
    { ch := some 0, confirms := 0, returns := 0, closedCh := 0, done := 0, health := .connected, closed := false
      shutdown := false, recoveryExhausted := false }
  publishMu := none
  installed := 1
  channels _ := freshChannel I 0
  signalled _ := false
  dones := 1
  stopped _ := false

def launched {I : Type} (setting : Setting) (calls : I → Call) : PubPool I where
  world := constructed I
  threads
    | .call i => (calls i).program
    | .monitor ch => closeMonitor setting.recovery ch

variable {I : Type} {setting : Setting}

theorem leads_exec [DecidableEq I] (pool : PubPool I) (goal : PubPool I → Prop) (actor : Actor I) (op : PubOp)
    (result : PubRes op) (world : World I) (onward : PubRes op → PubProg) (stands : pool.threads actor = .call op onward)
    (done : PubExec setting actor op pool.world result world)
    (later : Run.Leads (Step (pubSemantics setting)) ⟨world, update pool.threads actor (onward result)⟩ goal) :
    Run.Leads (Step (pubSemantics setting)) pool goal :=
  leads_act stands done later

variable {world last : World I} {final : PubProg}

theorem walk_exec {actor} {after} (op result onward) (done : PubExec setting actor op world result after)
    (later : Walk (pubSemantics setting) actor after (onward result) last final) :
    Walk (pubSemantics setting) actor world (.call op onward) last final :=
  .act world after last op onward result final done later

variable {pool : PubPool I} {goal : PubPool I → Prop}

theorem leads_solo [DecidableEq I] (actor prog) (stands : pool.threads actor = prog)
    (walk : Walk (pubSemantics setting) actor pool.world prog last final)
    (later : Run.Leads (Step (pubSemantics setting)) ⟨last, update pool.threads actor final⟩ goal) :
    Run.Leads (Step (pubSemantics setting)) pool goal :=
  leads_walk walk pool.threads goal stands later

theorem leads_broker [DecidableEq I] (moved : Broker pool.world world) (later : Run.Leads (Step (pubSemantics setting)) ⟨world, pool.threads⟩ goal) :
    Run.Leads (Step (pubSemantics setting)) pool goal :=
  Run.leads_step pool _ .drift goal (.drift pool world moved) later

end LibCommons.Rabbitmq
