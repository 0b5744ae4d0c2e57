import LibCommons.Dlq.Consumer

namespace LibCommons.Dlq

open Process Function

inductive Removal where
  | retried
  | exhausted (msg : FailedMessage)
  | pruned (msg : FailedMessage)
  | lost
deriving DecidableEq

structure Acceptance (I : Type) where
  ticket : Nat
  caller : I
  msg : FailedMessage

structure Invocation where
  ticket : Nat
  msg : FailedMessage
  time : Time

-- The lists, what each call has in hand, and what has happened; Enqueue gives a message its ticket.
structure World (I : Type) where
  queues : String → List (Nat × FailedMessage)
  hands : I → Option (Nat × FailedMessage)
  issued : Nat
  clock : Time
  accepted : List (Acceptance I)
  invoked : List Invocation
  removed : List (Nat × Removal)

section

variable {I : Type} [DecidableEq I]

def World.giveBack (world : World I) (i : I) (ticket : Nat) (key : String) (msg : FailedMessage) : World I :=
  { world with
    queues := update world.queues key (world.queues key ++ [(ticket, msg)])
    hands := update world.hands i none }

def World.accept (world : World I) (i : I) (key : String) (msg : FailedMessage) : World I :=
  { world with
    queues := update world.queues key (world.queues key ++ [(world.issued, msg)])
    issued := world.issued + 1
    accepted := ⟨world.issued, i, msg⟩ :: world.accepted }

def World.push (world : World I) (i : I) (key : String) (msg : FailedMessage) : World I :=
  match world.hands i with
  | some (ticket, _) => world.giveBack i ticket key msg
  | none => world.accept i key msg

def World.take (world : World I) (i : I) (key : String) (ticket : Nat) (msg : FailedMessage)
    (rest : List (Nat × FailedMessage)) : World I :=
  { world with
    queues := update world.queues key rest
    hands := update world.hands i (some (ticket, msg)) }

def World.remove (world : World I) (i : I) (why : FailedMessage → Removal) : World I :=
  match world.hands i with
  | some (ticket, msg) =>
    { world with
      hands := update world.hands i none
      removed := (ticket, why msg) :: world.removed }
  | none => world

def World.invoke (world : World I) (i : I) : World I :=
  match world.hands i with
  | some (ticket, msg) => { world with invoked := ⟨ticket, msg, world.clock⟩ :: world.invoked }
  | none => world

-- Pushes and pops are atomic, and a call that reports an error did nothing.
def DlqExec (i : I) : (op : DlqOp) → World I → DlqRes op → World I → Prop
  | .now, world, time, after => time = world.clock ∧ after = world
  | .backoffDuration _, world, delay, after => minBackoff ≤ delay ∧ after = world
  | .done, world, _, after | .marshal _, world, _, after | .getClient, world, _, after | .scan _, world, _, after
  | .recordRetried _, world, _, after => after = world
  | .rPush key msg, world, err, after => (err = none ∧ after = world.push i key msg) ∨ (err ≠ none ∧ after = world)
  | .lPop key, world, popped, after =>
    (∃ ticket msg rest, world.queues key = (ticket, msg) :: rest ∧ popped = .item msg ∧ after = world.take i key ticket msg rest) ∨
    (world.queues key = [] ∧ popped = .empty ∧ after = world) ∨ ∃ err, popped = .failed err ∧ after = world
  | .lLen key, world, length, after =>
    after = world ∧ (length = .ok (world.queues key).length ∨ ∃ err, length = .error err)
  | .retryFunc _ _, world, err, after =>
    (err = none ∧ after = (world.invoke i).remove i fun _ => .retried) ∨ (err ≠ none ∧ after = world.invoke i)
  | .recordExhausted _, world, _, after => after = world.remove i .exhausted
  | .recordLost _, world, _, after => after = world.remove i fun _ => .lost
  | .logPruned _, world, _, after => after = world.remove i .pruned

def dlqSemantics : Semantics I (World I) DlqOp DlqRes where
  exec := DlqExec
  idle _ _ _ _ := False
  drift world after := ∃ clock, world.clock ≤ clock ∧ after = { world with clock := clock }

end

inductive Call where
  | enqueue (h : Handler) (ctxTenant : String) (msg : FailedMessage)
  | processOnce (c : Consumer) (ctxTenant : String)
  | pruneExhaustedMessages (h : Handler) (ctxTenant source : String) (limit : Int)

def Call.program : Call → DlqProg
  | .enqueue h ctxTenant msg => Dlq.enqueue h ctxTenant msg fun err => .ret (.enqueued err)
  | .processOnce c ctxTenant => Dlq.processOnce c ctxTenant
  | .pruneExhaustedMessages h ctxTenant source limit => Dlq.pruneExhaustedMessages h ctxTenant source limit

def opened {I : Type} (calls : I → Call) (clock : Time) : Pool I (World I) DlqOp DlqRes Reply where
  world :=
    { queues := fun _ => [], hands := fun _ => none, issued := 0, clock := clock, accepted := [], invoked := []
      removed := [] }
  threads i := (calls i).program

end LibCommons.Dlq
