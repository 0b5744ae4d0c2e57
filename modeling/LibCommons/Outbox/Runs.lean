import LibCommons.Lib.Run

namespace LibCommons.Outbox.Runs

open Function

-- The calls of Stop and of Shutdown on one dispatcher; runs are numbered.
inductive Caller where
  | stop (number : Nat)
  | shutdown (number : Nat)
deriving DecidableEq

-- Channels are numbered; once and held are the words of stopOnce, cancelled the runs whose contexts are done.
structure Dispatcher where
  stop : Option Nat
  made : Nat
  closed : Nat → Bool
  once : Bool
  held : Bool
  running : Bool
  cancelFunc : Option Nat
  cancelled : Nat → Bool
  dispatchWg : Nat

def Dispatcher.cancel (dispatcher : Dispatcher) (run : Nat) : Dispatcher :=
  { dispatcher with cancelled := update dispatcher.cancelled run true }

def Dispatcher.close (dispatcher : Dispatcher) (channel : Nat) : Dispatcher :=
  { dispatcher with closed := update dispatcher.closed channel true }

def isClosedSignal (dispatcher : Dispatcher) : Option Nat → Bool
  | none => false
  | some channel => dispatcher.closed channel

def makeStop (dispatcher : Dispatcher) : Dispatcher := { dispatcher with stop := some dispatcher.made, made := dispatcher.made + 1 }

-- The new stop channel comes with a new sync.Once in the place of the old one.
def registerRun (dispatcher : Dispatcher) (run : Nat) : Bool × Dispatcher :=
  if dispatcher.running then (false, dispatcher)
  else
    let fresh :=
      if dispatcher.stop = none ∨ isClosedSignal dispatcher dispatcher.stop = true then
        { makeStop dispatcher with once := false, held := false }
      else dispatcher
    (true, { fresh with running := true, cancelFunc := some run })

def clearRun (dispatcher : Dispatcher) : Dispatcher := { dispatcher with running := false, cancelFunc := none }

def readState (dispatcher : Dispatcher) : (Option Nat × Nat) × Dispatcher :=
  match dispatcher.stop with
  | some channel => ((dispatcher.cancelFunc, channel), dispatcher)
  | none => ((dispatcher.cancelFunc, dispatcher.made), makeStop dispatcher)

-- A cycle is dispatching once it has passed the check in dispatchAcrossTenants.
inductive RunPhase where
  | idle
  | called
  | refused
  | ready
  | added
  | dispatching
  | finished
  | looping
  | ticked
  | returning
  | ended
deriving DecidableEq

-- In entered the function under stopOnce.Do runs; closed and unlocking are what Do does after it.
inductive CallPhase where
  | idle
  | fastPath
  | locking
  | locked
  | entered
  | read (cancel : Option Nat) (stop : Nat)
  | cancelled (stop : Nat)
  | closed (panics : Bool)
  | unlocking (panics : Bool)
  | returned
  | panicked
  | waiting
  | drained
  | answered
deriving DecidableEq

inductive Label where
  | silent
  | registered (run : Nat)
  | started (run : Nat)
  | repository (run : Nat)
  | called (caller : Caller)
  | answered (caller : Caller) (ok : Bool)
deriving DecidableEq

inductive RunStep (run : Nat) : Dispatcher → RunPhase → Label → Dispatcher → RunPhase → Prop where
  | call (d) : RunStep run d .idle .silent d .called
  | cancelParent (d phase) : RunStep run d phase .silent (d.cancel run) phase
  | register (d d') (done : registerRun d run = (true, d')) : RunStep run d .called (.registered run) d' .ready
  | refuse (d) (busy : (registerRun d run).1 = false) : RunStep run d .called .silent (d.cancel run) .refused
  | add (d) : RunStep run d .ready .silent { d with dispatchWg := d.dispatchWg + 1 } .added
  | start (d : Dispatcher) (alive : d.cancelled run = false) : RunStep run d .added (.started run) d .dispatching
  | skip (d : Dispatcher) (gone : d.cancelled run = true) : RunStep run d .added .silent d .finished
  | repository (d) : RunStep run d .dispatching (.repository run) d .dispatching
  | finish (d) : RunStep run d .dispatching .silent d .finished
  | done (d) : RunStep run d .finished .silent { d with dispatchWg := d.dispatchWg - 1 } .looping
  | stopped (d : Dispatcher) (phase) (selects : phase = .looping ∨ phase = .ticked)
      (signal : isClosedSignal d d.stop = true ∨ d.cancelled run = true) : RunStep run d phase .silent d .returning
  | tick (d) : RunStep run d .looping .silent d .ticked
  | goOn (d : Dispatcher) (unsignalled : isClosedSignal d d.stop = false) (alive : d.cancelled run = false) :
      RunStep run d .ticked .silent d .ready
  | clear (d) : RunStep run d .returning .silent (clearRun d) .ended

inductive CallStep (caller : Caller) : Dispatcher → CallPhase → Label → Dispatcher → CallPhase → Prop where
  | call (d) : CallStep caller d .idle (.called caller) d .fastPath
  | fast (d : Dispatcher) (done : d.once = true) : CallStep caller d .fastPath .silent d .returned
  | slow (d : Dispatcher) (fresh : d.once = false) : CallStep caller d .fastPath .silent d .locking
  | lock (d : Dispatcher) (free : d.held = false) : CallStep caller d .locking .silent { d with held := true } .locked
  | late (d : Dispatcher) (done : d.once = true) : CallStep caller d .locked .silent d (.unlocking false)
  | enter (d : Dispatcher) (fresh : d.once = false) : CallStep caller d .locked .silent d .entered
  | read (d) : CallStep caller d .entered .silent (readState d).2 (.read (readState d).1.1 (readState d).1.2)
  | noCancel (d stop) : CallStep caller d (.read none stop) .silent d (.cancelled stop)
  | cancel (d run stop) : CallStep caller d (.read (some run) stop) .silent (d.cancel run) (.cancelled stop)
  | close (d stop) : CallStep caller d (.cancelled stop) .silent (d.close stop) (.closed (d.closed stop))
  | store (d panics) : CallStep caller d (.closed panics) .silent { d with once := true } (.unlocking panics)
  | unlock (d : Dispatcher) (panics) (locked : d.held = true) :
      CallStep caller d (.unlocking panics) .silent { d with held := false } (if panics then .panicked else .returned)
  | wait (d number) (waits : caller = .shutdown number) : CallStep caller d .returned .silent d .waiting
  | drain (d : Dispatcher) (none : d.dispatchWg = 0) : CallStep caller d .waiting .silent d .drained
  | answer (d) : CallStep caller d .drained (.answered caller true) d .answered
  | giveUp (d phase) (selects : phase = .waiting ∨ phase = .drained) : CallStep caller d phase (.answered caller false) d .answered

structure State where
  dispatcher : Dispatcher
  runs : Nat → RunPhase
  calls : Caller → CallPhase
  crashed : Bool

-- Any interleaving. Unlocking a mutex that is not held ends the process.
inductive Step : State → Label → State → Prop where
  | run (s : State) (run : Nat) (label : Label) (d : Dispatcher) (phase : RunPhase) (alive : s.crashed = false)
      (step : RunStep run s.dispatcher (s.runs run) label d phase) :
      Step s label { s with dispatcher := d, runs := update s.runs run phase }
  | call (s : State) (caller : Caller) (label : Label) (d : Dispatcher) (phase : CallPhase) (alive : s.crashed = false)
      (step : CallStep caller s.dispatcher (s.calls caller) label d phase) :
      Step s label { s with dispatcher := d, calls := update s.calls caller phase }
  | crash (s : State) (caller panics) (alive : s.crashed = false) (unlocks : s.calls caller = .unlocking panics)
      (free : s.dispatcher.held = false) :
      Step s .silent { s with crashed := true }

-- A dispatcher as NewDispatcher makes it, or a zero value without its channel.
def start (made : Bool) : State where
  dispatcher :=
    { stop := if made then some 0 else none, made := 1, closed := fun _ => false, once := false, held := false
      running := false, cancelFunc := none, cancelled := fun _ => false, dispatchWg := 0 }
  runs _ := .idle
  calls _ := .idle
  crashed := false

end LibCommons.Outbox.Runs
