import LibCommons.Lib.Run

namespace LibCommons.TenantClient

inductive CbState where
  | cbClosed
  | cbOpen
  | cbHalfOpen
  deriving DecidableEq, Repr

-- What cbMu guards; times are nanoseconds.
structure Breaker where
  cbState : CbState
  cbFailures : Nat
  cbLastFailure : Int
  deriving DecidableEq, Repr

structure Settings where
  cbThreshold : Int
  cbTimeout : Int
  deriving DecidableEq, Repr

section

variable (c : Settings)

-- Whether the request may go on, and the state the check leaves.
def checkCircuitBreaker (now : Int) (b : Breaker) : Breaker × Bool :=
  if c.cbThreshold ≤ 0 then (b, true)
  else
    match b.cbState with
    | .cbOpen =>
      if c.cbTimeout < now - b.cbLastFailure then ({ b with cbState := .cbHalfOpen }, true) else (b, false)
    | _ => (b, true)

def recordSuccess (b : Breaker) : Breaker :=
  if c.cbThreshold ≤ 0 then b else { b with cbFailures := 0, cbState := .cbClosed }

def recordFailure (now : Int) (b : Breaker) : Breaker :=
  if c.cbThreshold ≤ 0 then b
  else
    { cbFailures := b.cbFailures + 1
      cbLastFailure := now
      cbState := if c.cbThreshold ≤ b.cbFailures + 1 then .cbOpen else b.cbState }

end

-- How a request that passed the check ended.
inductive Response where
  | unsent
  | transportError
  | bodyError
  | answered (statusCode : Nat) (parses : Bool)
  deriving DecidableEq, Repr

inductive Verdict where
  | success
  | failure
  deriving DecidableEq, Repr

def isServerError (statusCode : Nat) : Bool := 500 ≤ statusCode

-- A status it has no case for, and a body that does not parse, leave the breaker alone.
def getTenantConfigRecords : Response → Option Verdict
  | .unsent => none
  | .transportError => some .failure
  | .bodyError => some .failure
  | .answered statusCode parses =>
    if statusCode = 200 then if parses = true then some .success else none
    else if statusCode = 404 then some .success
    else if statusCode = 403 then some .success
    else if isServerError statusCode = true then some .failure
    else none

def getActiveTenantsByServiceRecords : Response → Option Verdict
  | .unsent => none
  | .transportError => some .failure
  | .bodyError => some .failure
  | .answered statusCode parses =>
    if statusCode ≠ 200 then if isServerError statusCode = true then some .failure else some .success
    else if parses = true then some .success
    else none

inductive Call where
  | getTenantConfig
  | getActiveTenantsByService
  deriving DecidableEq, Repr

def Call.records : Call → Response → Option Verdict
  | .getTenantConfig => getTenantConfigRecords
  | .getActiveTenantsByService => getActiveTenantsByServiceRecords

def record (c : Settings) (now : Int) (b : Breaker) : Option Verdict → Breaker
  | none => b
  | some .success => recordSuccess c b
  | some .failure => recordFailure c now b

-- A call answered from the cache makes no check and does not show here.
inductive Phase where
  | ready
  | passed (call : Call)
  | done
  deriving DecidableEq, Repr

structure State (I : Type) where
  breaker : Breaker
  phase : I → Phase

inductive Label (I : Type) where
  | check (i : I) (call : Call) (now : Int) (passes : Bool)
  | answer (i : I) (call : Call) (response : Response) (now : Int)

variable {I : Type} [DecidableEq I] (c : Settings)

inductive Step : State I → Label I → State I → Prop where
  | check (state : State I) (i call now b passes) (ready : state.phase i = .ready)
      (checked : checkCircuitBreaker c now state.breaker = (b, passes)) :
      Step state (.check i call now passes) ⟨b, Function.update state.phase i (if passes = true then .passed call else .done)⟩
  | answer (state : State I) (i call response now) (under : state.phase i = .passed call) : Step state (.answer i call response now)
        ⟨record c now state.breaker (call.records response), Function.update state.phase i .done⟩

def start : State I := ⟨⟨.cbClosed, 0, 0⟩, fun _ => .ready⟩

namespace Label

def recorded : Label I → Option Verdict
  | .check _ _ _ _ => none
  | .answer _ call response _ => call.records response

def failedAt : Label I → Option Int
  | .check _ _ _ _ => none
  | .answer _ call response now => if call.records response = some .failure then some now else none

end Label

def streakFrom (count : Nat) : List (Label I) → Nat
  | [] => count
  | label :: rest =>
    match label.recorded with
    | none => streakFrom count rest
    | some .success => streakFrom 0 rest
    | some .failure => streakFrom (count + 1) rest

variable (past : List (Label I))

def streak : Nat := streakFrom 0 past

def lastFailureFrom (last : Option Int) : List (Label I) → Option Int
  | [] => last
  | label :: rest => lastFailureFrom (label.failedAt.or last) rest

def lastFailure : Option Int := lastFailureFrom none past

def Probes (i : I) (before : State I) (label : Label I) : Prop :=
  before.breaker.cbState = .cbOpen ∧ ∃ call now, label = .check i call now true

def Unjudged (i : I) (labels : List (Label I)) : Prop :=
  ∀ call response now, Label.answer i call response now ∈ labels → call.records response = none

structure Promise (labels : List (Label I)) : Prop where
  opens : ∀ earlier label later before after, labels = earlier ++ label :: later → Run (Step c) start earlier before →
    Step c before label after → before.breaker.cbState ≠ .cbOpen → after.breaker.cbState = .cbOpen →
    c.cbThreshold ≤ streak (earlier ++ [label])
  refuses : ∀ earlier later before i call now passes failed, labels = earlier ++ .check i call now passes :: later →
    Run (Step c) start earlier before → before.breaker.cbState = .cbOpen → lastFailure earlier = some failed →
    now - failed ≤ c.cbTimeout → passes = false
  single : ∀ earlier probe middle later before i j call now passes,
    labels = earlier ++ probe :: (middle ++ .check j call now passes :: later) → Run (Step c) start earlier before →
    Probes i before probe → Unjudged i middle → passes = false

-- The streak was long enough and no success has been recorded since.
def reopenedNext (label : Label I) (reopened : Option Int) : Option Int :=
  match label.recorded with
  | none => reopened
  | some .success => none
  | some .failure => if c.cbThreshold ≤ streak (past ++ [label]) then label.failedAt else reopened

def reopenedFrom (past : List (Label I)) (reopened : Option Int) : List (Label I) → Option Int
  | [] => reopened
  | label :: rest => reopenedFrom (past ++ [label]) (reopenedNext c past label reopened) rest

def Reopened (middle : List (Label I)) (now : Int) : Prop :=
  ∃ failed, reopenedFrom c past none middle = some failed ∧ now - failed ≤ c.cbTimeout

end LibCommons.TenantClient
