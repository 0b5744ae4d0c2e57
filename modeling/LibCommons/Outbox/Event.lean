import LibCommons.Go.Strings

namespace LibCommons.Outbox

abbrev UUID := BitVec 128

instance : LawfulBEq UUID := inferInstance

abbrev Time := Int

-- The column has the enum type outbox_event_status, so no other status is stored.
inductive OutboxEventStatus where
  | pending
  | processing
  | published
  | failed
  | invalid
deriving DecidableEq, Repr

def OutboxEventStatus.canTransitionTo (status next : OutboxEventStatus) : Bool :=
  match status with
  | .pending => next = .processing
  | .failed => next = .processing
  | .processing => next = .processing || next = .published || next = .failed || next = .invalid
  | .published | .invalid => false

structure OutboxEvent where
  id : UUID
  eventType : String
  aggregateID : UUID
  payload : List UInt8
  status : OutboxEventStatus
  attempts : Int
  publishedAt : Option Time
  lastError : Option String
  createdAt : Time
  updatedAt : Time
deriving DecidableEq, Repr

-- A stored event with its tenant column; "" where the table has none.
structure Row where
  event : OutboxEvent
  tenantID : String
deriving DecidableEq, Repr

def maxLastErrorLength : Nat := 512
def lastErrorTruncationMarker : String := "\n... (later causes truncated)"
def stuckInProcessingCause : String := "abandoned in processing with no dispatch attempts left"

def lastErrorCauseBudget : Nat := maxLastErrorLength - lastErrorTruncationMarker.length

-- strings.NewReplacer("\r\n", " ", "\n", " ", "\r", " ")
def foldNewlines : List Char → List Char
  | '\r' :: '\n' :: rest => ' ' :: foldNewlines rest
  | '\n' :: rest => ' ' :: foldNewlines rest
  | '\r' :: rest => ' ' :: foldNewlines rest
  | c :: rest => c :: foldNewlines rest
  | [] => []

def normalizeCause (cause : String) : String := Go.trimSpace (String.ofList (foldNewlines cause.toList))

def truncateToRuneBudget (s : String) (budget : Nat) : String := String.ofList (s.toList.take budget)

def boundErrorCause (cause : String) : String :=
  let cause := normalizeCause cause
  if cause.length ≤ lastErrorCauseBudget then cause
  else truncateToRuneBudget cause lastErrorCauseBudget ++ lastErrorTruncationMarker

-- position(part IN whole) > 0
def positionIn (part whole : String) : Bool := part.toList <:+: whole.toList

-- btrim(text) = '': nothing but blanks, and btrim takes only ' ' for one.
def blank (text : String) : Bool := text.toList.all (· = ' ')

-- The CASE expression both accumulating UPDATE statements share.
def accumulateLastError (existing : Option String) (cause : String) (emptyBranch : Bool) : Option String :=
  match existing with
  | none => some cause
  | some existing =>
    if blank existing then some cause
    else if emptyBranch && cause = "" then some existing
    else if positionIn ("\n" ++ cause ++ "\n") ("\n" ++ existing ++ "\n") then some existing
    else if positionIn lastErrorTruncationMarker existing then some existing
    else if existing.length + 1 + cause.length ≤ lastErrorCauseBudget then some (existing ++ "\n" ++ cause)
    else some (truncateToRuneBudget existing lastErrorCauseBudget ++ lastErrorTruncationMarker)

end LibCommons.Outbox
