import LibCommons.Lib.Run

namespace LibCommons.Pacing

-- tenant-manager/core
def maxTenantIDLength : Nat := 256

def isTenantIDAlnum (c : Char) : Bool := ('0' ≤ c && c ≤ '9') || ('a' ≤ c && c ≤ 'z') || ('A' ≤ c && c ≤ 'Z')

def isValidTenantID (id : List Char) : Bool :=
  match id with
  | [] => false
  | first :: rest =>
    id.length ≤ maxTenantIDLength && isTenantIDAlnum first && rest.all fun c => isTenantIDAlnum c || c == '-' || c == '_'

-- Microseconds, but for the lifetime.
def stateTTLMillis : Int := 24 * 60 * 60 * 1000

def clockToleranceMicros : Int := 5000

-- A bucket as keysFor reads it; the zero value has neither name nor rate.
structure Bucket where
  space : List Char
  digest : List Char
  rated : Bool
  deriving DecidableEq, Repr

-- NewPacer refuses any other prefix.
structure Pacer where
  application : List Char
  valid : isValidTenantID application = true

inductive PacingError where
  | invalidIdentity
  | noBuckets
  | duplicateBucket
  | backendUnavailable
  | clockWentBackwards
  deriving DecidableEq, Repr

def keyRoot : List Char := ['p', 'a', 'c', 'i', 'n', 'g', ':']

def clockSuffix : List Char := ['c', 'l', 'o', 'c', 'k']

section

variable (p : Pacer)

def keyspace : List Char := keyRoot ++ '{' :: (p.application ++ ['}', ':'])

def clockKey : List Char := keyspace p ++ clockSuffix

def bucketKey (bucket : Bucket) : List Char := keyspace p ++ (bucket.space ++ ':' :: bucket.digest)

def bucketKeys : List Bucket → List (List Char) → Except PacingError (List (List Char))
  | [], _ => .ok []
  | bucket :: rest, seen =>
    if bucket.space = [] ∨ bucket.digest = [] ∨ bucket.rated = false then .error .invalidIdentity
    else if bucketKey p bucket ∈ seen then .error .duplicateBucket
    else do
      let keys ← bucketKeys rest (bucketKey p bucket :: seen)
      return bucketKey p bucket :: keys

def keysFor (buckets : List Bucket) : Except PacingError (List (List Char)) :=
  if buckets = [] then .error .noBuckets
  else do
    let keys ← bucketKeys p buckets []
    return clockKey p :: keys

end

-- What GET finds under a key: a number, or a text that is none.
inductive Raw where
  | number (value : Int)
  | text (value : List Char)
  deriving DecidableEq, Repr

def Raw.tonumber : Raw → Option Int
  | .number value => some value
  | .text _ => none

abbrev Database := List Char → Option Raw

inductive Reply where
  | malformed (text : List Char)
  | clockBackwards
  | values (granted waitMicros : Int)
  deriving DecidableEq, Repr

-- The first loop: when every bucket admits the call.
def allowAt (now : Int) (db : Database) : List (List Char) → List Int → Int → Except Reply Int
  | [], _, allow => .ok allow
  | _ :: _, [], _ => .error (.malformed "PACING_MALFORMED interval".toList)
  | key :: keys, interval :: intervals, allow =>
    if interval < 1 then .error (.malformed "PACING_MALFORMED interval".toList)
    else
      match db key with
      | none => allowAt now db keys intervals (max allow now)
      | some raw =>
        match raw.tonumber with
        | none => .error (.malformed "PACING_MALFORMED bucket state".toList)
        | some last => allowAt now db keys intervals (max allow (last + interval))

def highWater (now : Int) : Option Int → Int
  | none => now
  | some mark => max now mark

-- The reply and the keys set, all with the lifetime stateTTL.
def pacingScript (tolerance stateTTL : Int) (keys : List (List Char)) (intervals : List Int) (now : Int) (db : Database) :
    Reply × List (List Char × Int) :=
  match keys with
  | [] => (.malformed "PACING_MALFORMED evaluation arguments".toList, [])
  | clock :: buckets =>
    if tolerance < 0 ∨ stateTTL < 1 ∨ buckets = [] then (.malformed "PACING_MALFORMED evaluation arguments".toList, [])
    else if (db clock).any (fun raw => raw.tonumber.isNone) then (.malformed "PACING_MALFORMED clock watermark".toList, [])
    else
      let mark := (db clock).bind Raw.tonumber
      if mark.any (fun mark => now < mark - tolerance) then (.clockBackwards, [])
      else
        let marked := (clock, highWater now mark)
        match allowAt now (Function.update db clock (some (.number marked.2))) buckets intervals now with
        | .error reply => (reply, [marked])
        | .ok allow =>
          if now < allow then (.values 0 (allow - now), [marked])
          else (.values 1 0, marked :: buckets.map fun key => (key, now))

-- parseEvaluation and classifyBackendError, for a context that has not ended.
def evaluate (reply : Reply) : Except PacingError (Bool × Int) :=
  match reply with
  | .clockBackwards => .error .clockWentBackwards
  | .malformed _ => .error .backendUnavailable
  | .values granted waitMicros =>
    if granted = 1 then .ok (true, 0)
    else if granted ≠ 0 ∨ waitMicros ≤ 0 then .error .backendUnavailable
    else .ok (false, waitMicros)

structure Entry where
  value : Int
  writtenAt : Int
  ttlMillis : Int
  deriving DecidableEq, Repr

abbrev Store := List Char → Option Entry

def Store.set (now ttlMillis : Int) (store : Store) : List (List Char × Int) → Store
  | [] => store
  | (key, value) :: rest => Store.set now ttlMillis (Function.update store key (some ⟨value, now, ttlMillis⟩)) rest

-- A key is there up to its lifetime after it was written; later it may be there or not.
def Sees (store : Store) (now : Int) (db : Database) : Prop := ∀ key, db key = (store key).map (fun entry => Raw.number entry.value) ∨
    (db key = none ∧ ∃ entry, store key = some entry ∧ entry.writtenAt + entry.ttlMillis * 1000 < now)

structure Evaluation where
  pacer : Pacer
  buckets : List Bucket
  intervals : List Int
  reading : Int
  db : Database
  reply : Reply

namespace Evaluation

def keys (e : Evaluation) : List (List Char) := e.buckets.map (bucketKey e.pacer)

def Granted (e : Evaluation) : Prop := e.reply = .values 1 0

def Grants (e : Evaluation) (key : List Char) : Prop := e.Granted ∧ key ∈ e.keys

end Evaluation

inductive Step : Store → Evaluation → Store → Prop where
  | evaluate (store : Store) (e : Evaluation) (keys : List (List Char)) (writes : List (List Char × Int))
      (named : keysFor e.pacer e.buckets = .ok keys) (rated : e.intervals.length = e.buckets.length)
      (range : ∀ interval ∈ e.intervals, 1 ≤ interval ∧ interval ≤ 86400000000)
      (sees : Sees store e.reading e.db)
      (ran : pacingScript clockToleranceMicros stateTTLMillis keys e.intervals e.reading e.db = (e.reply, writes)) :
      Step store e (Store.set e.reading stateTTLMillis store writes)

def empty : Store := fun _ => none

end LibCommons.Pacing
