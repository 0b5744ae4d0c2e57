import LibCommons.Lib.Threads

namespace LibCommons.Connections

open Function

abbrev Table (T V : Type) := AList fun _ : T => V

-- The options of a manager that decide about eviction and revalidation.
structure Settings where
  maxConnections : Int
  idleTimeout : Int
  connectionsCheckInterval : Int

-- What a manager brings along: its companion map, its comparison, and where it closes.
structure Driver (C N : Type) where
  companion : C → N
  changed : Option C → Option N → C → Bool
  closesInside : Bool
  discardsInside : Bool
  checksClosed : Bool

structure Calls where
  close : Bool
  getDatabaseForTenant : Bool

-- Connections are numbered; newest is the highest fetch installed, late marks a swap behind Close.
structure World (T C N : Type) where
  connections : Table T Nat
  companion : Table T N
  lastAccessed : Table T Int
  lastConnectionsCheck : Table T Int
  closed : Bool
  spawned : List T
  revalidateWG : Nat
  conns : List C
  ended : Nat → Bool
  clock : Nat
  newest : T → Nat
  late : Nat → Bool

section

variable {T : Type}

def olderIdle (now idleTimeout : Int) (best : Option (T × Int)) (entry : Sigma fun _ : T => Int) : Option (T × Int) :=
  if now - entry.2 < idleTimeout then best
  else match best with
    | none => some (entry.1, entry.2)
    | some oldest => if entry.2 < oldest.2 then some (entry.1, entry.2) else best

-- The map is read in the order given; only ties depend on it.
def findLRUEvictionCandidate (connectionCount maxConnections : Int) (order : List (Sigma fun _ : T => Int))
    (idleTimeout now : Int) : Option T :=
  if maxConnections ≤ 0 ∨ connectionCount < maxConnections then none
  else (order.foldl (olderIdle now (if idleTimeout ≤ 0 then 300000000000 else idleTimeout)) none).map Prod.fst

end

variable {T C N : Type} [DecidableEq T]

section

def openConn (config : C) (world : World T C N) : World T C N :=
  { world with conns := world.conns ++ [config], ended := update world.ended world.conns.length false }

def endConn (conn : Nat) (world : World T C N) : World T C N := { world with ended := update world.ended conn true }

def delete (tenantID : T) (world : World T C N) : World T C N :=
  { world with connections := world.connections.erase tenantID
               companion := world.companion.erase tenantID
               lastAccessed := world.lastAccessed.erase tenantID
               lastConnectionsCheck := world.lastConnectionsCheck.erase tenantID }

variable (driver : Driver C N)

def install (tenantID : T) (conn : Nat) (config : C) (fetch : Nat) (now : Int) (world : World T C N) :
    World T C N :=
  { world with connections := world.connections.insert tenantID conn
               companion := world.companion.insert tenantID (driver.companion config)
               lastAccessed := world.lastAccessed.insert tenantID now
               newest := update world.newest tenantID (max fetch (world.newest tenantID)) }

def touch (tenantID : T) (now : Int) (world : World T C N) : World T C N :=
  { world with lastAccessed := world.lastAccessed.insert tenantID now }

def cached (tenantID : T) (world : World T C N) : Option Nat :=
  (world.connections.lookup tenantID).filter fun conn => !driver.checksClosed || !world.ended conn

def evictLRU (settings : Settings) (order : List (Sigma fun _ : T => Int)) (now : Int) (world : World T C N) : World T C N :=
  match findLRUEvictionCandidate world.connections.entries.length settings.maxConnections order settings.idleTimeout now with
  | none => world
  | some candidateID =>
    match world.connections.lookup candidateID with
    | none => world
    | some conn => delete candidateID (endConn conn world)

def configChanged (tenantID : T) (config : C) (world : World T C N) : Bool :=
  driver.changed ((world.connections.lookup tenantID).bind fun conn => world.conns[conn]?) (world.companion.lookup tenantID) config

def canStore (tenantID : T) (world : World T C N) : Bool := !world.closed && (world.connections.lookup tenantID).isSome

def swap (tenantID : T) (conn : Nat) (config : C) (fetch : Nat) (now : Int) (world : World T C N) :
    World T C N :=
  { install driver tenantID conn config fetch now world with
      late := update world.late conn (world.late conn || world.closed) }

def values (table : Table T Nat) : List Nat := table.entries.map fun entry => entry.2

def closeAll (world : World T C N) : World T C N :=
  { world with closed := true
               ended := fun conn => world.ended conn || (driver.closesInside && (values world.connections).contains conn)
               connections := ∅
               companion := ∅
               lastAccessed := ∅
               lastConnectionsCheck := ∅ }

-- touchCachedConnection: whether a revalidation is due, by the time of the last one.
def revalidationDue (settings : Settings) (tenantID : T) (now : Int) (world : World T C N) : Prop := 0 < settings.connectionsCheckInterval ∧
    ∀ last, world.lastConnectionsCheck.lookup tenantID = some last → settings.connectionsCheckInterval < now - last

end

-- F are the steps before the fetch; a GetConnection of GetDatabaseForTenant carries its call.
inductive Phase (T C F : Type) where
  | idle
  | front (step : F)
  | fetchNew (tenantID : T) (call : Option Nat)
  | fetching (tenantID : T) (fetch : Nat) (call : Option Nat)
  | connecting (tenantID : T) (config : C) (fetch : Nat) (call : Option Nat)
  | caching (tenantID : T) (conn : Nat) (config : C) (fetch : Nat) (call : Option Nat)
  | got (tenantID : T) (conn : Nat) (call : Option Nat)
  | revalidate (tenantID : T)
  | refetching (tenantID : T) (fetch : Nat)
  | comparing (tenantID : T) (config : C) (fetch : Nat)
  | reconnecting (tenantID : T) (config : C) (fetch : Nat)
  | canStore (tenantID : T) (conn : Nat) (config : C) (fetch : Nat)
  | swap (tenantID : T) (conn : Nat) (config : C) (fetch : Nat)
  | revalidated
  | closeConnection (tenantID : T) (stamp : Nat) (revalidating : Bool)
  | closeReturn (tenantID : T) (stamp : Nat) (revalidating : Bool)
  | closing (conn : Nat) (after : Phase T C F)
  | closingAll (conns : List Nat)
  | waiting

inductive Label (T N : Type) where
  | quiet
  | swapped (tenantID : T) (conn : Nat) (fetch : Nat)
  | closedConnection (tenantID : T) (stamp : Nat)
  | handle (call : Nat) (conn : Nat) (database : N)

def discard (inside : Bool) (conn : Nat) (world : World T C N) : World T C N := if inside = true then endConn conn world else world

def Phase.discarding {F : Type} (inside : Bool) (conn : Nat) (after : Phase T C F) : Phase T C F :=
  if inside = true then after else .closing conn after

-- createConnection from its fetch on, revalidatePoolSettings, CloseConnection and Close.
inductive Core {I F : Type} (calls : Calls) (driver : Driver C N) (settings : Settings) (i : I) :
    World T C N → Phase T C F → Label T N → World T C N → Phase T C F → Prop where
  | sendNew (world tenantID call) :
      Core calls driver settings i world (.fetchNew tenantID call) .quiet { world with clock := world.clock + 1 }
        (.fetching tenantID (world.clock + 1) call)
  | newFails (world tenantID fetch call) : Core calls driver settings i world (.fetching tenantID fetch call) .quiet world .idle
  | newArrives (world tenantID fetch call config) :
      Core calls driver settings i world (.fetching tenantID fetch call) .quiet world (.connecting tenantID config fetch call)
  | connectFails (world tenantID config fetch call) :
      Core calls driver settings i world (.connecting tenantID config fetch call) .quiet world .idle
  | connects (world tenantID config fetch call) :
      Core calls driver settings i world (.connecting tenantID config fetch call) .quiet (openConn config world)
        (.caching tenantID world.conns.length config fetch call)
  -- cacheConnection
  | cacheClosed (world : World T C N) (tenantID conn config fetch call) (closed : world.closed = true) :
      Core calls driver settings i world (.caching tenantID conn config fetch call) .quiet
        (discard driver.discardsInside conn world) (.discarding driver.discardsInside conn .idle)
  | cacheExcess (world : World T C N) (tenantID conn config fetch call other now) (opened : world.closed = false)
      (held : cached driver tenantID world = some other) :
      Core calls driver settings i world (.caching tenantID conn config fetch call) .quiet
        (discard driver.discardsInside conn (touch tenantID now world))
        (.discarding driver.discardsInside conn (.got tenantID other call))
  | cacheInstalls (world : World T C N) (tenantID : T) (conn : Nat) (config : C) (fetch : Nat) (call : Option Nat)
      (order : List (Sigma fun _ : T => Int)) (now : Int) (opened : world.closed = false)
      (missing : cached driver tenantID world = none) (listed : order.Perm world.lastAccessed.entries) :
      Core calls driver settings i world (.caching tenantID conn config fetch call) .quiet
        (install driver tenantID conn config fetch now (evictLRU settings order now world)) (.got tenantID conn call)
  | returns (world tenantID conn) : Core calls driver settings i world (.got tenantID conn none) .quiet world .idle
  -- revalidatePoolSettings
  | revalidates (world : World T C N) (tenantID) (waiting : tenantID ∈ world.spawned) :
      Core calls driver settings i world .idle .quiet { world with spawned := world.spawned.erase tenantID } (.revalidate tenantID)
  | resend (world tenantID) : Core calls driver settings i world (.revalidate tenantID) .quiet { world with clock := world.clock + 1 }
        (.refetching tenantID (world.clock + 1))
  | refetchFails (world tenantID fetch) : Core calls driver settings i world (.refetching tenantID fetch) .quiet world .revalidated
  | suspended (world tenantID fetch) :
      Core calls driver settings i world (.refetching tenantID fetch) .quiet { world with clock := world.clock + 1 }
        (.closeConnection tenantID (world.clock + 1) true)
  | rearrives (world tenantID fetch config) :
      Core calls driver settings i world (.refetching tenantID fetch) .quiet world (.comparing tenantID config fetch)
  | unchanged (world tenantID config fetch) (same : configChanged driver tenantID config world = false) :
      Core calls driver settings i world (.comparing tenantID config fetch) .quiet world .revalidated
  | changed (world tenantID config fetch) (differs : configChanged driver tenantID config world = true) :
      Core calls driver settings i world (.comparing tenantID config fetch) .quiet world (.reconnecting tenantID config fetch)
  | reconnectFails (world tenantID config fetch) :
      Core calls driver settings i world (.reconnecting tenantID config fetch) .quiet world .revalidated
  | reconnects (world tenantID config fetch) :
      Core calls driver settings i world (.reconnecting tenantID config fetch) .quiet (openConn config world)
        (.canStore tenantID world.conns.length config fetch)
  | cannotStore (world tenantID conn config fetch) (refused : canStore tenantID world = false) :
      Core calls driver settings i world (.canStore tenantID conn config fetch) .quiet world (.closing conn .revalidated)
  | canStore (world tenantID conn config fetch) (allowed : canStore tenantID world = true) :
      Core calls driver settings i world (.canStore tenantID conn config fetch) .quiet world (.swap tenantID conn config fetch)
  | swap (world tenantID conn config fetch now) :
      Core calls driver settings i world (.swap tenantID conn config fetch) (.swapped tenantID conn fetch)
        (swap driver tenantID conn config fetch now world)
        ((world.connections.lookup tenantID).elim .revalidated fun old => .closing old .revalidated)
  | revalidated (world) : Core calls driver settings i world .revalidated .quiet { world with revalidateWG := world.revalidateWG - 1 } .idle
  -- CloseConnection
  | closeConnection (world tenantID) : Core calls driver settings i world .idle .quiet { world with clock := world.clock + 1 }
        (.closeConnection tenantID (world.clock + 1) false)
  | closeMissing (world : World T C N) (tenantID stamp revalidating) (missing : world.connections.lookup tenantID = none) :
      Core calls driver settings i world (.closeConnection tenantID stamp revalidating) .quiet world
        (.closeReturn tenantID stamp revalidating)
  | closeHeld (world : World T C N) (tenantID stamp revalidating conn) (held : world.connections.lookup tenantID = some conn) :
      Core calls driver settings i world (.closeConnection tenantID stamp revalidating) .quiet
        (discard driver.closesInside conn (delete tenantID world))
        (.discarding driver.closesInside conn (.closeReturn tenantID stamp revalidating))
  | closeReturns (world tenantID stamp revalidating) :
      Core calls driver settings i world (.closeReturn tenantID stamp revalidating) (.closedConnection tenantID stamp) world
        (if revalidating = true then .revalidated else .idle)
  -- Close
  | close (world) (allowed : calls.close = true) : Core calls driver settings i world .idle .quiet (closeAll driver world)
        (.closingAll (if driver.closesInside = true then [] else values world.connections))
  | closeNext (world conn conns) :
      Core calls driver settings i world (.closingAll (conn :: conns)) .quiet (endConn conn world) (.closingAll conns)
  | closedAll (world) : Core calls driver settings i world (.closingAll []) .quiet world .waiting
  | waited (world : World T C N) (done : world.revalidateWG = 0) : Core calls driver settings i world .waiting .quiet world .idle
  -- a connection closed outside of the lock
  | closing (world conn after) : Core calls driver settings i world (.closing conn after) .quiet (endConn conn world) after

abbrev State (T C N F I : Type) := Threads I (World T C N) (Phase T C F)

def start {F I : Type} : State T C N F I := ⟨⟨∅, ∅, ∅, ∅, false, [], 0, [], fun _ => false, 0, fun _ => 0, fun _ => false⟩, fun _ => .idle⟩

-- Close has returned, and no call or revalidation is under way.
def Quiet {F I : Type} (state : State T C N F I) : Prop := state.world.closed = true ∧ state.world.spawned = [] ∧ ∀ i, state.phase i = .idle

structure Emptied (world : World T C N) : Prop where
  connections : world.connections = ∅
  companion : world.companion = ∅
  lastAccessed : world.lastAccessed = ∅
  ended : ∀ conn, conn < world.conns.length → world.ended conn = true

end LibCommons.Connections
