import LibCommons.TenantManager.Finality

namespace LibCommons.TenantMongo

open Connections

section

-- What buildAndCacheNewConnection takes from a tenant's configuration.
structure MongoConfig where
  uri : String
  database : String
  maxPoolSize : Nat
  separateCertAndKey : Bool
deriving DecidableEq

def defaultMaxConnections : Nat := 100

def effectiveMaxPool (maxPoolSize : Nat) : Nat := if maxPoolSize = 0 then defaultMaxConnections else maxPoolSize

def hasMongoConfigChanged (conn : Option MongoConfig) (cachedDB : Option String) (fresh : MongoConfig) : Bool :=
  match conn with
  | none => false
  | some cached =>
    if cached.uri ≠ fresh.uri then true
    else if cachedDB.any fun name => name ≠ fresh.database then true
    else if effectiveMaxPool cached.maxPoolSize ≠ effectiveMaxPool fresh.maxPoolSize then true
    else decide (fresh.separateCertAndKey ≠ cached.separateCertAndKey)

-- The companion map is databaseNames.
def mongo : Driver MongoConfig String where
  companion config := config.database
  changed := hasMongoConfigChanged
  closesInside := false
  discardsInside := true
  checksClosed := false

-- The number is that of the GetDatabaseForTenant call that called GetConnection.
inductive Stage (T : Type) where
  | getConnection (tenantID : T) (call : Option Nat)
  | healthGate (tenantID : T) (conn : Nat) (call : Option Nat)
  | runHealthCheck (tenantID : T) (conn : Nat) (call : Option Nat)
  | touchCachedConnection (tenantID : T) (conn : Nat) (call : Option Nat)
  | spawn (tenantID : T) (conn : Nat) (call : Option Nat)
  | createConnection (tenantID : T) (call : Option Nat)
  | tryReuseCachedConnection (tenantID : T) (conn : Nat) (call : Option Nat)
  | reuseHealthyConnection (tenantID : T) (conn : Nat) (call : Option Nat)
  | fetchName (tenantID : T) (conn : Nat) (call : Nat)
  | nameDatabase (tenantID : T) (conn : Nat) (call : Nat) (database : String)

variable {T I : Type} [DecidableEq T]

inductive Move (calls : Calls) (settings : Settings) (i : I) : World T MongoConfig String → Phase T MongoConfig (Stage T) →
    Label T String → World T MongoConfig String → Phase T MongoConfig (Stage T) → Prop where
  | core {world next : World T MongoConfig String} {phase after : Phase T MongoConfig (Stage T)} {label : Label T String}
      (moves : Core calls mongo settings i world phase label next after) : Move calls settings i world phase label next after
  -- GetConnection, called by itself or by GetDatabaseForTenant
  | call (world tenantID) : Move calls settings i world .idle .quiet world (.front (.getConnection tenantID none))
  | getDatabaseForTenant (world tenantID) (allowed : calls.getDatabaseForTenant = true) :
      Move calls settings i world .idle .quiet { world with clock := world.clock + 1 }
        (.front (.getConnection tenantID (some (world.clock + 1))))
  | closed (world : World T MongoConfig String) (tenantID call) (closed : world.closed = true) :
      Move calls settings i world (.front (.getConnection tenantID call)) .quiet world .idle
  | missing (world : World T MongoConfig String) (tenantID call) (opened : world.closed = false)
      (missing : world.connections.lookup tenantID = none) :
      Move calls settings i world (.front (.getConnection tenantID call)) .quiet world (.front (.createConnection tenantID call))
  | cached (world : World T MongoConfig String) (tenantID conn call) (opened : world.closed = false)
      (held : world.connections.lookup tenantID = some conn) :
      Move calls settings i world (.front (.getConnection tenantID call)) .quiet world (.front (.healthGate tenantID conn call))
  -- the answers of the health gate
  | wait (world tenantID conn call) :
      Move calls settings i world (.front (.healthGate tenantID conn call)) .quiet world (.front (.getConnection tenantID call))
  | awaitFails (world tenantID conn call) : Move calls settings i world (.front (.healthGate tenantID conn call)) .quiet world .idle
  | run (world tenantID conn call) : Move calls settings i world (.front (.healthGate tenantID conn call)) .quiet world
        (.front (.runHealthCheck tenantID conn call))
  | skip (world tenantID conn call) : Move calls settings i world (.front (.healthGate tenantID conn call)) .quiet world
        (.front (.touchCachedConnection tenantID conn call))
  -- runHealthCheck
  | healthy (world tenantID conn call) : Move calls settings i world (.front (.runHealthCheck tenantID conn call)) .quiet world
        (.front (.touchCachedConnection tenantID conn call))
  | callerAbandoned (world tenantID conn call) :
      Move calls settings i world (.front (.runHealthCheck tenantID conn call)) .quiet world .idle
  -- disconnectUnhealthyConnection compares identities
  | unhealthy (world : World T MongoConfig String) (tenantID conn call) (held : world.connections.lookup tenantID = some conn) :
      Move calls settings i world (.front (.runHealthCheck tenantID conn call)) .quiet (delete tenantID world)
        (.closing conn (.front (.createConnection tenantID call)))
  | unhealthyReplaced (world : World T MongoConfig String) (tenantID conn call) (replaced : world.connections.lookup tenantID ≠ some conn) :
      Move calls settings i world (.front (.runHealthCheck tenantID conn call)) .quiet world
        (.closing conn (.front (.createConnection tenantID call)))
  -- touchCachedConnection
  | replaced (world : World T MongoConfig String) (tenantID conn call) (replaced : world.connections.lookup tenantID ≠ some conn) :
      Move calls settings i world (.front (.touchCachedConnection tenantID conn call)) .quiet world
        (.front (.createConnection tenantID call))
  | touch (world : World T MongoConfig String) (tenantID conn call now) (held : world.connections.lookup tenantID = some conn)
      (early : ¬ revalidationDue settings tenantID now world) :
      Move calls settings i world (.front (.touchCachedConnection tenantID conn call)) .quiet (touch tenantID now world)
        (.got tenantID conn call)
  | touchDue (world : World T MongoConfig String) (tenantID : T) (conn : Nat) (call : Option Nat) (now : Int)
      (held : world.connections.lookup tenantID = some conn) (due : revalidationDue settings tenantID now world) :
      Move calls settings i world (.front (.touchCachedConnection tenantID conn call)) .quiet
        { touch tenantID now world with lastConnectionsCheck := world.lastConnectionsCheck.insert tenantID now
                                        revalidateWG := world.revalidateWG + 1 }
        (.front (.spawn tenantID conn call))
  | spawn (world tenantID conn call) : Move calls settings i world (.front (.spawn tenantID conn call)) .quiet
        { world with spawned := tenantID :: world.spawned } (.got tenantID conn call)
  -- createConnection, snapshotCachedConnection
  | snapshotClosed (world : World T MongoConfig String) (tenantID call) (closed : world.closed = true) :
      Move calls settings i world (.front (.createConnection tenantID call)) .quiet world .idle
  | snapshotMissing (world : World T MongoConfig String) (tenantID call) (opened : world.closed = false)
      (missing : world.connections.lookup tenantID = none) :
      Move calls settings i world (.front (.createConnection tenantID call)) .quiet world (.fetchNew tenantID call)
  | snapshot (world : World T MongoConfig String) (tenantID conn call) (opened : world.closed = false)
      (held : world.connections.lookup tenantID = some conn) :
      Move calls settings i world (.front (.createConnection tenantID call)) .quiet world
        (.front (.tryReuseCachedConnection tenantID conn call))
  -- tryReuseCachedConnection
  | ping (world tenantID conn call) : Move calls settings i world (.front (.tryReuseCachedConnection tenantID conn call)) .quiet world
        (.front (.reuseHealthyConnection tenantID conn call))
  | pingAbandoned (world tenantID conn call) :
      Move calls settings i world (.front (.tryReuseCachedConnection tenantID conn call)) .quiet world .idle
  | pingFails (world : World T MongoConfig String) (tenantID conn call) (held : world.connections.lookup tenantID = some conn) :
      Move calls settings i world (.front (.tryReuseCachedConnection tenantID conn call)) .quiet (delete tenantID world)
        (.closing conn (.fetchNew tenantID call))
  | pingFailsReplaced (world : World T MongoConfig String) (tenantID conn call) (replaced : world.connections.lookup tenantID ≠ some conn) :
      Move calls settings i world (.front (.tryReuseCachedConnection tenantID conn call)) .quiet world
        (.closing conn (.fetchNew tenantID call))
  | reuse (world : World T MongoConfig String) (tenantID conn call now) (held : world.connections.lookup tenantID = some conn) :
      Move calls settings i world (.front (.reuseHealthyConnection tenantID conn call)) .quiet (touch tenantID now world)
        (.got tenantID conn call)
  | reuseReplaced (world : World T MongoConfig String) (tenantID conn call) (replaced : world.connections.lookup tenantID ≠ some conn) :
      Move calls settings i world (.front (.reuseHealthyConnection tenantID conn call)) .quiet world (.fetchNew tenantID call)
  -- GetDatabaseForTenant, with its client
  | name (world : World T MongoConfig String) (tenantID conn call database) (named : world.companion.lookup tenantID = some database) :
      Move calls settings i world (.got tenantID conn (some call)) (.handle call conn database) world .idle
  | nameMissing (world : World T MongoConfig String) (tenantID conn call) (missing : world.companion.lookup tenantID = none) :
      Move calls settings i world (.got tenantID conn (some call)) .quiet world (.front (.fetchName tenantID conn call))
  | nameFails (world tenantID conn call) : Move calls settings i world (.front (.fetchName tenantID conn call)) .quiet world .idle
  | nameArrives (world tenantID conn call database) : Move calls settings i world (.front (.fetchName tenantID conn call)) .quiet world
        (.front (.nameDatabase tenantID conn call database))
  | nameDatabase (world tenantID conn call database) (allowed : calls.getDatabaseForTenant = true) :
      Move calls settings i world (.front (.nameDatabase tenantID conn call database)) (.handle call conn database)
        { world with companion := world.companion.insert tenantID database } .idle

abbrev Clients (T I : Type) := State T MongoConfig String (Stage T) I

end

variable {T I : Type} [DecidableEq T] (calls : Calls) (settings : Settings)

theorem move_extends : Extends calls mongo settings (Move (T := T) (I := I) calls settings) := by
  intro _ _ _ _ _ _ moves
  exact .core moves

theorem move_refines (i : I) (world : World T MongoConfig String) (phase : Phase T MongoConfig (Stage T))
    (label : Label T String) (next : World T MongoConfig String) (after : Phase T MongoConfig (Stage T))
    (moves : Move calls settings i world phase label next after) : Step calls mongo settings i world phase label next after := by
  cases moves with
  | core moves => exact .inl moves
  | call => exact .inr (.pass world _ _ .idle (.front _))
  | getDatabaseForTenant => exact .inr (.begins world _ _ .idle (.front _))
  | unhealthy tenantID conn _ held => exact .inr (.removes world _ _ tenantID conn (.front _) (.front _) held)
  | unhealthyReplaced _ conn => exact .inr (.closes world _ _ conn (.front _) (.front _))
  | pingFails tenantID conn _ held => exact .inr (.removes world _ _ tenantID conn (.front _) (.fetchNew _ _) held)
  | pingFailsReplaced _ conn => exact .inr (.closes world _ _ conn (.front _) (.fetchNew _ _))
  | touch tenantID conn call now held | reuse tenantID conn call now held =>
    exact .inr (.touches world _ _ tenantID now (.front _) (.got _ _ _) (Option.ne_none_iff_exists'.mpr ⟨conn, held⟩))
  | touchDue tenantID conn _ now held =>
    exact .inr (.touchesDue world _ _ tenantID now _ _ (.front _) (.front _) (Option.ne_none_iff_exists'.mpr ⟨conn, held⟩))
  | spawn => exact .inr (.plans world _ _ world.lastConnectionsCheck world.revalidateWG _ (.front _) (.got _ _ _))
  | closed | awaitFails | callerAbandoned | snapshotClosed | pingAbandoned | nameFails =>
    exact .inr (.pass world _ _ (.front _) .idle)
  | snapshotMissing | reuseReplaced => exact .inr (.pass world _ _ (.front _) (.fetchNew _ _))
  | name _ conn call database => exact .inr (.gives world _ _ call conn database (.got _ _ _) .idle)
  | nameMissing => exact .inr (.pass world _ _ (.got _ _ _) (.front _))
  | nameDatabase tenantID conn call database allowed =>
    exact .inr (.names world _ _ tenantID call conn database (.front _) .idle allowed)
  | _ => exact .inr (.pass world _ _ (.front _) (.front _))

theorem move_enters : Enters (Move (T := T) (I := I) calls settings) := by
  intro _ world tenantID opened missing
  exact ⟨_, .move _ _ _ _ _ _ _ _ (.call world tenantID) (.move _ _ _ _ _ _ _ _ (.missing world tenantID none opened missing)
    (.move _ _ _ _ _ _ _ _ (.snapshotMissing world tenantID none opened missing) (.stay _ _)))⟩

theorem mongo_differs (config) : ∃ served, mongo.changed (some served) (some (mongo.companion served)) config = true := by
  refine ⟨{ config with database := config.database ++ "x" }, ?_⟩
  simp [mongo, hasMongoConfigChanged]

end LibCommons.TenantMongo
