import LibCommons.TenantManager.Finality

namespace LibCommons.TenantPostgres

open Connections Function
open Threads (go)

section

-- What buildTenantPostgresConnection makes of a configuration; replica is empty where there is none.
structure ConnStrings where
  primary : String
  replica : String
deriving DecidableEq

def normalizeReplicaConnStr (replica primary : String) : String := if replica = primary then "" else replica

def hasPostgresConfigChanged (conn : Option ConnStrings) (fresh : ConnStrings) : Bool :=
  match conn with
  | none => false
  | some cached =>
    if cached.primary ≠ fresh.primary then true
    else
      let cachedReplica := normalizeReplicaConnStr cached.replica cached.primary
      let freshReplica := normalizeReplicaConnStr fresh.replica fresh.primary
      decide (cachedReplica ≠ freshReplica)

-- There is no companion map here.
def postgres : Driver ConnStrings Unit where
  companion _ := ()
  changed conn _ fresh := hasPostgresConfigChanged conn fresh
  closesInside := true
  discardsInside := true
  checksClosed := false

def calls : Calls := ⟨true, false⟩

-- GetConnection up to the fetch of createConnection.
inductive Stage (T : Type) where
  | getConnection (tenantID : T)
  | healthGate (tenantID : T) (conn : Nat)
  | runHealthCheck (tenantID : T) (conn : Nat)
  | touchCachedConnection (tenantID : T) (conn : Nat)
  | spawn (tenantID : T) (conn : Nat)
  | createConnection (tenantID : T)

variable {T I : Type} [DecidableEq T]

inductive Move (settings : Settings) (i : I) : World T ConnStrings Unit → Phase T ConnStrings (Stage T) → Label T Unit →
    World T ConnStrings Unit → Phase T ConnStrings (Stage T) → Prop where
  | core {world next : World T ConnStrings Unit} {phase after : Phase T ConnStrings (Stage T)} {label : Label T Unit}
      (moves : Core calls postgres settings i world phase label next after) : Move settings i world phase label next after
  -- GetConnection
  | call (world tenantID) : Move settings i world .idle .quiet world (.front (.getConnection tenantID))
  | closed (world : World T ConnStrings Unit) (tenantID) (closed : world.closed = true) :
      Move settings i world (.front (.getConnection tenantID)) .quiet world .idle
  | missing (world : World T ConnStrings Unit) (tenantID) (opened : world.closed = false)
      (missing : world.connections.lookup tenantID = none) :
      Move settings i world (.front (.getConnection tenantID)) .quiet world (.front (.createConnection tenantID))
  | cached (world : World T ConnStrings Unit) (tenantID conn) (opened : world.closed = false)
      (held : world.connections.lookup tenantID = some conn) :
      Move settings i world (.front (.getConnection tenantID)) .quiet world (.front (.healthGate tenantID conn))
  -- the answers of the health gate
  | wait (world tenantID conn) : Move settings i world (.front (.healthGate tenantID conn)) .quiet world (.front (.getConnection tenantID))
  | awaitFails (world tenantID conn) : Move settings i world (.front (.healthGate tenantID conn)) .quiet world .idle
  | run (world tenantID conn) :
      Move settings i world (.front (.healthGate tenantID conn)) .quiet world (.front (.runHealthCheck tenantID conn))
  | skip (world tenantID conn) :
      Move settings i world (.front (.healthGate tenantID conn)) .quiet world (.front (.touchCachedConnection tenantID conn))
  -- runHealthCheck
  | healthy (world tenantID conn) :
      Move settings i world (.front (.runHealthCheck tenantID conn)) .quiet world (.front (.touchCachedConnection tenantID conn))
  | callerAbandoned (world tenantID conn) : Move settings i world (.front (.runHealthCheck tenantID conn)) .quiet world .idle
  -- closeUnhealthyConnection compares identities
  | unhealthy (world : World T ConnStrings Unit) (tenantID conn) (held : world.connections.lookup tenantID = some conn) :
      Move settings i world (.front (.runHealthCheck tenantID conn)) .quiet (delete tenantID world)
        (.closing conn (.front (.createConnection tenantID)))
  | unhealthyReplaced (world : World T ConnStrings Unit) (tenantID conn) (replaced : world.connections.lookup tenantID ≠ some conn) :
      Move settings i world (.front (.runHealthCheck tenantID conn)) .quiet world (.closing conn (.front (.createConnection tenantID)))
  -- touchCachedConnection
  | replaced (world : World T ConnStrings Unit) (tenantID conn) (replaced : world.connections.lookup tenantID ≠ some conn) :
      Move settings i world (.front (.touchCachedConnection tenantID conn)) .quiet world (.front (.createConnection tenantID))
  | touch (world : World T ConnStrings Unit) (tenantID conn now) (held : world.connections.lookup tenantID = some conn)
      (early : ¬ revalidationDue settings tenantID now world) :
      Move settings i world (.front (.touchCachedConnection tenantID conn)) .quiet (touch tenantID now world) (.got tenantID conn none)
  | touchDue (world : World T ConnStrings Unit) (tenantID : T) (conn : Nat) (now : Int)
      (held : world.connections.lookup tenantID = some conn) (due : revalidationDue settings tenantID now world) :
      Move settings i world (.front (.touchCachedConnection tenantID conn)) .quiet
        { touch tenantID now world with lastConnectionsCheck := world.lastConnectionsCheck.insert tenantID now }
        (.front (.spawn tenantID conn))
  | spawn (world tenantID conn) : Move settings i world (.front (.spawn tenantID conn)) .quiet
        { world with spawned := tenantID :: world.spawned, revalidateWG := world.revalidateWG + 1 } (.got tenantID conn none)
  -- createConnection, tryReuseOrEvictCachedConnectionLocked
  | reuse (world : World T ConnStrings Unit) (tenantID conn) (held : world.connections.lookup tenantID = some conn) :
      Move settings i world (.front (.createConnection tenantID)) .quiet world (.got tenantID conn none)
  | evictUnhealthy (world : World T ConnStrings Unit) (tenantID conn) (held : world.connections.lookup tenantID = some conn) :
      Move settings i world (.front (.createConnection tenantID)) .quiet (delete tenantID (endConn conn world))
        (if world.closed = true then .idle else .fetchNew tenantID none)
  | create (world : World T ConnStrings Unit) (tenantID) (missing : world.connections.lookup tenantID = none) :
      Move settings i world (.front (.createConnection tenantID)) .quiet world
        (if world.closed = true then .idle else .fetchNew tenantID none)

abbrev Pools (T I : Type) := State T ConnStrings Unit (Stage T) I

end

section

variable {T I : Type} [DecidableEq T]

omit [DecidableEq T] in
theorem calm_create (closed) (tenantID : T) : Calm (if closed = true then .idle else .fetchNew tenantID none : Phase T ConnStrings (Stage T)) := by
  cases closed with
  | true => exact .idle
  | false => exact .fetchNew tenantID none

theorem move_extends (settings) : Extends calls postgres settings (Move (T := T) (I := I) settings) := by
  intro _ _ _ _ _ _ moves
  exact .core moves

theorem move_refines (settings : Settings) (i : I) (world : World T ConnStrings Unit) (phase : Phase T ConnStrings (Stage T))
    (label : Label T Unit) (next : World T ConnStrings Unit) (after : Phase T ConnStrings (Stage T))
    (moves : Move settings i world phase label next after) :
    Step calls postgres settings i world phase label next after := by
  cases moves with
  | core moves => exact .inl moves
  | unhealthy tenantID conn held => exact .inr (.removes world _ _ tenantID conn (.front _) (.front _) held)
  | unhealthyReplaced _ conn => exact .inr (.closes world _ _ conn (.front _) (.front _))
  | touch tenantID conn now held =>
    exact .inr (.touches world _ _ tenantID now (.front _) (.got _ _ _) (Option.ne_none_iff_exists'.mpr ⟨conn, held⟩))
  | touchDue tenantID conn now held =>
    exact .inr (.touchesDue world _ _ tenantID now _ _ (.front _) (.front _) (Option.ne_none_iff_exists'.mpr ⟨conn, held⟩))
  | spawn => exact .inr (.plans world _ _ _ _ _ (.front _) (.got _ _ _))
  | reuse => exact .inr (.pass world _ _ (.front _) (.got _ _ _))
  | evictUnhealthy tenantID conn held =>
    exact .inr (.evicts world _ _ tenantID conn (.front _) (calm_create world.closed tenantID) held)
  | create tenantID => exact .inr (.pass world _ _ (.front _) (calm_create world.closed tenantID))
  | call => exact .inr (.pass world _ _ .idle (.front _))
  | closed | awaitFails | callerAbandoned => exact .inr (.pass world _ _ (.front _) .idle)
  | _ => exact .inr (.pass world _ _ (.front _) (.front _))

end

variable {T I : Type} [DecidableEq T] [DecidableEq I]

end LibCommons.TenantPostgres
