import LibCommons.TenantManager.Finality

namespace LibCommons.TenantRabbitmq

open Connections

section

-- The URI built from a tenant's configuration, and its TLSCAFile.
structure RabbitConfig where
  uri : String
  tlsCAFile : String
deriving DecidableEq

def cachedKey (config : RabbitConfig) : String :=
  if config.tlsCAFile ≠ "" then config.uri ++ ("|ca=" ++ config.tlsCAFile) else config.uri

-- detectAndReconnectRabbitMQ reads cachedURIs only.
def uriChanged (cachedURI : Option String) (fresh : RabbitConfig) : Bool := cachedURI.any fun uri => uri ≠ cachedKey fresh

def rabbitmq : Driver RabbitConfig String where
  companion := cachedKey
  changed _ cachedURI fresh := uriChanged cachedURI fresh
  closesInside := true
  discardsInside := false
  checksClosed := true

def calls : Calls := ⟨true, false⟩

inductive Stage (T : Type) where
  | getConnection (tenantID : T)
  | refresh (tenantID : T)
  | spawn (tenantID : T) (conn : Nat)
  | createConnection (tenantID : T)

variable {T I : Type} [DecidableEq T]

inductive Move (settings : Settings) (i : I) : World T RabbitConfig String → Phase T RabbitConfig (Stage T) → Label T String →
    World T RabbitConfig String → Phase T RabbitConfig (Stage T) → Prop where
  | core {world next : World T RabbitConfig String} {phase after : Phase T RabbitConfig (Stage T)} {label : Label T String}
      (moves : Core calls rabbitmq settings i world phase label next after) : Move settings i world phase label next after
  -- the broker or the network ends a connection
  | dies (world phase conn) : Move settings i world phase .quiet (endConn conn world) phase
  -- GetConnection
  | call (world tenantID) : Move settings i world .idle .quiet world (.front (.getConnection tenantID))
  | closed (world : World T RabbitConfig String) (tenantID) (closed : world.closed = true) :
      Move settings i world (.front (.getConnection tenantID)) .quiet world .idle
  | hit (world : World T RabbitConfig String) (tenantID conn) (opened : world.closed = false)
      (held : cached rabbitmq tenantID world = some conn) :
      Move settings i world (.front (.getConnection tenantID)) .quiet world (.front (.refresh tenantID))
  | miss (world : World T RabbitConfig String) (tenantID) (opened : world.closed = false)
      (missing : cached rabbitmq tenantID world = none) :
      Move settings i world (.front (.getConnection tenantID)) .quiet world (.front (.createConnection tenantID))
  -- the entry is read again under the write lock
  | evicted (world tenantID) (missing : cached rabbitmq tenantID world = none) :
      Move settings i world (.front (.refresh tenantID)) .quiet world (.front (.createConnection tenantID))
  | refresh (world tenantID conn now) (held : cached rabbitmq tenantID world = some conn)
      (early : ¬ revalidationDue settings tenantID now world) :
      Move settings i world (.front (.refresh tenantID)) .quiet (touch tenantID now world) (.got tenantID conn none)
  | refreshDue (world : World T RabbitConfig String) (tenantID : T) (conn : Nat) (now : Int)
      (held : cached rabbitmq tenantID world = some conn) (due : revalidationDue settings tenantID now world) :
      Move settings i world (.front (.refresh tenantID)) .quiet
        { touch tenantID now world with lastConnectionsCheck := world.lastConnectionsCheck.insert tenantID now
                                        revalidateWG := world.revalidateWG + 1 }
        (.front (.spawn tenantID conn))
  | spawn (world tenantID conn) :
      Move settings i world (.front (.spawn tenantID conn)) .quiet { world with spawned := tenantID :: world.spawned }
        (.got tenantID conn none)
  -- createConnection
  | recheck (world tenantID conn) (held : cached rabbitmq tenantID world = some conn) :
      Move settings i world (.front (.createConnection tenantID)) .quiet world (.got tenantID conn none)
  | createClosed (world : World T RabbitConfig String) (tenantID) (missing : cached rabbitmq tenantID world = none)
      (closed : world.closed = true) :
      Move settings i world (.front (.createConnection tenantID)) .quiet world .idle
  | create (world : World T RabbitConfig String) (tenantID) (missing : cached rabbitmq tenantID world = none)
      (opened : world.closed = false) :
      Move settings i world (.front (.createConnection tenantID)) .quiet world (.fetchNew tenantID none)

abbrev Links (T I : Type) := State T RabbitConfig String (Stage T) I

end

variable {T I : Type} [DecidableEq T] (settings : Settings)

theorem move_extends : Extends calls rabbitmq settings (Move (T := T) (I := I) settings) := by
  intro _ _ _ _ _ _ moves
  exact .core moves

theorem move_refines (i : I) (world : World T RabbitConfig String) (phase : Phase T RabbitConfig (Stage T))
    (label : Label T String) (next : World T RabbitConfig String) (after : Phase T RabbitConfig (Stage T))
    (moves : Move settings i world phase label next after) : Step calls rabbitmq settings i world phase label next after := by
  have present : ∀ tenantID conn, cached rabbitmq tenantID world = some conn → world.connections.lookup tenantID ≠ none := by
    intro tenantID conn held
    exact Option.ne_none_iff_exists'.mpr ⟨conn, cached_held held⟩
  cases moves with
  | core moves => exact .inl moves
  | dies _ conn => exact .inr (.dies world phase conn)
  | call => exact .inr (.pass world _ _ .idle (.front _))
  | closed | createClosed => exact .inr (.pass world _ _ (.front _) .idle)
  | refresh tenantID conn now held =>
    exact .inr (.touches world _ _ tenantID now (.front _) (.got _ _ _) (present tenantID conn held))
  | refreshDue tenantID conn now held =>
    exact .inr (.touchesDue world _ _ tenantID now _ _ (.front _) (.front _) (present tenantID conn held))
  | spawn => exact .inr (.plans world _ _ world.lastConnectionsCheck world.revalidateWG _ (.front _) (.got _ _ _))
  | recheck => exact .inr (.pass world _ _ (.front _) (.got _ _ _))
  | create => exact .inr (.pass world _ _ (.front _) (.fetchNew _ _))
  | _ => exact .inr (.pass world _ _ (.front _) (.front _))

theorem move_enters : Enters (Move (T := T) (I := I) settings) := by
  intro _ world tenantID opened missing
  have absent := missing_cached rabbitmq missing
  exact ⟨_, .move _ _ _ _ _ _ _ _ (.call world tenantID) (.move _ _ _ _ _ _ _ _ (.miss world tenantID opened absent)
    (.move _ _ _ _ _ _ _ _ (.create world tenantID absent opened) (.stay _ _)))⟩

-- Another CA file makes another key of the same URI.
theorem rabbitmq_differs (config) : ∃ served, rabbitmq.changed (some served) (some (rabbitmq.companion served)) config = true := by
  refine ⟨{ config with tlsCAFile := config.tlsCAFile ++ "x" }, ?_⟩
  by_cases empty : config.tlsCAFile = ""
  · simp [rabbitmq, uriChanged, cachedKey, empty]
  · simp [rabbitmq, uriChanged, cachedKey, empty]

end LibCommons.TenantRabbitmq
