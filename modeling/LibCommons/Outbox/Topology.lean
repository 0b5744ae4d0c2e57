import LibCommons.Go.Strings
import LibCommons.Lib.Threads

namespace LibCommons.Topology

open Go

structure TenantDispatchScope where
  tenantID : String
  poolKey : String
  deriving DecidableEq, Repr

structure PostgreSQLConfig where
  host : String
  port : Int
  database : String
  schema : String
  deriving DecidableEq, Repr

-- The Databases map of a tenant's configuration, in the order of its keys.
structure TenantConfig where
  databases : List (String × Option PostgreSQLConfig)
  deriving DecidableEq, Repr

def TenantConfig.getPostgreSQLConfig (config : TenantConfig) (module' : String) : Option PostgreSQLConfig :=
  if module' ≠ "" then (config.databases.lookup module').join
  else config.databases.findSome? Prod.snd

-- strings.ToLower is a parameter: it follows the Unicode tables.
def postgresResourceIdentity (toLower : String → String) (config : PostgreSQLConfig) : String :=
  let lowered := toLower (trimSpace config.host)
  let host := if lowered.toList.getLast? = some '.' then String.ofList lowered.toList.dropLast else lowered
  let schema := if trimSpace config.schema = "" then "public" else trimSpace config.schema
  let port := if config.port = 0 then 5432 else config.port
  String.intercalate "\x00" [host, toString port, trimSpace config.database, schema]

section

inductive Error where
  | genericPoolResolverRequired
  | defaultTenantIDRequired
  | tenantConfigLoaderRequired
  | modulePoolNameRequired
  | modulePoolResolverRequired (name : String)
  | duplicateModulePool (name : String)
  deriving DecidableEq, Repr

structure ModulePool where
  name : String
  resolver : Bool

structure Bindings where
  names : List String
  distinct : names.Nodup
  named : "" ∉ names

def Bindings.none : Bindings := ⟨[], List.nodup_nil, List.not_mem_nil⟩

variable {name : String}

theorem bindings_distinct {bindings : Bindings} (new : name ∉ bindings.names) : (bindings.names ++ [name]).Nodup :=
  List.nodup_append.mpr ⟨bindings.distinct, List.nodup_singleton name, by
    intro _ held _ member
    rw [List.mem_singleton.mp member]
    intro same
    exact new (same ▸ held)⟩

theorem bindings_named (bindings : Bindings) (filled : name ≠ "") : "" ∉ bindings.names ++ [name] := by
  simp [bindings.named, filled.symm]

def Bindings.add (bindings : Bindings) (entry : ModulePool) : Except Error Bindings :=
  if blank : trimSpace entry.name = "" then .error .modulePoolNameRequired
  else if entry.resolver = false then .error (.modulePoolResolverRequired (trimSpace entry.name))
  else if taken : trimSpace entry.name ∈ bindings.names then .error (.duplicateModulePool (trimSpace entry.name))
  else .ok ⟨bindings.names ++ [trimSpace entry.name], bindings_distinct taken, bindings_named bindings blank⟩

-- What stays fixed in a resolver; the modules are those of moduleByName.
structure ModulePoolResolver where
  defaultTenantID : String
  modules : Bindings
  refreshInterval : Int
  toLower : String → String
  named : defaultTenantID ≠ ""

def newModulePoolResolverWithConfig (toLower : String → String) (generic : Bool) (defaultTenantID : String) (loadConfig : Bool)
    (topologyRefreshInterval : Int) (modules : List ModulePool) : Except Error ModulePoolResolver :=
  if generic = false then .error .genericPoolResolverRequired
  else if blank : trimSpace defaultTenantID = "" then .error .defaultTenantIDRequired
  else if loadConfig = false then .error .tenantConfigLoaderRequired
  else do
    let bindings ← modules.foldlM Bindings.add Bindings.none
    let interval := if topologyRefreshInterval ≤ 0 then 60000000000 else topologyRefreshInterval
    return ⟨trimSpace defaultTenantID, bindings, interval, toLower, blank⟩

end

def uniqueTenantIDs (seen : List String) : List String → List String
  | [] => []
  | raw :: rest =>
    if trimSpace raw = "" ∨ trimSpace raw ∈ seen then uniqueTenantIDs seen rest
    else trimSpace raw :: uniqueTenantIDs (trimSpace raw :: seen) rest

-- The loop over the modules: those whose database no earlier entry has.
def moduleScopes (toLower : String → String) (config : TenantConfig) (tenantID : String) (seenResources : List String) :
    List String → List TenantDispatchScope
  | [] => []
  | name :: rest =>
    match config.getPostgreSQLConfig name with
    | none => moduleScopes toLower config tenantID seenResources rest
    | some moduleConfig =>
      let identity := postgresResourceIdentity toLower moduleConfig
      if identity ∈ seenResources then moduleScopes toLower config tenantID seenResources rest
      else ⟨tenantID, name⟩ :: moduleScopes toLower config tenantID (identity :: seenResources) rest

-- The answer of loadConfig is none where it fails or brings no configuration.
def scopesForTenant (resolver : ModulePoolResolver) (answer : Option TenantConfig) (tenantID : String) :
    Option (List TenantDispatchScope) := do
  let config ← answer
  let genericConfig ← config.getPostgreSQLConfig ""
  return ⟨tenantID, ""⟩ :: moduleScopes resolver.toLower config tenantID
    [postgresResourceIdentity resolver.toLower genericConfig] resolver.modules.names

-- The fields under topologyMu and the clock of the calls; a missing tenant reads as the empty list.
structure World (I : Type) where
  refreshMu : Option I
  topology : String → List TenantDispatchScope
  orderedScopes : List TenantDispatchScope
  topologyRefreshed : Int
  topologyValid : Bool
  refreshID : Nat
  committedRefreshID : Nat
  clock : Nat

structure Gathered where
  nextTopology : String → List TenantDispatchScope
  orderedScopes : List TenantDispatchScope

def Gathered.add (gathered : Gathered) (tenantID : String) (scopes : List TenantDispatchScope) : Gathered :=
  if scopes = [] then gathered
  else ⟨Function.update gathered.nextTopology tenantID scopes, gathered.orderedScopes ++ scopes⟩

section

variable {I : Type}

def cachedScopesWithState (world : World I) : List TenantDispatchScope × Bool :=
  (world.orderedScopes, world.topologyValid || world.topologyRefreshed != 0)

def cachedFreshScopes (resolver : ModulePoolResolver) (now : Int) (world : World I) : Option (List TenantDispatchScope) :=
  if world.topologyValid = true ∧ now < world.topologyRefreshed + resolver.refreshInterval then some world.orderedScopes
  else none

def commitRefreshAttempt (refreshID : Nat) (now : Int) (world : World I) : World I :=
  { world with topologyRefreshed := now, topologyValid := true, committedRefreshID := refreshID }

def commitRefresh (refreshID : Nat) (now : Int) (gathered : Gathered) (world : World I) : World I :=
  { world with topology := gathered.nextTopology, orderedScopes := gathered.orderedScopes, topologyRefreshed := now,
               topologyValid := true, committedRefreshID := refreshID }

def invalidateTopology (invalidationID : Nat) (world : World I) : World I :=
  { world with topologyValid := false, committedRefreshID := max invalidationID world.committedRefreshID }

def evictTenant (tenantID : String) (evictionID : Nat) (world : World I) : World I :=
  { world with topology := Function.update world.topology tenantID []
               orderedScopes := world.orderedScopes.filter fun scope => scope.tenantID ≠ tenantID
               topologyValid := false
               committedRefreshID := max evictionID world.committedRefreshID }

-- The checks of PoolForTenantDispatchScope under the read lock.
def Routed (resolver : ModulePoolResolver) (scope : TenantDispatchScope) (world : World I) : Prop :=
  scope.tenantID ≠ "" ∧ scope ∈ world.topology scope.tenantID ∧ (scope.poolKey = "" ∨ scope.poolKey ∈ resolver.modules.names)

end

-- A refresh carries its ticket and the time it read under the mutex.
inductive Phase where
  | idle
  | lockRefresh
  | recheck
  | takeTicket (now : Int)
  | listTenants (refreshID : Nat) (now : Int)
  | cachedScopes (refreshID : Nat) (now : Int)
  | commitAttempt (refreshID : Nat) (now : Int)
  | loading (refreshID : Nat) (now : Int) (remaining : List String) (gathered : Gathered)
  | cachedTenantScopes (refreshID : Nat) (now : Int) (tenantID : String) (remaining : List String) (gathered : Gathered)
  | unlockRefresh
  | invalidating (invalidationID : Nat)
  | invalidated (invalidationID : Nat)
  | evicting (tenantID : String) (evictionID : Nat)
  | evicted (tenantID : String) (evictionID : Nat)
  | checkScope (scope : TenantDispatchScope) (begun : Nat)
  | poolForTenant (scope : TenantDispatchScope) (begun : Nat)

inductive Label where
  | quiet
  | committed (refreshID : Nat)
  | invalidated (invalidationID : Nat)
  | evicted (tenantID : String) (evictionID : Nat) (returned : Nat)
  | resolved (scope : TenantDispatchScope) (begun : Nat)

variable {I : Type}

inductive Move (resolver : ModulePoolResolver) (i : I) : World I → Phase → Label → World I → Phase → Prop where
  -- ListTenantDispatchScopes
  | listFresh (world now scopes) (fresh : cachedFreshScopes resolver now world = some scopes) : Move resolver i world .idle .quiet world .idle
  | listStale (world now) (stale : cachedFreshScopes resolver now world = none) : Move resolver i world .idle .quiet world .lockRefresh
  | lock (world : World I) (free : world.refreshMu = none) :
      Move resolver i world .lockRefresh .quiet { world with refreshMu := some i } .recheck
  | recheckFresh (world now scopes) (fresh : cachedFreshScopes resolver now world = some scopes) :
      Move resolver i world .recheck .quiet world .unlockRefresh
  | recheckStale (world now) (stale : cachedFreshScopes resolver now world = none) :
      Move resolver i world .recheck .quiet world (.takeTicket now)
  | takeTicket (world now) : Move resolver i world (.takeTicket now) .quiet { world with refreshID := world.refreshID + 1 }
        (.listTenants (world.refreshID + 1) now)
  | listTenants (world refreshID now tenantIDs) : Move resolver i world (.listTenants refreshID now) .quiet world
        (.loading refreshID now (uniqueTenantIDs [] tenantIDs) ⟨fun _ => [], []⟩)
  | listFails (world refreshID now) : Move resolver i world (.listTenants refreshID now) .quiet world (.cachedScopes refreshID now)
  | initialized (world refreshID now) (known : (cachedScopesWithState world).2 = true) :
      Move resolver i world (.cachedScopes refreshID now) .quiet world (.commitAttempt refreshID now)
  | uninitialized (world refreshID now) (unknown : (cachedScopesWithState world).2 = false) :
      Move resolver i world (.cachedScopes refreshID now) .quiet world .unlockRefresh
  | attemptCommits (world : World I) (refreshID now) (newest : world.committedRefreshID < refreshID) :
      Move resolver i world (.commitAttempt refreshID now) (.committed refreshID) (commitRefreshAttempt refreshID now world) .unlockRefresh
  | attemptDropped (world : World I) (refreshID now) (older : refreshID ≤ world.committedRefreshID) :
      Move resolver i world (.commitAttempt refreshID now) .quiet world .unlockRefresh
  | defaultTenant (world refreshID now remaining gathered) :
      Move resolver i world (.loading refreshID now (resolver.defaultTenantID :: remaining) gathered) .quiet world
        (.loading refreshID now remaining (gathered.add resolver.defaultTenantID [⟨resolver.defaultTenantID, ""⟩]))
  | load (world refreshID now tenantID remaining gathered answer scopes) (other : tenantID ≠ resolver.defaultTenantID)
      (loaded : scopesForTenant resolver answer tenantID = some scopes) :
      Move resolver i world (.loading refreshID now (tenantID :: remaining) gathered) .quiet world
        (.loading refreshID now remaining (gathered.add tenantID scopes))
  | loadFails (world refreshID now tenantID remaining gathered answer) (other : tenantID ≠ resolver.defaultTenantID)
      (failed : scopesForTenant resolver answer tenantID = none) :
      Move resolver i world (.loading refreshID now (tenantID :: remaining) gathered) .quiet world
        (.cachedTenantScopes refreshID now tenantID remaining gathered)
  | cachedTenantScopes (world refreshID now tenantID remaining gathered) :
      Move resolver i world (.cachedTenantScopes refreshID now tenantID remaining gathered) .quiet world
        (.loading refreshID now remaining (gathered.add tenantID (world.topology tenantID)))
  | commits (world : World I) (refreshID now gathered) (newest : world.committedRefreshID < refreshID) :
      Move resolver i world (.loading refreshID now [] gathered) (.committed refreshID)
        (commitRefresh refreshID now gathered world) .unlockRefresh
  | dropped (world : World I) (refreshID now gathered) (older : refreshID ≤ world.committedRefreshID) :
      Move resolver i world (.loading refreshID now [] gathered) .quiet world .unlockRefresh
  | unlock (world) : Move resolver i world .unlockRefresh .quiet { world with refreshMu := none } .idle
  -- InvalidateTopology
  | invalidate (world) :
      Move resolver i world .idle .quiet { world with refreshID := world.refreshID + 1 } (.invalidating (world.refreshID + 1))
  | invalidates (world invalidationID) :
      Move resolver i world (.invalidating invalidationID) .quiet (invalidateTopology invalidationID world) (.invalidated invalidationID)
  | invalidated (world invalidationID) : Move resolver i world (.invalidated invalidationID) (.invalidated invalidationID) world .idle
  -- EvictTenant
  | evictBlank (world raw) (blank : trimSpace raw = "") :
      Move resolver i world .idle (.evicted "" 0 (world.clock + 1)) { world with clock := world.clock + 1 } .idle
  | evict (world raw) (filled : trimSpace raw ≠ "") : Move resolver i world .idle .quiet { world with refreshID := world.refreshID + 1 }
        (.evicting (trimSpace raw) (world.refreshID + 1))
  | evicts (world tenantID evictionID) :
      Move resolver i world (.evicting tenantID evictionID) .quiet (evictTenant tenantID evictionID world) (.evicted tenantID evictionID)
  | evicted (world tenantID evictionID) :
      Move resolver i world (.evicted tenantID evictionID) (.evicted tenantID evictionID (world.clock + 1))
        { world with clock := world.clock + 1 } .idle
  -- PoolForTenantDispatchScope
  | pool (world tenantID poolKey) : Move resolver i world .idle .quiet { world with clock := world.clock + 1 }
        (.checkScope ⟨trimSpace tenantID, trimSpace poolKey⟩ (world.clock + 1))
  | unavailable (world scope begun) (unrouted : ¬ Routed resolver scope world) :
      Move resolver i world (.checkScope scope begun) .quiet world .idle
  | available (world : World I) (scope : TenantDispatchScope) (begun : Nat) (routed : Routed resolver scope world) :
      Move resolver i world (.checkScope scope begun) .quiet world (.poolForTenant scope begun)
  | poolFails (world scope begun) : Move resolver i world (.poolForTenant scope begun) .quiet world .idle
  | resolved (world scope begun) : Move resolver i world (.poolForTenant scope begun) (.resolved scope begun) world .idle

abbrev State (I : Type) := Threads I (World I) Phase

def start : State I := ⟨⟨none, fun _ => [], [], 0, false, 0, 0, 0⟩, fun _ => .idle⟩

-- A refresh under way that can still commit and has the tenant, or can still come to it.
inductive Brings (tenantID : String) (committed : Nat) : Phase → Prop where
  | listTenants (refreshID now) (newest : committed < refreshID) (filled : tenantID ≠ "") :
      Brings tenantID committed (.listTenants refreshID now)
  | loading (refreshID now remaining) (gathered : Gathered) (newest : committed < refreshID)
      (has : tenantID ∈ remaining ∨ gathered.nextTopology tenantID ≠ []) :
      Brings tenantID committed (.loading refreshID now remaining gathered)
  | cachedTenantScopes (refreshID now other remaining) (gathered : Gathered) (newest : committed < refreshID)
      (has : tenantID ∈ remaining ∨ gathered.nextTopology tenantID ≠ []) :
      Brings tenantID committed (.cachedTenantScopes refreshID now other remaining gathered)

variable [DecidableEq I]

-- A later call is given a pool only behind the commit of a refresh begun after the eviction.
def FailClosed (resolver : ModulePoolResolver) (tenantID : String) (returned : Nat) (state : State I) : Prop := ∀ later last j scope begun,
    Run (Threads.Step (Move resolver)) state (later ++ [(j, .resolved scope begun)]) last → scope.tenantID = tenantID → returned < begun →
        ∃ k refreshID, (k, Label.committed refreshID) ∈ later ∧ state.world.refreshID < refreshID

-- The tickets of the evictions and invalidations that have returned.
def Ended (ticket : Nat) (labels : List (I × Label)) : Prop :=
  ∃ i, (i, Label.invalidated ticket) ∈ labels ∨ ∃ tenantID returned, (i, Label.evicted tenantID ticket returned) ∈ labels

-- Tickets are taken in the order in which refreshes, evictions and invalidations begin.
def NeverRevived (labels : List (I × Label)) : Prop :=
  ∀ front back j refreshID, labels = front ++ (j, .committed refreshID) :: back → ∀ ticket, Ended ticket front → ticket < refreshID

structure Exact (world : World I) : Prop where
  distinct : world.orderedScopes.Nodup
  scopes : ∀ scope, scope ∈ world.orderedScopes ↔ ∃ tenantID, scope ∈ world.topology tenantID

end LibCommons.Topology
