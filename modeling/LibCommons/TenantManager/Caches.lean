import LibCommons.Lib.Threads

namespace LibCommons.TenantCaches

-- Its text and the number of its fetch; one built from an event's payload was not fetched.
structure Config where
  body : String
  fetched : Option Nat
  deriving DecidableEq, Repr

structure Entry where
  config : Config
  expiresAt : Option Int
  deriving DecidableEq, Repr

def Entry.isExpired (now : Int) (entry : Entry) : Bool := entry.expiresAt.any fun moment => moment < now

-- The services and lifetimes; NewTenantLoader replaces a lifetime that is not positive.
structure Settings (S : Type) where
  loaderService : S
  dispatcherService : S
  clientTTL : Int
  loaderTTL : Int
  positive : 0 < loaderTTL

-- What the caches hold for one tenant, the loader's mutex, and the count of fetches and removals.
structure World (S I : Type) where
  now : Int
  tenant : Option Entry
  configs : S → Option Entry
  loadLock : Option I
  count : Nat

variable {S I : Type} [DecidableEq S]

def TenantCache.get (world : World S I) : Option Config := (world.tenant.filter fun entry => !entry.isExpired world.now).map Entry.config

def TenantCache.set (config : Config) (ttl : Int) (world : World S I) : World S I :=
  { world with tenant := some ⟨config, some (world.now + ttl)⟩ }

def TenantCache.delete (world : World S I) : World S I := { world with tenant := none }

def getCachedTenantConfig (service : S) (world : World S I) : Option Config :=
  ((world.configs service).filter fun entry => !entry.isExpired world.now).map Entry.config

-- The in-memory cache keeps an entry for good where the lifetime is not positive.
def cacheTenantConfig (settings : Settings S) (service : S) (config : Config) (world : World S I) : World S I :=
  let expiresAt := if 0 < settings.clientTTL then some (world.now + settings.clientTTL) else none
  { world with configs := Function.update world.configs service (some ⟨config, expiresAt⟩) }

def invalidateConfig (service : S) (world : World S I) : World S I := { world with configs := Function.update world.configs service none }

-- GetTenantConfig called by LoadTenant, which then holds the load lock, has load set.
inductive Phase (S : Type) where
  | idle
  | lockTenant
  | recheck
  | getTenantConfig (load : Bool) (service : S) (skipCache : Bool)
  | checkCircuitBreaker (load : Bool) (service : S)
  | fetching (load : Bool) (service : S) (fetch : Nat)
  | cacheTenantConfig (load : Bool) (service : S) (config : Config)
  | setTenant (config : Config)
  | unlockTenant
  | deleteTenant (removal : Nat)
  | invalidateClientCache (removal : Nat)
  | closeConnections (removal : Nat)

-- A configuration answered from one of the caches, and the return of a removal.
inductive Label where
  | quiet
  | answered (config : Config)
  | removed (removal : Nat)

-- How LoadTenant goes on with what GetTenantConfig gave it, and how it ends.
def Phase.given (load : Bool) (config : Config) : Phase S := if load = true then .setTenant config else .idle

def Phase.failed (load : Bool) : Phase S := if load = true then .unlockTenant else .idle

variable (settings : Settings S)

inductive Move (i : I) : World S I → Phase S → Label → World S I → Phase S → Prop where
  -- time, and the expired entries that Get, TenantIDs and the cleanup loop drop
  | tick (world : World S I) (phase now) (later : world.now ≤ now) : Move i world phase .quiet { world with now := now } phase
  | evictTenant (world : World S I) (phase) (entry : Entry) (held : world.tenant = some entry)
      (expired : entry.isExpired world.now = true) : Move i world phase .quiet (TenantCache.delete world) phase
  | evictConfig (world : World S I) (phase service) (entry : Entry) (held : world.configs service = some entry)
      (expired : entry.isExpired world.now = true) :
      Move i world phase .quiet (invalidateConfig service world) phase
  -- TenantCache.Get and Set
  | get (world config) (hit : TenantCache.get world = some config) : Move i world .idle (.answered config) world .idle
  | getMiss (world) (miss : TenantCache.get world = none) : Move i world .idle .quiet world .idle
  | set (world) (config : Config) (ttl) (built : config.fetched = none) : Move i world .idle .quiet (TenantCache.set config ttl world) .idle
  -- LoadTenant
  | loadTenant (world) : Move i world .idle .quiet world .lockTenant
  | lock (world : World S I) (free : world.loadLock = none) : Move i world .lockTenant .quiet { world with loadLock := some i } .recheck
  | recheckHit (world config) (hit : TenantCache.get world = some config) : Move i world .recheck (.answered config) world .unlockTenant
  | recheckMiss (world) (miss : TenantCache.get world = none) :
      Move i world .recheck .quiet world (.getTenantConfig true settings.loaderService false)
  | store (world config) : Move i world (.setTenant config) .quiet (TenantCache.set config settings.loaderTTL world) .unlockTenant
  | unlock (world) : Move i world .unlockTenant .quiet { world with loadLock := none } .idle
  -- GetTenantConfig
  | getTenantConfig (world service skipCache) : Move i world .idle .quiet world (.getTenantConfig false service skipCache)
  | cacheHit (world load service config) (hit : getCachedTenantConfig service world = some config) :
      Move i world (.getTenantConfig load service false) (.answered config) world (.given load config)
  | cacheMiss (world load service skipCache) (miss : skipCache = true ∨ getCachedTenantConfig service world = none) :
      Move i world (.getTenantConfig load service skipCache) .quiet world (.checkCircuitBreaker load service)
  | refused (world load service) : Move i world (.checkCircuitBreaker load service) .quiet world (.failed load)
  | send (world load service) : Move i world (.checkCircuitBreaker load service) .quiet { world with count := world.count + 1 }
        (.fetching load service world.count)
  | fails (world load service fetch) : Move i world (.fetching load service fetch) .quiet world (.failed load)
  | arrives (world load service fetch body) :
      Move i world (.fetching load service fetch) .quiet world (.cacheTenantConfig load service ⟨body, some fetch⟩)
  | cache (world load service config) :
      Move i world (.cacheTenantConfig load service config) .quiet (cacheTenantConfig settings service config world) (.given load config)
  -- removeTenant
  | removeTenant (world) : Move i world .idle .quiet { world with count := world.count + 1 } (.deleteTenant world.count)
  | delete (world removal) : Move i world (.deleteTenant removal) .quiet (TenantCache.delete world) (.invalidateClientCache removal)
  | invalidate (world removal) : Move i world (.invalidateClientCache removal) .quiet (invalidateConfig settings.dispatcherService world)
        (.closeConnections removal)
  | removed (world removal) : Move i world (.closeConnections removal) (.removed removal) world .idle

abbrev State (S I : Type) := Threads I (World S I) (Phase S)

def start : State S I := ⟨⟨0, none, fun _ => none, none, 0⟩, fun _ => .idle⟩

-- Fetched before a removal began.
def Stale (removal : Nat) (config : Config) : Prop := ∃ fetch, config.fetched = some fetch ∧ fetch < removal

inductive Carries (removal : Nat) : Phase S → Prop where
  | fetching (load service fetch) (before : fetch < removal) : Carries removal (.fetching load service fetch)
  | cacheTenantConfig (load : Bool) (service : S) (config : Config) (stale : Stale removal config) :
      Carries removal (.cacheTenantConfig load service config)
  | setTenant (config : Config) (stale : Stale removal config) : Carries removal (.setTenant config)

structure Clean (removal : Nat) (world : World S I) : Prop where
  tenant : ∀ config, TenantCache.get world = some config → ¬ Stale removal config
  configs : ∀ service config, getCachedTenantConfig service world = some config → ¬ Stale removal config

end LibCommons.TenantCaches
