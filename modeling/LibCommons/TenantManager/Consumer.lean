import LibCommons.Lib.Threads

namespace LibCommons.MultiTenantConsumer

open Function (update)

-- Its tenant, the context its own was derived from, and whether it was cancelled.
structure Consumer (T C : Type) where
  tenant : T
  ctx : C
  cancelled : Bool

-- Cancel functions and mutexes are numbered; closedAt is what Close found started.
structure World (T C I : Type) where
  tenants : T → Option Nat
  knownTenants : T → Bool
  closed : Bool
  parentCtx : Option C
  consumerLocks : T → Option Nat
  mutexes : Nat
  holder : Nat → Option I
  consumers : Nat → Option (Consumer T C)
  count : Nat
  done : C → Bool
  closedAt : Option Nat

variable {T C I : Type} [DecidableEq T] [DecidableEq C]

def cancel (consumer : Nat) (world : World T C I) : World T C I :=
  let ended := (world.consumers consumer).map fun entry => { entry with cancelled := true }
  { world with consumers := update world.consumers consumer ended }

def startTenantConsumer (parentCtx : C) (tenantID : T) (world : World T C I) : World T C I :=
  { world with tenants := update world.tenants tenantID (some world.count)
               consumers := update world.consumers world.count (some ⟨tenantID, parentCtx, false⟩)
               count := world.count + 1 }

-- The critical section of StopConsumer, which is also that of the removal callback.
def dropTenant (tenantID : T) (world : World T C I) : World T C I :=
  let stopped := (world.tenants tenantID).elim world fun consumer => cancel consumer world
  { stopped with tenants := update world.tenants tenantID none
                 knownTenants := update world.knownTenants tenantID false }

-- Every cancel function of the map is called; each stands there under its own consumer's tenant.
def close (world : World T C I) : World T C I :=
  { world with closed := true
               consumers := fun n => (world.consumers n).map fun entry =>
                 if world.tenants entry.tenant = some n then { entry with cancelled := true } else entry
               tenants := fun _ => none
               knownTenants := fun _ => false
               closedAt := some world.count }

-- LoadOrStore of the tenant's mutex.
def loadOrStore (tenantID : T) (world : World T C I) : Nat × World T C I :=
  match world.consumerLocks tenantID with
  | some tenantMu => (tenantMu, world)
  | none =>
    (world.mutexes, { world with consumerLocks := update world.consumerLocks tenantID (some world.mutexes)
                                 mutexes := world.mutexes + 1 })

def lock (tenantMu : Nat) (i : I) (world : World T C I) : World T C I := { world with holder := update world.holder tenantMu (some i) }

def unlock (tenantMu : Nat) (world : World T C I) : World T C I := { world with holder := update world.holder tenantMu none }

-- A call past its double check keeps how many consumers had been started by then.
inductive Phase (T C : Type) where
  | idle
  | ensureConsumerStarted (ctx : C) (tenantID : T)
  | loadTenant (ctx : C) (tenantID : T) (known : Bool)
  | markKnown (ctx : C) (tenantID : T)
  | slowPath (ctx : C) (tenantID : T)
  | lockTenant (ctx : C) (tenantID : T) (tenantMu : Nat)
  | doubleCheck (ctx : C) (tenantID : T) (tenantMu : Nat)
  | readParent (ctx : C) (tenantID : T) (tenantMu : Nat) (seen : Nat)
  | startConsumer (startCtx : C) (tenantID : T) (tenantMu : Nat) (seen : Nat)
  | unlockTenant (tenantMu : Nat)
  | lockStop (tenantID : T) (tenantMu : Nat)
  | stopConsumer (tenantID : T) (tenantMu : Nat)
  | unlockStop (tenantID : T) (tenantMu : Nat)
  | deleteLock (tenantID : T)
  | closeClient

inductive Label (T : Type) where
  | quiet
  | started (tenantID : T) (consumer : Nat) (seen : Nat)

-- Whether WithRabbitMQ was given is the parameter; without it no consumer is started.
inductive Move (rabbitmq : Bool) (i : I) : World T C I → Phase T C → Label T → World T C I → Phase T C → Prop where
  | contextDone (world phase ctx) : Move rabbitmq i world phase .quiet { world with done := update world.done ctx true } phase
  | run (world ctx) : Move rabbitmq i world .idle .quiet { world with parentCtx := some ctx } .idle
  -- the callbacks of the loader and of the dispatcher
  | onTenantLoaded (world tenantID) :
      Move rabbitmq i world .idle .quiet { world with knownTenants := update world.knownTenants tenantID true } .idle
  | onTenantAdded (world ctx tenantID) :
      Move rabbitmq i world .idle .quiet { world with knownTenants := update world.knownTenants tenantID true }
        (.ensureConsumerStarted ctx tenantID)
  | onTenantRemoved (world tenantID) : Move rabbitmq i world .idle .quiet (dropTenant tenantID world) .idle
  -- EnsureConsumerStarted
  | ensure (world ctx tenantID) : Move rabbitmq i world .idle .quiet world (.ensureConsumerStarted ctx tenantID)
  | fastReturn (world : World T C I) (ctx tenantID) (settled : world.tenants tenantID ≠ none ∨ world.closed = true) :
      Move rabbitmq i world (.ensureConsumerStarted ctx tenantID) .quiet world .idle
  | fresh (world : World T C I) (ctx tenantID) (missing : world.tenants tenantID = none) (opened : world.closed = false)
      (known : world.knownTenants tenantID = true) :
      Move rabbitmq i world (.ensureConsumerStarted ctx tenantID) .quiet world (.slowPath ctx tenantID)
  | load (world : World T C I) (ctx tenantID) (missing : world.tenants tenantID = none) (opened : world.closed = false) :
      Move rabbitmq i world (.ensureConsumerStarted ctx tenantID) .quiet world (.loadTenant ctx tenantID (world.knownTenants tenantID))
  | reloaded (world ctx tenantID) : Move rabbitmq i world (.loadTenant ctx tenantID true) .quiet world (.slowPath ctx tenantID)
  | loadFails (world ctx tenantID) : Move rabbitmq i world (.loadTenant ctx tenantID false) .quiet world .idle
  | loaded (world ctx tenantID) : Move rabbitmq i world (.loadTenant ctx tenantID false) .quiet world (.markKnown ctx tenantID)
  | markKnown (world ctx tenantID) : Move rabbitmq i world (.markKnown ctx tenantID) .quiet
        { world with knownTenants := update world.knownTenants tenantID true } (.slowPath ctx tenantID)
  | httpOnly (world ctx tenantID) (without : rabbitmq = false) : Move rabbitmq i world (.slowPath ctx tenantID) .quiet world .idle
  | loadOrStore (world ctx tenantID) (configured : rabbitmq = true) :
      Move rabbitmq i world (.slowPath ctx tenantID) .quiet (loadOrStore tenantID world).2
        (.lockTenant ctx tenantID (loadOrStore tenantID world).1)
  | lockTenant (world : World T C I) (ctx tenantID tenantMu) (free : world.holder tenantMu = none) :
      Move rabbitmq i world (.lockTenant ctx tenantID tenantMu) .quiet (lock tenantMu i world) (.doubleCheck ctx tenantID tenantMu)
  | checkedOut (world : World T C I) (ctx tenantID tenantMu) (settled : world.tenants tenantID ≠ none ∨ world.closed = true) :
      Move rabbitmq i world (.doubleCheck ctx tenantID tenantMu) .quiet world (.unlockTenant tenantMu)
  | checked (world : World T C I) (ctx tenantID tenantMu) (missing : world.tenants tenantID = none) (opened : world.closed = false) :
      Move rabbitmq i world (.doubleCheck ctx tenantID tenantMu) .quiet world (.readParent ctx tenantID tenantMu world.count)
  | readParent (world ctx tenantID tenantMu seen) : Move rabbitmq i world (.readParent ctx tenantID tenantMu seen) .quiet world
        (.startConsumer (world.parentCtx.getD ctx) tenantID tenantMu seen)
  | start (world startCtx tenantID tenantMu seen) :
      Move rabbitmq i world (.startConsumer startCtx tenantID tenantMu seen) (.started tenantID world.count seen)
        (startTenantConsumer startCtx tenantID world) (.unlockTenant tenantMu)
  | unlockTenant (world tenantMu) : Move rabbitmq i world (.unlockTenant tenantMu) .quiet (unlock tenantMu world) .idle
  -- StopConsumer
  | stop (world tenantID) :
      Move rabbitmq i world .idle .quiet (loadOrStore tenantID world).2 (.lockStop tenantID (loadOrStore tenantID world).1)
  | lockStop (world : World T C I) (tenantID tenantMu) (free : world.holder tenantMu = none) :
      Move rabbitmq i world (.lockStop tenantID tenantMu) .quiet (lock tenantMu i world) (.stopConsumer tenantID tenantMu)
  | stopConsumer (world tenantID tenantMu) :
      Move rabbitmq i world (.stopConsumer tenantID tenantMu) .quiet (dropTenant tenantID world) (.unlockStop tenantID tenantMu)
  | unlockStop (world tenantID tenantMu) :
      Move rabbitmq i world (.unlockStop tenantID tenantMu) .quiet (unlock tenantMu world) (.deleteLock tenantID)
  | deleteLock (world tenantID) : Move rabbitmq i world (.deleteLock tenantID) .quiet
        { world with consumerLocks := update world.consumerLocks tenantID none } .idle
  -- Close
  | close (world) : Move rabbitmq i world .idle .quiet (close world) .closeClient
  | closed (world) : Move rabbitmq i world .closeClient .quiet world .idle

abbrev State (T C I : Type) := Threads I (World T C I) (Phase T C)

def start : State T C I :=
  ⟨⟨fun _ => none, fun _ => false, false, none, fun _ => none, 0, fun _ => none, fun _ => none, 0, fun _ => false, none⟩, fun _ => .idle⟩

def Live (tenantID : T) (consumer : Nat) (world : World T C I) : Prop :=
  ∃ ctx, world.consumers consumer = some ⟨tenantID, ctx, false⟩ ∧ world.done ctx = false

structure Single (world : World T C I) : Prop where
  one : ∀ tenantID first second, Live tenantID first world → Live tenantID second world → first = second
  stored : ∀ tenantID consumer, Live tenantID consumer world → world.tenants tenantID = some consumer

def Quiet (state : State T C I) : Prop := state.world.closed = true ∧ ∀ i, state.phase i = .idle

def Kept (state : State T C I) : Prop := Single state.world ∧ (Quiet state → ∀ tenantID consumer, ¬ Live tenantID consumer state.world)

-- Those started between a call's double check and its own start are cancelled by then.
def Unrivalled (label : Label T) (world : World T C I) : Prop := ∀ tenantID consumer seen, label = .started tenantID consumer seen →
    ∀ other, seen ≤ other → other < consumer → ¬ Live tenantID other world

-- What was started behind the critical section of Close is cancelled by the time the calls have ended.
def Ended (state : State T C I) : Prop := Quiet state → ∀ found, state.world.closedAt = some found →
    ∀ tenantID consumer, found ≤ consumer → ¬ Live tenantID consumer state.world

end LibCommons.MultiTenantConsumer
