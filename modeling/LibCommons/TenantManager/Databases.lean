import LibCommons.TenantManager.Mongo

namespace LibCommons.TenantMongo

open Option

open Connections hiding Step

open List Threads
variable {T I : Type} [DecidableEq T]

-- GetDatabaseForTenant is called as well, and Close is not.
def databases : Calls := ⟨false, true⟩

section

def Stage.call : Stage T → Option Nat
  | .getConnection _ call | .healthGate _ _ call | .runHealthCheck _ _ call | .touchCachedConnection _ _ call
  | .spawn _ _ call | .createConnection _ call | .tryReuseCachedConnection _ _ call | .reuseHealthyConnection _ _ call => call
  | .fetchName _ _ call | .nameDatabase _ _ call _ => some call

def callOf : Phase T MongoConfig (Stage T) → Option Nat
  | .fetchNew _ call | .fetching _ _ call | .connecting _ _ _ call | .caching _ _ _ _ call | .got _ _ call => call
  | .closing _ after => callOf after
  | .front stage => stage.call
  | _ => none

def Stage.known (count : Nat) : Stage T → Prop
  | .healthGate _ conn _ | .runHealthCheck _ conn _ | .touchCachedConnection _ conn _ | .spawn _ conn _
  | .tryReuseCachedConnection _ conn _ | .reuseHealthyConnection _ conn _ | .fetchName _ conn _
  | .nameDatabase _ conn _ _ => conn < count
  | .getConnection _ _ | .createConnection _ _ => True

def Known (count : Nat) : Phase T MongoConfig (Stage T) → Prop
  | .caching _ conn _ _ _ | .got _ conn _ | .canStore _ conn _ _ | .swap _ conn _ _ => conn < count
  | .closing _ after => Known count after
  | .front stage => stage.known count
  | _ => True

variable {phase : Phase T MongoConfig (Stage T)}

omit [DecidableEq T] in
theorem known_mono {count more} (within : count ≤ more) (known : Known count phase) : Known more phase := by
  induction phase with
  | closing _ _ ih => exact ih known
  | front stage => cases stage <;> first | trivial | exact lt_of_lt_of_le known within
  | caching | got | canStore | swap => exact lt_of_lt_of_le known within
  | _ => trivial

structure Counted (world : World T MongoConfig String) : Prop where
  opened : world.closed = false
  held : ∀ tenantID conn, world.connections.lookup tenantID = some conn → conn < world.conns.length

variable {settings : Settings} {i : I} {world next : World T MongoConfig String} {after : Phase T MongoConfig (Stage T)}
  {label : Label T String}

theorem core_conns (moves : Core databases mongo settings i world phase label next after) : world.conns <+: next.conns := by
  cases moves with
  | connects | reconnects => exact prefix_append _ _
  | cacheInstalls _ _ _ _ _ order now =>
    exact (evict_conns settings order now world).symm ▸ prefix_rfl
  | _ => exact prefix_rfl

theorem move_conns (moves : Move databases settings i world phase label next after) : world.conns <+: next.conns := by
  cases moves with
  | core moves => exact core_conns moves
  | _ => exact prefix_rfl

theorem counted_delete (tenantID : T) (counted : Counted world) : Counted (delete tenantID world) :=
  ⟨counted.opened, fun other conn held => counted.held other conn (delete_lookup world tenantID other conn held)⟩

theorem counted_evict (settings : Settings) (order : List (Sigma fun _ : T => Int)) (now : Int) (counted : Counted world) :
    Counted (evictLRU settings order now world) := by
  refine ⟨(evict_frame settings order now world).2.2.trans counted.opened, ?_⟩
  intro tenantID conn held
  rw [evict_conns settings order now world]
  exact counted.held tenantID conn (evict_lookup held)

theorem counted_install (tenantID : T) {conn} (config : MongoConfig) (fetch : Nat) (now : Int)
    (known : conn < world.conns.length) (counted : Counted world) :
    Counted (install mongo tenantID conn config fetch now world) := by
  refine ⟨counted.opened, ?_⟩
  intro other found held
  by_cases same : other = tenantID
  · subst same
    rw [install, AList.lookup_insert] at held
    cases held
    exact known
  · rw [lookup_install mongo world conn config fetch now same] at held
    exact counted.held other found held

theorem counted_open (config : MongoConfig) (counted : Counted world) : Counted (openConn config world) := by
  refine ⟨counted.opened, ?_⟩
  intro tenantID conn held
  exact lt_of_lt_of_le (counted.held tenantID conn held) (prefix_append world.conns [config]).length_le

theorem core_counted (counted : Counted world) (known : Known world.conns.length phase)
    (moves : Core databases mongo settings i world phase label next after) : Counted next := by
  cases moves with
  | connects tenantID config | reconnects tenantID config => exact counted_open config counted
  | cacheClosed _ _ _ _ _ closed => cases counted.opened.symm.trans closed
  | cacheInstalls tenantID _ config fetch _ order now =>
    have evicted := counted_evict settings order now counted
    exact counted_install tenantID config fetch now ((evict_conns settings order now world).symm ▸ known) evicted
  | swap tenantID _ config fetch now =>
    have installed := counted_install tenantID config fetch now known counted
    exact ⟨installed.opened, installed.held⟩
  | closeHeld tenantID => exact counted_delete tenantID counted
  | close allowed => cases allowed
  | _ => exact ⟨counted.opened, counted.held⟩

theorem core_known (counted : Counted world) (known : Known world.conns.length phase)
    (moves : Core databases mongo settings i world phase label next after) : Known next.conns.length after := by
  have newest : ∀ config : MongoConfig, world.conns.length < (openConn config world).conns.length := by
    intro config
    simp [openConn]
  cases moves with
  | connects tenantID config | reconnects tenantID config => exact newest config
  | cacheExcess tenantID _ _ _ _ other _ _ held =>
    exact counted.held tenantID other (cached_held held)
  | cacheInstalls _ _ _ _ _ order now =>
    exact (evict_conns settings order now world).symm ▸ known
  | canStore | closing => exact known
  | swap tenantID => cases world.connections.lookup tenantID <;> trivial
  | closeReturns _ _ revalidating => cases revalidating <;> trivial
  | _ => trivial

theorem move_counted (counted : Counted world) (known : Known world.conns.length phase)
    (moves : Move databases settings i world phase label next after) : Counted next ∧ Known next.conns.length after := by
  cases moves with
  | core moves =>
    exact ⟨core_counted counted known moves, core_known counted known moves⟩
  | cached tenantID conn call opened held | snapshot tenantID conn call opened held =>
    exact ⟨counted, counted.held tenantID conn held⟩
  | unhealthy tenantID | pingFails tenantID => exact ⟨counted_delete tenantID counted, trivial⟩
  | run | skip | healthy | ping | nameMissing | nameArrives => exact ⟨counted, known⟩
  | touch | touchDue | spawn | reuse => exact ⟨⟨counted.opened, counted.held⟩, known⟩
  | _ => exact ⟨⟨counted.opened, counted.held⟩, trivial⟩

theorem core_call (moves : Core databases mongo settings i world phase label next after) : callOf after = none ∨ callOf after = callOf phase := by
  cases moves with
  | sendNew | newArrives | connects | cacheExcess | cacheInstalls | closing => exact .inr rfl
  | swap tenantID => cases world.connections.lookup tenantID <;> exact .inl rfl
  | closeReturns _ _ revalidating => cases revalidating <;> exact .inl rfl
  | _ => exact .inl rfl

theorem move_call (moves : Move databases settings i world phase label next after) :
    callOf after = none ∨ callOf after = callOf phase ∨ callOf after = some (world.clock + 1) ∧ next.clock = world.clock + 1 := by
  cases moves with
  | core moves => exact (core_call moves).imp_right .inl
  | getDatabaseForTenant => exact .inr (.inr ⟨rfl, rfl⟩)
  | call | closed | awaitFails | callerAbandoned | snapshotClosed | pingAbandoned | name | nameFails | nameDatabase =>
    exact .inl rfl
  | _ => exact .inr (.inl rfl)

structure Numbered (world : World T MongoConfig String) (phase : Phase T MongoConfig (Stage T)) : Prop where
  known : Known world.conns.length phase
  call : ∀ call, callOf phase = some call → call ≤ world.clock

theorem numbered_keeps (settings : Settings) :
    Keeps (Move (T := T) (I := I) databases settings) Counted (fun _ world phase => Numbered world phase) := by
  have clock : ∀ i world phase label next after, Move (T := T) (I := I) databases settings i world phase label next after →
      world.clock ≤ next.clock := by
    intro i world phase label next after moves
    exact (step_grows (move_refines databases settings i world phase label next after moves)).clock
  refine ⟨?_, ?_⟩
  · intro i world phase label next after counted numbered moves
    obtain ⟨still, known⟩ := move_counted counted numbered.known moves
    refine ⟨still, known, ?_⟩
    intro call mine
    obtain none | same | ⟨fresh, ticked⟩ := move_call moves
    · cases none.symm.trans mine
    · exact le_trans (numbered.call call (same ▸ mine)) (clock i world phase label next after moves)
    · rw [ticked]
      exact le_of_eq (some.inj (mine.symm.trans fresh))
  · intro i _ world phase _ label next after _ _ _ numbered moves
    refine ⟨?_, ?_⟩
    · exact known_mono (move_conns moves).length_le numbered.known
    · intro call mine
      exact le_trans (numbered.call call mine) (clock i world phase label next after moves)

end

variable [DecidableEq I]

-- The handle, if the call gives one, has the name of its client's configuration.
def Coherent (settings : Settings) (i : I) (call : Nat) (state : Clients T I) : Prop :=
  ∀ labels last, Run (Step (Move databases settings)) state labels last → ∀ conn database, (i, .handle call conn database) ∈ labels →
      (last.world.conns[conn]?).map MongoConfig.database = some database

-- GetDatabaseForTenant has its client.
inductive AtHand (tenantID : T) (conn call : Nat) : Phase T MongoConfig (Stage T) → Prop where
  | got : AtHand tenantID conn call (.got tenantID conn (some call))
  | fetchName : AtHand tenantID conn call (.front (.fetchName tenantID conn call))
  | nameDatabase (database : String) : AtHand tenantID conn call (.front (.nameDatabase tenantID conn call database))

variable {tenantID : T} {conn call : Nat} {phase : Phase T MongoConfig (Stage T)}

omit [DecidableEq T] [DecidableEq I] in
theorem at_hand_known {count} (hand : AtHand tenantID conn call phase) (known : Known count phase) : conn < count := by
  cases hand <;> exact known

omit [DecidableEq T] [DecidableEq I] in
theorem at_hand_call (hand : AtHand tenantID conn call phase) : callOf phase = some call := by
  cases hand <;> rfl

variable {settings : Settings} {state : Clients T I}

theorem run_conns {last} {labels} (run : Run (Step (Move databases settings)) state labels last) : state.world.conns <+: last.world.conns := by
  refine Run.invariant (fun later => state.world.conns <+: later.world.conns) ?_ state last labels run prefix_rfl
  intro _ _ _ reached step
  cases step with
  | move _ _ _ _ moves => exact reached.trans (move_conns moves)

variable {config : MongoConfig}

theorem config_kept {before after} (within : before <+: after) (known : before[conn]? = some config) : after[conn]? = some config := by
  obtain ⟨_, rfl⟩ := within
  exact (getElem?_append_left (List.getElem?_eq_some_iff.mp known).1).trans known

variable {i : I} {world next : World T MongoConfig String} {after : Phase T MongoConfig (Stage T)} {database : String}

omit [DecidableEq I] in
theorem handle_phase (moves : Move databases settings i world phase (.handle call conn database) next after) :
    ∃ tenantID, phase = .got tenantID conn (some call) ∨ phase = .front (.nameDatabase tenantID conn call database) := by
  cases moves with
  | core moves => cases moves
  | name tenantID => exact ⟨tenantID, .inl rfl⟩
  | nameDatabase tenantID => exact ⟨tenantID, .inr rfl⟩

omit [DecidableEq I] in
theorem named_ends {label} (moves : Move databases settings i world (.front (.nameDatabase tenantID conn call database)) label next after) :
    after = .idle := by
  cases moves with
  | core moves => cases moves
  | nameDatabase => rfl

def Settled (i : I) (tenantID : T) (conn call : Nat) (database : String) (j : I) (phase : Phase T MongoConfig (Stage T)) : Prop :=
  j = i → phase = .front (.nameDatabase tenantID conn call database) ∨ callOf phase ≠ some call

variable (settings : Settings)

omit [DecidableEq I] in
theorem settled_keeps (i : I) (tenantID : T) (conn call : Nat) (database : String) :
    Keeps (Move (T := T) databases settings) (fun world => call ≤ world.clock) (fun j _ phase => Settled i tenantID conn call database j phase) := by
  refine ⟨?_, ?_⟩
  · intro j world phase label next after clock settled moves
    have grows := step_grows (move_refines databases settings j world phase label next after moves)
    refine ⟨le_trans clock grows.clock, ?_⟩
    intro mine
    cases settled mine with
    | inl named =>
      subst named
      rw [named_ends moves]
      exact .inr (by rintro ⟨⟩)
    | inr elsewhere =>
      refine .inr ?_
      intro back
      obtain none | same | ⟨fresh, _⟩ := move_call moves
      · cases none.symm.trans back
      · exact elsewhere (same ▸ back)
      · have equal := some.inj (fresh.symm.trans back)
        omega
  · intro _ _ _ _ _ _ _ _ _ _ _ settled _
    exact settled

theorem settled_coherent (clock : call ≤ state.world.clock) (known : state.world.conns[conn]? = some config)
    (named : state.phase i = .front (.nameDatabase tenantID conn call config.database)) : Coherent settings i call state := by
  intro labels last run other database member
  have settled : Good (fun world : World T MongoConfig String => call ≤ world.clock)
      (fun j _ phase => Settled i tenantID conn call config.database j phase) state := by
    refine ⟨clock, ?_⟩
    intro j mine
    subst mine
    exact .inl named
  have fine := good_labels (settled_keeps settings i tenantID conn call config.database)
    (fun j label => j = i → label = .handle call other database → other = conn ∧ database = config.database) ?_ state last labels
    run settled i _ member rfl rfl
  · rw [fine.1, fine.2, config_kept (run_conns run) known]
    rfl
  intro _ _ _ _ _ _ _ settled moves mine same
  subst same
  obtain ⟨_, got | found⟩ := handle_phase moves
  · cases settled mine with
    | inl named => cases named.symm.trans got
    | inr elsewhere => exact absurd (congrArg callOf got) elsewhere
  cases settled mine with
  | inl named =>
    cases named.symm.trans found
    exact ⟨rfl, rfl⟩
  | inr elsewhere => exact absurd (congrArg callOf found) elsewhere

theorem renamed (name : String) : name ++ "x" ≠ name := by simp

theorem fetch_name_mixed (known : state.world.conns[conn]? = some config)
    (fetching : state.phase i = .front (.fetchName tenantID conn call)) : ¬ Coherent settings i call state := by
  intro coherent
  have walk : Walk (Move databases settings) i state.world (state.phase i) [.quiet, .handle call conn (config.database ++ "x")]
      { state.world with companion := state.world.companion.insert tenantID (config.database ++ "x") } .idle := by
    rw [fetching]
    exact .move _ _ _ _ _ _ _ _ (.nameArrives _ tenantID conn call _) (.move _ _ _ _ _ _ _ _ (.nameDatabase _ tenantID conn call _ rfl) (.stay _ _))
  obtain ⟨last, run, same, _⟩ := walk_reaches walk
  have paired := coherent _ last run conn (config.database ++ "x") (by simp)
  rw [same] at paired
  simp only [known, Option.map_some, some.injEq] at paired
  exact renamed config.database paired.symm

theorem got_mixed {spare} (opened : state.world.closed = false) (known : state.world.conns[conn]? = some config)
    (idle : state.phase spare = .idle) (got : state.phase i = .got tenantID conn (some call)) :
    ¬ Coherent settings i call state := by
  intro coherent
  have apart : i ≠ spare := by
    intro same
    cases (same ▸ got).symm.trans idle
  obtain ⟨_, next, _, walk, serves⟩ :=
    reinstalls (move_extends databases settings) (move_enters databases settings) spare tenantID { config with database := config.database ++ "x" } opened
  obtain ⟨middle, run, same, _, others⟩ := walk_reaches (idle.symm ▸ walk)
  have reads : Walk (Move databases settings) i middle.world (middle.phase i) [.handle call conn (config.database ++ "x")] middle.world .idle := by
    rw [others i apart, got, same]
    exact .move _ _ _ _ _ _ _ _ (.name next tenantID conn call _ serves.companion) (.stay _ _)
  obtain ⟨last, later, still, _⟩ := walk_reaches reads
  have paired := coherent _ last (run.append later) conn (config.database ++ "x") (mem_append_right _ (by simp))
  rw [still, config_kept (run_conns run) known] at paired
  exact renamed config.database (some.inj paired).symm

end LibCommons.TenantMongo
