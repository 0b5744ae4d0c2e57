import LibCommons.TenantManager.Accounts

namespace LibCommons.Connections

open List Option Function Threads

variable {T C N F I : Type} [DecidableEq T]

section

structure Grows (world next : World T C N) : Prop where
  clock : world.clock ≤ next.clock
  newest : ∀ tenantID, world.newest tenantID ≤ next.newest tenantID
  closed : next.closed = false → world.closed = false

omit [DecidableEq T] in
theorem grows_same (world next : World T C N) (clock : world.clock ≤ next.clock) (newest : next.newest = world.newest)
    (closed : next.closed = world.closed) : Grows world next :=
  ⟨clock, fun tenantID => le_of_eq (congrFun newest tenantID).symm, fun opened => closed ▸ opened⟩

theorem grows_install (driver : Driver C N) (world : World T C N) (tenantID : T) (conn : Nat) (config : C) (fetch : Nat)
    (now : Int) : Grows world (install driver tenantID conn config fetch now world) := by
  refine ⟨le_refl _, ?_, id⟩
  intro other
  by_cases same : other = tenantID
  · simp [install, same]
  · simp [install, same]

theorem evict_frame (settings : Settings) (order : List (Sigma fun _ : T => Int)) (now : Int) (world : World T C N) :
    (evictLRU settings order now world).clock = world.clock ∧ (evictLRU settings order now world).newest = world.newest ∧
      (evictLRU settings order now world).closed = world.closed := by
  cases evict_cases settings order now world with
  | inl same =>
    rw [same]
    exact ⟨rfl, rfl, rfl⟩
  | inr evicted =>
    obtain ⟨_, _, _, same⟩ := evicted
    rw [same]
    exact ⟨rfl, rfl, rfl⟩

omit [DecidableEq T] in
theorem discard_frame (inside : Bool) (conn : Nat) (world : World T C N) :
    (discard inside conn world).clock = world.clock ∧ (discard inside conn world).newest = world.newest ∧
      (discard inside conn world).closed = world.closed ∧ (discard inside conn world).connections = world.connections := by
  cases inside <;> exact ⟨rfl, rfl, rfl, rfl⟩

variable {calls : Calls} {driver : Driver C N} {settings : Settings} {i : I} {world next : World T C N}
  {phase after : Phase T C F} {label : Label T N}

theorem core_grows (moves : Core calls driver settings i world phase label next after) : Grows world next := by
  have discards : ∀ (inside : Bool) (conn : Nat) (middle : World T C N), middle.clock = world.clock →
      middle.newest = world.newest → middle.closed = world.closed → Grows world (discard inside conn middle) := by
    intro inside conn middle clock newest closed
    obtain ⟨first, second, third, _⟩ := discard_frame inside conn middle
    exact grows_same world _ (le_of_eq (first.trans clock).symm) (second.trans newest) (third.trans closed)
  cases moves with
  | sendNew | resend | suspended | closeConnection => exact grows_same world _ (Nat.le_succ _) rfl rfl
  | cacheClosed _ conn => exact discards _ conn world rfl rfl rfl
  | cacheExcess tenantID conn | closeHeld tenantID stamp revalidating conn => exact discards _ conn _ rfl rfl rfl
  | cacheInstalls tenantID conn config fetch _ order now opened =>
    obtain ⟨clock, newest, closed⟩ := evict_frame settings order now world
    have grown := grows_install driver (evictLRU settings order now world) tenantID conn config fetch now
    exact ⟨clock ▸ grown.clock, newest ▸ grown.newest, fun opened => closed ▸ grown.closed opened⟩
  | swap tenantID conn config fetch now =>
    have grown := grows_install driver world tenantID conn config fetch now
    exact ⟨grown.clock, grown.newest, grown.closed⟩
  | close => exact ⟨le_refl _, fun _ => le_refl _, fun opened => by cases opened⟩
  | _ => exact grows_same world _ (le_refl _) rfl rfl

theorem front_grows (moves : Front calls world phase label next after) : Grows world next := by
  cases moves with
  | begins => exact grows_same world _ (Nat.le_succ _) rfl rfl
  | _ => exact grows_same world _ (le_refl _) rfl rfl

theorem step_grows (moves : Step calls driver settings i world phase label next after) : Grows world next := moves.elim (core_grows) (front_grows)

theorem front_shape (moves : Front calls world phase label next after) :
    after = phase ∨ Calm after ∨ ∃ conn rest, Calm rest ∧ after = .closing conn rest := by
  cases moves with
  | dies => exact .inl rfl
  | removes after tenantID conn calm onward | closes after conn calm onward => exact .inr (.inr ⟨conn, after, onward, rfl⟩)
  | pass _ calm onward | begins _ calm onward | touches _ tenantID now calm onward
  | plans _ checked count spawned calm onward | touchesDue _ tenantID now checked count calm onward
  | evicts _ tenantID conn calm onward | gives _ call conn database calm onward
  | names _ _ _ _ _ _ onward => exact .inr (.inl onward)

end

section

def Stamped (world : World T C N) : Phase T C F → Prop
  | .closeConnection _ stamp _ | .closeReturn _ stamp _ => stamp ≤ world.clock
  | .closing _ after => Stamped world after
  | _ => True

omit [DecidableEq T] in
theorem stamped_grows (world next : World T C N) (phase : Phase T C F) (clock : world.clock ≤ next.clock)
    (stamped : Stamped world phase) : Stamped next phase := by
  induction phase with
  | closing _ _ ih => exact ih stamped
  | closeConnection | closeReturn => exact le_trans stamped clock
  | _ => trivial

variable {world : World T C N} {after : Phase T C F}

omit [DecidableEq T] in
theorem stamped_discarding (inside : Bool) (conn : Nat) (stamped : Stamped world after) : Stamped world (.discarding inside conn after) := by
  cases inside <;> exact stamped

omit [DecidableEq T] in
theorem stamped_calm (world : World T C N) (phase : Phase T C F) (calm : Calm phase) : Stamped world phase := by
  cases calm <;> trivial

variable {calls : Calls} {driver : Driver C N} {settings : Settings} {i : I} {next : World T C N} {phase : Phase T C F}
  {label : Label T N}

theorem core_stamped (stamped : Stamped world phase) (moves : Core calls driver settings i world phase label next after) : Stamped next after := by
  cases moves with
  | cacheClosed tenantID conn | cacheExcess tenantID conn => exact stamped_discarding _ conn trivial
  | swap tenantID => cases world.connections.lookup tenantID <;> trivial
  | suspended | closeConnection => exact le_refl _
  | closeMissing => exact stamped
  | closeHeld tenantID _ _ conn =>
    apply stamped_discarding
    rw [Stamped, (discard_frame driver.closesInside conn (delete tenantID world)).1]
    exact stamped
  | closeReturns _ _ revalidating => cases revalidating <;> trivial
  | closing => exact stamped_grows world _ after (le_refl _) stamped
  | _ => trivial

theorem front_stamped (stamped : Stamped world phase) (moves : Front calls world phase label next after) : Stamped next after := by
  obtain same | calm | ⟨_, rest, calm, same⟩ := front_shape moves
  · rw [same]
    exact stamped_grows world next phase (front_grows moves).clock stamped
  · exact stamped_calm next after calm
  · rw [same]
    exact stamped_calm next rest calm

theorem stamped_keeps (calls : Calls) (driver : Driver C N) (settings : Settings) :
    Keeps (Step calls driver settings) (fun _ : World T C N => True) (fun (_ : I) world (phase : Phase T C F) => Stamped world phase) := by
  refine ⟨?_, ?_⟩
  · intro i world phase label next after _ stamped moves
    exact ⟨trivial, moves.elim (core_stamped stamped) (front_stamped stamped)⟩
  · intro _ _ world _ other _ next _ _ _ _ stamped moves
    exact stamped_grows world next other (step_grows moves).clock stamped

variable [DecidableEq I]

theorem at_return {labels : List (I × Label T N)} {tenantID : T} {stamp : Nat} {state : State T C N F I}
    (run : Run (Threads.Step (Step calls driver settings)) start (labels ++ [(i, .closedConnection tenantID stamp)]) state) :
    stamp ≤ state.world.clock ∧ (state.phase i = .idle ∨ state.phase i = .revalidated) := by
  obtain ⟨before, _, earlier, first, rest⟩ := Run.at_label start state labels [] _ run
  have good := good_run (stamped_keeps calls driver settings) earlier ⟨trivial, fun _ => trivial⟩
  cases rest with
  | nil =>
    cases first with
    | move _ _ _ _ moves =>
      have stamped := good.2 i
      dsimp only
      rw [update_self]
      cases moves with
      | inl core =>
        cases standing : before.phase i <;> rw [standing] at core stamped <;> cases core
        rename_i revalidating
        refine ⟨stamped, ?_⟩
        cases revalidating
        · exact .inl rfl
        · exact .inr rfl
      | inr front => cases front

end

section

-- cacheConnection installs an older fetch while the manager is open, a swap always.
inductive Carries (tenantID : T) (stamp : Nat) (closed : Bool) : Phase T C F → Prop where
  | fetching (fetch call) (older : fetch ≤ stamp) (opened : closed = false) : Carries tenantID stamp closed (.fetching tenantID fetch call)
  | connecting (config fetch call) (older : fetch ≤ stamp) (opened : closed = false) :
      Carries tenantID stamp closed (.connecting tenantID config fetch call)
  | caching (conn config fetch call) (older : fetch ≤ stamp) (opened : closed = false) :
      Carries tenantID stamp closed (.caching tenantID conn config fetch call)
  | swap (conn config fetch) (older : fetch ≤ stamp) : Carries tenantID stamp closed (.swap tenantID conn config fetch)
  | closing (conn : Nat) (after : Phase T C F) (later : Carries tenantID stamp closed after) :
      Carries tenantID stamp closed (.closing conn after)

variable {tenantID : T} {stamp : Nat} {phase : Phase T C F}

omit [DecidableEq T] in
theorem carries_closed {before after} (closed : after = false → before = false)
    (carries : Carries tenantID stamp after phase) : Carries tenantID stamp before phase := by
  induction carries with
  | fetching fetch call older opened => exact .fetching fetch call older (closed opened)
  | connecting config fetch call older opened => exact .connecting config fetch call older (closed opened)
  | caching conn config fetch call older opened => exact .caching conn config fetch call older (closed opened)
  | swap conn config fetch older => exact .swap conn config fetch older
  | closing conn after _ ih => exact .closing conn after ih

-- A connection of the tenant is in the map only if one from a later fetch has been installed.
structure Gone (tenantID : T) (stamp : Nat) (world : World T C N) : Prop where
  clock : stamp ≤ world.clock
  missing : world.newest tenantID ≤ stamp → world.connections.lookup tenantID = none

def Unburdened (tenantID : T) (stamp : Nat) (world : World T C N) (phase : Phase T C F) : Prop :=
  world.newest tenantID ≤ stamp → ¬ Carries tenantID stamp world.closed phase

theorem lookup_install (driver : Driver C N) (world : World T C N) {other} (conn : Nat) (config : C) (fetch : Nat)
    (now : Int) (apart : tenantID ≠ other) :
    (install driver other conn config fetch now world).connections.lookup tenantID = world.connections.lookup tenantID :=
  AList.lookup_insert_ne apart

variable {world : World T C N}

theorem lookup_delete_none (other : T) (missing : world.connections.lookup tenantID = none) :
    (delete other world).connections.lookup tenantID = none := by
  cases held : (delete other world).connections.lookup tenantID with
  | none => rfl
  | some conn => cases missing.symm.trans (delete_lookup world other tenantID conn held)

theorem lookup_evict_none (settings order) (now : Int) (missing : world.connections.lookup tenantID = none) :
    (evictLRU settings order now world).connections.lookup tenantID = none := by
  cases held : (evictLRU settings order now world).connections.lookup tenantID with
  | none => rfl
  | some => cases missing.symm.trans (evict_lookup held)

theorem install_apart (driver : Driver C N) (world : World T C N) (tenantID other : T) (conn : Nat) (config : C) (fetch stamp : Nat)
    (now : Int) (older : (install driver other conn config fetch now world).newest tenantID ≤ stamp)
    (fresh : tenantID = other → ¬ fetch ≤ stamp) : tenantID ≠ other := by
  intro same
  apply fresh same
  subst same
  simp only [install, update_self] at older
  exact le_trans (le_max_left _ _) older

variable {calls : Calls} {driver : Driver C N} {settings : Settings} {i : I} {next : World T C N} {after : Phase T C F}
  {label : Label T N}

theorem core_gone (gone : Gone tenantID stamp world) (free : Unburdened tenantID stamp world phase)
    (moves : Core calls driver settings i world phase label next after) : Gone tenantID stamp next := by
  have grows := core_grows moves
  refine ⟨le_trans gone.clock grows.clock, ?_⟩
  intro older
  have before : world.newest tenantID ≤ stamp := le_trans (grows.newest tenantID) older
  have missing := gone.missing before
  have unburdened := free before
  cases moves with
  | cacheClosed _ conn =>
    rw [(discard_frame driver.discardsInside conn world).2.2.2]
    exact missing
  | cacheExcess other conn _ _ _ _ now =>
    rw [(discard_frame driver.discardsInside conn (touch other now world)).2.2.2]
    exact missing
  | cacheInstalls other conn config fetch call order now opened =>
    have apart := install_apart driver _ tenantID other conn config fetch stamp now older fun same stale =>
      unburdened (same ▸ .caching conn config fetch call stale opened)
    rw [lookup_install driver _ conn config fetch now apart]
    exact lookup_evict_none settings order now missing
  | swap other conn config fetch now =>
    have apart := install_apart driver world tenantID other conn config fetch stamp now older fun same stale =>
      unburdened (same ▸ .swap conn config fetch stale)
    exact (lookup_install driver world conn config fetch now apart).trans missing
  | closeHeld other _ _ conn =>
    rw [(discard_frame driver.closesInside conn (delete other world)).2.2.2]
    exact lookup_delete_none other missing
  | close => exact AList.lookup_empty tenantID
  | _ => exact missing

omit [DecidableEq T] in
theorem discarding_carries {closed inside} {conn}
    (carries : Carries tenantID stamp closed (.discarding inside conn after)) : Carries tenantID stamp closed after := by
  cases inside with
  | true => exact carries
  | false =>
    cases carries with
    | closing _ _ later => exact later

theorem core_unburdened (gone : Gone tenantID stamp world) (free : Unburdened tenantID stamp world phase)
    (moves : Core calls driver settings i world phase label next after) : Unburdened tenantID stamp next after := by
  have grows := core_grows moves
  intro older carries
  have before : world.newest tenantID ≤ stamp := le_trans (grows.newest tenantID) older
  have missing := gone.missing before
  have unburdened := free before
  have earlier := carries_closed grows.closed carries
  clear carries
  cases moves with
  | sendNew =>
    cases earlier with
    | fetching _ _ stale => exact Nat.not_succ_le_self _ (le_trans stale gone.clock)
  | newArrives _ fetch call =>
    cases earlier with
    | connecting _ _ _ stale opened => exact unburdened (.fetching fetch call stale opened)
  | connects _ config fetch call =>
    cases earlier with
    | caching _ _ _ _ stale opened => exact unburdened (.connecting config fetch call stale opened)
  | canStore _ _ _ _ allowed =>
    cases earlier with
    | swap => simp [Connections.canStore, missing] at allowed
  | cannotStore =>
    cases earlier with
    | closing _ _ later => cases later
  | cacheClosed => cases discarding_carries earlier
  | cacheExcess | closeHeld =>
    cases discarding_carries earlier
  | swap other =>
    cases held : world.connections.lookup other with
    | none =>
      rw [held] at earlier
      cases earlier
    | some =>
      rw [held] at earlier
      cases earlier with
      | closing _ _ later => cases later
  | closeReturns _ _ revalidating => cases revalidating <;> cases earlier
  | closing conn => exact unburdened (.closing conn after earlier)
  | _ => cases earlier

omit [DecidableEq T] in
theorem calm_carries (tenantID : T) (stamp : Nat) (closed : Bool) (calm : Calm phase) : ¬ Carries tenantID stamp closed phase := by
  intro carries
  cases calm <;> cases carries

theorem front_gone (gone : Gone tenantID stamp world) (moves : Front calls world phase label next after) : Gone tenantID stamp next := by
  have grows := front_grows moves
  refine ⟨le_trans gone.clock grows.clock, ?_⟩
  intro older
  have missing := gone.missing (le_trans (grows.newest tenantID) older)
  cases moves with
  | removes after other | evicts _ other => exact lookup_delete_none other missing
  | _ => exact missing

theorem front_unburdened (free : Unburdened tenantID stamp world phase) (moves : Front calls world phase label next after) :
    Unburdened tenantID stamp next after := by
  have grows := front_grows moves
  intro older carries
  obtain same | calm | ⟨_, _, calm, same⟩ := front_shape moves
  · rw [same] at carries
    exact free (le_trans (grows.newest tenantID) older) (carries_closed grows.closed carries)
  · exact calm_carries tenantID stamp next.closed calm carries
  · rw [same] at carries
    cases carries with
    | closing _ _ later => exact calm_carries tenantID stamp next.closed calm later

theorem gone_keeps (calls : Calls) (driver : Driver C N) (settings : Settings) (tenantID : T) (stamp : Nat) :
    Keeps (Step calls driver settings) (Gone (C := C) (N := N) tenantID stamp)
      (fun (_ : I) world (phase : Phase T C F) => Unburdened tenantID stamp world phase) := by
  refine ⟨?_, ?_⟩
  · intro i world phase label next after gone free moves
    cases moves with
    | inl core =>
      exact ⟨core_gone gone free core, core_unburdened gone free core⟩
    | inr front =>
      exact ⟨front_gone gone front, front_unburdened free front⟩
  · intro _ _ _ _ _ _ _ _ _ _ _ free moves older carries
    have grows := step_grows moves
    exact free (le_trans (grows.newest tenantID) older) (carries_closed grows.closed carries)

theorem newest_run [DecidableEq I] (tenantID : T) {state last : State T C N F I} {labels : List (I × Label T N)}
    (run : Run (Threads.Step (Step calls driver settings)) state labels last) :
    state.world.newest tenantID ≤ last.world.newest tenantID := by
  refine Run.invariant (fun later => state.world.newest tenantID ≤ later.world.newest tenantID) ?_ state last labels run (le_refl _)
  intro _ _ _ reached step
  cases step with
  | move _ _ _ _ moves =>
    exact le_trans reached ((step_grows moves).newest tenantID)

end

section

def Extends (calls : Calls) (driver : Driver C N) (settings : Settings)
    (move : I → World T C N → Phase T C F → Label T N → World T C N → Phase T C F → Prop) : Prop :=
  ∀ i world phase label next after, Core calls driver settings i world phase label next after → move i world phase label next after

structure Serves (driver : Driver C N) (tenantID : T) (conn : Nat) (config : C) (world : World T C N) : Prop where
  opened : world.closed = false
  held : world.connections.lookup tenantID = some conn
  companion : world.companion.lookup tenantID = some (driver.companion config)
  config : world.conns[conn]? = some config

variable {calls : Calls} {driver : Driver C N} {settings : Settings}
  {move : I → World T C N → Phase T C F → Label T N → World T C N → Phase T C F → Prop} {world : World T C N}

theorem missing_cached (driver) {tenantID} (missing : world.connections.lookup tenantID = none) : cached driver tenantID world = none := by
  rw [cached, missing]
  rfl

variable (common : Extends calls driver settings move)

include common

theorem caching_installs (i : I) (world) (tenantID : T) (conn : Nat) (config : C) (fetch : Nat) (call) (opened : world.closed = false)
    (missing : world.connections.lookup tenantID = none) :
    ∃ next, Walk move i world (.caching tenantID conn config fetch call) [.quiet] next (.got tenantID conn call) ∧
      (world.conns[conn]? = some config → Serves driver tenantID conn config next) ∧
      next.connections.lookup tenantID = some conn ∧ next.newest tenantID = max fetch (world.newest tenantID) := by
  have moves := common i world _ _ _ _ (.cacheInstalls world tenantID conn config fetch call world.lastAccessed.entries 0 opened
    (missing_cached driver missing) (List.Perm.refl _))
  obtain ⟨_, newest, closed⟩ := evict_frame settings world.lastAccessed.entries 0 world
  have held : ((evictLRU settings world.lastAccessed.entries 0 world).connections.insert tenantID conn).lookup tenantID = some conn :=
    AList.lookup_insert _
  refine ⟨_, .move _ _ _ _ _ _ _ _ moves (.stay _ _), ?_, held, ?_⟩
  · intro known
    refine ⟨closed.trans opened, held, AList.lookup_insert _, ?_⟩
    exact (congrArg (fun conns => conns[conn]?) (evict_conns settings _ 0 world)).trans known
  · simp only [install, update_self, newest]

theorem connecting_installs (i : I) (world) (tenantID : T) (config : C)
    (fetch : Nat) (call) (opened : world.closed = false) (missing : world.connections.lookup tenantID = none) :
    ∃ next, Walk move i world (.connecting tenantID config fetch call) [.quiet, .quiet] next (.got tenantID world.conns.length call) ∧
      Serves driver tenantID world.conns.length config next ∧ next.newest tenantID = max fetch (world.newest tenantID) := by
  have moves := common i world _ _ _ _ (.connects world tenantID config fetch call)
  obtain ⟨next, walk, serves, _, newest⟩ := caching_installs common i (openConn config world) tenantID world.conns.length config
    fetch call opened missing
  exact ⟨next, .move _ _ _ _ _ _ _ _ moves walk, serves (getElem?_concat_length ..), newest⟩

theorem fetching_installs (i : I) (world) (tenantID : T) (config : C)
    (fetch : Nat) (call) (opened : world.closed = false) (missing : world.connections.lookup tenantID = none) :
    ∃ next, Walk move i world (.fetching tenantID fetch call) [.quiet, .quiet, .quiet] next (.got tenantID world.conns.length call) ∧
      Serves driver tenantID world.conns.length config next ∧ next.newest tenantID = max fetch (world.newest tenantID) := by
  have moves := common i world _ _ _ _ (.newArrives world tenantID fetch call config)
  obtain ⟨next, walk, serves⟩ := connecting_installs common i world tenantID config fetch call opened missing
  exact ⟨next, .move _ _ _ _ _ _ _ _ moves walk, serves⟩

theorem carries_installs (config : C) (i : I) (tenantID : T) (stamp : Nat) (world phase) (carries : Carries tenantID stamp world.closed phase)
    (missing : world.connections.lookup tenantID = none) (older : world.newest tenantID ≤ stamp) :
    ∃ labels next after, Walk move i world phase labels next after ∧ next.newest tenantID ≤ stamp ∧ next.connections.lookup tenantID ≠ none := by
  have within : ∀ fetch, fetch ≤ stamp → max fetch (world.newest tenantID) ≤ stamp := fun fetch stale => Nat.max_le.mpr ⟨stale, older⟩
  induction phase generalizing world with
  | closing conn after ih =>
    cases carries with
    | closing _ _ later =>
      have moves := common i world _ _ _ _ (.closing world conn after)
      obtain ⟨_, next, final, walk, reached⟩ := ih (endConn conn world) later missing older within
      exact ⟨_, next, final, .move _ _ _ _ _ _ _ _ moves walk, reached⟩
  | swap _ conn config fetch =>
    cases carries with
    | swap _ _ _ stale =>
      have moves := common i world _ _ _ _ (.swap world tenantID conn config fetch 0)
      refine ⟨_, _, _, .move _ _ _ _ _ _ _ _ moves (.stay _ _), ?_, ?_⟩
      · simpa only [swap, install, update_self] using within fetch stale
      · simp only [swap, install, AList.lookup_insert]
        exact some_ne_none conn
  | fetching _ fetch call =>
    cases carries with
    | fetching _ _ stale opened =>
      obtain ⟨next, walk, serves, newest⟩ := fetching_installs common i world tenantID config fetch call opened missing
      exact ⟨_, next, _, walk, newest ▸ within fetch stale, ne_none_iff_exists'.mpr ⟨_, serves.held⟩⟩
  | connecting _ config fetch call =>
    cases carries with
    | connecting _ _ _ stale opened =>
      obtain ⟨next, walk, serves, newest⟩ := connecting_installs common i world tenantID config fetch call opened missing
      exact ⟨_, next, _, walk, newest ▸ within fetch stale, ne_none_iff_exists'.mpr ⟨_, serves.held⟩⟩
  | caching _ conn config fetch call =>
    cases carries with
    | caching _ _ _ _ stale opened =>
      obtain ⟨next, walk, _, held, newest⟩ := caching_installs common i world tenantID conn config fetch call opened missing
      exact ⟨_, next, _, walk, newest ▸ within fetch stale, ne_none_iff_exists'.mpr ⟨_, held⟩⟩
  | _ => cases carries

theorem closes_alone (i : I) (world) (tenantID : T) :
    ∃ labels next, Walk move i world .idle labels next .idle ∧ next.closed = world.closed ∧ next.connections.lookup tenantID = none := by
  have begins := common i world _ _ _ _ (.closeConnection world tenantID)
  have returns : ∀ next : World T C N, Walk move i next (.closeReturn tenantID (world.clock + 1) false)
      [.closedConnection tenantID (world.clock + 1)] next .idle := by
    intro next
    exact .move _ _ _ _ _ _ _ _ (common i next _ _ _ _ (.closeReturns next tenantID (world.clock + 1) false)) (.stay _ _)
  cases held : world.connections.lookup tenantID with
  | none =>
    have found := common i _ _ _ _ _ (.closeMissing { world with clock := world.clock + 1 } tenantID (world.clock + 1) false held)
    exact ⟨_, _, .move _ _ _ _ _ _ _ _ begins (.move _ _ _ _ _ _ _ _ found (returns _)), rfl, held⟩
  | some conn =>
    have found := common i _ _ _ _ _ (.closeHeld { world with clock := world.clock + 1 } tenantID (world.clock + 1) false conn held)
    have missing : (world.connections.erase tenantID).lookup tenantID = none := AList.lookup_erase _ _
    cases inside : driver.closesInside with
    | true =>
      rw [inside] at found
      exact ⟨_, _, .move _ _ _ _ _ _ _ _ begins (.move _ _ _ _ _ _ _ _ found (returns _)), rfl, missing⟩
    | false =>
      rw [inside] at found
      have closes := common i _ _ _ _ _
        (.closing (delete tenantID { world with clock := world.clock + 1 }) conn (.closeReturn tenantID (world.clock + 1) false))
      exact ⟨_, _, .move _ _ _ _ _ _ _ _ begins (.move _ _ _ _ _ _ _ _ found (.move _ _ _ _ _ _ _ _ closes (returns _))), rfl, missing⟩

def Enters (move : I → World T C N → Phase T C F → Label T N → World T C N → Phase T C F → Prop) : Prop :=
  ∀ i world tenantID, world.closed = false → world.connections.lookup tenantID = none →
    ∃ labels, Walk move i world .idle labels world (.fetchNew tenantID none)

theorem reinstalls (enters : Enters move) (i : I) (tenantID : T) (config : C) (opened : world.closed = false) :
    ∃ labels next conn, Walk move i world .idle labels next .idle ∧ Serves driver tenantID conn config next := by
  obtain ⟨_, middle, closes, same, missing⟩ := closes_alone common i world tenantID
  obtain ⟨_, arrives⟩ := enters i middle tenantID (same.trans opened) missing
  have sends := common i middle _ _ _ _ (.sendNew middle tenantID none)
  obtain ⟨next, installs, serves, _⟩ := fetching_installs common i { middle with clock := middle.clock + 1 } tenantID config
    (middle.clock + 1) none (same.trans opened) missing
  have returns := common i next _ _ _ _ (.returns next tenantID middle.conns.length)
  have back := installs.append (.move _ _ _ _ _ _ _ _ returns (.stay _ _))
  exact ⟨_, next, _, closes.append (arrives.append (.move _ _ _ _ _ _ _ _ sends back)), serves⟩

end

section

variable [DecidableEq I] {calls : Calls} {driver : Driver C N} {settings : Settings}
  {move : I → World T C N → Phase T C F → Label T N → World T C N → Phase T C F → Prop}

def Dropped (move : I → World T C N → Phase T C F → Label T N → World T C N → Phase T C F → Prop) (tenantID : T) (stamp : Nat)
    (state : State T C N F I) : Prop :=
  ∀ labels last, Run (Threads.Step move) state labels last → last.world.newest tenantID ≤ stamp →
    last.world.connections.lookup tenantID = none

theorem dropped_iff (common : Extends calls driver settings move) (refines : ∀ i world phase label next after, move i world phase label next after →
      Step calls driver settings i world phase label next after)
    (config : C) (tenantID : T) {stamp : Nat} {state : State T C N F I} (clock : stamp ≤ state.world.clock) :
    Dropped move tenantID stamp state ↔ stamp < state.world.newest tenantID ∨ state.world.connections.lookup tenantID = none ∧
        ∀ i, ¬ Carries tenantID stamp state.world.closed (state.phase i) := by
  constructor
  · intro dropped
    by_cases older : state.world.newest tenantID ≤ stamp
    · have missing := dropped [] state (.nil state) older
      refine .inr ⟨missing, ?_⟩
      intro i carries
      obtain ⟨labels, _, _, walk, still, held⟩ := carries_installs common config i tenantID stamp state.world (state.phase i) carries missing older
      obtain ⟨last, run, world, _⟩ := walk_reaches walk
      apply held
      rw [← world]
      exact dropped _ last run (world ▸ still)
    · exact .inl (lt_of_not_ge older)
  · intro condition labels last run still
    have wide := run_mono refines state last labels run
    have older := le_trans (newest_run tenantID wide) still
    cases condition with
    | inl newer => exact absurd older (Nat.not_le_of_lt newer)
    | inr condition =>
      obtain ⟨missing, free⟩ := condition
      have good : Good (Gone tenantID stamp) (fun (_ : I) world phase => Unburdened tenantID stamp world phase) state :=
        ⟨⟨clock, fun _ => missing⟩, fun i _ => free i⟩
      exact (good_run (gone_keeps calls driver settings tenantID stamp) wide good).1.missing still

end

-- A revalidation under way whose fetch is old and that can still come to its swap.
inductive Old (tenantID : T) (stamp : Nat) (closed : Bool) : Phase T C F → Prop where
  | refetching (fetch) (older : fetch ≤ stamp) (opened : closed = false) : Old tenantID stamp closed (.refetching tenantID fetch)
  | comparing (config fetch) (older : fetch ≤ stamp) (opened : closed = false) :
      Old tenantID stamp closed (.comparing tenantID config fetch)
  | reconnecting (config fetch) (older : fetch ≤ stamp) (opened : closed = false) :
      Old tenantID stamp closed (.reconnecting tenantID config fetch)
  | canStore (conn config fetch) (older : fetch ≤ stamp) (opened : closed = false) :
      Old tenantID stamp closed (.canStore tenantID conn config fetch)
  | swap (conn config fetch) (older : fetch ≤ stamp) : Old tenantID stamp closed (.swap tenantID conn config fetch)
  | closing (conn : Nat) (after : Phase T C F) (later : Old tenantID stamp closed after) : Old tenantID stamp closed (.closing conn after)

variable {tenantID : T} {stamp : Nat} {phase : Phase T C F}

omit [DecidableEq T] in
theorem old_closed {before after} (closed : after = false → before = false) (old : Old tenantID stamp after phase) :
    Old tenantID stamp before phase := by
  induction old with
  | refetching fetch older opened => exact .refetching fetch older (closed opened)
  | comparing config fetch older opened => exact .comparing config fetch older (closed opened)
  | reconnecting config fetch older opened => exact .reconnecting config fetch older (closed opened)
  | canStore conn config fetch older opened => exact .canStore conn config fetch older (closed opened)
  | swap conn config fetch older => exact .swap conn config fetch older
  | closing conn after _ ih => exact .closing conn after ih

variable {conn : Nat} {after : Phase T C F}

omit [DecidableEq T] in
theorem discarding_old {closed inside} (old : Old tenantID stamp closed (.discarding inside conn after)) : Old tenantID stamp closed after := by
  cases inside with
  | true => exact old
  | false =>
    cases old with
    | closing _ _ later => exact later

omit [DecidableEq T] in
theorem calm_old (tenantID : T) (stamp : Nat) (closed : Bool) (calm : Calm phase) : ¬ Old tenantID stamp closed phase := by
  intro old
  cases calm <;> cases old

variable {calls : Calls} {driver : Driver C N} {settings : Settings} {i : I} {world next : World T C N} {label : Label T N}

theorem core_old (clock : stamp ≤ world.clock) (moves : Core calls driver settings i world phase label next after)
    (old : Old tenantID stamp world.closed after) : Old tenantID stamp world.closed phase := by
  cases moves with
  | resend =>
    cases old with
    | refetching _ stale => exact absurd (le_trans stale clock) (Nat.not_succ_le_self _)
  | rearrives _ fetch =>
    cases old with
    | comparing _ _ stale opened => exact .refetching fetch stale opened
  | changed _ config fetch =>
    cases old with
    | reconnecting _ _ stale opened => exact .comparing config fetch stale opened
  | reconnects _ config fetch =>
    cases old with
    | canStore _ _ _ stale opened => exact .reconnecting config fetch stale opened
  | canStore _ conn config fetch allowed =>
    cases old with
    | swap _ _ _ stale =>
      have opened : world.closed = false := by
        simp only [Connections.canStore, Bool.and_eq_true, Bool.not_eq_true'] at allowed
        exact allowed.1
      exact .canStore conn config fetch stale opened
  | cannotStore =>
    cases old with
    | closing _ _ later => cases later
  | cacheClosed => cases discarding_old old
  | cacheExcess | closeHeld =>
    cases discarding_old old
  | swap other =>
    cases held : world.connections.lookup other with
    | none =>
      rw [held] at old
      cases old
    | some =>
      rw [held] at old
      cases old with
      | closing _ _ later => cases later
  | closeReturns _ _ revalidating => cases revalidating <;> cases old
  | closing conn => exact .closing conn after old
  | _ => cases old

theorem step_old (clock : stamp ≤ world.clock) (moves : Step calls driver settings i world phase label next after)
    (old : Old tenantID stamp next.closed after) : Old tenantID stamp world.closed phase := by
  have grows := step_grows moves
  have before := old_closed grows.closed old
  cases moves with
  | inl core => exact core_old clock core before
  | inr front =>
    obtain same | calm | ⟨_, _, calm, same⟩ := front_shape front
    · exact same ▸ before
    · exact absurd before (calm_old tenantID stamp _ calm)
    · subst same
      cases before with
      | closing _ _ later => exact absurd later (calm_old tenantID stamp _ calm)

theorem old_keeps (calls : Calls) (driver : Driver C N) (settings : Settings) (tenantID : T) (stamp : Nat) :
    Keeps (Step calls driver settings) (fun world : World T C N => stamp ≤ world.clock)
      (fun (_ : I) world (phase : Phase T C F) => ¬ Old tenantID stamp world.closed phase) := by
  refine ⟨?_, ?_⟩
  · intro i world phase label next after clock free moves
    refine ⟨le_trans clock (step_grows moves).clock, ?_⟩
    intro old
    exact free (step_old clock moves old)
  · intro _ _ _ _ _ _ _ _ _ _ _ free moves old
    have grows := step_grows moves
    exact free (old_closed grows.closed old)

theorem swapped_old {fetch} (older : fetch ≤ stamp) (moves : Step calls driver settings i world phase (.swapped tenantID conn fetch) next after) :
    Old tenantID stamp world.closed phase := by
  cases moves with
  | inl core =>
    cases core with
    | swap _ _ config => exact .swap conn config fetch older
  | inr front => cases front

variable {calls : Calls} {driver : Driver C N} {settings : Settings}
  {move : I → World T C N → Phase T C F → Label T N → World T C N → Phase T C F → Prop}

def Swaps (move : I → World T C N → Phase T C F → Label T N → World T C N → Phase T C F → Prop) (i : I) (tenantID : T)
    (stamp : Nat) (world : World T C N) (phase : Phase T C F) : Prop :=
  ∃ labels next after conn fetch, Walk move i world phase labels next after ∧ .swapped tenantID conn fetch ∈ labels ∧ fetch ≤ stamp

omit [DecidableEq T] in
theorem swaps_move (i : I) (tenantID : T) (stamp : Nat) (world next phase after label)
    (moves : move i world phase label next after) (later : Swaps move i tenantID stamp next after) :
    Swaps move i tenantID stamp world phase := by
  obtain ⟨labels, last, final, conn, fetch, walk, member, older⟩ := later
  exact ⟨label :: labels, last, final, conn, fetch, .move _ _ _ _ _ _ _ _ moves walk, mem_cons_of_mem _ member, older⟩

variable (common : Extends calls driver settings move)

include common

theorem swap_swaps (i : I) (tenantID : T) (stamp : Nat) (world) (conn : Nat) (config : C) (fetch : Nat) (older : fetch ≤ stamp) :
    Swaps move i tenantID stamp world (.swap tenantID conn config fetch) := by
  have moves := common i world _ _ _ _ (.swap world tenantID conn config fetch 0)
  exact ⟨_, _, _, conn, fetch, .move _ _ _ _ _ _ _ _ moves (.stay _ _), mem_cons_self .., older⟩

theorem canStore_swaps (i : I) (tenantID : T) (stamp : Nat) (world)
    (conn : Nat) (config : C) (fetch : Nat) (older : fetch ≤ stamp) (held : Nat) (served : C)
    (serves : Serves driver tenantID held served world) : Swaps move i tenantID stamp world (.canStore tenantID conn config fetch) := by
  have allowed : canStore tenantID world = true := by
    simp only [canStore, serves.opened, serves.held, Bool.not_false, isSome_some, Bool.and_self]
  have moves := common i world _ _ _ _ (.canStore world tenantID conn config fetch allowed)
  exact swaps_move i tenantID stamp _ _ _ _ _ moves (swap_swaps common i tenantID stamp world conn config fetch older)

theorem reconnecting_swaps (i : I) (tenantID : T) (stamp : Nat) (world) (config : C) (fetch : Nat) (older : fetch ≤ stamp) (held : Nat) (served : C)
    (serves : Serves driver tenantID held served world) : Swaps move i tenantID stamp world (.reconnecting tenantID config fetch) := by
  have moves := common i world _ _ _ _ (.reconnects world tenantID config fetch)
  have known : (world.conns ++ [config])[held]? = some served :=
    (getElem?_append_left (List.getElem?_eq_some_iff.mp serves.config).1).trans serves.config
  have still : Serves driver tenantID held served (openConn config world) := ⟨serves.opened, serves.held, serves.companion, known⟩
  exact swaps_move i tenantID stamp _ _ _ _ _ moves (canStore_swaps common i tenantID stamp _ _ config fetch older held served still)

theorem comparing_swaps (i : I) (tenantID : T) (stamp : Nat) (world)
    (config : C) (fetch : Nat) (older : fetch ≤ stamp) (held : Nat) (served : C) (serves : Serves driver tenantID held served world)
    (differs : driver.changed (some served) (some (driver.companion served)) config = true) :
    Swaps move i tenantID stamp world (.comparing tenantID config fetch) := by
  have changed : configChanged driver tenantID config world = true := by
    rw [configChanged, serves.held, serves.companion, bind_some, serves.config]
    exact differs
  have moves := common i world _ _ _ _ (.changed world tenantID config fetch changed)
  exact swaps_move i tenantID stamp _ _ _ _ _ moves (reconnecting_swaps common i tenantID stamp world config fetch older held served serves)

theorem old_swaps (differs : ∀ config, ∃ served, driver.changed (some served) (some (driver.companion served)) config = true) (config : C) (i : I)
    (tenantID : T) (stamp : Nat) (world phase) (old : Old tenantID stamp world.closed phase) :
    Swaps move i tenantID stamp world phase ∨ world.closed = false ∧ ∃ served, ∀ other held,
      Serves driver tenantID held served other → Swaps move i tenantID stamp other phase := by
  induction phase generalizing world with
  | closing conn after ih =>
    cases old with
    | closing _ _ later =>
      cases ih (endConn conn world) later with
      | inl swaps => exact .inl (swaps_move i tenantID stamp _ _ _ _ _ (common i _ _ _ _ _ (.closing world conn after)) swaps)
      | inr waits =>
        obtain ⟨opened, served, swaps⟩ := waits
        refine .inr ⟨opened, served, ?_⟩
        intro other held serves
        have still : Serves driver tenantID held served (endConn conn other) := ⟨serves.opened, serves.held, serves.companion, serves.config⟩
        exact swaps_move i tenantID stamp _ _ _ _ _ (common i _ _ _ _ _ (.closing other conn after)) (swaps _ held still)
  | swap _ conn config fetch =>
    cases old with
    | swap _ _ _ older => exact .inl (swap_swaps common i tenantID stamp world conn config fetch older)
  | canStore other conn config fetch =>
    cases old with
    | canStore _ _ _ older opened =>
      exact .inr ⟨opened, config, fun other held => canStore_swaps common i tenantID stamp other conn config fetch older held _⟩
  | reconnecting other config fetch =>
    cases old with
    | reconnecting _ _ older opened =>
      exact .inr ⟨opened, config, fun other held => reconnecting_swaps common i tenantID stamp other config fetch older held _⟩
  | comparing other config fetch =>
    cases old with
    | comparing _ _ older opened =>
      obtain ⟨served, differs⟩ := differs config
      refine .inr ⟨opened, served, ?_⟩
      intro other held serves
      exact comparing_swaps common i tenantID stamp other config fetch older held served serves differs
  | refetching other fetch =>
    cases old with
    | refetching _ older opened =>
      obtain ⟨served, differs⟩ := differs config
      refine .inr ⟨opened, served, ?_⟩
      intro other held serves
      have moves := common i other _ _ _ _ (.rearrives other tenantID fetch config)
      exact swaps_move i tenantID stamp _ _ _ _ _ moves (comparing_swaps common i tenantID stamp other config fetch older held served serves differs)
  | _ => cases old

omit common

variable [DecidableEq I]

-- From here on no reconnection that began by the stamp installs a connection.
def Unrevived (move : I → World T C N → Phase T C F → Label T N → World T C N → Phase T C F → Prop) (tenantID : T) (stamp : Nat)
    (state : State T C N F I) : Prop :=
  ∀ labels last, Run (Threads.Step move) state labels last → ∀ i conn fetch, (i, .swapped tenantID conn fetch) ∈ labels → stamp < fetch

omit [DecidableEq T] in
theorem swaps_revive (tenantID : T) (stamp : Nat) (state middle labels) (i : I)
    (run : Run (Threads.Step move) state labels middle) (swaps : Swaps move i tenantID stamp middle.world (middle.phase i)) :
    ¬ Unrevived move tenantID stamp state := by
  intro unrevived
  obtain ⟨_, _, _, conn, fetch, walk, member, older⟩ := swaps
  obtain ⟨last, later, _⟩ := walk_reaches walk
  have newer := unrevived _ last (run.append later) i conn fetch (mem_append_right _ (List.mem_map_of_mem member))
  exact absurd older (Nat.not_le_of_lt newer)

variable {state : State T C N F I}

theorem unrevived_iff (common : Extends calls driver settings move) (refines : ∀ i world phase label next after, move i world phase label next after →
      Step calls driver settings i world phase label next after) (enters : Enters move)
    (differs : ∀ config, ∃ served, driver.changed (some served) (some (driver.companion served)) config = true) (config : C)
    (tenantID : T) (clock : stamp ≤ state.world.clock) (ready : state.phase i = .idle ∨ state.phase i = .revalidated) :
    Unrevived move tenantID stamp state ↔ ∀ j, ¬ Old tenantID stamp state.world.closed (state.phase j) := by
  constructor
  · intro unrevived j old
    cases old_swaps common differs config j tenantID stamp state.world (state.phase j) old with
    | inl swaps => exact swaps_revive tenantID stamp state state [] j (.nil state) swaps unrevived
    | inr waits =>
      obtain ⟨opened, served, swaps⟩ := waits
      have apart : j ≠ i := by
        intro same
        subst same
        cases ready with
        | inl idle =>
          rw [idle] at old
          cases old
        | inr revalidated =>
          rw [revalidated] at old
          cases old
      have rested : ∃ labels world, Walk move i state.world (state.phase i) labels world .idle ∧ world.closed = false := by
        cases ready with
        | inl idle =>
          rw [idle]
          exact ⟨[], state.world, .stay _ _, opened⟩
        | inr revalidated =>
          rw [revalidated]
          exact ⟨_, _, .move _ _ _ _ _ _ _ _ (common i _ _ _ _ _ (.revalidated state.world)) (.stay _ _), opened⟩
      obtain ⟨_, world, rest, opened⟩ := rested
      obtain ⟨_, next, conn, again, serves⟩ := reinstalls common enters i tenantID served opened
      obtain ⟨middle, run, same, _, others⟩ := walk_reaches (rest.append again)
      refine swaps_revive tenantID stamp state middle _ j run ?_ unrevived
      rw [same, others j apart]
      exact swaps next conn serves
  · intro free labels last run
    have wide := run_mono refines state last labels run
    intro j conn fetch member
    by_contra newer
    have older := le_of_not_gt newer
    refine good_labels (old_keeps calls driver settings tenantID stamp) (fun _ label => label ≠ .swapped tenantID conn fetch)
      ?_ state last labels wide ⟨clock, free⟩ j _ member rfl
    intro _ _ _ _ _ _ _ unburdened moves same
    subst same
    exact unburdened (swapped_old older moves)

theorem final_iff (common : Extends calls driver settings move) (refines : ∀ i world phase label next after, move i world phase label next after →
      Step calls driver settings i world phase label next after) (enters : Enters move)
    (only : calls.getDatabaseForTenant = false)
    (differs : ∀ config, ∃ served, driver.changed (some served) (some (driver.companion served)) config = true) (config : C)
    {labels : List (I × Label T N)} (run : Run (Threads.Step move) start labels state) :
    (∀ earlier i tenantID stamp, labels = earlier ++ [(i, .closedConnection tenantID stamp)] →
      (Unrevived move tenantID stamp state ↔ ∀ j, ¬ Old tenantID stamp state.world.closed (state.phase j))) ∧
    (Quiet state → (Emptied state.world ↔ ∀ tenantID conn, state.world.connections.lookup tenantID = some conn → state.world.late conn = false)) := by
  have wide := run_mono refines start state labels run
  constructor
  · intro _ _ tenantID _ last
    subst last
    obtain ⟨clock, ready⟩ := at_return wide
    exact unrevived_iff common refines enters differs config tenantID clock ready
  · exact quiet_emptied_iff calls driver settings only labels state wide


end LibCommons.Connections
