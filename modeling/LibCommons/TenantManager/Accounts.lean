import LibCommons.TenantManager.Connections

namespace LibCommons.Connections

open Function Option

variable {T C N F I : Type} [DecidableEq T]

inductive Calm : Phase T C F → Prop where
  | idle : Calm .idle
  | front (step) : Calm (.front step)
  | fetchNew (tenantID call) : Calm (.fetchNew tenantID call)
  | got (tenantID conn call) : Calm (.got tenantID conn call)

-- What the steps before a fetch, and those of GetDatabaseForTenant, may do to a manager.
inductive Front (calls : Calls) : World T C N → Phase T C F → Label T N → World T C N → Phase T C F → Prop where
  | pass (world : World T C N) (phase after : Phase T C F) (calm : Calm phase) (onward : Calm after) :
      Front calls world phase .quiet world after
  | begins (world : World T C N) (phase after : Phase T C F) (calm : Calm phase) (onward : Calm after) :
      Front calls world phase .quiet { world with clock := world.clock + 1 } after
  | touches (world : World T C N) (phase after : Phase T C F) (tenantID : T) (now : Int) (calm : Calm phase)
      (onward : Calm after) (held : world.connections.lookup tenantID ≠ none) :
      Front calls world phase .quiet (touch tenantID now world) after
  | plans (world : World T C N) (phase after : Phase T C F) (checked : Table T Int) (revalidateWG : Nat) (spawned : List T)
      (calm : Calm phase) (onward : Calm after) :
      Front calls world phase .quiet { world with lastConnectionsCheck := checked, revalidateWG := revalidateWG, spawned := spawned } after
  | touchesDue (world : World T C N) (phase after : Phase T C F) (tenantID : T) (now : Int) (checked : Table T Int)
      (revalidateWG : Nat) (calm : Calm phase) (onward : Calm after) (held : world.connections.lookup tenantID ≠ none) :
      Front calls world phase .quiet { touch tenantID now world with lastConnectionsCheck := checked, revalidateWG := revalidateWG } after
  | removes (world : World T C N) (phase after : Phase T C F) (tenantID : T) (conn : Nat) (calm : Calm phase)
      (onward : Calm after) (held : world.connections.lookup tenantID = some conn) :
      Front calls world phase .quiet (delete tenantID world) (.closing conn after)
  | closes (world : World T C N) (phase after : Phase T C F) (conn : Nat) (calm : Calm phase) (onward : Calm after) :
      Front calls world phase .quiet world (.closing conn after)
  | evicts (world : World T C N) (phase after : Phase T C F) (tenantID : T) (conn : Nat) (calm : Calm phase)
      (onward : Calm after) (held : world.connections.lookup tenantID = some conn) :
      Front calls world phase .quiet (delete tenantID (endConn conn world)) after
  | dies (world phase conn) : Front calls world phase .quiet (endConn conn world) phase
  | gives (world : World T C N) (phase after : Phase T C F) (call conn : Nat) (database : N) (calm : Calm phase)
      (onward : Calm after) : Front calls world phase (.handle call conn database) world after
  | names (world : World T C N) (phase after : Phase T C F) (tenantID : T) (call conn : Nat) (database : N) (calm : Calm phase)
      (onward : Calm after) (allowed : calls.getDatabaseForTenant = true) :
      Front calls world phase (.handle call conn database) { world with companion := world.companion.insert tenantID database } after

def Step (calls : Calls) (driver : Driver C N) (settings : Settings) (i : I) (world : World T C N) (phase : Phase T C F)
    (label : Label T N) (next : World T C N) (after : Phase T C F) : Prop :=
  Core calls driver settings i world phase label next after ∨ Front calls world phase label next after

def Phase.holds : Phase T C F → Nat → Prop
  | .caching _ conn _ _ _, n | .canStore _ conn _ _, n | .swap _ conn _ _, n => n = conn
  | .closing conn after, n => n = conn ∨ after.holds n
  | .closingAll conns, n => n ∈ conns
  | _, _ => False

section

def Rests (world : World T C N) (conn : Nat) : Prop := world.ended conn = true ∨ ∃ tenantID, world.connections.lookup tenantID = some conn

variable {world : World T C N} {conn : Nat}

theorem rests_end (closed : Nat) (rest : Rests world conn) : Rests (endConn closed world) conn := by
  cases rest with
  | inl ended =>
    refine .inl ?_
    by_cases same : conn = closed
    · simp [endConn, same]
    · simpa [endConn, same] using ended
  | inr held => exact .inr held

theorem rests_ended (world : World T C N) (conn : Nat) : Rests (endConn conn world) conn := .inl (update_self ..)

theorem rests_delete (tenantID : T) (rest : Rests world conn) :
    Rests (delete tenantID world) conn ∨ world.connections.lookup tenantID = some conn := by
  cases rest with
  | inl ended => exact .inl (.inl ended)
  | inr held =>
    obtain ⟨owner, held⟩ := held
    by_cases same : owner = tenantID
    · exact .inr (same ▸ held)
    refine .inl (.inr ⟨owner, ?_⟩)
    rw [delete]
    dsimp only
    rwa [AList.lookup_erase_ne same]

theorem rests_install (driver) (tenantID : T) (stored : Nat) (config : C) (fetch : Nat) (now : Int) (rest : Rests world conn) :
    Rests (install driver tenantID stored config fetch now world) conn ∨ world.connections.lookup tenantID = some conn := by
  cases rest with
  | inl ended => exact .inl (.inl ended)
  | inr held =>
    obtain ⟨owner, held⟩ := held
    by_cases same : owner = tenantID
    · exact .inr (same ▸ held)
    refine .inl (.inr ⟨owner, ?_⟩)
    rw [install]
    dsimp only
    rwa [AList.lookup_insert_ne same]

theorem rests_installed (driver : Driver C N) (world : World T C N) (tenantID : T) (conn : Nat) (config : C) (fetch : Nat)
    (now : Int) : Rests (install driver tenantID conn config fetch now world) conn :=
  .inr ⟨tenantID, AList.lookup_insert _⟩

variable (settings : Settings) (order : List (Sigma fun _ : T => Int)) (now : Int)

theorem evict_cases (world : World T C N) : evictLRU settings order now world = world ∨
      ∃ candidateID conn, world.connections.lookup candidateID = some conn ∧
        evictLRU settings order now world = delete candidateID (endConn conn world) := by
  rw [evictLRU]
  cases findLRUEvictionCandidate world.connections.entries.length settings.maxConnections order settings.idleTimeout now with
  | none => exact .inl rfl
  | some candidateID =>
    dsimp only
    cases held : world.connections.lookup candidateID with
    | none => exact .inl rfl
    | some conn => exact .inr ⟨candidateID, conn, held, rfl⟩

theorem evict_conns (world : World T C N) : (evictLRU settings order now world).conns = world.conns := by
  cases evict_cases settings order now world with
  | inl same => rw [same]
  | inr evicted =>
    obtain ⟨_, _, _, same⟩ := evicted
    rw [same]
    rfl

variable {tenantID : T}

theorem evict_lookup {settings} {order} {now} (held : (evictLRU settings order now world).connections.lookup tenantID = some conn) :
    world.connections.lookup tenantID = some conn := by
  cases evict_cases settings order now world with
  | inl same => rwa [same] at held
  | inr evicted =>
    obtain ⟨candidateID, _, _, same⟩ := evicted
    rw [same, delete] at held
    dsimp only [endConn] at held
    by_cases mine : tenantID = candidateID
    · rw [mine, AList.lookup_erase] at held
      cases held
    · rwa [AList.lookup_erase_ne mine] at held

theorem evict_ended (ended : world.ended conn = true) : (evictLRU settings order now world).ended conn = true := by
  cases evict_cases settings order now world with
  | inl same => rwa [same]
  | inr evicted =>
    obtain ⟨_, taken, _, same⟩ := evicted
    rw [same]
    by_cases mine : conn = taken
    · simp [delete, endConn, mine]
    · simpa [delete, endConn, mine] using ended

theorem cached_none {driver} (missing : cached driver tenantID world = none)
    (held : world.connections.lookup tenantID = some conn) : world.ended conn = true := by
  rw [cached, held] at missing
  simp only [Option.filter_some, ite_eq_right_iff, reduceCtorEq, imp_false] at missing
  cases ended : world.ended conn with
  | true => rfl
  | false => simp [ended] at missing

theorem rests_evict (rest : Rests world conn) : Rests (evictLRU settings order now world) conn := by
  cases evict_cases settings order now world with
  | inl same => rwa [same]
  | inr evicted =>
    obtain ⟨candidateID, taken, held, same⟩ := evicted
    rw [same]
    cases rests_delete candidateID (rests_end taken rest) with
    | inl kept => exact kept
    | inr mine =>
      have equal : conn = taken := some.inj (mine.symm.trans held)
      exact .inl (equal ▸ update_self ..)

theorem lookup_values {table} (held : table.lookup tenantID = some conn) : conn ∈ values table :=
  List.mem_map.mpr ⟨⟨tenantID, conn⟩, AList.mem_lookup_iff.mp held, rfl⟩

end

section

-- What a move does to the connections opened so far and to those it opens.
def Hands (world : World T C N) (phase : Phase T C F) (next : World T C N) (after : Phase T C F) : Prop :=
  ∀ conn, conn < next.conns.length →
    after.holds conn ∨ conn < world.conns.length ∧ (Rests world conn ∨ phase.holds conn → Rests next conn ∨ after.holds conn)

variable {phase : Phase T C F}

omit [DecidableEq T] in
theorem calm_holds (calm : Calm phase) (conn : Nat) : ¬ phase.holds conn := by
  cases calm <;> exact id

variable {world next : World T C N} {after : Phase T C F}

theorem hands_kept (same : next.conns = world.conns) (kept : ∀ conn, Rests world conn → Rests next conn ∨ after.holds conn)
    (mine : ∀ conn, phase.holds conn → Rests next conn ∨ after.holds conn) : Hands world phase next after := by
  intro conn exists'
  rw [same] at exists'
  exact .inr ⟨exists', fun before => before.elim (kept conn) (mine conn)⟩

theorem hands_plain (after) (same : next.conns = world.conns) (ended : next.ended = world.ended)
    (connections : next.connections = world.connections) (free : ∀ conn, ¬ phase.holds conn) : Hands world phase next after := by
  apply hands_kept same
  · intro conn rest
    rw [Rests, ended, connections]
    exact .inl rest
  · intro conn holds
    exact absurd holds (free conn)

theorem hands_open (config : C) (free : ∀ conn, ¬ phase.holds conn) (mine : after.holds world.conns.length) :
    Hands world phase (openConn config world) after := by
  intro conn exists'
  have within : conn < world.conns.length + 1 := by simpa [openConn] using exists'
  by_cases newest : conn = world.conns.length
  · exact .inl (newest ▸ mine)
  refine .inr ⟨by omega, ?_⟩
  rintro (rest | holds)
  · refine .inl (rest.imp_left ?_)
    intro ended
    simpa [openConn, newest] using ended
  · exact absurd holds (free conn)

theorem hands_discarded (inside after) {conn} (same : next.conns = world.conns)
    (kept : ∀ other, Rests world other → Rests next other ∨ other = conn) (mine : ∀ other, phase.holds other → other = conn) :
    Hands world phase (discard inside conn next) (.discarding inside conn after) := by
  intro other exists'
  have within : other < world.conns.length := by
    cases inside <;> simpa [discard, endConn, same] using exists'
  refine .inr ⟨within, ?_⟩
  intro before
  have moved : Rests next other ∨ other = conn := before.elim (kept other) fun holds => .inr (mine other holds)
  cases inside with
  | true =>
    refine .inl (moved.elim (rests_end conn) ?_)
    intro closed
    exact closed ▸ rests_ended next conn
  | false => exact moved.imp id Or.inl

variable {calls : Calls} {label : Label T N}

theorem core_hands {driver : Driver C N} {settings : Settings} {i : I}
    (moves : Core calls driver settings i world phase label next after) : Hands world phase next after := by
  cases moves with
  | connects tenantID config | reconnects tenantID config => exact hands_open config (fun _ => id) rfl
  | cacheClosed | cacheExcess =>
    exact hands_discarded _ _ rfl (fun _ rest => .inl rest) fun _ => id
  | cacheInstalls tenantID conn config fetch _ order now _ missing =>
    refine hands_kept (evict_conns settings order now world) ?_ ?_
    · intro other rest
      have evicted := rests_evict settings order now rest
      cases rests_install driver tenantID conn config fetch now evicted with
      | inl kept => exact .inl kept
      | inr replaced =>
        have held := evict_lookup replaced
        exact .inl (.inl (evict_ended settings order now (cached_none missing held)))
    · intro other holds
      exact .inl (holds ▸ rests_installed driver _ tenantID conn config fetch now)
  | cannotStore =>
    exact hands_kept rfl (fun _ rest => .inl rest) (fun _ holds => .inr (.inl holds))
  | canStore =>
    exact hands_kept rfl (fun _ rest => .inl rest) (fun _ holds => .inr holds)
  | swap tenantID conn config fetch now =>
    refine hands_kept rfl ?_ ?_
    · intro other rest
      cases rests_install driver tenantID conn config fetch now rest with
      | inl kept => exact .inl kept
      | inr old =>
        rw [old]
        exact .inr (.inl rfl)
    · intro other holds
      exact .inl (holds ▸ rests_installed driver world tenantID conn config fetch now)
  | closeHeld tenantID _ _ _ held =>
    refine hands_discarded _ _ rfl ?_ ?_
    · intro other rest
      exact (rests_delete tenantID rest).imp_right fun mine => some.inj (mine.symm.trans held)
    · intro other holds
      exact holds.elim
  | close =>
    refine hands_kept rfl ?_ ?_
    · rintro other (ended | ⟨_, held⟩)
      · refine .inl (.inl ?_)
        simp [closeAll, ended]
      have listed := lookup_values held
      cases inside : driver.closesInside with
      | true =>
        refine .inl (.inl ?_)
        simp [closeAll, inside, listed]
      | false => exact .inr (by simpa [Phase.holds] using listed)
    · intro other holds
      exact holds.elim
  | closeNext conn =>
    refine hands_kept rfl ?_ ?_
    · intro other rest
      exact .inl (rests_end conn rest)
    intro other holds
    cases holds with
    | head => exact .inl (rests_ended world conn)
    | tail _ later => exact .inr later
  | closing conn =>
    refine hands_kept rfl ?_ ?_
    · intro other rest
      exact .inl (rests_end conn rest)
    · rintro other (rfl | holds)
      · exact .inl (rests_ended world other)
      · exact .inr holds
  | closedAll => exact hands_plain _ rfl rfl rfl (fun _ holds => by cases holds)
  | _ => exact hands_plain _ rfl rfl rfl (fun _ => id)

theorem front_hands (moves : Front calls world phase label next after) : Hands world phase next after := by
  cases moves with
  | removes _ tenantID _ calm _ held =>
    refine hands_kept rfl ?_ ?_
    · intro other rest
      exact (rests_delete tenantID rest).imp_right fun mine => .inl (some.inj (mine.symm.trans held))
    · intro other holds
      exact absurd holds (calm_holds calm other)
  | evicts _ tenantID conn calm _ held =>
    refine hands_kept rfl ?_ ?_
    · intro other rest
      cases rests_delete tenantID (rests_end conn rest) with
      | inl kept => exact .inl kept
      | inr mine =>
        have equal : other = conn := some.inj (mine.symm.trans held)
        exact .inl (.inl (equal ▸ update_self ..))
    · intro other holds
      exact absurd holds (calm_holds calm other)
  | dies conn =>
    refine hands_kept rfl ?_ ?_
    · intro other rest
      exact .inl (rests_end conn rest)
    · intro _ holds
      exact .inr holds
  | pass _ calm | begins _ calm | touches _ tenantID now calm | plans _ checked count spawned calm | closes after conn calm
  | gives _ _ _ _ calm => exact hands_plain _ rfl rfl rfl (calm_holds calm)
  | touchesDue _ tenantID now checked count calm | names _ tenantID call conn database calm =>
    exact hands_plain _ rfl rfl rfl (calm_holds calm)

end

section

-- The last access and the companion map have the keys of the connection map.
structure Tidy (world : World T C N) : Prop where
  accessed : ∀ tenantID, world.lastAccessed.lookup tenantID = none ↔ world.connections.lookup tenantID = none
  companion : ∀ tenantID, world.companion.lookup tenantID = none ↔ world.connections.lookup tenantID = none

variable {world : World T C N}

theorem tidy_delete (tenantID : T) (tidy : Tidy world) : Tidy (delete tenantID world) := by
  refine ⟨?_, ?_⟩
  · intro other
    by_cases same : other = tenantID
    · subst same
      simp [delete]
    · simpa [delete, AList.lookup_erase_ne same] using tidy.accessed other
  · intro other
    by_cases same : other = tenantID
    · subst same
      simp [delete]
    · simpa [delete, AList.lookup_erase_ne same] using tidy.companion other

theorem tidy_install (driver) (tenantID : T) (conn : Nat) (config : C) (fetch : Nat) (now : Int)
    (tidy : Tidy world) : Tidy (install driver tenantID conn config fetch now world) := by
  refine ⟨?_, ?_⟩
  · intro other
    by_cases same : other = tenantID
    · simp [install, same]
    · simpa [install, AList.lookup_insert_ne same] using tidy.accessed other
  intro other
  by_cases same : other = tenantID
  · simp [install, same]
  · simpa [install, AList.lookup_insert_ne same] using tidy.companion other

variable {tenantID : T}

theorem tidy_touch (now : Int) (tidy : Tidy world) (held : world.connections.lookup tenantID ≠ none) : Tidy (touch tenantID now world) := by
  refine ⟨?_, tidy.companion⟩
  intro other
  by_cases same : other = tenantID
  · subst same
    simp [touch, held]
  · simpa [touch, AList.lookup_insert_ne same] using tidy.accessed other

theorem tidy_evict (settings order) (now : Int) (tidy : Tidy world) : Tidy (evictLRU settings order now world) := by
  cases evict_cases settings order now world with
  | inl same => rwa [same]
  | inr evicted =>
    obtain ⟨candidateID, _, _, same⟩ := evicted
    rw [same]
    exact tidy_delete candidateID ⟨tidy.accessed, tidy.companion⟩

variable {driver : Driver C N}

theorem cached_held {conn} (found : cached driver tenantID world = some conn) : world.connections.lookup tenantID = some conn :=
  Option.eq_some_of_filter_eq_some found

variable {calls : Calls} {settings : Settings} {i : I} {next : World T C N} {phase after : Phase T C F} {label : Label T N}

theorem core_tidy (tidy : Tidy world) (moves : Core calls driver settings i world phase label next after) : Tidy next := by
  have discards : ∀ (inside : Bool) (conn : Nat) (world : World T C N), Tidy world → Tidy (discard inside conn world) := by
    intro inside conn world tidy
    cases inside <;> exact ⟨tidy.accessed, tidy.companion⟩
  cases moves with
  | cacheClosed _ conn => exact discards _ conn world tidy
  | cacheExcess _ conn _ _ _ other now _ held =>
    apply discards _ conn _ (tidy_touch now tidy _)
    rw [cached_held held]
    exact Option.some_ne_none other
  | cacheInstalls tenantID conn config fetch _ order now =>
    exact tidy_install driver tenantID conn config fetch now (tidy_evict settings order now tidy)
  | swap tenantID conn config fetch now =>
    have installed := tidy_install driver tenantID conn config fetch now tidy
    exact ⟨installed.accessed, installed.companion⟩
  | closeHeld tenantID _ _ conn => exact discards _ conn _ (tidy_delete tenantID tidy)
  | close => exact ⟨fun tenantID => by simp [closeAll], fun tenantID => by simp [closeAll]⟩
  | _ => exact ⟨tidy.accessed, tidy.companion⟩

theorem front_tidy (calls : Calls) (only : calls.getDatabaseForTenant = false) (world next : World T C N)
    (phase after : Phase T C F) (label : Label T N) (tidy : Tidy world) (moves : Front calls world phase label next after) :
    Tidy next := by
  cases moves with
  | touches _ _ now _ _ held => exact tidy_touch now tidy held
  | touchesDue _ _ now _ _ _ _ held =>
    have touched := tidy_touch now tidy held
    exact ⟨touched.accessed, touched.companion⟩
  | removes _ tenantID => exact tidy_delete tenantID tidy
  | evicts _ tenantID =>
    exact tidy_delete tenantID ⟨tidy.accessed, tidy.companion⟩
  | names _ _ _ _ _ _ _ allowed => cases only.symm.trans allowed
  | _ => exact ⟨tidy.accessed, tidy.companion⟩

def Late (world : World T C N) : Prop :=
  world.closed = true → ∀ tenantID conn, world.connections.lookup tenantID = some conn → world.late conn = true

theorem late_fewer (world next : World T C N) (closed : next.closed = world.closed) (late : next.late = world.late)
    (fewer : ∀ tenantID conn, next.connections.lookup tenantID = some conn → world.connections.lookup tenantID = some conn)
    (before : Late world) : Late next := by
  intro shut tenantID conn held
  rw [late]
  rw [closed] at shut
  exact before shut tenantID conn (fewer tenantID conn held)

theorem delete_lookup (world : World T C N) (tenantID other : T) (conn : Nat)
    (held : (delete tenantID world).connections.lookup other = some conn) : world.connections.lookup other = some conn := by
  rw [delete] at held
  dsimp only at held
  by_cases same : other = tenantID
  · rw [same, AList.lookup_erase] at held
    cases held
  · rwa [AList.lookup_erase_ne same] at held

theorem core_late (late : Late world) (moves : Core calls driver settings i world phase label next after) : Late next := by
  have discards : ∀ (inside : Bool) (conn : Nat) (world : World T C N), Late world → Late (discard inside conn world) := by
    intro inside conn world late
    cases inside <;> exact late
  cases moves with
  | cacheClosed _ conn => exact discards _ conn world late
  | cacheExcess tenantID conn _ _ _ _ now => exact discards _ conn (touch tenantID now world) late
  | cacheInstalls _ _ _ _ _ order now opened =>
    intro closed
    have shut : (evictLRU settings order now world).closed = world.closed := by
      cases evict_cases settings order now world with
      | inl same => rw [same]
      | inr evicted =>
        obtain ⟨_, _, _, same⟩ := evicted
        rw [same]
        rfl
    cases (shut.trans opened).symm.trans closed
  | swap tenantID conn =>
    intro closed other held found
    change world.closed = true at closed
    dsimp only [swap, install] at found ⊢
    by_cases same : other = tenantID
    · rw [same, AList.lookup_insert] at found
      cases found
      rw [update_self, closed, Bool.or_true]
    rw [AList.lookup_insert_ne same] at found
    have before := late closed other held found
    by_cases mine : held = conn
    · rw [mine, update_self, closed, Bool.or_true]
    · rwa [update_of_ne mine]
  | closeHeld tenantID _ _ conn =>
    exact discards _ conn _ (late_fewer world _ rfl rfl (delete_lookup world tenantID) late)
  | close =>
    intro _ _ _ held
    cases held
  | _ => exact late

theorem front_late (late : Late world) (moves : Front calls world phase label next after) : Late next := by
  cases moves with
  | removes _ tenantID => exact late_fewer world _ rfl rfl (delete_lookup world tenantID) late
  | evicts _ tenantID conn =>
    exact late_fewer world _ rfl rfl (delete_lookup (endConn conn world) tenantID) late
  | _ => exact late

end

variable [DecidableEq I]

structure Sound (state : State T C N F I) : Prop where
  tidy : Tidy state.world
  late : Late state.world
  accounted : Threads.Accounted (fun world conn => conn < world.conns.length) Rests Phase.holds state

variable (calls : Calls) (driver : Driver C N) (settings : Settings)

theorem sound_step (only : calls.getDatabaseForTenant = false) (state : State T C N F I) (label : I × Label T N)
    (next : State T C N F I) (sound : Sound state) (step : Threads.Step (Step calls driver settings) state label next) :
    Sound next := by
  refine ⟨?_, ?_, Threads.accounted_step ?_ sound.accounted step⟩
  · cases step with
    | move _ label _ _ moves =>
      exact moves.elim (core_tidy sound.tidy) (front_tidy calls only _ _ _ _ label sound.tidy)
  · cases step with
    | move _ _ _ _ moves =>
      exact moves.elim (core_late sound.late) (front_late sound.late)
  · intro _ _ _ _ _ _ moves
    exact moves.elim (core_hands) (front_hands)

theorem run_sound (only : calls.getDatabaseForTenant = false) (labels : List (I × Label T N)) (state : State T C N F I)
    (run : Run (Threads.Step (Step calls driver settings)) start labels state) : Sound state := by
  apply Run.invariant Sound (sound_step calls driver settings only) start state labels run
  refine ⟨⟨fun tenantID => by simp [start], fun tenantID => by simp [start]⟩, ?_, ?_⟩
  · intro closed
    cases closed
  · intro conn exists'
    exact absurd exists' (Nat.not_lt_zero conn)

omit [DecidableEq I] in
theorem sound_rests {state : State T C N F I} (sound : Sound state) (idle : ∀ i, state.phase i = .idle) :
    ∀ conn, conn < state.world.conns.length → Rests state.world conn := by
  intro conn opened
  refine (sound.accounted conn opened).resolve_right ?_
  intro ⟨i, holds⟩
  rw [idle i] at holds
  exact holds

omit [DecidableEq I] in
theorem empty_of_lookup {V : Type} {table : Table T V} (none : ∀ tenantID, table.lookup tenantID = none) : table = ∅ := by
  apply AList.ext
  apply List.eq_nil_iff_forall_not_mem.mpr
  intro entry member
  have found : table.lookup entry.1 = some entry.2 := AList.mem_lookup_iff.mpr member
  rw [none entry.1] at found
  cases found

theorem quiet_emptied_iff (only : calls.getDatabaseForTenant = false) (labels : List (I × Label T N)) (state : State T C N F I)
    (run : Run (Threads.Step (Step calls driver settings)) start labels state) (quiet : Quiet state) :
    Emptied state.world ↔ ∀ tenantID conn, state.world.connections.lookup tenantID = some conn → state.world.late conn = false := by
  obtain ⟨tidy, late, accounted⟩ := run_sound calls driver settings only labels state run
  obtain ⟨closed, _, idle⟩ := quiet
  constructor
  · intro emptied tenantID conn held
    rw [emptied.connections] at held
    cases held
  intro early
  have none : ∀ tenantID, state.world.connections.lookup tenantID = none := by
    intro tenantID
    cases held : state.world.connections.lookup tenantID with
    | none => rfl
    | some conn => cases (early tenantID conn held).symm.trans (late closed tenantID conn held)
  refine ⟨empty_of_lookup none, ?_, ?_, ?_⟩
  · exact empty_of_lookup fun tenantID => (tidy.companion tenantID).mpr (none tenantID)
  · exact empty_of_lookup fun tenantID => (tidy.accessed tenantID).mpr (none tenantID)
  · intro conn exists'
    cases accounted conn exists' with
    | inl rests =>
      cases rests with
      | inl ended => exact ended
      | inr held =>
        obtain ⟨tenantID, held⟩ := held
        cases (none tenantID).symm.trans held
    | inr holder =>
      obtain ⟨i, holds⟩ := holder
      rw [idle i] at holds
      exact holds.elim

end LibCommons.Connections
