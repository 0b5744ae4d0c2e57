import LibCommons.TenantManager.Caches

namespace LibCommons.TenantCaches

open Function Threads Option

variable {S I : Type}

section

def live (now : Int) (held : Option Entry) : Option Config := (held.filter fun entry => !entry.isExpired now).map Entry.config

theorem live_some (now : Int) (held config) :
    live now held = some config ↔ ∃ entry, held = some entry ∧ entry.isExpired now = false ∧ entry.config = config := by
  cases held with
  | none => simp [live]
  | some entry =>
    cases expired : entry.isExpired now with
    | true | false => simp [live, expired]

variable {now : Int} {config : Config}

theorem live_later {later} (passes : now ≤ later) {held} (read : live later held = some config) : live now held = some config := by
  obtain ⟨entry, found, fresh, same⟩ := (live_some later held config).mp read
  refine (live_some now held config).mpr ⟨entry, found, ?_, same⟩
  cases moment : entry.expiresAt with
  | none => simp [Entry.isExpired, moment]
  | some =>
    simp only [Entry.isExpired, moment, Option.any_some, decide_eq_false_iff_not] at fresh ⊢
    omega

theorem live_held {other} {expiresAt} (read : live now (some ⟨config, expiresAt⟩) = some other) : other = config := by
  obtain ⟨_, found, _, same⟩ := (live_some now _ other).mp read
  obtain rfl := some.inj found
  exact same.symm

theorem cached_live (service : S) (world : World S I) : getCachedTenantConfig service world = live world.now (world.configs service) := rfl

end

section

variable (removal : Nat)

theorem clean_tick (world : World S I) (now : Int) (later : world.now ≤ now) (clean : Clean removal world) :
    Clean removal { world with now := now } where
  tenant := fun config hit => clean.tenant config (live_later later hit)
  configs := fun service config hit => clean.configs service config (live_later later hit)

theorem clean_delete (world : World S I) (clean : Clean removal world) : Clean removal (TenantCache.delete world) where
  tenant := by
    intro _ hit
    cases hit
  configs := clean.configs

theorem clean_set (world : World S I) (config : Config) (ttl : Int) (fresh : ¬ Stale removal config)
    (clean : Clean removal world) : Clean removal (TenantCache.set config ttl world) where
  tenant := by
    intro _ hit
    rw [live_held hit]
    exact fresh
  configs := clean.configs

variable [DecidableEq S]

theorem clean_update (world : World S I) (service : S) (held : Option Entry) (clean : Clean removal world)
    (fresh : ∀ config, live world.now held = some config → ¬ Stale removal config) :
    Clean removal { world with configs := update world.configs service held } where
  tenant := clean.tenant
  configs := by
    intro other config hit
    rw [cached_live] at hit
    dsimp only at hit
    by_cases same : other = service
    · subst same
      rw [update_self] at hit
      exact fresh config hit
    · rw [update_of_ne same] at hit
      exact clean.configs other config hit

theorem clean_invalidate (world : World S I) (service : S) (clean : Clean removal world) : Clean removal (invalidateConfig service world) :=
  clean_update removal world service none clean (by intro config hit; cases hit)

theorem clean_cache (settings : Settings S) (world : World S I) (service : S) (config : Config)
    (fresh : ¬ Stale removal config) (clean : Clean removal world) :
    Clean removal (cacheTenantConfig settings service config world) := by
  apply clean_update removal world service _ clean
  intro _ hit
  rw [live_held hit]
  exact fresh

omit [DecidableEq S] in
theorem given_fresh (load : Bool) (config) (fresh : ¬ Stale removal config) : ¬ Carries removal (Phase.given (S := S) load config) := by
  cases load with
  | false =>
    intro carries
    cases carries
  | true =>
    intro carries
    cases carries with
    | setTenant _ stale => exact fresh stale

omit [DecidableEq S] in
theorem failed_fresh (load : Bool) : ¬ Carries removal (Phase.failed (S := S) load) := by
  cases load with
  | false | true =>
    intro carries
    cases carries

end

variable [DecidableEq S] (settings : Settings S)

theorem keeps_clean (removal : Nat) : Keeps (Move (I := I) settings) (fun world => removal ≤ world.count ∧ Clean removal world)
      (fun _ _ phase => ¬ Carries removal phase) where
  others := fun _ _ _ _ _ _ _ _ _ _ _ fits _ => fits
  own := by
    intro _ world _ _ _ _ held fits moves
    obtain ⟨numbered, clean⟩ := held
    cases moves with
    | tick _ now later => exact ⟨⟨numbered, clean_tick removal world now later clean⟩, fits⟩
    | evictTenant => exact ⟨⟨numbered, clean_delete removal world clean⟩, fits⟩
    | evictConfig _ service => exact ⟨⟨numbered, clean_invalidate removal world service clean⟩, fits⟩
    | get | getMiss => exact ⟨⟨numbered, clean⟩, fits⟩
    | set config ttl built =>
      have fresh : ¬ Stale removal config := by
        rintro ⟨fetch, fetched, _⟩
        rw [built] at fetched
        cases fetched
      exact ⟨⟨numbered, clean_set removal world config ttl fresh clean⟩, fits⟩
    | lock | unlock => exact ⟨⟨numbered, clean.1, clean.2⟩, by rintro ⟨⟩⟩
    | store config =>
      have fresh : ¬ Stale removal config := fun stale => fits (.setTenant config stale)
      exact ⟨⟨numbered, clean_set removal world config _ fresh clean⟩, by rintro ⟨⟩⟩
    | cacheHit load service config hit =>
      exact ⟨⟨numbered, clean⟩, given_fresh removal load config (clean.configs service config hit)⟩
    | refused load | fails load => exact ⟨⟨numbered, clean⟩, failed_fresh removal load⟩
    | send =>
      refine ⟨⟨Nat.le_succ_of_le numbered, clean.1, clean.2⟩, ?_⟩
      intro carries
      cases carries with
      | fetching _ _ _ before => exact absurd before (not_lt.mpr numbered)
    | arrives load service fetch =>
      refine ⟨⟨numbered, clean⟩, ?_⟩
      intro carries
      cases carries with
      | cacheTenantConfig _ _ _ stale =>
        obtain ⟨_, same, before⟩ := stale
        obtain rfl := some.inj same
        exact fits (.fetching load service fetch before)
    | cache load service config =>
      have fresh : ¬ Stale removal config := fun stale => fits (.cacheTenantConfig load service config stale)
      exact ⟨⟨numbered, clean_cache removal settings world service config fresh clean⟩, given_fresh removal load config fresh⟩
    | removeTenant => exact ⟨⟨Nat.le_succ_of_le numbered, clean.1, clean.2⟩, by rintro ⟨⟩⟩
    | delete => exact ⟨⟨numbered, clean_delete removal world clean⟩, by rintro ⟨⟩⟩
    | invalidate => exact ⟨⟨numbered, clean_invalidate removal world _ clean⟩, by rintro ⟨⟩⟩
    | _ => exact ⟨⟨numbered, clean⟩, by rintro ⟨⟩⟩

theorem answered_clean (removal : Nat) (i : I) (world next phase after config)
    (clean : Clean removal world) (moves : Move settings i world phase (.answered config) next after) :
    ¬ Stale removal config := by
  cases moves with
  | get _ hit | recheckHit _ hit => exact clean.tenant config hit
  | cacheHit _ service _ hit => exact clean.configs service config hit

def removalOf : Phase S → Option Nat
  | .deleteTenant removal => some removal
  | .invalidateClientCache removal => some removal
  | .closeConnections removal => some removal
  | _ => none

omit [DecidableEq S] in
@[simp] theorem given_removal (load : Bool) (config : Config) : removalOf (Phase.given (S := S) load config) = none := by
  cases load <;> rfl

omit [DecidableEq S] in
@[simp] theorem failed_removal (load : Bool) : removalOf (Phase.failed (S := S) load) = none := by
  cases load <;> rfl

theorem count_grows (i : I) (world next phase after label) (moves : Move settings i world phase label next after) : world.count ≤ next.count := by
  cases moves with
  | send | removeTenant => exact Nat.le_succ _
  | _ => exact le_rfl

theorem keeps_numbered : Keeps (Move (I := I) settings) (fun _ => True)
      (fun _ world phase => ∀ removal, removalOf phase = some removal → removal < world.count) where
  others := fun i j world phase other label next after _ _ _ fits moves removal found =>
    lt_of_lt_of_le (fits removal found) (count_grows settings i world next phase after label moves)
  own := by
    intro _ world _ _ _ _ _ fits moves
    refine ⟨trivial, ?_⟩
    intro removal found
    cases moves with
    | removeTenant =>
      obtain rfl : world.count = removal := some.inj found
      exact Nat.lt_succ_self _
    | tick | evictTenant | evictConfig | delete | invalidate => exact fits removal found
    | cacheHit | refused | fails | cache => simp at found
    | _ => cases found

theorem removal_numbered (labels state) [DecidableEq I] (run : Run (Step (Move settings)) start labels state) (i : I) (removal : Nat)
    (removes : removalOf (state.phase i) = some removal) : removal < state.world.count := by
  have first : Good (fun _ => True)
      (fun _ world phase => ∀ removal, removalOf phase = some removal → removal < world.count) (start (S := S) (I := I)) :=
    ⟨trivial, by rintro _ _ ⟨⟩⟩
  exact (good_run (keeps_numbered settings) run first).2 i removal removes

section

variable [DecidableEq I]

def Leaks (removal : Nat) (state : State S I) : Prop :=
  ∃ labels last j config, Run (Step (Move settings)) state labels last ∧ (j, Label.answered config) ∈ labels ∧ Stale removal config

theorem leaks_later (removal : Nat) (state middle : State S I) (labels : List (I × Label))
    (front : Run (Step (Move settings)) state labels middle) (leaks : Leaks settings removal middle) :
    Leaks settings removal state := by
  obtain ⟨later, last, j, config, run, answered, stale⟩ := leaks
  exact ⟨labels ++ later, last, j, config, front.append run, List.mem_append_right labels answered, stale⟩

theorem tenant_leaks (removal : Nat) (state) (i : I) (idle : state.phase i = .idle) (config)
    (hit : TenantCache.get state.world = some config) (stale : Stale removal config) : Leaks settings removal state := by
  have walk : Walk (Move settings) i state.world (state.phase i) [.answered config] state.world .idle := by
    rw [idle]
    exact .move _ _ _ _ _ _ _ _ (.get state.world config hit) (.stay _ _)
  obtain ⟨last, run, _⟩ := walk_reaches walk
  exact ⟨_, last, i, config, run, List.mem_singleton_self _, stale⟩

theorem config_leaks (removal : Nat) (state) (i : I) (idle : state.phase i = .idle) (service : S) (config)
    (hit : getCachedTenantConfig service state.world = some config) (stale : Stale removal config) :
    Leaks settings removal state := by
  have walk : Walk (Move settings) i state.world (state.phase i) [.quiet, .answered config] state.world .idle := by
    rw [idle]
    exact .move _ _ _ _ _ _ _ _ (.getTenantConfig state.world service false)
      (.move _ _ _ _ _ _ _ _ (.cacheHit state.world false service config hit) (.stay _ _))
  obtain ⟨last, run, _⟩ := walk_reaches walk
  exact ⟨_, last, i, config, run, by simp, stale⟩

omit [DecidableEq S] [DecidableEq I] in
theorem stored_live (config : Config) (world : World S I) : TenantCache.get (TenantCache.set config settings.loaderTTL world) = some config := by
  have positive := settings.positive
  apply (live_some _ _ _).mpr
  refine ⟨⟨config, some (world.now + settings.loaderTTL)⟩, rfl, ?_, rfl⟩
  have unexpired : ¬ world.now + settings.loaderTTL < world.now := by omega
  exact decide_eq_false unexpired

omit [DecidableEq I] in
theorem cached_live_now (service : S) (config : Config) (world : World S I) :
    getCachedTenantConfig service (cacheTenantConfig settings service config world) = some config := by
  rw [cached_live, live_some]
  simp only [cacheTenantConfig, update_self]
  refine ⟨_, rfl, ?_, rfl⟩
  by_cases positive : 0 < settings.clientTTL
  · simp only [Entry.isExpired, positive, if_true, Option.any_some, decide_eq_false_iff_not]
    omega
  · simp only [Entry.isExpired, positive, if_false, Option.any_none]

omit [DecidableEq S] [DecidableEq I] in
theorem idle_apart {state : State S I} {i j : I} (idle : state.phase i = .idle) {removal : Nat}
    (carries : Carries removal (state.phase j)) : i ≠ j := by
  rintro rfl
  rw [idle] at carries
  cases carries

theorem set_leaks (removal : Nat) (state : State S I) (i j : I) (idle : state.phase i = .idle) (apart : i ≠ j)
    (config : Config) (stands : state.phase j = .setTenant config) (stale : Stale removal config) :
    Leaks settings removal state := by
  have walk : Walk (Move settings) j state.world (state.phase j) [.quiet] (TenantCache.set config settings.loaderTTL state.world) .unlockTenant := by
    rw [stands]
    exact .move _ _ _ _ _ _ _ _ (.store state.world config) (.stay _ _)
  obtain ⟨middle, run, world, _, others⟩ := walk_reaches walk
  apply leaks_later settings removal state middle _ run
  apply tenant_leaks settings removal middle i ((others i apart).trans idle) config _ stale
  rw [world]
  exact stored_live settings config state.world

theorem cache_leaks (removal : Nat) (state : State S I) (i j : I) (idle : state.phase i = .idle) (apart : i ≠ j) (load : Bool)
    (service : S) (config : Config) (stands : state.phase j = .cacheTenantConfig load service config)
    (stale : Stale removal config) : Leaks settings removal state := by
  have walk : Walk (Move settings) j state.world (state.phase j) [.quiet]
      (cacheTenantConfig settings service config state.world) (.given load config) := by
    rw [stands]
    exact .move _ _ _ _ _ _ _ _ (.cache state.world load service config) (.stay _ _)
  obtain ⟨middle, run, world, _, others⟩ := walk_reaches walk
  apply leaks_later settings removal state middle _ run
  apply config_leaks settings removal middle i ((others i apart).trans idle) service config _ stale
  rw [world]
  exact cached_live_now settings service config state.world

theorem fetch_leaks (removal : Nat) (state : State S I) (i j : I) (idle : state.phase i = .idle) (apart : i ≠ j) (load : Bool)
    (service : S) (fetch : Nat) (stands : state.phase j = .fetching load service fetch) (before : fetch < removal) :
    Leaks settings removal state := by
  have walk : Walk (Move settings) j state.world (state.phase j) [.quiet] state.world (.cacheTenantConfig load service ⟨"", some fetch⟩) := by
    rw [stands]
    exact .move _ _ _ _ _ _ _ _ (.arrives state.world load service fetch "") (.stay _ _)
  obtain ⟨middle, run, _, there, others⟩ := walk_reaches walk
  apply leaks_later settings removal state middle _ run
  exact cache_leaks settings removal middle i j ((others i apart).trans idle) apart load service _ there ⟨fetch, rfl, before⟩

theorem carrier_leaks (removal : Nat) (state) (i j : I) (idle : state.phase i = .idle)
    (carries : Carries removal (state.phase j)) : Leaks settings removal state := by
  have apart := idle_apart idle carries
  generalize stands : state.phase j = phase at carries
  cases carries with
  | setTenant config stale => exact set_leaks settings removal state i j idle apart config stands stale
  | cacheTenantConfig load service config stale =>
    exact cache_leaks settings removal state i j idle apart load service config stands stale
  | fetching load service fetch before =>
    exact fetch_leaks settings removal state i j idle apart load service fetch stands before

end

section

variable [DecidableEq I]

theorem removed_returns (state next) (i : I) (removal : Nat) (step : Step (Move settings) state (i, .removed removal) next) :
    removalOf (state.phase i) = some removal ∧ next.phase i = .idle ∧ next.world = state.world := by
  cases step with
  | move _ _ _ _ moves =>
    generalize stands : state.phase i = before at moves
    cases moves with
    | removed => exact ⟨rfl, update_self .., rfl⟩

theorem answered_never_stale (removal : Nat) (state last labels) (run : Run (Step (Move settings)) state labels last)
    (good : Good (fun world => removal ≤ world.count ∧ Clean removal world) (fun _ _ phase => ¬ Carries removal phase) state) (j : I) (config)
    (answered : (j, Label.answered config) ∈ labels) : ¬ Stale removal config := by
  obtain ⟨_, _, rfl⟩ := List.append_of_mem answered
  obtain ⟨_, _, front, step, _⟩ := Run.at_label _ _ _ _ _ run
  have still := good_run (keeps_clean settings removal) front good
  cases step with
  | move _ _ _ _ moves => exact answered_clean settings removal j _ _ _ _ config still.1.2 moves

theorem removed_stays_removed_iff (labels : List (I × Label)) (i : I) (removal : Nat) (state : State S I)
    (run : Run (Step (Move settings)) start (labels ++ [(i, .removed removal)]) state) :
    (∀ later last j config, Run (Step (Move settings)) state later last → (j, Label.answered config) ∈ later →
      ¬ Stale removal config) ↔
    Clean removal state.world ∧ ∀ j, ¬ Carries removal (state.phase j) := by
  obtain ⟨before, _, front, step, rest⟩ := Run.at_label _ _ _ _ _ run
  cases rest with
  | nil =>
    obtain ⟨removes, idle, same⟩ := removed_returns settings before state i removal step
    have numbered := removal_numbered settings labels before front i removal removes
    constructor
    · intro final
      have sealed : ¬ Leaks settings removal state := by
        rintro ⟨later, last, j, config, onward, answered, stale⟩
        exact final later last j config onward answered stale
      refine ⟨⟨?_, ?_⟩, ?_⟩
      · intro config hit stale
        exact sealed (tenant_leaks settings removal state i idle config hit stale)
      · intro service config hit stale
        exact sealed (config_leaks settings removal state i idle service config hit stale)
      · intro j carries
        exact sealed (carrier_leaks settings removal state i j idle carries)
    · rintro ⟨clean, spared⟩ later last j config onward answered
      have counted : removal ≤ state.world.count := by
        rw [same]
        exact numbered.le
      exact answered_never_stale settings removal state last later onward ⟨⟨counted, clean⟩, spared⟩ j config answered

end

theorem hour_positive : (0 : Int) < 3600 := by decide

def hourly : Settings Unit := ⟨(), (), 3600, 3600, hour_positive⟩

def fetchedThenRemoved : List (Nat × Label) :=
  [(1, .quiet), (1, .quiet), (1, .quiet), (1, .quiet), (1, .quiet), (0, .quiet), (0, .quiet), (0, .quiet), (0, .removed 1)]

def removedWorld : World Unit Nat := ⟨0, none, update (update (fun _ => none) () (some ⟨⟨"", some 0⟩, some 3600⟩)) () none, none, 2⟩

theorem removed_run : ∃ phases, Run (Step (Move hourly)) start fetchedThenRemoved ⟨removedWorld, phases⟩ ∧ ∀ j, phases j = .idle := by
  refine ⟨_, go 1 (.getTenantConfig _ () true) <| go 1 (.cacheMiss _ false () true (.inl rfl)) <| go 1 (.send _ false ()) <|
    go 1 (.arrives _ false () 0 "") <|
    go 1 (.cache _ false () ⟨"", some 0⟩) <|
    go 0 (.removeTenant _) <|
    go 0 (.delete _ 1) <|
    go 0 (.invalidate _ 1) <|
    go 0 (.removed _ 1) <| .nil _, ?_⟩
  intro j
  by_cases zero : j = 0 <;> by_cases one : j = 1 <;> simp [update, start, Phase.given, zero, one]

theorem removal_after_fetch_final :
    ∃ state : State Unit Nat, Run (Step (Move hourly)) start fetchedThenRemoved state ∧
      ∀ later last j config, Run (Step (Move hourly)) state later last → (j, Label.answered config) ∈ later →
        ¬ Stale 1 config := by
  obtain ⟨phases, run, idle⟩ := removed_run
  refine ⟨⟨removedWorld, phases⟩, run, ?_⟩
  apply (removed_stays_removed_iff hourly (fetchedThenRemoved.take 8) 0 1 _ run).mpr
  refine ⟨⟨?_, ?_⟩, ?_⟩
  · intro config hit
    simp [TenantCache.get, removedWorld] at hit
  · intro _ _ hit
    simp [getCachedTenantConfig, removedWorld] at hit
  · intro j carries
    dsimp only at carries
    rw [idle j] at carries
    cases carries

-- LoadTenant of goroutine 1 waits for its answer while goroutine 0 removes the tenant.
theorem load_across_removal :
    ∃ (front back : List (Nat × Label)) (returned last : State Unit Nat),
      Run (Step (Move hourly)) start (front ++ [(0, .removed 1)]) returned ∧
      Run (Step (Move hourly)) returned (back ++ [(0, .answered ⟨"", some 0⟩)]) last ∧ Stale 1 ⟨"", some 0⟩ := by
  refine ⟨[(1, .quiet), (1, .quiet), (1, .quiet), (1, .quiet), (1, .quiet), (0, .quiet), (0, .quiet), (0, .quiet)],
    [(1, .quiet), (1, .quiet), (1, .quiet)], _, _,
    go 1 (.loadTenant _) <|
    go 1 (.lock _ rfl) <|
    go 1 (.recheckMiss _ rfl) <|
    go 1 (.cacheMiss _ true () false (.inr rfl)) <|
    go 1 (.send _ true ()) <|
    go 0 (.removeTenant _) <|
    go 0 (.delete _ 1) <|
    go 0 (.invalidate _ 1) <|
    go 0 (.removed _ 1) <| .nil _,
    go 1 (.arrives _ true () 0 "") <|
    go 1 (.cache _ true () ⟨"", some 0⟩) <|
    go 1 (.store _ ⟨"", some 0⟩) <|
    go 0 (.get _ ⟨"", some 0⟩ rfl) <| .nil _, 0, rfl, ?_⟩
  decide

end LibCommons.TenantCaches
