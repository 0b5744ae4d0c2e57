import LibCommons.Outbox.Topology

namespace LibCommons.Topology

open List Go Threads Function

theorem unique_member (seen tenantIDs tenantID) (member : tenantID ∈ uniqueTenantIDs seen tenantIDs) : tenantID ≠ "" ∧ tenantID ∉ seen := by
  induction tenantIDs generalizing seen with
  | nil => cases member
  | cons raw _ ih =>
    rw [uniqueTenantIDs] at member
    by_cases skipped : trimSpace raw = "" ∨ trimSpace raw ∈ seen
    · rw [if_pos skipped] at member
      exact ih seen member
    rw [if_neg skipped] at member
    cases member with
    | head => exact not_or.mp skipped
    | tail _ later =>
      obtain ⟨filled, new⟩ := ih _ later
      exact ⟨filled, not_mem_of_not_mem_cons new⟩

theorem unique_distinct (seen tenantIDs) : (uniqueTenantIDs seen tenantIDs).Nodup := by
  induction tenantIDs generalizing seen with
  | nil => exact nodup_nil
  | cons raw _ ih =>
    rw [uniqueTenantIDs]
    by_cases skipped : trimSpace raw = "" ∨ trimSpace raw ∈ seen
    · rw [if_pos skipped]
      exact ih seen
    rw [if_neg skipped]
    apply nodup_cons.mpr ⟨?_, ih _⟩
    intro again
    exact (unique_member _ _ _ again).2 (mem_cons_self ..)

structure TenantScopes (tenantID : String) (scopes : List TenantDispatchScope) : Prop where
  own : ∀ scope ∈ scopes, scope.tenantID = tenantID
  generic : scopes ≠ [] → ⟨tenantID, ""⟩ ∈ scopes
  distinct : scopes.Nodup

theorem no_scopes (tenantID) : TenantScopes tenantID [] := ⟨by simp, by simp, nodup_nil⟩

theorem generic_scopes (tenantID) : TenantScopes tenantID [⟨tenantID, ""⟩] := by
  refine ⟨?_, ?_, nodup_singleton _⟩
  · intro _ member
    rw [mem_singleton.mp member]
  · intro _
    exact mem_singleton_self _

theorem module_scope_member (toLower config tenantID names seen scope) (member : scope ∈ moduleScopes toLower config tenantID seen names) :
    scope.tenantID = tenantID ∧ scope.poolKey ∈ names := by
  induction names generalizing seen with
  | nil => cases member
  | cons name rest ih =>
    have later : ∀ seen, scope ∈ moduleScopes toLower config tenantID seen rest → scope.tenantID = tenantID ∧ scope.poolKey ∈ name :: rest := by
      intro seen member
      obtain ⟨own, named⟩ := ih seen member
      exact ⟨own, mem_cons_of_mem _ named⟩
    rw [moduleScopes] at member
    cases found : config.getPostgreSQLConfig name with
    | none =>
      rw [found] at member
      exact later _ member
    | some moduleConfig =>
      rw [found] at member
      dsimp only at member
      by_cases same : postgresResourceIdentity toLower moduleConfig ∈ seen
      · rw [if_pos same] at member
        exact later _ member
      rw [if_neg same] at member
      cases member with
      | head => exact ⟨rfl, mem_cons_self ..⟩
      | tail _ member => exact later _ member

theorem module_scopes_distinct (toLower config tenantID) {names}
    (seen) (distinct : names.Nodup) : (moduleScopes toLower config tenantID seen names).Nodup := by
  induction names generalizing seen with
  | nil => exact nodup_nil
  | cons name rest ih =>
    obtain ⟨new, distinct⟩ := nodup_cons.mp distinct
    rw [moduleScopes]
    cases found : config.getPostgreSQLConfig name with
    | none => exact ih _ distinct
    | some moduleConfig =>
      dsimp only
      by_cases same : postgresResourceIdentity toLower moduleConfig ∈ seen
      · rw [if_pos same]
        exact ih _ distinct
      rw [if_neg same]
      apply nodup_cons.mpr ⟨?_, ih _ distinct⟩
      intro again
      exact new (module_scope_member toLower config tenantID rest _ _ again).2

theorem scopes_for_tenant_sound {resolver} {answer} {tenantID} {scopes} (loaded : scopesForTenant resolver answer tenantID = some scopes) :
    TenantScopes tenantID scopes := by
  cases answer with
  | none => cases loaded
  | some config =>
    cases found : config.getPostgreSQLConfig "" with
    | none => simp [scopesForTenant, found] at loaded
    | some =>
      simp only [scopesForTenant, found, Option.bind_eq_bind, Option.bind_some, Option.pure_def, Option.some.injEq] at loaded
      subst loaded
      refine ⟨?_, ?_, ?_⟩
      · intro _ member
        cases member with
        | head => rfl
        | tail _ later => exact (module_scope_member _ _ _ _ _ _ later).1
      · intro _
        exact mem_cons_self ..
      · apply nodup_cons.mpr ⟨?_, module_scopes_distinct _ _ _ _ resolver.modules.distinct⟩
        intro again
        exact resolver.modules.named (module_scope_member _ _ _ _ _ _ again).2

structure Sound (topology : String → List TenantDispatchScope) (ordered : List TenantDispatchScope) : Prop where
  entries : ∀ tenantID, TenantScopes tenantID (topology tenantID)
  blank : topology "" = []
  distinct : ordered.Nodup
  scopes : ∀ scope, scope ∈ ordered ↔ scope ∈ topology scope.tenantID

theorem sound_empty : Sound (fun _ => []) [] := ⟨no_scopes, rfl, nodup_nil, by simp⟩

theorem sound_add {gathered : Gathered} {tenantID : String} {scopes : List TenantDispatchScope}
    (sound : Sound gathered.nextTopology gathered.orderedScopes) (new : gathered.nextTopology tenantID = [])
    (filled : tenantID ≠ "") (owned : TenantScopes tenantID scopes) :
    Sound (gathered.add tenantID scopes).nextTopology (gathered.add tenantID scopes).orderedScopes := by
  by_cases nothing : scopes = []
  · rwa [Gathered.add, if_pos nothing]
  rw [Gathered.add, if_neg nothing]
  have fresh : ∀ scope ∈ gathered.orderedScopes, scope.tenantID ≠ tenantID := by
    intro scope member same
    rw [sound.scopes, same, new] at member
    cases member
  refine ⟨?_, ?_, ?_, ?_⟩
  · intro other
    by_cases mine : other = tenantID
    · subst mine
      simpa using owned
    · simpa [mine] using sound.entries other
  · simpa [filled.symm] using sound.blank
  · apply nodup_append.mpr ⟨sound.distinct, owned.distinct, ?_⟩
    intro scope member other placed same
    exact fresh scope member (same ▸ owned.own other placed)
  · intro scope
    by_cases mine : scope.tenantID = tenantID
    · have missing : scope ∉ gathered.orderedScopes := fun member => fresh scope member mine
      simp [mine, missing]
    · have missing : scope ∉ scopes := fun member => mine (owned.own scope member)
      simp [mine, missing, sound.scopes]

theorem sound_evict {topology} {ordered} (tenantID) (sound : Sound topology ordered) :
    Sound (update topology tenantID []) (ordered.filter fun scope => scope.tenantID ≠ tenantID) := by
  refine ⟨?_, ?_, sound.distinct.filter _, ?_⟩
  · intro other
    by_cases mine : other = tenantID
    · subst mine
      simpa using no_scopes other
    · simpa [mine] using sound.entries other
  · by_cases mine : "" = tenantID
    · simp [mine]
    · simpa [mine] using sound.blank
  · intro scope
    by_cases mine : scope.tenantID = tenantID
    · simp [mine]
    · simp [mine, sound.scopes]

theorem sound_exact {I : Type} {world : World I} (sound : Sound world.topology world.orderedScopes) : Exact world := by
  refine ⟨sound.distinct, ?_⟩
  intro scope
  rw [sound.scopes]
  constructor
  · intro member
    exact ⟨_, member⟩
  · rintro ⟨tenantID, member⟩
    rwa [(sound.entries tenantID).own scope member]

variable {I : Type}

section

structure Pending (remaining : List String) (gathered : Gathered) : Prop where
  sound : Sound gathered.nextTopology gathered.orderedScopes
  distinct : remaining.Nodup
  filled : ∀ tenantID ∈ remaining, tenantID ≠ ""
  ahead : ∀ tenantID ∈ remaining, gathered.nextTopology tenantID = []

structure Holds (world : World I) : Prop where
  sound : Sound world.topology world.orderedScopes
  issued : world.committedRefreshID ≤ world.refreshID

def Fits (world : World I) : Phase → Prop
  | .listTenants refreshID _ | .cachedScopes refreshID _ | .commitAttempt refreshID _ => refreshID ≤ world.refreshID
  | .loading refreshID _ remaining gathered => refreshID ≤ world.refreshID ∧ Pending remaining gathered
  | .cachedTenantScopes refreshID _ tenantID remaining gathered =>
    refreshID ≤ world.refreshID ∧ Pending (tenantID :: remaining) gathered
  | .invalidating invalidationID => invalidationID ≤ world.refreshID
  | .invalidated invalidationID => invalidationID ≤ world.committedRefreshID
  | .evicting tenantID evictionID => evictionID ≤ world.refreshID ∧ trimSpace tenantID = tenantID
  | .evicted tenantID evictionID => evictionID ≤ world.committedRefreshID ∧ trimSpace tenantID = tenantID
  | .checkScope _ begun | .poolForTenant _ begun => begun ≤ world.clock
  | _ => True

theorem pending_add {tenantID : String} {remaining : List String} {gathered : Gathered} {scopes : List TenantDispatchScope}
    (pending : Pending (tenantID :: remaining) gathered) (owned : TenantScopes tenantID scopes) :
    Pending remaining (gathered.add tenantID scopes) := by
  obtain ⟨new, distinct⟩ := nodup_cons.mp pending.distinct
  refine ⟨?_, distinct, ?_, ?_⟩
  · exact sound_add pending.sound (pending.ahead _ (mem_cons_self ..)) (pending.filled _ (mem_cons_self ..)) owned
  · intro other member
    exact pending.filled other (mem_cons_of_mem _ member)
  · intro other member
    have apart : other ≠ tenantID := fun same => new (same ▸ member)
    have ahead := pending.ahead other (mem_cons_of_mem _ member)
    by_cases nothing : scopes = []
    · rwa [Gathered.add, if_pos nothing]
    · rw [Gathered.add, if_neg nothing]
      simpa [apart] using ahead

structure Grows (world next : World I) : Prop where
  issued : world.refreshID ≤ next.refreshID
  committed : world.committedRefreshID ≤ next.committedRefreshID
  clock : world.clock ≤ next.clock

variable {world next : World I} {phase : Phase}

theorem fits_grows (grows : Grows world next) (fits : Fits world phase) : Fits next phase := by
  have issued := grows.issued
  have committed := grows.committed
  have clock := grows.clock
  cases phase <;> simp only [Fits] at fits ⊢ <;> grind

variable {resolver : ModulePoolResolver} {i : I} {after : Phase} {label : Label}

theorem move_grows (moves : Move resolver i world phase label next after) : Grows world next := by
  cases moves with
  | attemptCommits refreshID now newest | commits refreshID now gathered newest =>
    exact ⟨le_refl _, le_of_lt newest, le_refl _⟩
  | invalidates | evicts => exact ⟨le_refl _, le_max_right _ _, le_refl _⟩
  | _ => exact ⟨by simp, by simp, by simp⟩

theorem move_keeps (holds : Holds world) (fits : Fits world phase) (moves : Move resolver i world phase label next after) :
    Holds next ∧ Fits next after := by
  obtain ⟨sound, issued⟩ := holds
  cases moves with
  | takeTicket | invalidate => exact ⟨⟨sound, Nat.le_succ_of_le issued⟩, le_refl _⟩
  | listTenants _ _ tenantIDs =>
    refine ⟨⟨sound, issued⟩, fits, sound_empty, unique_distinct [] tenantIDs, ?_, ?_⟩
    · intro tenantID member
      exact (unique_member [] tenantIDs tenantID member).1
    · intro tenantID _
      rfl
  | listFails | initialized | loadFails | available => exact ⟨⟨sound, issued⟩, fits⟩
  | attemptCommits => exact ⟨⟨sound, fits⟩, trivial⟩
  | defaultTenant =>
    exact ⟨⟨sound, issued⟩, fits.1, pending_add fits.2 (generic_scopes _)⟩
  | load _ _ _ _ _ _ _ _ loaded =>
    exact ⟨⟨sound, issued⟩, fits.1, pending_add fits.2 (scopes_for_tenant_sound loaded)⟩
  | cachedTenantScopes _ _ tenantID =>
    exact ⟨⟨sound, issued⟩, fits.1, pending_add fits.2 (sound.entries tenantID)⟩
  | commits => exact ⟨⟨fits.2.sound, fits.1⟩, trivial⟩
  | invalidates => exact ⟨⟨sound, Nat.max_le.mpr ⟨fits, issued⟩⟩, le_max_left _ _⟩
  | evict raw => exact ⟨⟨sound, Nat.le_succ_of_le issued⟩, le_refl _, trim_idempotent raw⟩
  | evicts tenantID =>
    exact ⟨⟨sound_evict tenantID sound, Nat.max_le.mpr ⟨fits.1, issued⟩⟩, le_max_left _ _, fits.2⟩
  | pool => exact ⟨⟨sound, issued⟩, le_refl _⟩
  | _ => exact ⟨⟨sound, issued⟩, trivial⟩

theorem moves_keep (resolver) : Keeps (Move resolver) (Holds (I := I)) (fun _ world phase => Fits world phase) := by
  refine ⟨?_, ?_⟩
  · intro _ _ _ _ _ _ holds fits moves
    exact move_keeps holds fits moves
  · intro _ _ _ _ _ _ _ _ _ _ _ fits moves
    exact fits_grows (move_grows moves) fits

theorem run_good [DecidableEq I] (resolver : ModulePoolResolver) (labels : List (I × Label)) (state : State I)
    (run : Run (Step (Move resolver)) start labels state) :
    Good Holds (fun _ world phase => Fits world phase) state :=
  good_run (moves_keep resolver) run ⟨⟨sound_empty, le_refl _⟩, fun _ => trivial⟩

end

section

-- No refresh with a ticket of before the eviction can give the tenant scopes.
structure Gone (tenantID : String) (issued returned : Nat) (world : World I) : Prop where
  none : world.topology tenantID = []
  issued : issued ≤ world.refreshID
  returned : returned ≤ world.clock

def Barren (tenantID : String) (issued returned : Nat) (world : World I) : Phase → Prop
  | .listTenants refreshID _ => refreshID ≤ issued → refreshID ≤ world.committedRefreshID ∨ tenantID = ""
  | .loading refreshID _ remaining gathered | .cachedTenantScopes refreshID _ _ remaining gathered =>
    refreshID ≤ issued → refreshID ≤ world.committedRefreshID ∨ (tenantID ∉ remaining ∧ gathered.nextTopology tenantID = [])
  | .poolForTenant scope begun => scope.tenantID = tenantID → begun ≤ returned
  | _ => True

variable {tenantID : String} {issued returned : Nat} {world next : World I} {phase : Phase}

theorem barren_grows (grows : Grows world next) (barren : Barren tenantID issued returned world phase) :
    Barren tenantID issued returned next phase := by
  have committed := grows.committed
  cases phase <;> simp only [Barren] at barren ⊢ <;> grind

theorem add_none {gathered : Gathered} {other : String} {scopes : List TenantDispatchScope}
    (none : gathered.nextTopology tenantID = []) (apart : tenantID = other → scopes = []) :
    (gathered.add other scopes).nextTopology tenantID = [] := by
  by_cases nothing : scopes = []
  · rwa [Gathered.add, if_pos nothing]
  · rw [Gathered.add, if_neg nothing]
    have different : tenantID ≠ other := fun same => nothing (apart same)
    simpa [different] using none

-- A move other than the commit of a refresh begun behind the return.
def Fresh (issued : Nat) (label : Label) : Prop := ∃ refreshID, label = .committed refreshID ∧ issued < refreshID

theorem barren_move {resolver} {i} {after} {label} (gone : Gone tenantID issued returned world) (barren : Barren tenantID issued returned world phase)
    (moves : Move resolver i world phase label next after) (old : ¬ Fresh issued label) :
    Gone tenantID issued returned next ∧ Barren tenantID issued returned next after := by
  obtain ⟨none, issues, returns⟩ := gone
  cases moves with
  | takeTicket =>
    refine ⟨⟨none, Nat.le_succ_of_le issues, returns⟩, ?_⟩
    intro before
    omega
  | listTenants _ _ tenantIDs =>
    refine ⟨⟨none, issues, returns⟩, ?_⟩
    intro before
    refine (barren before).imp_right fun blank => ⟨?_, rfl⟩
    intro member
    exact (unique_member [] tenantIDs tenantID member).1 blank
  | defaultTenant | load =>
    refine ⟨⟨none, issues, returns⟩, ?_⟩
    intro before
    refine (barren before).imp_right ?_
    rintro ⟨absent, bare⟩
    obtain ⟨apart, later⟩ := not_or.mp (mt mem_cons.mpr absent)
    exact ⟨later, add_none bare fun same => absurd same apart⟩
  | loadFails =>
    refine ⟨⟨none, issues, returns⟩, ?_⟩
    intro before
    exact (barren before).imp_right fun empty => ⟨not_mem_of_not_mem_cons empty.1, empty.2⟩
  | cachedTenantScopes =>
    refine ⟨⟨none, issues, returns⟩, ?_⟩
    intro before
    exact (barren before).imp_right fun empty => ⟨empty.1, add_none empty.2 fun same => same ▸ none⟩
  | commits refreshID _ _ newest =>
    have before : refreshID ≤ issued := le_of_not_gt fun later => old ⟨refreshID, rfl, later⟩
    cases barren before with
    | inl older => exact absurd newest (Nat.not_lt_of_le older)
    | inr empty => exact ⟨⟨empty.2, issues, returns⟩, trivial⟩
  | invalidate | evict => exact ⟨⟨none, Nat.le_succ_of_le issues, returns⟩, trivial⟩
  | evictBlank | evicted | pool => exact ⟨⟨none, issues, Nat.le_succ_of_le returns⟩, trivial⟩
  | evicts other =>
    refine ⟨⟨?_, issues, returns⟩, trivial⟩
    by_cases mine : tenantID = other
    · simp [evictTenant, mine]
    · simpa [evictTenant, mine] using none
  | available _ _ routed =>
    refine ⟨⟨none, issues, returns⟩, ?_⟩
    intro same
    have member := routed.2.1
    rw [same, none] at member
    cases member
  | _ => exact ⟨⟨none, issues, returns⟩, trivial⟩

theorem barren_keeps (resolver tenantID) (issued returned : Nat) : Keeps (fun (i : I) world phase label next after =>
        Move resolver i world phase label next after ∧ ¬ Fresh issued label)
      (Gone tenantID issued returned) (fun _ world phase => Barren tenantID issued returned world phase) := by
  refine ⟨?_, ?_⟩
  · intro _ _ _ _ _ _ gone barren moves
    exact barren_move gone barren moves.1 moves.2
  · intro _ _ _ _ _ _ _ _ _ _ _ barren moves
    exact barren_grows (move_grows moves.1) barren

theorem barren_at_return (fits : Fits world phase) (brings : ¬ Brings tenantID world.committedRefreshID phase) :
    Barren tenantID world.refreshID world.clock world phase := by
  cases phase with
  | listTenants refreshID now =>
    intro _
    by_cases newest : world.committedRefreshID < refreshID
    · by_cases blank : tenantID = ""
      · exact .inr blank
      · exact absurd (.listTenants refreshID now newest blank) brings
    · exact .inl (le_of_not_gt newest)
  | loading refreshID now remaining gathered =>
    intro _
    by_cases newest : world.committedRefreshID < refreshID
    · by_cases has : tenantID ∈ remaining ∨ gathered.nextTopology tenantID ≠ []
      · exact absurd (.loading refreshID now remaining gathered newest has) brings
      · obtain ⟨ahead, held⟩ := not_or.mp has
        exact .inr ⟨ahead, not_not.mp held⟩
    · exact .inl (le_of_not_gt newest)
  | cachedTenantScopes refreshID now other remaining gathered =>
    intro _
    by_cases newest : world.committedRefreshID < refreshID
    · by_cases has : tenantID ∈ remaining ∨ gathered.nextTopology tenantID ≠ []
      · exact absurd (.cachedTenantScopes refreshID now other remaining gathered newest has) brings
      · obtain ⟨ahead, held⟩ := not_or.mp has
        exact .inr ⟨ahead, not_not.mp held⟩
    · exact .inl (le_of_not_gt newest)
  | poolForTenant =>
    intro _
    exact fits
  | _ => trivial

theorem gone_fails_closed [DecidableEq I] (resolver) {state : State I}
    (good : Good Holds (fun _ world phase => Fits world phase) state) (none : state.world.topology tenantID = [])
    (brings : ∀ j, ¬ Brings tenantID state.world.committedRefreshID (state.phase j)) :
    FailClosed resolver tenantID state.world.clock state := by
  intro later last j _ _ run same _
  obtain ⟨middle, front, back⟩ := Run.split state last later _ run
  have outcome := good_until (barren_keeps resolver tenantID state.world.refreshID state.world.clock) front
    ⟨⟨none, le_refl _, le_refl _⟩, fun k => barren_at_return (good.2 k) (brings k)⟩
  cases outcome with
  | inl found =>
    obtain ⟨k, _, member, refreshID, rfl, fresh⟩ := found
    exact ⟨k, refreshID, member, fresh⟩
  | inr kept =>
    cases back with
    | cons _ _ _ _ _ first =>
      cases first with
      | move _ _ _ _ moves =>
        have stands := kept.2 j
        cases standing : middle.phase j <;> rw [standing] at moves <;> cases moves
        rw [standing] at stands
        have early := stands same
        omega

end

section

theorem add_keeps (gathered : Gathered) (tenantID other : String) (scopes : List TenantDispatchScope)
    (has : gathered.nextTopology tenantID ≠ []) : (gathered.add other scopes).nextTopology tenantID ≠ [] := by
  by_cases nothing : scopes = []
  · rwa [Gathered.add, if_pos nothing]
  rw [Gathered.add, if_neg nothing]
  by_cases mine : tenantID = other
  · simpa [mine] using nothing
  · simpa [mine] using has

theorem add_brings (gathered : Gathered) (tenantID : String) {scopes} (filled : scopes ≠ []) :
    (gathered.add tenantID scopes).nextTopology tenantID ≠ [] := by
  rw [Gathered.add, if_neg filled]
  simpa using filled

def plainConfig : TenantConfig := ⟨[("", some ⟨"", 0, "", ""⟩)]⟩

variable (resolver : ModulePoolResolver)

theorem plain_loads (tenantID) : ∃ scopes, scopesForTenant resolver (some plainConfig) tenantID = some scopes ∧ scopes ≠ [] :=
  ⟨_, rfl, cons_ne_nil _ _⟩

-- What a refresh can do alone, with the tenant ahead or gathered: commit it.
structure Restores (resolver : ModulePoolResolver) (i : I) (tenantID : String) (world : World I) (phase : Phase)
    (labels : List Label) (last : World I) (final : Phase) : Prop where
  walk : Walk (Move resolver) i world phase labels last final
  restored : last.topology tenantID ≠ []
  issued : last.refreshID = world.refreshID
  clock : last.clock = world.clock
  old : ∀ refreshID, .committed refreshID ∈ labels → refreshID ≤ world.refreshID

theorem restores_first (i : I) (tenantID world last phase after final labels)
    (moves : Move resolver i world phase .quiet world after) (rest : Restores resolver i tenantID world after labels last final) :
    Restores resolver i tenantID world phase (.quiet :: labels) last final := by
  refine ⟨.move _ _ _ _ _ _ _ _ moves rest.walk, rest.restored, rest.issued, rest.clock, ?_⟩
  intro refreshID member
  cases member with
  | tail _ member => exact rest.old refreshID member

theorem loading_restores (i : I) (tenantID : String) (world : World I) (refreshID : Nat) (now : Int) (remaining : List String)
    (gathered : Gathered) (newest : world.committedRefreshID < refreshID) (issued : refreshID ≤ world.refreshID)
    (has : tenantID ∈ remaining ∨ gathered.nextTopology tenantID ≠ []) :
    ∃ labels last final, Restores resolver i tenantID world (.loading refreshID now remaining gathered) labels last final := by
  induction remaining generalizing gathered with
  | nil =>
    cases has with
    | inl member => cases member
    | inr held =>
      refine ⟨[.committed refreshID], _, .unlockRefresh,
        .move _ _ _ _ _ _ _ _ (.commits world refreshID now gathered newest) (.stay _ _), held, rfl, rfl, ?_⟩
      intro _ member
      cases member with
      | head => exact issued
      | tail _ member => cases member
  | cons head rest ih =>
    have carried : ∀ scopes : List TenantDispatchScope, scopes ≠ [] → tenantID ∈ rest ∨ (gathered.add head scopes).nextTopology tenantID ≠ [] := by
      intro scopes filled
      cases has with
      | inl member =>
        cases member with
        | head => exact .inr (add_brings gathered tenantID filled)
        | tail _ later => exact .inl later
      | inr held => exact .inr (add_keeps gathered tenantID head scopes held)
    by_cases plain : head = resolver.defaultTenantID
    · subst plain
      obtain ⟨_, _, _, restores⟩ := ih _ (carried _ (cons_ne_nil _ _))
      exact ⟨_, _, _, restores_first _ _ _ _ _ _ _ _ _ (.defaultTenant world refreshID now rest gathered) restores⟩
    obtain ⟨scopes, loaded, filled⟩ := plain_loads resolver head
    obtain ⟨_, _, _, restores⟩ := ih _ (carried scopes filled)
    exact ⟨_, _, _, restores_first _ _ _ _ _ _ _ _ _ (.load world refreshID now head rest gathered (some plainConfig) scopes plain loaded) restores⟩

variable {tenantID : String}

theorem brings_restores (i : I) {world} {phase} (trimmed : trimSpace tenantID = tenantID)
    (fits : Fits world phase) (brings : Brings tenantID world.committedRefreshID phase) :
    ∃ labels last final, Restores resolver i tenantID world phase labels last final := by
  cases brings with
  | listTenants refreshID now newest filled =>
    have listed : uniqueTenantIDs [] [tenantID] = [tenantID] := by simp [uniqueTenantIDs, trimmed, filled]
    obtain ⟨_, _, _, restores⟩ := loading_restores resolver i tenantID world refreshID now
      (uniqueTenantIDs [] [tenantID]) ⟨fun _ => [], []⟩ newest fits (.inl (by rw [listed]; exact mem_singleton_self _))
    exact ⟨_, _, _, restores_first _ _ _ _ _ _ _ _ _ (.listTenants world refreshID now [tenantID]) restores⟩
  | loading refreshID now remaining gathered newest has =>
    exact loading_restores resolver i tenantID world refreshID now remaining gathered newest fits.1 has
  | cachedTenantScopes refreshID now other remaining gathered newest has =>
    obtain ⟨_, _, _, restores⟩ := loading_restores resolver i tenantID world refreshID now remaining
      (gathered.add other (world.topology other)) newest fits.1 (has.imp_right (add_keeps gathered tenantID other _))
    exact ⟨_, _, _, restores_first _ _ _ _ _ _ _ _ _ (.cachedTenantScopes world refreshID now other remaining gathered) restores⟩

variable {i : I} {state : State I}

theorem held_resolves [DecidableEq I] (trimmed : trimSpace tenantID = tenantID)
    (sound : Sound state.world.topology state.world.orderedScopes) (held : state.world.topology tenantID ≠ [])
    (idle : state.phase i = .idle) :
    ∃ last, Run (Step (Move resolver)) state [(i, .quiet), (i, .quiet), (i, .resolved ⟨tenantID, ""⟩ (state.world.clock + 1))] last := by
  have routed : Routed resolver ⟨tenantID, ""⟩ { state.world with clock := state.world.clock + 1 } := by
    refine ⟨?_, (sound.entries tenantID).generic held, .inl rfl⟩
    rintro rfl
    exact held sound.blank
  have called : Move resolver i state.world .idle .quiet { state.world with clock := state.world.clock + 1 }
      (.checkScope ⟨tenantID, ""⟩ (state.world.clock + 1)) := by
    have call : Move resolver i state.world .idle .quiet _ _ := .pool state.world tenantID ""
    rwa [trimmed] at call
  have walk : Walk (Move resolver) i state.world (state.phase i) [.quiet, .quiet, .resolved ⟨tenantID, ""⟩ (state.world.clock + 1)]
      { state.world with clock := state.world.clock + 1 } .idle := by
    rw [idle]
    exact .move _ _ _ _ _ _ _ _ called (.move _ _ _ _ _ _ _ _ (.available _ _ _ routed) (.move _ _ _ _ _ _ _ _ (.resolved _ _ _) (.stay _ _)))
  obtain ⟨last, run, _⟩ := walk_reaches walk
  exact ⟨last, run⟩

theorem fails_closed_gone [DecidableEq I] {resolver} (trimmed : trimSpace tenantID = tenantID)
    (good : Good Holds (fun _ world phase => Fits world phase) state) (idle : state.phase i = .idle)
    (closed : FailClosed resolver tenantID state.world.clock state) :
    state.world.topology tenantID = [] ∧ ∀ j, ¬ Brings tenantID state.world.committedRefreshID (state.phase j) := by
  constructor
  · by_contra held
    obtain ⟨last, run⟩ := held_resolves resolver trimmed good.1.sound held idle
    obtain ⟨k, refreshID, member, _⟩ := closed [(i, .quiet), (i, .quiet)] last i ⟨tenantID, ""⟩ _ run rfl (Nat.lt_succ_self _)
    simp at member
  · intro j brings
    have other : i ≠ j := by
      rintro rfl
      rw [idle] at brings
      cases brings
    obtain ⟨labels, _, _, restores⟩ := brings_restores resolver j trimmed (good.2 j) brings
    obtain ⟨middle, front, stands, _, others⟩ := walk_reaches restores.walk
    have reached := good_run (moves_keep resolver) front good
    have held : middle.world.topology tenantID ≠ [] := by
      rw [stands]
      exact restores.restored
    obtain ⟨last, back⟩ := held_resolves resolver trimmed reached.1.sound held ((others i other).trans idle)
    have later : state.world.clock < middle.world.clock + 1 := by
      rw [stands, restores.clock]
      exact Nat.lt_succ_self _
    obtain ⟨k, refreshID, member, _⟩ := closed (labels.map (fun label => (j, label)) ++ [(i, .quiet), (i, .quiet)]) last i ⟨tenantID, ""⟩ _
      (by simpa using front.append back) rfl later
    have placed : Label.committed refreshID ∈ labels ∧ j = k := by simpa using member
    have old := restores.old refreshID placed.1
    omega

end

variable [DecidableEq I]

section

-- The ticket that a move's label returns.
def Returns (ticket : Nat) (label : Label) : Prop :=
  label = .invalidated ticket ∨ ∃ tenantID returned, label = .evicted tenantID ticket returned

variable {ticket : Nat}

omit [DecidableEq I] in
theorem ended_snoc {past : List (I × Label)} {label : I × Label} (ended : Ended ticket (past ++ [label])) :
    Ended ticket past ∨ Returns ticket label.2 := by
  obtain ⟨i, invalidated | ⟨tenantID, returned, evicted⟩⟩ := ended
  · cases mem_append.mp invalidated with
    | inl before => exact .inl ⟨i, .inl before⟩
    | inr final => exact .inr (.inl (congrArg Prod.snd (mem_singleton.mp final)).symm)
  · cases mem_append.mp evicted with
    | inl before => exact .inl ⟨i, .inr ⟨tenantID, returned, before⟩⟩
    | inr final => exact .inr (.inr ⟨tenantID, returned, (congrArg Prod.snd (mem_singleton.mp final)).symm⟩)

variable {resolver : ModulePoolResolver}

omit [DecidableEq I] in
theorem returns_committed {i : I} {world next : World I} {phase after : Phase} {label : Label} (fits : Fits world phase)
    (moves : Move resolver i world phase label next after) (returns : Returns ticket label) :
    ticket ≤ next.committedRefreshID := by
  obtain rfl | ⟨_, _, rfl⟩ := returns
  · cases moves with
    | invalidated => exact fits
  · cases moves with
    | evictBlank => exact Nat.zero_le _
    | evicted => exact fits.1

def Closed (labels : List (I × Label)) (state : State I) : Prop := Good Holds (fun _ world phase => Fits world phase) state ∧
    ∀ ticket, Ended ticket labels → ticket ≤ state.world.committedRefreshID

theorem closed_step (resolver : ModulePoolResolver) (past : List (I × Label)) (state : State I) (label : I × Label)
    (next : State I) (closed : Closed past state) (step : Step (Move resolver) state label next) :
    Closed (past ++ [label]) next := by
  refine ⟨good_step (moves_keep resolver) state label next closed.1 step, ?_⟩
  cases step with
  | move i _ _ _ moves =>
    intro ticket ended
    cases ended_snoc ended with
    | inl before =>
      exact le_trans (closed.2 ticket before) (move_grows moves).committed
    | inr returns => exact returns_committed (closed.1.2 i) moves returns

variable {labels : List (I × Label)} {state : State I} (run : Run (Step (Move resolver)) start labels state)

include run

theorem run_closed : Closed labels state := by
  refine Run.history Closed (closed_step resolver) start state labels [] run ⟨run_good resolver [] start (.nil _), ?_⟩
  rintro ticket ⟨i, ended | ⟨tenantID, returned, ended⟩⟩ <;> cases ended

theorem never_revived : NeverRevived labels := by
  rintro front back j refreshID rfl ticket ended
  obtain ⟨before, _, earlier, first, _⟩ := Run.at_label start state front back _ run
  have committed := (run_closed earlier).2 ticket ended
  have newest : before.world.committedRefreshID < refreshID := by
    cases first with
    | move _ _ _ _ moves =>
      cases standing : before.phase j <;> rw [standing] at moves <;> cases moves <;> assumption
  omega

end

theorem at_return {resolver : ModulePoolResolver} {labels : List (I × Label)} {i : I} {tenantID : String}
    {evictionID returned : Nat} {state : State I}
    (run : Run (Step (Move resolver)) start (labels ++ [(i, .evicted tenantID evictionID returned)]) state) :
    trimSpace tenantID = tenantID ∧ state.world.clock = returned ∧ state.phase i = .idle := by
  obtain ⟨before, _, earlier, first, rest⟩ := Run.at_label start state labels [] _ run
  cases rest with
  | nil =>
    have good := run_good resolver labels before earlier
    cases first with
    | move _ _ _ _ moves =>
      have fits := good.2 i
      dsimp only
      rw [Function.update_self]
      cases standing : before.phase i <;> rw [standing] at moves fits <;> cases moves
      · exact ⟨rfl, rfl, rfl⟩
      · exact ⟨fits.2, rfl, rfl⟩

theorem topology_fail_closed_iff (resolver : ModulePoolResolver) (labels : List (I × Label)) (state : State I)
    (run : Run (Step (Move resolver)) start labels state) :
    (∀ front i tenantID evictionID returned, labels = front ++ [(i, .evicted tenantID evictionID returned)] →
      (FailClosed resolver tenantID returned state ↔
        state.world.topology tenantID = [] ∧
          ∀ j, ¬ Brings tenantID state.world.committedRefreshID (state.phase j))) ∧
      NeverRevived labels ∧ Exact state.world := by
  have good := run_good resolver labels state run
  refine ⟨?_, never_revived run, sound_exact good.1.sound⟩
  rintro _ _ _ _ _ rfl
  obtain ⟨trimmed, rfl, idle⟩ := at_return run
  constructor
  · exact fails_closed_gone trimmed good idle
  · rintro ⟨none, brings⟩
    exact gone_fails_closed resolver good none brings

theorem platform_named : "platform" ≠ "" := by decide

def genericOnly : ModulePoolResolver := ⟨"platform", Bindings.none, 60000000000, id, platform_named⟩

def acmeScopes : List TenantDispatchScope := [⟨"acme", ""⟩]

def refreshedThenEvicted : List (Nat × Label) :=
  [(1, .quiet), (1, .quiet), (1, .quiet), (1, .quiet), (1, .quiet), (1, .quiet), (1, .committed 1), (1, .quiet),
    (0, .quiet), (0, .quiet), (0, .evicted "acme" 2 1)]

theorem acme_evicted_fails_closed :
    ∃ state : State Nat, Run (Step (Move genericOnly)) start refreshedThenEvicted state ∧
      FailClosed genericOnly "acme" 1 state ∧ NeverRevived refreshedThenEvicted ∧ Exact state.world := by
  have run : ∃ state : State Nat, Run (Step (Move genericOnly)) start refreshedThenEvicted state ∧
      state.world.topology "acme" = [] ∧ ∀ j, state.phase j = .idle := by
    refine ⟨_, go 1 (.listStale _ 0 rfl) <| go 1 (.lock _ rfl) <| go 1 (.recheckStale _ 0 rfl) <|
      go 1 (.takeTicket _ 0) <| go 1 (.listTenants _ 1 0 ["acme"]) <|
      go 1 (.load _ 1 0 "acme" [] _ (some plainConfig) acmeScopes (by decide) rfl) <|
      go 1 (.commits _ 1 0 _ (by decide)) <| go 1 (.unlock _) <|
      go 0 (.evict _ "acme" (by decide)) <| go 0 (.evicts _ "acme" 2) <|
      go 0 (.evicted _ "acme" 2) <| .nil _, rfl, ?_⟩
    intro j
    by_cases zero : j = 0 <;> by_cases one : j = 1 <;> simp [update, start, zero, one]
  obtain ⟨state, run, none, idle⟩ := run
  obtain ⟨closed, revived, listed⟩ := topology_fail_closed_iff genericOnly refreshedThenEvicted state run
  refine ⟨state, run, (closed (refreshedThenEvicted.take 10) 0 "acme" 2 1 rfl).mpr ⟨none, ?_⟩, revived, listed⟩
  intro j brings
  rw [idle j] at brings
  cases brings

-- A refresh takes a later ticket, gathers before the eviction is done and commits behind its return.
def overtakenEviction : List (Nat × Label) :=
  [(0, .quiet), (1, .quiet), (1, .quiet), (1, .quiet), (1, .quiet), (1, .quiet), (1, .quiet), (0, .quiet), (0, .evicted "acme" 1 1)]

theorem overtaken_eviction_undone :
    ∃ state : State Nat, Run (Step (Move genericOnly)) start overtakenEviction state ∧
      ¬ FailClosed genericOnly "acme" 1 state := by
  refine ⟨_, go 0 (.evict _ "acme" (by decide)) <| go 1 (.listStale _ 0 rfl) <|
    go 1 (.lock _ rfl) <| go 1 (.recheckStale _ 0 rfl) <| go 1 (.takeTicket _ 0) <|
    go 1 (.listTenants _ 2 0 ["acme"]) <|
    go 1 (.load _ 2 0 "acme" [] _ (some plainConfig) acmeScopes (by decide) rfl) <|
    go 0 (.evicts _ "acme" 1) <| go 0 (.evicted _ "acme" 1) <| .nil _, ?_⟩
  intro closed
  have routed : Routed genericOnly ⟨"acme", ""⟩
      ⟨some 1, update (fun _ => []) "acme" acmeScopes, acmeScopes, 0, true, 2, 2, 2⟩ :=
    ⟨by decide, by decide, .inl rfl⟩
  obtain ⟨k, refreshID, member, fresh⟩ := closed [(1, .committed 2), (0, .quiet), (0, .quiet)] _ 0 ⟨"acme", ""⟩ 2
    (go 1 (.commits _ 2 0 _ (by decide)) <| go 0 (.pool _ "acme" "") <|
      go 0 (.available _ _ _ routed) <| go 0 (.resolved _ ⟨"acme", ""⟩ 2) <| .nil _) rfl (by decide)
  obtain ⟨_, rfl⟩ : k = 1 ∧ refreshID = 2 := by simpa using member
  exact absurd fresh (by decide)

end LibCommons.Topology
