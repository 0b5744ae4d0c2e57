import LibCommons.TenantManager.Consumer

namespace LibCommons.MultiTenantConsumer

open Threads Option

open Function (update update_of_ne update_self)

variable {T C I : Type}

section

variable {world : World T C I} {tenantID : T} {consumer : Nat}

theorem cancel_live {stopped} (live : Live tenantID consumer (cancel stopped world)) : Live tenantID consumer world ∧ consumer ≠ stopped := by
  obtain ⟨ctx, entry, running⟩ := live
  dsimp only [cancel] at entry running
  by_cases same : consumer = stopped
  · subst same
    rw [update_self] at entry
    obtain ⟨_, _, changed⟩ := Option.map_eq_some_iff.mp entry
    cases congrArg Consumer.cancelled changed
  · rw [update_of_ne same] at entry
    exact ⟨⟨ctx, entry, running⟩, same⟩

theorem drop_live [DecidableEq T] {dropped} (live : Live tenantID consumer (dropTenant dropped world)) :
    Live tenantID consumer world ∧ world.tenants dropped ≠ some consumer := by
  cases held : world.tenants dropped with
  | none =>
    rw [dropTenant, held] at live
    obtain ⟨ctx, entry, running⟩ := live
    exact ⟨⟨ctx, entry, running⟩, by rintro ⟨⟩⟩
  | some =>
    rw [dropTenant, held] at live
    obtain ⟨ctx, entry, running⟩ := live
    obtain ⟨before, other⟩ := cancel_live ⟨ctx, entry, running⟩
    refine ⟨before, ?_⟩
    rintro ⟨⟩
    exact other rfl

theorem close_live (live : Live tenantID consumer (close world)) : Live tenantID consumer world ∧ world.tenants tenantID ≠ some consumer := by
  obtain ⟨ctx, entry, running⟩ := live
  dsimp only [close] at entry running
  obtain ⟨before, found, changed⟩ := Option.map_eq_some_iff.mp entry
  by_cases stored : world.tenants before.tenant = some consumer
  · rw [if_pos stored] at changed
    cases congrArg Consumer.cancelled changed
  · rw [if_neg stored] at changed
    subst changed
    exact ⟨⟨ctx, found, running⟩, stored⟩

theorem start_live [DecidableEq T] {startCtx} {started} (live : Live tenantID consumer (startTenantConsumer startCtx started world)) :
    Live tenantID consumer world ∨ (consumer = world.count ∧ tenantID = started) := by
  obtain ⟨ctx, entry, running⟩ := live
  dsimp only [startTenantConsumer] at entry running
  by_cases newest : consumer = world.count
  · subst newest
    rw [update_self] at entry
    exact .inr ⟨rfl, (congrArg Consumer.tenant (some.inj entry)).symm⟩
  · rw [update_of_ne newest] at entry
    exact .inl ⟨ctx, entry, running⟩

theorem stored_live [DecidableEq T] (world : World T C I) (tenantID other : T) (consumer : Nat) :
    Live other consumer (loadOrStore tenantID world).2 ↔ Live other consumer world := by
  cases held : world.consumerLocks tenantID <;> simp [loadOrStore, held, Live]

theorem live_origin [DecidableEq T] [DecidableEq C] (rabbitmq : Bool) (i : I) (world next : World T C I)
    (phase after : Phase T C) (label : Label T) (moves : Move rabbitmq i world phase label next after)
    (tenantID : T) (consumer : Nat) (live : Live tenantID consumer next) :
    Live tenantID consumer world ∨ (consumer = world.count ∧ ∃ seen, label = .started tenantID consumer seen) := by
  cases moves with
  | contextDone _ ctx =>
    obtain ⟨own, entry, running⟩ := live
    refine .inl ⟨own, entry, ?_⟩
    dsimp only at running
    by_cases same : own = ctx
    · rw [same, update_self] at running
      cases running
    · rwa [update_of_ne same] at running
  | onTenantRemoved | stopConsumer => exact .inl (drop_live live).1
  | close => exact .inl (close_live live).1
  | start _ _ _ seen =>
    cases start_live live with
    | inl before => exact .inl before
    | inr newest =>
      obtain ⟨rfl, rfl⟩ := newest
      exact .inr ⟨rfl, seen, rfl⟩
  | loadOrStore ctx locked | stop locked => exact .inl ((stored_live world locked tenantID consumer).mp live)
  | _ => exact .inl live

end

section

structure Holds (world : World T C I) : Prop where
  stored : ∀ tenantID consumer, Live tenantID consumer world → world.tenants tenantID = some consumer
  counted : ∀ tenantID consumer, Live tenantID consumer world → consumer < world.count
  closed : ∀ found, world.closedAt = some found → found ≤ world.count ∧
    ∀ tenantID consumer, consumer < found → ¬ Live tenantID consumer world
  marked : world.closed = true → world.closedAt ≠ none

-- Behind a double check nothing runs that was started before it.
def Fits (world : World T C I) : Phase T C → Prop
  | .readParent _ tenantID _ seen | .startConsumer _ tenantID _ seen =>
    seen ≤ world.count ∧ ∀ consumer, consumer < seen → ¬ Live tenantID consumer world
  | _ => True

theorem holds_fewer (world next : World T C I) (holds : Holds world)
    (fewer : ∀ tenantID consumer, Live tenantID consumer next → Live tenantID consumer world)
    (kept : ∀ tenantID consumer, Live tenantID consumer next → next.tenants tenantID = some consumer)
    (count : next.count = world.count) (closed : next.closed = world.closed) (closedAt : next.closedAt = world.closedAt) :
    Holds next := by
  refine ⟨kept, ?_, ?_, ?_⟩
  · intro tenantID consumer live
    rw [count]
    exact holds.counted tenantID consumer (fewer tenantID consumer live)
  · intro found marked
    rw [closedAt] at marked
    obtain ⟨within, ended⟩ := holds.closed found marked
    refine ⟨count ▸ within, ?_⟩
    intro tenantID consumer before live
    exact ended tenantID consumer before (fewer tenantID consumer live)
  · rw [closed, closedAt]
    exact holds.marked

theorem holds_drop [DecidableEq T] (world : World T C I) (dropped : T) (holds : Holds world) : Holds (dropTenant dropped world) := by
  have same : (dropTenant dropped world).count = world.count ∧ (dropTenant dropped world).closed = world.closed ∧
      (dropTenant dropped world).closedAt = world.closedAt := by
    cases held : world.tenants dropped <;> simp [dropTenant, held, cancel]
  apply holds_fewer world _ holds _ _ same.1 same.2.1 same.2.2
  · intro tenantID consumer live
    exact (drop_live live).1
  intro tenantID consumer live
  obtain ⟨before, other⟩ := drop_live live
  have stored := holds.stored tenantID consumer before
  have apart : tenantID ≠ dropped := by
    rintro rfl
    exact other stored
  rw [dropTenant]
  dsimp only
  rwa [update_of_ne apart]

theorem holds_close (world : World T C I) (holds : Holds world) : Holds (close world) := by
  have none : ∀ tenantID consumer, ¬ Live tenantID consumer (close world) := by
    intro tenantID consumer live
    obtain ⟨before, unstored⟩ := close_live live
    exact unstored (holds.stored tenantID consumer before)
  refine ⟨?_, ?_, ?_, fun _ => Option.some_ne_none _⟩
  · intro tenantID consumer live
    exact absurd live (none tenantID consumer)
  · intro tenantID consumer live
    exact absurd live (none tenantID consumer)
  · rintro _ ⟨⟩
    exact ⟨le_refl _, fun tenantID consumer _ => none tenantID consumer⟩

theorem holds_start [DecidableEq T] (world : World T C I) (startCtx : C) (tenantID : T) (seen : Nat) (holds : Holds world)
    (checked : ∀ consumer, consumer < seen → ¬ Live tenantID consumer world)
    (unrivalled : ∀ other, seen ≤ other → other < world.count → ¬ Live tenantID other (startTenantConsumer startCtx tenantID world)) :
    Holds (startTenantConsumer startCtx tenantID world) := by
  have grown : ∀ other consumer, Live other consumer world → Live other consumer (startTenantConsumer startCtx tenantID world) := by
    intro other consumer live
    have older := holds.counted other consumer live
    obtain ⟨ctx, _, running⟩ := live
    refine ⟨ctx, ?_, running⟩
    dsimp only [startTenantConsumer]
    rwa [update_of_ne (Nat.ne_of_lt older)]
  have alone : ∀ consumer, ¬ Live tenantID consumer world := by
    intro consumer live
    by_cases before : consumer < seen
    · exact checked consumer before live
    · exact unrivalled consumer (le_of_not_gt before) (holds.counted tenantID consumer live) (grown tenantID consumer live)
  refine ⟨?_, ?_, ?_, holds.marked⟩
  · intro other consumer live
    dsimp only [startTenantConsumer]
    cases start_live live with
    | inl before =>
      have apart : other ≠ tenantID := by
        rintro rfl
        exact alone consumer before
      rw [update_of_ne apart]
      exact holds.stored other consumer before
    | inr newest => rw [newest.1, newest.2, update_self]
  · intro other consumer live
    dsimp only [startTenantConsumer]
    cases start_live live with
    | inl before => exact Nat.lt_succ_of_lt (holds.counted other consumer before)
    | inr newest => exact newest.1 ▸ Nat.lt_succ_self _
  · intro found marked
    obtain ⟨within, ended⟩ := holds.closed found marked
    refine ⟨Nat.le_succ_of_le within, ?_⟩
    intro other consumer before live
    cases start_live live with
    | inl older => exact ended other consumer before older
    | inr => omega

variable [DecidableEq T] [DecidableEq C] {rabbitmq : Bool} {i : I} {world next : World T C I} {phase after : Phase T C}
  {label : Label T}

theorem move_holds (holds : Holds world) (fits : Fits world phase) (moves : Move rabbitmq i world phase label next after)
    (unrivalled : Unrivalled label next) : Holds next := by
  cases moves with
  | contextDone _ ctx =>
    have fewer : ∀ tenantID consumer, Live tenantID consumer { world with done := update world.done ctx true } → Live tenantID consumer world := by
      intro tenantID consumer live
      cases live_origin rabbitmq i world _ phase phase .quiet (.contextDone world phase ctx) tenantID consumer live with
      | inl before => exact before
      | inr started =>
        obtain ⟨_, seen, impossible⟩ := started
        cases impossible
    exact holds_fewer world _ holds fewer (fun tenantID consumer live => holds.stored _ _ (fewer tenantID consumer live)) rfl rfl rfl
  | onTenantRemoved dropped | stopConsumer dropped => exact holds_drop world dropped holds
  | close => exact holds_close world holds
  | start startCtx tenantID _ seen =>
    exact holds_start world startCtx tenantID seen holds fits.2
      fun other behind before => unrivalled tenantID world.count seen rfl other behind before
  | loadOrStore ctx tenantID | stop tenantID =>
    cases held : world.consumerLocks tenantID <;> simp only [loadOrStore, held] <;> exact ⟨holds.stored, holds.counted, holds.closed, holds.marked⟩
  | _ => exact ⟨holds.stored, holds.counted, holds.closed, holds.marked⟩

theorem count_grows (moves : Move rabbitmq i world phase label next after) : world.count ≤ next.count := by
  have dropped : ∀ tenantID, (dropTenant tenantID world).count = world.count := by
    intro tenantID
    cases held : world.tenants tenantID <;> simp [dropTenant, held, cancel]
  have stored : ∀ tenantID, (loadOrStore tenantID world).2.count = world.count := by
    intro tenantID
    cases held : world.consumerLocks tenantID <;> simp [loadOrStore, held]
  cases moves with
  | onTenantRemoved | stopConsumer => rw [dropped]
  | start => exact Nat.le_succ _
  | loadOrStore | stop => rw [stored]
  | _ => exact le_refl _

theorem fits_move (rabbitmq : Bool) (i : I) (world next : World T C I) (phase after other : Phase T C) (label : Label T)
    (moves : Move rabbitmq i world phase label next after) (fits : Fits world other) : Fits next other := by
  have grows := count_grows moves
  have still : ∀ tenantID seen, (seen ≤ world.count ∧ ∀ consumer, consumer < seen → ¬ Live tenantID consumer world) →
      seen ≤ next.count ∧ ∀ consumer, consumer < seen → ¬ Live tenantID consumer next := by
    intro tenantID seen before
    refine ⟨le_trans before.1 grows, ?_⟩
    intro consumer older live
    cases live_origin rabbitmq i world next phase after label moves tenantID consumer live with
    | inl running => exact before.2 consumer older running
    | inr => omega
  cases other with
  | readParent ctx tenantID tenantMu seen | startConsumer startCtx tenantID tenantMu seen => exact still tenantID seen fits
  | _ => trivial

theorem fits_own (holds : Holds world) (fits : Fits world phase) (moves : Move rabbitmq i world phase label next after) : Fits next after := by
  cases moves with
  | contextDone _ ctx => exact fits_move rabbitmq i world _ phase phase phase .quiet (.contextDone world phase ctx) fits
  | checked _ tenantID _ missing =>
    refine ⟨le_refl _, ?_⟩
    intro consumer _ live
    rw [holds.stored tenantID consumer live] at missing
    cases missing
  | readParent => exact fits
  | _ => trivial

theorem moves_keep (rabbitmq : Bool) : Keeps (fun (i : I) (world : World T C I) phase label next after =>
        Move rabbitmq i world phase label next after ∧ Unrivalled label next)
      Holds (fun _ world phase => Fits world phase) := by
  refine ⟨?_, ?_⟩
  · intro i world phase label next after holds fits moves
    exact ⟨move_holds holds fits moves.1 moves.2, fits_own holds fits moves.1⟩
  · intro i _ world phase other label next after _ _ _ fits moves
    exact fits_move rabbitmq i world next phase after other label moves.1 fits

end

theorem start_good : Good Holds (fun _ world phase => Fits world phase) (start : State T C I) := by
  have none : ∀ (tenantID : T) consumer, ¬ Live tenantID consumer (start : State T C I).world := by
    rintro tenantID consumer ⟨_, entry, _⟩
    cases entry
  refine ⟨⟨?_, ?_, ?_, ?_⟩, fun _ => trivial⟩
  · intro tenantID consumer live
    exact absurd live (none tenantID consumer)
  · intro tenantID consumer live
    exact absurd live (none tenantID consumer)
  · rintro _ ⟨⟩
  · rintro ⟨⟩

theorem holds_single {world : World T C I} (holds : Holds world) : Single world := by
  refine ⟨?_, holds.stored⟩
  intro tenantID first second one two
  have same := (holds.stored tenantID first one).symm.trans (holds.stored tenantID second two)
  exact some.inj same

variable [DecidableEq T] [DecidableEq C] [DecidableEq I]

theorem good_move (rabbitmq : Bool) (state : State T C I) (label : I × Label T) (next : State T C I)
    (good : Good Holds (fun _ world phase => Fits world phase) state)
    (step : Step (Move rabbitmq) state label next) (unrivalled : Unrivalled label.2 next.world) :
    Good Holds (fun _ world phase => Fits world phase) next := by
  cases step with
  | move i label world phase moves =>
    exact good_step (moves_keep rabbitmq) state (i, label) _ good (.move state i label world phase ⟨moves, unrivalled⟩)

theorem started_kept_unrivalled {rabbitmq : Bool} {state next : State T C I} {label : I × Label T}
    (step : Step (Move rabbitmq) state label next) (single : Single next.world) : Unrivalled label.2 next.world := by
  cases step with
  | move i _ _ _ moves =>
    rintro tenantID _ _ rfl other _ before live
    have stored := single.stored tenantID other live
    cases standing : state.phase i <;> rw [standing] at moves <;> cases moves
    dsimp only [startTenantConsumer] at stored
    rw [update_self] at stored
    cases stored
    exact lt_irrefl _ before

omit [DecidableEq T] [DecidableEq C] [DecidableEq I] in
theorem quiet_open {world} (phases : I → Phase T C) (opened : world.closed = false) : Unrivalled .quiet world ∧ Ended ⟨world, phases⟩ := by
  constructor
  · rintro _ _ _ ⟨⟩
  · rintro ⟨closed, _⟩
    cases opened.symm.trans closed

end LibCommons.MultiTenantConsumer
