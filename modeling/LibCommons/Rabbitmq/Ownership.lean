import LibCommons.Rabbitmq.Stages

namespace LibCommons.Rabbitmq

open Process Option
open Function (forall_update_iff update)

structure Shape {I : Type} (world : World I) : Prop where
  number : world.publisher.confirms + 1 = world.installed
  returns : world.publisher.returns = world.publisher.confirms
  closedCh : world.publisher.closedCh = world.publisher.confirms
  current : ∀ ch, world.publisher.ch = some ch → ch = world.publisher.confirms
  opened : world.publisher.closed = false → world.publisher.ch ≠ none ∧ world.publisher.shutdown = false
  signalled : ∀ n, world.signalled n = true → n < world.installed ∧ (n = world.publisher.confirms → world.publisher.closed = true)

def Fits {I : Type} (world : World I) : Stage → Prop
  | .publish _ (.loaded pub) | .publish _ (.drained pub) | .publish _ (.sent pub) | .publish _ (.acked pub) =>
    pub.ch = some world.publisher.confirms ∧ pub.confirms = world.publisher.confirms ∧
      pub.returns = world.publisher.confirms ∧ pub.closedCh = world.publisher.confirms
  | .publish _ .invalidated | .publish _ .degraded => world.publisher.closed = true
  | .monitor _ (.marked n) => n < world.installed ∧ (n = world.publisher.confirms → world.publisher.closed = true)
  | .monitor _ .prepared => world.publisher.ch = none
  | _ => True

def Stage.root : Stage → Stage
  | .publish publishing _ => .publish publishing .called
  | .close _ => .close .called
  | .reconnect _ => .reconnect .called
  | .monitor ch _ => .monitor ch .waiting

structure Owned {I : Type} (calls : I → Call) (world : World I) (know : Actor I → Stage) : Prop where
  shape : Shape world
  mutex : ∀ actor, (know actor).holds = true ↔ world.publishMu = some actor
  fits : ∀ actor, Fits world (know actor)
  roots : ∀ actor, (know actor).root = (Actor.stage calls actor).root

section

variable {setting : Setting} {stage : Stage}

theorem entering_holds (entering : stage.entering = true) : stage.holds = false ∧ stage.entered.holds = true := by
  unfold Stage.entering at entering
  split at entering <;> first | exact ⟨rfl, rfl⟩ | cases entering

theorem leaving_holds (leaving : stage.leaving = true) : stage.holds = true ∧ stage.left.holds = false := by
  unfold Stage.leaving at leaving
  split at leaving <;> first | exact ⟨rfl, rfl⟩ | cases leaving

variable {I : Type} {world : World I}

theorem entered_fits (entering : stage.entering = true) : Fits world stage.entered := by
  unfold Stage.entering at entering
  split at entering <;> trivial

theorem left_fits (leaving : stage.leaving = true) : Fits world stage.left := by
  unfold Stage.leaving at leaving
  split at leaving <;> trivial

variable {state : HealthState} {next : Stage}

theorem emitted_fits (emits : Emits setting stage state next) (fits : Fits world stage) : Fits world next := by
  cases emits with
  | invalidated => exact fits
  | _ => trivial

theorem emitted_holds (emits : Emits setting stage state next) : next.holds = stage.holds := by
  cases emits <;> rfl

variable {op : PubOp}

theorem learn_holds (result : PubRes op) (may : pubMay setting stage op) (noLock : op ≠ .lock) (noUnlock : op ≠ .unlock) :
    (pubLearn stage op result).holds = stage.holds := by
  cases op with
  | lock => exact absurd rfl noLock
  | unlock => exact absurd rfl noUnlock
  | load =>
    obtain ⟨publishing, rfl⟩ := may
    simp only [pubLearn]
    split <;> rfl
  | drainReturns | takeReturn =>
    obtain ⟨publishing, pub, rfl, -⟩ := may
    rfl
  | publishWithContext =>
    obtain ⟨pub, rfl, -⟩ := may
    simp only [pubLearn]
    split <;> rfl
  | select =>
    obtain ⟨publishing, _, rfl, -⟩ := may
    cases result with
    | confirmed =>
      simp only [pubLearn, waited]
      split <;> rfl
    | _ => rfl
  | invalidate =>
    obtain ⟨publishing, rfl⟩ := may
    rfl
  | setHealth =>
    obtain ⟨_, emits⟩ := may
    simp only [pubLearn, emits_emitted emits, emitted_holds emits]
  | closeChannel =>
    obtain ⟨_, rfl⟩ | rfl | ⟨_, rfl⟩ := may
    · rfl
    · simp only [pubLearn]
      split <;> rfl
    · rfl
  | shut | awaitClose =>
    cases may
    simp only [pubLearn]
    split <;> rfl
  | markClosed =>
    obtain ⟨ch, rfl⟩ := may
    rfl
  | prepare =>
    obtain ⟨ch, rfl⟩ := may
    simp only [pubLearn]
    split <;> rfl
  | install =>
    obtain rfl | ⟨_, rfl⟩ := may
    · rfl
    · simp only [pubLearn]
      split <;> rfl
  | _ => rfl

theorem entered_root : stage.entered.root = stage.root := by
  unfold Stage.entered
  split <;> rfl

theorem left_root : stage.left.root = stage.root := by
  unfold Stage.left
  split <;> rfl

theorem learn_root (result : PubRes op) (may : pubMay setting stage op) : (pubLearn stage op result).root = stage.root := by
  cases op with
  | lock => exact entered_root
  | unlock => exact left_root
  | setHealth =>
    simp only [pubLearn, Stage.emitted]
    split <;> rfl
  | shut | awaitClose =>
    cases may
    rfl
  | _ =>
    simp only [pubLearn] <;> split <;> rfl

end

section

variable {I : Type} {world : World I} (shape : Shape world)

include shape

theorem shape_closed : Shape (world.withPublisher fun pub => { pub with closed := true }) := { shape with
    opened := (by rintro ⟨⟩)
    signalled := fun n raised => ⟨(shape.signalled n raised).1, fun _ => rfl⟩ }

theorem shape_invalidate : Shape (world.withPublisher fun pub => { pub with closed := true, ch := none }) := { shape with
    current := (by rintro _ ⟨⟩)
    opened := (by rintro ⟨⟩)
    signalled := fun n raised => ⟨(shape.signalled n raised).1, fun _ => rfl⟩ }

theorem shape_raise {closedCh} (known : closedCh < world.installed)
    (dead : closedCh = world.publisher.confirms → world.publisher.closed = true) : Shape (world.raise closedCh) := by
  refine { shape with signalled := ?_ }
  intro n raised
  by_cases same : n = closedCh
  · subst same
    exact ⟨known, dead⟩
  · exact shape.signalled n (by simpa [World.raise, same] using raised)

theorem shape_stop {change} (closes : (change world.publisher).closed = true)
    (keeps : (change world.publisher).confirms = world.publisher.confirms ∧ (change world.publisher).returns = world.publisher.returns ∧
      (change world.publisher).closedCh = world.publisher.closedCh ∧
      ∀ ch, (change world.publisher).ch = some ch → world.publisher.ch = some ch) :
    Shape ((world.stop.raise world.publisher.closedCh).withPublisher change) := by
  obtain ⟨confirms, returns, closedCh, current⟩ := keeps
  constructor
  · exact confirms ▸ shape.number
  · exact (returns.trans shape.returns).trans confirms.symm
  · exact (closedCh.trans shape.closedCh).trans confirms.symm
  · intro ch found
    exact (shape.current ch (current ch found)).trans confirms.symm
  · intro opened
    exact absurd (closes.symm.trans opened) (by rintro ⟨⟩)
  · intro n raised
    refine ⟨?_, fun _ => closes⟩
    by_cases same : n = world.publisher.closedCh
    · have number := shape.number
      have own := shape.closedCh
      change n < world.installed
      omega
    · exact (shape.signalled n (by simpa [World.withPublisher, World.raise, World.stop, same] using raised)).1

theorem shape_install (running : world.publisher.shutdown = false) : Shape world.install := by
  constructor
  · rfl
  · rfl
  · rfl
  · intro _ found
    exact (some.inj found).symm
  · intro _
    exact ⟨(by rintro ⟨⟩), running⟩
  · intro n raised
    have known := (shape.signalled n raised).1
    refine ⟨Nat.lt_succ_of_lt known, ?_⟩
    intro same
    exact absurd (known.trans_eq same.symm) (lt_irrefl n)

end

variable {I : Type} {setting : Setting} {calls : I → Call} {world after : World I} {know : Actor I → Stage}
  {actor : Actor I}

def Stays (world after : World I) : Prop :=
  after.publisher.confirms = world.publisher.confirms ∧ (world.publisher.closed = true → after.publisher.closed = true)

-- Only the one who has publishMu changes the channel, and only towards a new one.
structure Advances (holder : Bool) (world after : World I) : Prop where
  known : world.installed ≤ after.installed
  moves : Stays world after ∨ world.installed ≤ after.publisher.confirms
  still : holder = false → Stays world after ∧ after.publisher.ch = world.publisher.ch

variable {holder : Bool}

theorem advances_same (publisher : after.publisher.confirms = world.publisher.confirms)
    (installed : after.installed = world.installed) (closed : world.publisher.closed = true → after.publisher.closed = true)
    (ch : holder = false → after.publisher.ch = world.publisher.ch) : Advances holder world after :=
  ⟨installed.ge, Or.inl ⟨publisher, closed⟩, fun free => ⟨⟨publisher, closed⟩, ch free⟩⟩

theorem fits_other {stage} (fits : Fits world stage) (advances : Advances holder world after)
    (apart : stage.holds = true → holder = false) : Fits after stage := by
  cases stage with
  | publish _ stage =>
    cases stage with
    | loaded | drained | sent | acked =>
      obtain ⟨⟨same, -⟩, -⟩ := advances.still (apart rfl)
      simpa only [Fits, same] using fits
    | invalidated | degraded =>
      obtain ⟨⟨-, closed⟩, -⟩ := advances.still (apart rfl)
      exact closed fits
    | _ => trivial
  | monitor _ stage =>
    cases stage with
    | marked =>
      refine ⟨fits.1.trans_le advances.known, ?_⟩
      intro current
      rcases advances.moves with ⟨same, closes⟩ | _
      · exact closes (fits.2 (current.trans same))
      · have known := fits.1
        omega
    | prepared =>
      obtain ⟨-, same⟩ := advances.still (apart rfl)
      exact same.trans fits
    | _ => trivial
  | _ => trivial

variable (owned : Owned calls world know)

include owned

theorem holder_alone {other} (different : other ≠ actor) (held : (know other).holds = true) : (know actor).holds = false := by
  by_contra also
  have first := (owned.mutex other).mp held
  have second := (owned.mutex actor).mp (by simpa using also)
  exact different (some.inj (first.symm.trans second))

theorem monitor_actor {ch} {stage} (was : know actor = .monitor ch stage) : actor = .monitor ch := by
  have root := owned.roots actor
  rw [was] at root
  cases actor with
  | monitor =>
    cases root
    rfl
  | call i =>
    simp only [Actor.stage] at root
    cases kind : calls i <;> rw [kind] at root <;> cases root

theorem reconnect_actor {stage} (was : know actor = .reconnect stage) : ∃ i, actor = .call i := by
  have root := owned.roots actor
  rw [was] at root
  cases actor with
  | monitor => cases root
  | call i => exact ⟨i, rfl⟩

theorem close_actor {stage} (was : know actor = .close stage) : ∃ i, actor = .call i ∧ calls i = .close := by
  have root := owned.roots actor
  rw [was] at root
  cases actor with
  | monitor => cases root
  | call i =>
    refine ⟨i, rfl, ?_⟩
    simp only [Actor.stage] at root
    cases kind : calls i <;> rw [kind] at root <;> cases root

theorem publish_actor {publishing} {stage}
    (was : know actor = .publish publishing stage) : ∃ i, actor = .call i ∧ (calls i).publishing = some publishing := by
  have root := owned.roots actor
  rw [was] at root
  cases actor with
  | monitor => cases root
  | call i =>
    refine ⟨i, rfl, ?_⟩
    simp only [Actor.stage] at root
    cases kind : calls i <;> rw [kind] at root <;> cases root
    rfl

omit owned

variable [DecidableEq I]

theorem owned_lock (owned : Owned calls world know) (entering : (know actor).entering = true) (free : world.publishMu = none) :
    Owned calls { world with publishMu := some actor } (update know actor (know actor).entered) := by
  refine ⟨{ owned.shape with }, ?_, ?_, ?_⟩
  · refine (forall_update_iff know fun other stage => stage.holds = true ↔ some actor = some other).mpr ⟨?_, ?_⟩
    · simp [(entering_holds entering).2]
    · intro other different
      simp [(owned.mutex other), free, Ne.symm different]
  · exact (forall_update_iff know fun _ stage => Fits world stage).mpr ⟨entered_fits entering, fun other _ => owned.fits other⟩
  · exact (forall_update_iff know fun other stage => stage.root = (Actor.stage calls other).root).mpr
      ⟨entered_root.trans (owned.roots actor), fun other _ => owned.roots other⟩

theorem owned_unlock (owned : Owned calls world know) (leaving : (know actor).leaving = true) :
    Owned calls { world with publishMu := none } (update know actor (know actor).left) := by
  refine ⟨{ owned.shape with }, ?_, ?_, ?_⟩
  · refine (forall_update_iff know fun other stage => stage.holds = true ↔ none = some other).mpr ⟨?_, ?_⟩
    · simp [(leaving_holds leaving).2]
    intro other different
    have unheld : (know other).holds ≠ true := by
      intro held
      have apart := holder_alone owned different held
      rw [(leaving_holds leaving).1] at apart
      cases apart
    simp [unheld]
  · exact (forall_update_iff know fun _ stage => Fits world stage).mpr ⟨left_fits leaving, fun other _ => owned.fits other⟩
  · exact (forall_update_iff know fun other stage => stage.root = (Actor.stage calls other).root).mpr
      ⟨left_root.trans (owned.roots actor), fun other _ => owned.roots other⟩

variable {op : PubOp} {result : PubRes op}

theorem owned_advance (owned : Owned calls world know) (may : pubMay setting (know actor) op)
    (mutex : after.publishMu = world.publishMu) (shape : Shape after) (advances : Advances (know actor).holds world after)
    (fits : Fits after (pubLearn (know actor) op result)) (apart : op ≠ .lock ∧ op ≠ .unlock := by constructor <;> rintro ⟨⟩) :
    Owned calls after (update know actor (pubLearn (know actor) op result)) := by
  refine ⟨shape, ?_, ?_, ?_⟩
  · refine (forall_update_iff know fun other stage => stage.holds = true ↔ after.publishMu = some other).mpr ⟨?_, ?_⟩
    · rw [learn_holds result may apart.1 apart.2, mutex]
      exact owned.mutex actor
    · intro other _
      rw [mutex]
      exact owned.mutex other
  · refine (forall_update_iff know fun _ stage => Fits after stage).mpr ⟨fits, ?_⟩
    intro other different
    exact fits_other (owned.fits other) advances (holder_alone owned different)
  · exact (forall_update_iff know fun other stage => stage.root = (Actor.stage calls other).root).mpr
      ⟨(learn_root result may).trans (owned.roots actor), fun other _ => owned.roots other⟩

theorem owned_same (owned : Owned calls world know) (may : pubMay setting (know actor) op)
    (mutex : after.publishMu = world.publishMu) (shape : Shape after)
    (same : after.publisher.confirms = world.publisher.confirms ∧ after.publisher.ch = world.publisher.ch ∧
      after.publisher.closed = world.publisher.closed ∧ after.installed = world.installed)
    (fits : Fits world (pubLearn (know actor) op result)) (apart : op ≠ .lock ∧ op ≠ .unlock := by constructor <;> rintro ⟨⟩) :
    Owned calls after (update know actor (pubLearn (know actor) op result)) := by
  obtain ⟨confirms, ch, closed, installed⟩ := same
  have advances : ∀ holder, Advances holder world after := fun holder => advances_same confirms installed (fun was => closed.trans was) fun _ => ch
  exact owned_advance owned may mutex shape (advances _) (fits_other fits (advances false) fun _ => rfl) apart

omit [DecidableEq I] in
theorem load_fits (shape : Shape world) (accepted : world.publisher.accepts = true) (publishing : Publishing) :
    Fits world (.publish publishing (.loaded world.publisher)) := by
  simp only [Publisher.accepts, Bool.and_eq_true, Option.isSome_iff_exists] at accepted
  obtain ⟨-, ch, found⟩ := accepted
  have same := shape.current ch found
  exact ⟨by rw [found, same], rfl, shape.returns, shape.closedCh⟩

omit [DecidableEq I] in
theorem reconnect_accepted (accepted : world.publisher.reconnectRefusal = none) :
    world.publisher.closed = true ∧ world.publisher.shutdown = false := by
  unfold Publisher.reconnectRefusal at accepted
  split at accepted
  · cases accepted
  · split at accepted
    · cases accepted
    · simp_all

theorem owned_act (owned : Owned calls world know) (may : pubMay setting (know actor) op) (done : PubExec setting actor op world result after) :
    Owned calls after (update know actor (pubLearn (know actor) op result)) := by
  have shape := owned.shape
  have mine := owned.fits actor
  cases op with
  | lock =>
    obtain ⟨free, rfl⟩ := done
    exact owned_lock owned may free
  | unlock =>
    cases done
    exact owned_unlock owned may
  | load =>
    obtain ⟨rfl, rfl⟩ := done
    refine owned_same owned may rfl shape ⟨rfl, rfl, rfl, rfl⟩ ?_
    obtain ⟨publishing, was⟩ := may
    simp only [was, pubLearn]
    split
    · rename_i accepted
      exact load_fits shape accepted publishing
    · trivial
  | drainReturns =>
    cases done
    refine owned_same owned may rfl { shape with } ⟨rfl, rfl, rfl, rfl⟩ ?_
    obtain ⟨publishing, pub, was, -⟩ := may
    rw [was] at mine ⊢
    exact mine
  | publishWithContext ch publishing =>
    have keeps : Fits world (pubLearn (know actor) (.publishWithContext ch publishing) result) := by
      obtain ⟨pub, was, -⟩ := may
      rw [was] at mine ⊢
      simp only [pubLearn]
      split
      · exact mine
      · trivial
    rcases done with ⟨-, rfl⟩ | ⟨-, rfl⟩
    · exact owned_same owned may rfl { shape with } ⟨rfl, rfl, rfl, rfl⟩ keeps
    · exact owned_same owned may rfl shape ⟨rfl, rfl, rfl, rfl⟩ keeps
  | select confirms closedCh =>
    have keeps : Fits world (pubLearn (know actor) (.select confirms closedCh) result) := by
      obtain ⟨publishing, pub, was, -⟩ := may
      rw [was] at mine ⊢
      simp only [pubLearn]
      cases result with
      | confirmed =>
        simp only [waited]
        split
        · exact mine
        · trivial
      | _ => trivial
    have same : after.publishMu = world.publishMu ∧ Shape after ∧
        after.publisher.confirms = world.publisher.confirms ∧ after.publisher.ch = world.publisher.ch ∧
        after.publisher.closed = world.publisher.closed ∧ after.installed = world.installed := by
      cases result with
      | confirmed =>
        obtain ⟨_, -, rfl⟩ := done
        exact ⟨rfl, { shape with }, rfl, rfl, rfl, rfl⟩
      | streamClosed =>
        obtain ⟨-, -, rfl⟩ := done
        exact ⟨rfl, shape, rfl, rfl, rfl, rfl⟩
      | signalled =>
        obtain ⟨-, rfl⟩ := done
        exact ⟨rfl, shape, rfl, rfl, rfl, rfl⟩
      | timedOut | cancelled =>
        cases done
        exact ⟨rfl, shape, rfl, rfl, rfl, rfl⟩
    exact owned_same owned may same.1 same.2.1 same.2.2 keeps
  | takeReturn =>
    obtain ⟨-, rfl⟩ := done
    refine owned_same owned may rfl { shape with } ⟨rfl, rfl, rfl, rfl⟩ ?_
    obtain ⟨publishing, _, was, -⟩ := may
    rw [was]
    trivial
  | invalidate =>
    cases done
    refine owned_advance owned may rfl (shape_invalidate shape) (advances_same rfl rfl (fun _ => rfl) ?_) ?_
    · obtain ⟨publishing, was⟩ := may
      rw [was]
      rintro ⟨⟩
    · obtain ⟨publishing, was⟩ := may
      rw [was]
      exact rfl
  | setHealth =>
    cases done
    refine owned_same owned may rfl { shape with } ⟨rfl, rfl, rfl, rfl⟩ ?_
    obtain ⟨_, emits⟩ := may
    simp only [pubLearn, emits_emitted emits]
    exact emitted_fits emits mine
  | signalCurrent =>
    cases done
    have closed : world.publisher.closed = true := by
      obtain ⟨publishing, was⟩ := may
      rw [was] at mine
      exact mine
    have known : world.publisher.closedCh < world.installed := by
      have number := shape.number
      have own := shape.closedCh
      omega
    exact owned_same owned may rfl (shape_raise shape known fun _ => closed) ⟨rfl, rfl, rfl, rfl⟩ mine
  | signal closedCh =>
    cases done
    obtain ⟨known, dead⟩ : closedCh < world.installed ∧ (closedCh = world.publisher.confirms → world.publisher.closed = true) := by
      obtain ⟨ch, was⟩ := may
      rw [was] at mine
      exact mine
    exact owned_same owned may rfl (shape_raise shape known dead) ⟨rfl, rfl, rfl, rfl⟩ mine
  | closeChannel ch =>
    have keeps : Fits world (pubLearn (know actor) (.closeChannel ch) result) := by
      rcases may with ⟨_, was⟩ | was | ⟨own, was⟩
      · rw [was] at mine ⊢
        exact mine
      · rw [was]
        trivial
      · rw [was] at mine ⊢
        exact mine
    rcases done with ⟨-, rfl⟩ | ⟨-, -, rfl | rfl⟩
    · exact owned_same owned may rfl { shape with } ⟨rfl, rfl, rfl, rfl⟩ keeps
    · exact owned_same owned may rfl shape ⟨rfl, rfl, rfl, rfl⟩ keeps
    · exact owned_same owned may rfl { shape with } ⟨rfl, rfl, rfl, rfl⟩ keeps
  | drainConfirms =>
    obtain ⟨_, rfl⟩ := done
    exact owned_same owned may rfl { shape with } ⟨rfl, rfl, rfl, rfl⟩ mine
  | shut =>
    have held : (know actor).holds = true := by
      rw [may]
      rfl
    have fits : ∀ other : World I, Fits other (pubLearn (know actor) .shut result) := fun other => trivial
    simp only [PubExec] at done
    split at done
    · obtain ⟨rfl, rfl⟩ := done
      exact owned_same owned may rfl shape ⟨rfl, rfl, rfl, rfl⟩ (fits _)
    obtain ⟨rfl, rfl⟩ := done
    refine owned_advance owned may rfl (shape_stop shape rfl ⟨rfl, rfl, rfl, fun _ => id⟩) (advances_same rfl rfl (fun _ => rfl) ?_) (fits _)
    rw [held]
    rintro ⟨⟩
  | awaitClose =>
    obtain ⟨rfl, -, -⟩ := done
    refine owned_same owned may rfl shape ⟨rfl, rfl, rfl, rfl⟩ ?_
    simp only [pubLearn]
    split <;> trivial
  | markClosed =>
    obtain ⟨rfl, rfl⟩ := done
    refine owned_advance owned may rfl (shape_closed shape) (advances_same rfl rfl (fun _ => rfl) fun _ => rfl) ?_
    obtain ⟨ch, was⟩ := may
    rw [was]
    refine ⟨?_, fun _ => rfl⟩
    have number := shape.number
    have own := shape.closedCh
    change world.publisher.closedCh < world.installed
    omega
  | prepare =>
    have held : (know actor).holds = true := by
      obtain ⟨ch, was⟩ := may
      rw [was]
      rfl
    simp only [PubExec] at done
    split at done
    · obtain ⟨rfl, rfl⟩ := done
      refine owned_same owned may rfl shape ⟨rfl, rfl, rfl, rfl⟩ ?_
      obtain ⟨ch, was⟩ := may
      rw [was]
      trivial
    · obtain ⟨rfl, rfl⟩ := done
      refine owned_advance owned may rfl (shape_stop shape rfl ⟨rfl, rfl, rfl, (by rintro _ ⟨⟩)⟩) (advances_same rfl rfl (fun _ => rfl) ?_) ?_
      · rw [held]
        rintro ⟨⟩
      · obtain ⟨ch, was⟩ := may
        rw [was]
        exact rfl
  | renewDone | exhaust =>
    cases done
    exact owned_same owned may rfl { shape with } ⟨rfl, rfl, rfl, rfl⟩ mine
  | readDone | pollDone | backoff =>
    obtain ⟨-, rfl⟩ := done
    exact owned_same owned may rfl shape ⟨rfl, rfl, rfl, rfl⟩ mine
  | provider =>
    cases done
    exact owned_same owned may rfl shape ⟨rfl, rfl, rfl, rfl⟩ mine
  | install =>
    have held : (know actor).holds = true := by
      obtain was | ⟨ch, was⟩ := may <;> rw [was] <;> rfl
    have fits : ∀ other : World I, Fits other (pubLearn (know actor) .install result) := by
      intro _
      obtain was | ⟨_, was⟩ := may
      · rw [was]
        trivial
      · rw [was]
        simp only [pubLearn]
        split <;> trivial
    have refused : Owned calls world (update know actor (pubLearn (know actor) .install result)) :=
      owned_same owned may rfl shape ⟨rfl, rfl, rfl, rfl⟩ (fits _)
    simp only [PubExec] at done
    split at done
    · obtain ⟨-, rfl⟩ := done
      exact refused
    rename_i accepted
    rcases done with ⟨-, rfl⟩ | ⟨-, rfl⟩ | ⟨_, -, rfl⟩
    · refine owned_advance owned may rfl (shape_install shape (reconnect_accepted accepted).2) ⟨Nat.le_succ _, Or.inr (le_refl _), ?_⟩ (fits _)
      rw [held]
      rintro ⟨⟩
    · exact refused
    · exact refused

omit [DecidableEq I] in
theorem owned_broker (owned : Owned calls world know) (moved : Broker world after) : Owned calls after know := by
  cases moved with
  | confirm | hand | die => exact ⟨{ owned.shape with }, owned.mutex, owned.fits, owned.roots⟩

theorem owned_keeps : Keeps (pubOutline setting) (pubSemantics setting) (Owned calls) where
  sees _ _ _ _ _ _ := trivial
  act _ _ _ _ _ _ owned may done := owned_act owned may done
  wait _ _ _ _ _ _ _ moved := moved.elim
  drift _ _ _ owned moved := owned_broker owned moved

omit [DecidableEq I] in
theorem owned_launched (calls : I → Call) : Owned calls (constructed I) (Actor.stage calls) := by
  refine ⟨?_, ?_, ?_, fun actor => rfl⟩
  · exact ⟨rfl, rfl, rfl, fun ch found => (some.inj found).symm, fun _ => ⟨(by rintro ⟨⟩), rfl⟩, (by rintro _ ⟨⟩)⟩
  · intro actor
    obtain ⟨publishing, was⟩ | was | was | was | ⟨ch, was⟩ := stage_cases calls actor <;> rw [was] <;> simp [Stage.holds, constructed]
  · intro actor
    obtain ⟨_, was⟩ | was | was | was | ⟨_, was⟩ := stage_cases calls actor <;> rw [was] <;> trivial

-- One actor is inside the mutex, and whoever publishes waits on the streams of the channel installed last.
theorem publisher_owned (setting : Setting) (calls : I → Call) (labels last)
    (run : Run (Process.Step (pubSemantics setting)) (launched setting calls) labels last) :
    ∃ know, Process.Tracks (pubOutline setting) know last ∧ Owned calls last.world know :=
  keeps_run owned_keeps (tracks_launched calls) (owned_launched calls) run

theorem closer_alone_inside : ∃ labels last, Run (Process.Step (pubSemantics ⟨none, false⟩))
      (launched ⟨none, false⟩ fun _ : Nat => .close) labels last ∧
    ∃ know, Process.Tracks (pubOutline ⟨none, false⟩) know last ∧ ∀ actor, (know actor).holds = true ↔ Actor.call 0 = actor := by
  have run : Run (Process.Step (pubSemantics ⟨none, false⟩)) (launched ⟨none, false⟩ fun _ : Nat => .close) _ _ :=
    .cons _ _ _ _ _ (.act _ (.call 0) .lock _ () _ rfl (by exact ⟨rfl, rfl⟩)) (.nil _)
  obtain ⟨know, tracks, owned⟩ := publisher_owned _ _ _ _ run
  exact ⟨_, _, run, know, tracks, fun actor => (owned.mutex actor).trans Option.some_inj⟩

end LibCommons.Rabbitmq
