import LibCommons.Lib.Outline
import LibCommons.Outbox.Dispatcher
import LibCommons.Outbox.Invalidation

namespace LibCommons.Outbox

open Process List
open Function (update update_eq_self update_of_ne update_self)

structure Knowledge where
  claimed : List OutboxEvent
  owed : List UUID
  failing : Option UUID

def Knowledge.claim (know : Knowledge) (events : Option (List OutboxEvent)) : Knowledge :=
  { know with claimed := know.claimed ++ events.getD [] }

def dispatchMay (know : Knowledge) : DispatchOp → Prop
  | .onInvalid event _ => know.owed.head? = some event.id ∧ know.failing = none
  | .onFailed event _ => know.owed = [] ∧ know.failing = some event.id
  | .markFailed event _ _ => know.owed = [] ∧ know.failing = none ∧ event ∈ know.claimed
  | _ => know.owed = [] ∧ know.failing = none

def dispatchLearn (know : Knowledge) : (op : DispatchOp) → DispatchRes op → Knowledge
  | .listPending _, events | .listPendingByType _ _, events | .listPendingByTypes _ _, events
  | .resetForRetry _ _ _, events => know.claim events
  | .reclaimStuckProcessing _ _ _, none => know
  | .reclaimStuckProcessing _ _ _, some (retry, invalid) =>
    { know with claimed := know.claimed ++ retry, owed := invalid.map fun event => event.id }
  | .markInvalid event _, true => { know with owed := [event.id] }
  | .markFailed event _ maxAttempts, true =>
    if event.attempts + 1 ≥ maxAttempts then { know with owed := [event.id] }
    else { know with failing := some event.id }
  | .onInvalid _ _, _ => { know with owed := know.owed.tail }
  | .onFailed _ _, _ => { know with failing := none }
  | _, _ => know

def dispatchOutline : Outline DispatchOp DispatchRes Knowledge DispatchResult where
  may := dispatchMay
  learn := dispatchLearn
  finish know _ := know.owed = [] ∧ know.failing = none

structure Ready (know : Knowledge) (events : List OutboxEvent) : Prop where
  owed : know.owed = []
  failing : know.failing = none
  claimed : ∀ event ∈ events, event ∈ know.claimed

section

variable (dispatcher : Dispatcher) {know : Knowledge}

theorem follows_publish_event (event) {next} (ready : Ready know [])
    (onward : ∀ err, Follows dispatchOutline know (next err)) : Follows dispatchOutline know (publishEvent event next) := by
  unfold publishEvent
  split
  · exact onward _
  · exact ⟨⟨ready.owed, ready.failing⟩, fun err _ => onward err⟩

theorem follows_publish_attempts (know event) (maxAttempts left : Nat) (next) (ready : Ready know [])
    (onward : ∀ err, Follows dispatchOutline know (next err)) :
    Follows dispatchOutline know (publishAttempts dispatcher event maxAttempts next left) := by
  induction left with
  | zero => exact onward none
  | succ _ ih =>
    apply follows_publish_event event ready
    intro err
    cases err with
    | none => exact onward none
    | some =>
      dsimp only
      split
      · exact onward _
      refine ⟨⟨ready.owed, ready.failing⟩, fun waitErr _ => ?_⟩
      cases waitErr with
      | none => exact ih
      | some => exact onward _

variable {next : DispatchProg}

theorem follows_invoke_on_invalid (event : OutboxEvent) (err : DispatchError) (ready : Ready know []) (onward : Follows dispatchOutline know next) :
    Follows dispatchOutline { know with owed := [event.id] } (invokeOnInvalid event err next) := by
  refine ⟨⟨rfl, ready.failing⟩, fun _ _ => ?_⟩
  have same : ({ know with owed := [] } : Knowledge) = know := by rw [← ready.owed]
  exact same.symm ▸ onward

theorem follows_invoke_on_failed (event : OutboxEvent) (err : DispatchError) (ready : Ready know []) (onward : Follows dispatchOutline know next) :
    Follows dispatchOutline { know with failing := some event.id } (invokeOnFailed event err next) := by
  refine ⟨⟨ready.owed, rfl⟩, fun _ _ => ?_⟩
  have same : ({ know with failing := none } : Knowledge) = know := by rw [← ready.failing]
  exact same.symm ▸ onward

theorem follows_handle_publish_error (know event err next) (ready : Ready know [event]) (onward : Follows dispatchOutline know next) :
    Follows dispatchOutline know (handlePublishError dispatcher event err next) := by
  have free : Ready know [] := ⟨ready.owed, ready.failing, by simp⟩
  unfold handlePublishError
  split
  · refine ⟨⟨ready.owed, ready.failing⟩, fun marked _ => ?_⟩
    cases marked with
    | false => exact onward
    | true => exact follows_invoke_on_invalid event err free onward
  refine ⟨⟨ready.owed, ready.failing, ready.claimed event (by simp)⟩, fun marked _ => ?_⟩
  cases marked with
  | false => exact onward
  | true =>
    simp only [dispatchOutline, dispatchLearn, if_true]
    split
    · exact follows_invoke_on_invalid event err free onward
    · exact follows_invoke_on_failed event err free onward

theorem follows_dispatch_events (know events result)
    (ready : Ready know events) : Follows dispatchOutline know (dispatchEvents dispatcher events result) := by
  induction events generalizing result with
  | nil => exact ⟨ready.owed, ready.failing⟩
  | cons event _ ih =>
    have free : Ready know [] := ⟨ready.owed, ready.failing, by simp⟩
    have later := fun result => ih result ⟨ready.owed, ready.failing, fun event member => ready.claimed event (by simp [member])⟩
    refine ⟨⟨ready.owed, ready.failing⟩, fun stopped _ => ?_⟩
    cases stopped with
    | true => exact ⟨ready.owed, ready.failing⟩
    | false =>
      apply follows_publish_attempts dispatcher know event _ _ _ free
      intro err
      cases err with
      | some err =>
        exact follows_handle_publish_error dispatcher know event err _
          ⟨ready.owed, ready.failing, fun other member => ready.claimed other (by simp_all)⟩ (later _)
      | none =>
        refine ⟨⟨ready.owed, ready.failing⟩, fun publishedAt _ => ⟨⟨ready.owed, ready.failing⟩, fun marked _ => ?_⟩⟩
        exact later _

variable {events : List OutboxEvent}

theorem dedup_mem {event} (member : event ∈ deduplicateEvents events) : event ∈ events := by
  induction events with
  | nil => exact member
  | cons _ _ ih =>
    rcases mem_cons.mp member with rfl | later
    · simp
    · simp [ih (mem_of_mem_filter later)]

theorem ready_dedup (ready : Ready know events) : Ready know (deduplicateEvents events) :=
  ⟨ready.owed, ready.failing, fun event member => ready.claimed event (dedup_mem member)⟩

theorem ready_claim (know events handed) (ready : Ready know events) : Ready (know.claim handed) (events ++ handed.getD []) := by
  refine ⟨ready.owed, ready.failing, fun event member => ?_⟩
  rcases mem_append.mp member with old | new
  · exact mem_append_left _ (ready.claimed event old)
  · exact mem_append_right _ new

theorem follows_collect_by_type (know) (budget : Int) (types result next) (ready : Ready know result)
    (onward : ∀ know events, Ready know events → Follows dispatchOutline know (next events)) :
    Follows dispatchOutline know (collectByType budget types result next) := by
  induction types generalizing know result with
  | nil => exact onward know result ready
  | cons _ _ ih =>
    rw [collectByType]
    split
    · exact onward know result ready
    refine ⟨⟨ready.owed, ready.failing⟩, fun events _ => ?_⟩
    have claimed := ready_claim know result events ready
    cases events with
    | none => exact ih (know.claim none) result (by simpa using claimed)
    | some => exact ih _ _ claimed

theorem follows_collect_priority (know) (budget : Int) (next)
    (ready : Ready know []) (onward : ∀ know events, Ready know events → Follows dispatchOutline know (next events)) :
    Follows dispatchOutline know (collectPriorityEvents dispatcher budget next) := by
  unfold collectPriorityEvents
  split
  · exact onward know [] ready
  split
  · refine ⟨⟨ready.owed, ready.failing⟩, fun events _ => ?_⟩
    exact onward _ _ (ready_claim know [] events ready)
  · exact follows_collect_by_type know budget _ [] next ready onward

theorem follows_invoke_each (events : List OutboxEvent) (ready : Ready know []) (onward : Follows dispatchOutline know next) :
    Follows dispatchOutline { know with owed := events.map fun event => event.id } (invokeEach events next) := by
  induction events with
  | nil =>
    have same : ({ know with owed := [] } : Knowledge) = know := by rw [← ready.owed]
    exact same.symm ▸ onward
  | cons _ _ ih => exact ⟨⟨rfl, ready.failing⟩, fun _ _ => ih⟩

theorem follows_reset_stuck (know) (limit : Int) (processingBefore earlier next) (ready : Ready know earlier)
    (onward : ∀ know events, Ready know (earlier ++ events) → Follows dispatchOutline know (next events)) :
    Follows dispatchOutline know (resetStuckProcessing dispatcher limit processingBefore next) := by
  refine ⟨⟨ready.owed, ready.failing⟩, fun answer _ => ?_⟩
  match answer with
  | none => exact onward know [] (by simpa using ready)
  | some (retry, invalid) =>
    have claimed := ready_claim know earlier (some retry) ready
    exact follows_invoke_each invalid ⟨claimed.owed, claimed.failing, by simp⟩ (onward _ retry claimed)

theorem follows_collect_events (know next) (ready : Ready know [])
    (onward : ∀ know events, Ready know events → Follows dispatchOutline know (next events)) :
    Follows dispatchOutline know (collectEvents dispatcher next) := by
  refine ⟨⟨ready.owed, ready.failing⟩, fun failedNow _ => ⟨⟨ready.owed, ready.failing⟩, fun processingNow _ => ?_⟩⟩
  apply follows_collect_priority dispatcher know _ _ ready
  intro know priority ready
  have done := fun know events (ready : Ready know events) => onward know _ (ready_dedup ready)
  dsimp only
  split
  · exact done know priority ready
  split
  · exact done know priority ready
  apply follows_reset_stuck dispatcher know _ _ priority _ ready
  intro know _ ready
  split
  · exact done know _ ready
  refine ⟨⟨ready.owed, ready.failing⟩, fun failed _ => ?_⟩
  have ready := ready_claim know _ failed ready
  dsimp only
  split
  · exact done _ _ ready
  · refine ⟨⟨ready.owed, ready.failing⟩, fun pending _ => ?_⟩
    exact done _ _ (ready_claim _ _ pending ready)

theorem follows_dispatch_once : Follows dispatchOutline ⟨[], [], none⟩ (dispatchOnceResult dispatcher) := by
  apply follows_collect_events dispatcher _ _ ⟨rfl, rfl, by simp⟩
  intro know events ready
  exact follows_dispatch_events dispatcher know events _ ready

end

-- The dispatcher takes the event for retryable, the table has spent its budget.
def Mark.Stale (mark : Mark) : Prop := mark.event.attempts + 1 < mark.maxAttempts ∧ mark.maxAttempts ≤ mark.stored + 1

def StaleMark (world : DispatchWorld) (id : UUID) : Prop := ∃ mark ∈ world.marks, mark.event.id = id ∧ mark.Stale

-- An event's OnInvalid call: not due, owed by one cycle, made, or dropped by a stale mark.
inductive Account {I : Type} (old invalid stale : Prop) (invoked : Nat) (owes : I → Nat) : Prop where
  | quiet (untouched : invalid → old) (fine : ¬ stale) (never : invoked = 0) (none : ∀ i, owes i = 0)
  | owing (i : I) (new : ¬ old) (now : invalid) (fine : ¬ stale) (never : invoked = 0) (once : owes i = 1) (only : ∀ j, j ≠ i → owes j = 0)
  | told (new : ¬ old) (now : invalid) (fine : ¬ stale) (once : invoked = 1) (none : ∀ i, owes i = 0)
  | missed (new : ¬ old) (now : invalid) (dropped : stale) (never : invoked = 0) (none : ∀ i, owes i = 0)

section

variable {I : Type} [DecidableEq I]

omit [DecidableEq I] in
theorem account_fresh {old invalid stale : Prop} {invoked : Nat} {owes : I → Nat}
    (account : Account old invalid stale invoked owes) (fresh : ¬ invalid) :
    ¬ stale ∧ invoked = 0 ∧ ∀ i, owes i = 0 := by
  cases account with
  | quiet _ fine never none => exact ⟨fine, never, none⟩
  | owing i new now | told new now | missed new now => exact absurd now fresh

theorem account_tell (old invalid stale) (invoked : Nat) (owes) (i : I) (account : Account old invalid stale invoked owes) (due : 0 < owes i) :
    Account old invalid stale (invoked + 1) (update owes i (owes i - 1)) := by
  cases account with
  | quiet untouched fine never none | told new now fine once none | missed new now dropped never none =>
    exact absurd (none i) due.ne'
  | owing k new now fine never once only =>
    obtain rfl : i = k := by
      by_contra other
      exact absurd (only i other) due.ne'
    refine .told new now fine (by rw [never]) fun j => ?_
    by_cases same : j = i
    · subst same
      simp [once]
    · simp [same, only j same]

def accountOf (start : Table) (world : DispatchWorld) (know : I → Knowledge) (id : UUID) : Prop :=
  Account (Invalid start id) (Invalid world.table id) (StaleMark world id) (world.invoked.count id) fun i => (know i).owed.count id

def Stored (table : Table) (event : OutboxEvent) : Prop := ∃ row ∈ table.rows, row.event.id = event.id ∧ event.attempts ≤ row.event.attempts

structure Accounts (start : Table) (world : DispatchWorld) (know : I → Knowledge) : Prop where
  named : ∀ row ∈ world.table.rows, row.event.id ≠ 0
  kept : ∀ id, Invalid start id → Invalid world.table id
  known : ∀ i, ∀ event ∈ (know i).claimed, Stored world.table event
  each : ∀ id, accountOf start world know id

variable {after : Table}

theorem stored_shift {table} {spent} {event} (shift : Shift table after spent) (stored : Stored table event) : Stored after event := by
  obtain ⟨row, member, same, most⟩ := stored
  obtain ⟨later, found, sameID, grown⟩ := shift.grows row member
  exact ⟨later, found, sameID.trans same, most.trans grown⟩

theorem delivers_stored {rows} (delivers : Delivers after rows) : ∀ event ∈ rows.map fun row => row.event, Stored after event := by
  intro event member
  obtain ⟨row, found, rfl⟩ := List.mem_map.mp member
  exact ⟨row, delivers row found, rfl, le_refl _⟩

variable (start : Table) (world after : DispatchWorld) (know : I → Knowledge) (i : I) (learned : Knowledge)
  (spent : List UUID) (accounts : Accounts start world know) (shift : Shift world.table after.table spent)
  (claimed : ∀ event ∈ learned.claimed, event ∈ (know i).claimed ∨ Stored after.table event)
  (idle : (know i).owed = [])

include accounts shift claimed in
theorem accounts_of_each (each : ∀ id, accountOf start after (update know i learned) id) : Accounts start after (update know i learned) where
  named := shift.named accounts.named
  kept id old := (shift.invalid id).mpr (.inl (accounts.kept id old))
  known j event member := by
    by_cases same : j = i
    · subst same
      rw [update_self] at member
      rcases claimed event member with held | stored
      · exact stored_shift shift (accounts.known j event held)
      · exact stored
    · rw [update_of_ne same] at member
      exact stored_shift shift (accounts.known j event member)
  each := each

include accounts shift in
theorem account_other (id) (other : id ∉ spent) (sameStale : StaleMark after id ↔ StaleMark world id)
    (sameInvoked : after.invoked = world.invoked) (sameOwed : learned.owed.count id = (know i).owed.count id) :
    accountOf start after (update know i learned) id := by
  have same : (fun j => (update know i learned j).owed.count id) = fun j => (know j).owed.count id := by
    funext j
    by_cases equal : j = i
    · subst equal
      rw [update_self, sameOwed]
    · rw [update_of_ne equal]
  have invalid : Invalid after.table id ↔ Invalid world.table id := by simp [shift.invalid id, other]
  unfold accountOf
  rw [same, propext invalid, propext sameStale, sameInvoked]
  exact accounts.each id

include accounts shift claimed idle in
theorem accounts_owing (sameStale : ∀ id, StaleMark after id ↔ StaleMark world id)
    (sameInvoked : after.invoked = world.invoked) (owed : learned.owed = spent) :
    Accounts start after (update know i learned) := by
  apply accounts_of_each start world after know i learned spent accounts shift claimed
  intro id
  by_cases listed : id ∈ spent
  · have live := shift.first id listed
    obtain ⟨fine, never, none⟩ := account_fresh (accounts.each id) live
    refine .owing i (mt (accounts.kept id) live) ((shift.invalid id).mpr (.inr listed)) (mt (sameStale id).mp fine)
      (sameInvoked ▸ never) ?_ fun j other => ?_
    · rw [update_self, owed]
      exact count_eq_one_of_mem shift.once listed
    · rw [update_of_ne other]
      exact none j
  · apply account_other start world after know i learned spent accounts shift id listed (sameStale id) sameInvoked
    rw [owed, idle, count_eq_zero.mpr listed, count_nil]

include accounts claimed idle in
theorem accounts_missed (id) (shift : Shift world.table after.table [id])
    (sameStale : ∀ other, other ≠ id → (StaleMark after other ↔ StaleMark world other)) (dropped : StaleMark after id)
    (sameInvoked : after.invoked = world.invoked) (owed : learned.owed = []) :
    Accounts start after (update know i learned) := by
  apply accounts_of_each start world after know i learned [id] accounts shift claimed
  intro other
  by_cases same : other = id
  · subst same
    have live := shift.first other (by simp)
    obtain ⟨_, never, none⟩ := account_fresh (accounts.each other) live
    refine .missed (mt (accounts.kept other) live) ((shift.invalid other).mpr (by simp)) dropped (sameInvoked ▸ never) fun j => ?_
    by_cases equal : j = i
    · subst equal
      rw [update_self, owed, count_nil]
    · rw [update_of_ne equal]
      exact none j
  · apply account_other start world after know i learned [id] accounts shift other (by simpa using same) (sameStale other same) sameInvoked
    rw [owed, idle]

end

section

variable {I : Type} [DecidableEq I] (repo : Repository) (tenantID : String) (start : Table) (world after : DispatchWorld)
  (know : I → Knowledge) (i : I) (accounts : Accounts start world know) (idle : (know i).owed = [])

include accounts idle in
theorem accounts_answers (answer transaction) (effect : ∀ now locked table rows, transaction now locked = .ok (table, rows) →
      Shift world.table table [] ∧ Delivers table rows)
    (answers : Answers world after answer transaction) :
    Accounts start after (update know i ((know i).claim answer)) := by
  rcases answers with ⟨rfl, rfl⟩ | ⟨now, locked, table, rows, done, rfl, rfl⟩
  · refine accounts_owing start after after know i _ [] accounts (shift_refl _) ?_ idle (fun _ => Iff.rfl) rfl idle
    intro event member
    exact .inl (by simpa [Knowledge.claim] using member)
  obtain ⟨shift, delivers⟩ := effect now locked table rows done
  refine accounts_owing start world _ know i _ [] accounts shift ?_ idle (fun _ => Iff.rfl) rfl idle
  intro event member
  rcases mem_append.mp member with held | handed
  · exact .inl held
  · exact .inr (delivers_stored delivers event handed)

include accounts idle in
theorem accounts_reclaim (limit : Int) (processingBefore) (maxAttempts : Int) (answer)
    (done : DispatchExec repo tenantID (.reclaimStuckProcessing limit processingBefore maxAttempts) world answer after) :
    Accounts start after (update know i (dispatchLearn (know i) (.reclaimStuckProcessing limit processingBefore maxAttempts) answer)) := by
  rcases done with ⟨rfl, rfl⟩ | ⟨now, locked, table, retry, invalid, done, rfl, rfl⟩
  · exact accounts_owing start after after know i _ [] accounts (shift_refl _) (fun _ held => .inl held) idle (fun _ => Iff.rfl) rfl idle
  obtain ⟨shift, delivers⟩ := reclaim_shift repo tenantID locked now world.table table accounts.named limit
    processingBefore maxAttempts retry invalid done
  refine accounts_owing start world _ know i _ (idsOf invalid) accounts shift ?_ idle (fun _ => Iff.rfl) rfl (by simp [dispatchLearn, idsOf])
  · intro event member
    rcases mem_append.mp member with held | handed
    · exact .inl held
    · exact .inr (delivers_stored delivers event handed)

include accounts idle in
theorem accounts_marks (marked spent transaction) (effect : ∀ now table, transaction now = .ok table → Shift world.table table spent)
    (marks : Marks world after marked transaction) (learned) (sameClaimed : learned.claimed = (know i).claimed)
    (owed : learned.owed = if marked then spent else []) : Accounts start after (update know i learned) := by
  have claimed : ∀ event ∈ learned.claimed, event ∈ (know i).claimed ∨ Stored after.table event := fun event member => .inl (sameClaimed ▸ member)
  rcases marks with ⟨rfl, rfl⟩ | ⟨now, table, done, rfl, rfl⟩
  · exact accounts_owing start after after know i learned [] accounts (shift_refl _) claimed idle (fun _ => Iff.rfl) rfl owed
  · exact accounts_owing start world _ know i learned spent accounts (effect now table done) claimed idle (fun _ => Iff.rfl) rfl owed

include accounts idle in
theorem accounts_mark_failed (event errMsg) (maxAttempts : Int) (marked) (held : event ∈ (know i).claimed)
    (done : DispatchExec repo tenantID (.markFailed event errMsg maxAttempts) world marked after) :
    Accounts start after (update know i (dispatchLearn (know i) (.markFailed event errMsg maxAttempts) marked)) := by
  rcases done with ⟨rfl, rfl⟩ | ⟨now, table, _, member, sameID, done, rfl, rfl⟩
  · exact accounts_owing start after after know i _ [] accounts (shift_refl _) (fun _ held => .inl held) idle (fun _ => Iff.rfl) rfl idle
  obtain ⟨_, inTable, _, _, foundID, _, _, outcome⟩ := mark_failed_shift repo tenantID now world.table table event.id errMsg maxAttempts done
  obtain rfl := same_row inTable member (foundID.trans sameID.symm)
  obtain ⟨stored, storedIn, storedID, _⟩ := accounts.known i event held
  obtain rfl := same_row storedIn inTable (storedID.trans foundID.symm)
  have others : ∀ id, (id = event.id → ¬ Mark.Stale ⟨event, stored.event.attempts, maxAttempts⟩) →
      (StaleMark ⟨table, ⟨event, stored.event.attempts, maxAttempts⟩ :: world.marks, world.invoked⟩ id ↔ StaleMark world id) := by
    intro id fine
    constructor
    · rintro ⟨mark, member, rfl, stale⟩
      rcases mem_cons.mp member with rfl | earlier
      · exact absurd stale (fine rfl)
      · exact ⟨mark, earlier, rfl, stale⟩
    · rintro ⟨mark, earlier, same, stale⟩
      exact ⟨mark, mem_cons_of_mem _ earlier, same, stale⟩
  simp only [dispatchLearn]
  rcases outcome with ⟨spent, _, shift⟩ | ⟨left, _, shift⟩
  · by_cases noticed : event.attempts + 1 ≥ maxAttempts
    · rw [if_pos noticed]
      exact accounts_owing start world _ know i _ [event.id] accounts shift (fun _ held => .inl held) idle
        (fun id => others id fun _ stale => absurd stale.1 (not_lt.mpr noticed)) rfl rfl
    rw [if_neg noticed]
    exact accounts_missed start world _ know i _ accounts (fun _ held => .inl held) idle event.id shift
      (fun id other => others id fun same => absurd same other)
      ⟨_, mem_cons_self, rfl, not_le.mp noticed, spent⟩ rfl idle
  · have unspent : ¬ event.attempts + 1 ≥ maxAttempts := by omega
    rw [if_neg unspent]
    exact accounts_owing start world _ know i _ [] accounts shift (fun _ held => .inl held) idle
      (fun id => others id fun _ stale => absurd stale.2 (not_le.mpr left)) rfl idle

include accounts in
theorem accounts_on_invalid (event : OutboxEvent) (due : (know i).owed.head? = some event.id) :
    Accounts start { world with invoked := event.id :: world.invoked } (update know i { know i with owed := (know i).owed.tail }) := by
  obtain ⟨rest, owed⟩ : ∃ rest, (know i).owed = event.id :: rest := head?_eq_some_iff.mp due
  refine accounts_of_each start world _ know i _ [] accounts (shift_refl _) (fun _ held => .inl held) fun id => ?_
  by_cases same : id = event.id
  · subst same
    have told := account_tell _ _ _ _ _ i (accounts.each event.id) (by simp [owed])
    have counts : (fun j => (update know i { know i with owed := (know i).owed.tail } j).owed.count event.id) =
        update (fun j => (know j).owed.count event.id) i ((know i).owed.count event.id - 1) := by
      funext j
      by_cases equal : j = i
      · subst equal
        simp [owed]
      · simp [equal]
    unfold accountOf
    rw [counts, count_cons_self]
    exact told
  · have counts : (fun j => (update know i { know i with owed := (know i).owed.tail } j).owed.count id) = fun j => (know j).owed.count id := by
      funext j
      by_cases equal : j = i
      · subst equal
        simp [owed, Ne.symm same]
      · simp [equal]
    unfold accountOf
    rw [counts, count_cons_of_ne (Ne.symm same)]
    exact accounts.each id

end

theorem dispatch_keeps {I} [DecidableEq I] (repo : Repository) (tenantID : I → String) (start : Table) :
    Keeps dispatchOutline (dispatchSemantics repo tenantID) (Accounts start) where
  sees _ _ _ _ _ _ := trivial
  act world know i op result after accounts may done := by
    have still : (update know i (know i)) = know := update_eq_self i know
    cases op with
    | listPending limit =>
      exact accounts_answers start world after know i accounts may.1 result _
        (fun now locked table rows => list_pending_shift repo _ locked now world.table table accounts.named limit rows) done
    | listPendingByType eventType limit =>
      exact accounts_answers start world after know i accounts may.1 result _ (fun now locked table rows =>
          list_pending_by_type_shift repo _ locked now world.table table accounts.named eventType limit rows) done
    | listPendingByTypes eventTypes limit =>
      exact accounts_answers start world after know i accounts may.1 result _ (fun now locked table rows =>
          list_pending_by_types_shift repo _ locked now world.table table accounts.named eventTypes limit rows) done
    | resetForRetry limit failedBefore maxAttempts =>
      exact accounts_answers start world after know i accounts may.1 result _ (fun now locked table rows =>
          reset_for_retry_shift repo _ locked now world.table table accounts.named limit failedBefore maxAttempts rows) done
    | reclaimStuckProcessing limit processingBefore maxAttempts =>
      exact accounts_reclaim repo (tenantID i) start world after know i accounts may.1 limit processingBefore maxAttempts result done
    | markPublished event publishedAt =>
      exact accounts_marks start world after know i accounts may.1 result [] _
        (fun now table => mark_published_shift repo _ now world.table table event.id publishedAt) done (know i) rfl
        (by simpa using may.1)
    | markInvalid event errMsg =>
      apply accounts_marks start world after know i accounts may.1 result [event.id] _
        (fun now table => mark_invalid_shift repo _ now world.table table event.id errMsg) done
      · cases result <;> rfl
      · cases result with
        | false => exact may.1
        | true => rfl
    | markFailed event errMsg maxAttempts =>
      exact accounts_mark_failed repo (tenantID i) start world after know i accounts may.1 event errMsg maxAttempts result may.2.2 done
    | onInvalid event =>
      obtain rfl : after = { world with invoked := event.id :: world.invoked } := done
      exact accounts_on_invalid start world know i accounts event may.1
    | onFailed =>
      obtain rfl : after = world := done
      exact accounts_owing start after after know i _ [] accounts (shift_refl _) (fun _ held => .inl held) may.1 (fun _ => Iff.rfl) rfl may.1
    | _ =>
      obtain rfl : after = world := done
      exact still.symm ▸ accounts
  wait world know i op after accounts may moved := moved.elim
  drift world know after accounts moved := by
    obtain ⟨tenant, event, now, table, created, rfl⟩ := moved
    have shift := create_shift repo tenant now world.table table event created
    refine ⟨shift.named accounts.named, ?_, ?_, ?_⟩
    · intro id old
      exact (shift.invalid id).mpr (.inl (accounts.kept id old))
    · intro i event member
      exact stored_shift shift (accounts.known i event member)
    · intro id
      have invalid : Invalid table id ↔ Invalid world.table id := by simp [shift.invalid id]
      have same := accounts.each id
      unfold accountOf at same ⊢
      rwa [propext invalid]

abbrev DispatchPool (I : Type) := Pool I DispatchWorld DispatchOp DispatchRes DispatchResult

def cycles {I : Type} (start : Table) (dispatchers : I → Dispatcher) : DispatchPool I :=
  ⟨⟨start, [], []⟩, fun i => dispatchOnceResult (dispatchers i)⟩

section

variable {I : Type}

def InvokesOnInvalid (pool : DispatchPool I) (i : I) (id : UUID) : Prop :=
  ∃ event err rest, event.id = id ∧ pool.threads i = .call (.onInvalid event err) rest

def InvokesOnFailed (pool : DispatchPool I) (i : I) (id : UUID) : Prop :=
  ∃ event err rest, event.id = id ∧ pool.threads i = .call (.onFailed event err) rest

variable {pool : DispatchPool I} {i : I} {id : UUID}

theorem invokes_one (invalid : InvokesOnInvalid pool i id) : ¬ InvokesOnFailed pool i id := by
  rintro ⟨_, _, _, _, atFailed⟩
  obtain ⟨_, _, _, _, atInvalid⟩ := invalid
  rw [atFailed] at atInvalid
  cases atInvalid

variable {know : Knowledge}

theorem owed_invokes {rest} (follows : Follows dispatchOutline know (pool.threads i))
    (owed : know.owed = id :: rest) : InvokesOnInvalid pool i id := by
  unfold InvokesOnInvalid
  generalize pool.threads i = program at follows ⊢
  cases program with
  | ret => simp [Follows, dispatchOutline, owed] at follows
  | call op next =>
    have may := follows.1
    cases op <;> simp only [dispatchOutline, dispatchMay, owed, reduceCtorEq, false_and] at may
    case onInvalid event err =>
      simp only [head?_cons, Option.some.injEq] at may
      exact ⟨event, err, next, may.1.symm, rfl⟩

theorem failing_invokes (follows : Follows dispatchOutline know (pool.threads i)) (failing : know.failing = some id) : InvokesOnFailed pool i id := by
  unfold InvokesOnFailed
  generalize pool.threads i = program at follows ⊢
  cases program with
  | ret => simp [Follows, dispatchOutline, failing] at follows
  | call op next =>
    have may := follows.1
    cases op <;> simp only [dispatchOutline, dispatchMay, failing, reduceCtorEq, false_and, and_false] at may
    case onFailed event err => exact ⟨event, err, next, (Option.some.inj may.2).symm, rfl⟩

end

theorem cycles_tracked {I : Type} [DecidableEq I] {repo : Repository} {tenantID : I → String}
    {dispatchers : I → Dispatcher} {start : Table} (named : ∀ row ∈ start.rows, row.event.id ≠ 0)
    {labels : List (Event I DispatchOp DispatchRes)} {last : DispatchPool I}
    (run : Run (Process.Step (dispatchSemantics repo tenantID)) (cycles start dispatchers) labels last) :
    ∃ know, Tracks dispatchOutline know last ∧ Accounts start last.world know := by
  apply keeps_run (dispatch_keeps repo tenantID start) (fun i => follows_dispatch_once (dispatchers i)) _ run
  exact ⟨named, fun id old => old, by simp, fun id => .quiet (fun old => old) (by simp [StaleMark, cycles]) rfl (by simp)⟩

theorem callbacks_agree_iff_not_stale {I : Type} [DecidableEq I] (repo : Repository) (tenantID : I → String)
    (dispatchers : I → Dispatcher) (start : Table) (named : ∀ row ∈ start.rows, row.event.id ≠ 0)
    (labels : List (Event I DispatchOp DispatchRes)) (last : DispatchPool I)
    (run : Run (Process.Step (dispatchSemantics repo tenantID)) (cycles start dispatchers) labels last) :
    (∀ i event errMsg maxAttempts next,
      Process.Step (dispatchSemantics repo tenantID) last (.act i (.markFailed event errMsg maxAttempts) true) next →
      ∃ row ∈ last.world.table.rows, ∃ later ∈ next.world.table.rows,
        row.event.id = event.id ∧ later.event.id = event.id ∧
        (((InvokesOnInvalid next i event.id ↔ later.event.status = .invalid) ∧
            (InvokesOnFailed next i event.id ↔ later.event.status = .failed)) ↔
          ¬ (event.attempts + 1 < maxAttempts ∧ maxAttempts ≤ row.event.attempts + 1))) ∧
      ((∀ i id, ¬ InvokesOnInvalid last i id) → ∀ id, Invalid last.world.table id → ¬ Invalid start id →
        (last.world.invoked.count id = 1 ↔ ¬ StaleMark last.world id)) := by
  obtain ⟨know, tracks, accounts⟩ := cycles_tracked named run
  constructor
  · intro i event errMsg maxAttempts next step
    have follows := tracks_step (dispatch_keeps repo tenantID start).sees tracks step i
    obtain ⟨_, stands, _, _, done⟩ := act_thread step
    have held := (tracks_may tracks stands).2.2
    rcases done with ⟨impossible, _⟩ | ⟨now, table, _, _, _, done, _, after⟩
    · cases impossible
    obtain ⟨_, member, later, found, rowID, _, laterID, outcome⟩ :=
      mark_failed_shift repo (tenantID i) now last.world.table table event.id errMsg maxAttempts done
    obtain ⟨stored, storedIn, storedID, _⟩ := accounts.known i event held
    obtain rfl := same_row storedIn member (storedID.trans rowID.symm)
    refine ⟨stored, member, later, by rw [after]; exact found, rowID, laterID, ?_⟩
    simp only [Outline.after, update_self, dispatchOutline, dispatchLearn] at follows
    by_cases noticed : event.attempts + 1 ≥ maxAttempts
    · rw [if_pos noticed] at follows
      have invokes := owed_invokes follows rfl
      have spent : maxAttempts ≤ stored.event.attempts + 1 := by omega
      have status : later.event.status = .invalid := by
        rcases outcome with ⟨_, status, _⟩ | ⟨left, _⟩
        · exact status
        · omega
      simp [invokes, invokes_one invokes, status, not_lt.mpr noticed]
    · rw [if_neg noticed] at follows
      have invokes := failing_invokes follows rfl
      have silent : ¬ InvokesOnInvalid next i event.id := fun invalid => invokes_one invalid invokes
      rcases outcome with ⟨spent, status, _⟩ | ⟨left, status, _⟩
      · simp [silent, status, spent, not_le.mp noticed]
      · simp [silent, invokes, status, left]
  · intro quiet id invalid new
    cases accounts.each id with
    | quiet untouched => exact absurd (untouched invalid) new
    | owing i _ _ _ _ once =>
      have owes : id ∈ (know i).owed := count_pos_iff.mp (by rw [once]; exact one_pos)
      obtain ⟨head, _, owed⟩ := exists_cons_of_ne_nil (ne_nil_of_mem owes)
      exact absurd (owed_invokes (tracks i) owed) (quiet i head)
    | told _ _ fine once => simp [once, fine]
    | missed _ _ dropped never => simp [never, dropped]

def sampleDispatcher : Dispatcher := ⟨⟨10, 1, 2, 0, 0, 0, 5, []⟩, false, fun _ => false, fun _ => "timeout"⟩

def plainRepository : Repository := ⟨false, false, id, fun _ => true⟩

def sampleEvent (status : OutboxEventStatus) (attempts updatedAt : Int) : OutboxEvent :=
  ⟨7, "order.created", 9, [123, 125], status, attempts, none, some "", 1, updatedAt⟩

def sampleStart : Table := ⟨[⟨sampleEvent .pending 0 1, ""⟩], by simp⟩

abbrev sampleSemantics : Semantics Bool DispatchWorld DispatchOp DispatchRes := dispatchSemantics plainRepository fun _ => ""

theorem sample_leads (pool : DispatchPool Bool) (goal : DispatchPool Bool → Prop) (i : Bool) (op : DispatchOp)
    (result : DispatchRes op) (world : DispatchWorld) (next : DispatchRes op → DispatchProg)
    (stands : pool.threads i = .call op next) (done : DispatchExec plainRepository "" op pool.world result world)
    (later : Run.Leads (Process.Step sampleSemantics) ⟨world, update pool.threads i (next result)⟩ goal) :
    Run.Leads (Process.Step sampleSemantics) pool goal :=
  leads_act stands done later

def sampleError : DispatchError := .publishAttempt 1 1 (.handler "timeout")

def sampleMarkWorld : DispatchWorld := ⟨⟨[⟨sampleEvent .processing 1 110, ""⟩], by simp⟩, [], []⟩

theorem sample_to_mark : Run.Leads (Process.Step sampleSemantics) (cycles sampleStart fun _ => sampleDispatcher) fun last =>
    last.world = sampleMarkWorld ∧ last.threads true = .ret ⟨0, 0, 0, 0⟩ ∧ last.threads false =
        handlePublishError sampleDispatcher (sampleEvent .processing 0 20) sampleError (.ret ⟨1, 0, 1, 0⟩) := by
  refine sample_leads _ _ false .now (0 : Int) _ _ rfl rfl ?_
  refine sample_leads _ _ false .now (0 : Int) _ _ rfl rfl ?_
  refine sample_leads _ _ false (.reclaimStuckProcessing 10 0 2) (some ([], [])) _ _ rfl (.inr ⟨10, fun _ => false, _, _, _, rfl, rfl, rfl⟩) ?_
  refine sample_leads _ _ false (.resetForRetry 5 0 2) (some []) _ _ rfl (.inr ⟨10, fun _ => false, _, _, rfl, rfl, rfl⟩) ?_
  refine sample_leads _ _ false (.listPending 10) (some [sampleEvent .processing 0 20]) _ _ rfl (.inr ⟨20, fun _ => false, _, _, rfl, rfl, rfl⟩) ?_
  refine sample_leads _ _ false .ctxErr false _ _ rfl rfl ?_
  refine sample_leads _ _ false (.handle (sampleEvent .processing 0 20)) (some (.handler "timeout")) _ _ rfl rfl ?_
  refine sample_leads _ _ true .now (100 : Int) _ _ rfl rfl ?_
  refine sample_leads _ _ true .now (100 : Int) _ _ rfl rfl ?_
  refine sample_leads _ _ true (.reclaimStuckProcessing 10 100 2) (some ([sampleEvent .processing 1 110], [])) _ _ rfl
    (.inr ⟨110, fun _ => false, _, _, _, rfl, rfl, rfl⟩) ?_
  refine sample_leads _ _ true (.resetForRetry 5 100 2) (some []) _ _ rfl (.inr ⟨110, fun _ => false, _, _, rfl, rfl, rfl⟩) ?_
  refine sample_leads _ _ true (.listPending 9) (some []) _ _ rfl (.inr ⟨110, fun _ => false, _, _, rfl, rfl, rfl⟩) ?_
  refine sample_leads _ _ true .ctxErr true _ _ rfl rfl ?_
  exact Run.leads_here _ _ ⟨rfl, rfl, rfl⟩

def sampleMarkedWorld : DispatchWorld := ⟨⟨[⟨{ sampleEvent .invalid 2 120 with lastError := some "timeout" }, ""⟩], by simp⟩,
    [⟨sampleEvent .processing 0 20, 1, 2⟩], []⟩

theorem sample_mark {last} (world : last.world = sampleMarkWorld) (stands : last.threads false =
      handlePublishError sampleDispatcher (sampleEvent .processing 0 20) sampleError (.ret ⟨1, 0, 1, 0⟩)) :
    ∃ next, Process.Step sampleSemantics last (.act false (.markFailed (sampleEvent .processing 0 20) "timeout" 2) true) next ∧
      next.world = sampleMarkedWorld ∧ next.threads true = last.threads true ∧
      next.threads false = invokeOnFailed (sampleEvent .processing 0 20) sampleError (.ret ⟨1, 0, 1, 0⟩) := by
  have done : DispatchExec plainRepository "" (.markFailed (sampleEvent .processing 0 20) "timeout" 2) last.world true sampleMarkedWorld := by
    rw [world]
    exact .inr ⟨120, _, _, mem_singleton_self _, rfl, rfl, rfl, rfl⟩
  have step : Process.Step sampleSemantics last _ _ :=
    .act last false (.markFailed (sampleEvent .processing 0 20) "timeout" 2) _ true sampleMarkedWorld stands done
  exact ⟨_, step, rfl, rfl, rfl⟩

theorem stale_mark_calls_on_failed :
    Run.Leads (Process.Step sampleSemantics) (cycles sampleStart fun _ => sampleDispatcher) fun last =>
      ∃ event next, Process.Step sampleSemantics last (.act false (.markFailed event "timeout" 2) true) next ∧
        Invalid next.world.table event.id ∧ InvokesOnFailed next false event.id ∧
        ¬ InvokesOnInvalid next false event.id ∧
        Run.Leads (Process.Step sampleSemantics) next fun final =>
          (∀ i, ∃ result, final.threads i = .ret result) ∧ Invalid final.world.table event.id ∧
            final.world.invoked.count event.id = 0 := by
  obtain ⟨labels, last, run, world, ended, stands⟩ := sample_to_mark
  obtain ⟨next, step, marked, other, calls⟩ := sample_mark world stands
  have invalid : Invalid sampleMarkedWorld.table 7 := ⟨_, mem_singleton_self _, rfl, rfl⟩
  have failed : InvokesOnFailed next false 7 := ⟨_, _, _, rfl, calls⟩
  refine ⟨labels, last, run, sampleEvent .processing 0 20, next, step, ?_, failed, ?_, ?_⟩
  · rw [marked]
    exact invalid
  · exact fun wrong => invokes_one wrong failed
  · refine sample_leads next _ false (.onFailed (sampleEvent .processing 0 20) sampleError) () sampleMarkedWorld _ calls
      marked.symm (Run.leads_here _ _ ⟨fun i => ?_, invalid, rfl⟩)
    cases i with
    | false => exact ⟨_, rfl⟩
    | true => exact ⟨_, other.trans ended⟩

theorem sample_callbacks :
    Run.Leads (Process.Step sampleSemantics) (cycles sampleStart fun _ => sampleDispatcher) fun last =>
      ∃ next, Process.Step sampleSemantics last (.act false (.markFailed (sampleEvent .processing 0 20) "timeout" 2) true) next ∧
        ∃ later ∈ next.world.table.rows, ¬ ((InvokesOnInvalid next false 7 ↔ later.event.status = .invalid) ∧
          (InvokesOnFailed next false 7 ↔ later.event.status = .failed)) := by
  obtain ⟨labels, last, run, world, _, stands⟩ := sample_to_mark
  obtain ⟨next, step, _⟩ := sample_mark world stands
  have named : ∀ row ∈ sampleStart.rows, row.event.id ≠ 0 := by decide
  obtain ⟨_, member, later, found, _, _, agree⟩ :=
    (callbacks_agree_iff_not_stale plainRepository (fun _ => "") (fun _ => sampleDispatcher) sampleStart named
      labels last run).1 false _ _ _ _ step
  rw [world] at member
  obtain rfl := mem_singleton.mp member
  exact ⟨labels, last, run, next, step, later, found, fun agrees => agree.mp agrees ⟨by decide, by decide⟩⟩

end LibCommons.Outbox
