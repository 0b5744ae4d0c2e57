import LibCommons.Lib.Run
import LibCommons.Outbox.Lifecycle
import LibCommons.Outbox.Statements

namespace LibCommons.Outbox

open Checked List

-- Nothing ties a mark to the dispatcher that claimed the event.
inductive Request where
  | create (event : OutboxEvent)
  | listPending (limit : Int)
  | listPendingByType (eventType : String) (limit : Int)
  | resetForRetry (limit : Int) (failedBefore : Time)
  | reclaimStuckProcessing (limit : Int) (processingBefore : Time)
  | markPublished (id : UUID) (publishedAt : Time)
  | markFailed (id : UUID) (errMsg : String)
  | markInvalid (id : UUID) (errMsg : String)

structure Call where
  request : Request
  tenantID : String
  now : Time
  locked : UUID → Bool
  delivered : Bool

def perform (repo : Repository) (maxAttempts : Int) (call : Call) (table : Table) : Except RepositoryError (Table × List Row) :=
  match call.request with
  | .create event => (create repo call.tenantID event call.now table).map fun table => (table, [])
  | .listPending limit => listPending repo call.tenantID limit call.locked call.now table
  | .listPendingByType eventType limit =>
    listPendingByType repo call.tenantID eventType limit call.locked call.now table
  | .resetForRetry limit failedBefore =>
    resetForRetry repo call.tenantID limit failedBefore maxAttempts call.locked call.now table
  | .reclaimStuckProcessing limit processingBefore =>
    (reclaimStuckProcessing repo call.tenantID limit processingBefore maxAttempts call.locked call.now table).map
      fun (table, retryEvents, _) => (table, retryEvents)
  | .markPublished id publishedAt =>
    (markPublished repo call.tenantID id publishedAt call.now table).map fun table => (table, [])
  | .markFailed id errMsg =>
    (markFailed repo call.tenantID id errMsg maxAttempts call.now table).map fun table => (table, [])
  | .markInvalid id errMsg => (markInvalid repo call.tenantID id errMsg call.now table).map fun table => (table, [])

structure World where
  table : Table
  handedOut : List UUID

def World.empty : World := ⟨⟨[], by simp⟩, []⟩

-- A refused transaction rolls back; a committed one may lose its answer.
def next (repo : Repository) (maxAttempts : Int) (world : World) (call : Call) : World :=
  match perform repo maxAttempts call world.table with
  | .error _ => world
  | .ok (table, events) => ⟨table, if call.delivered then world.handedOut ++ idsOf events else world.handedOut⟩

def Step (repo : Repository) (maxAttempts : Int) (world : World) (call : Call) (after : World) : Prop :=
  next repo maxAttempts world call = after

def lifeOf (row : Row) (handouts : Nat) : Life := ⟨row.event.status, row.event.attempts, handouts⟩

def Evolves (maxAttempts : Int) (before after : Life) : Prop := before = after ∨ Advance maxAttempts before after

structure Effect (maxAttempts : Int) (table after : Table) (handed : List UUID) : Prop where
  rows : ∃ change : Row → Row, after.rows = table.rows.map change ∧ (∀ row, (change row).event.id = row.event.id) ∧
    ∀ row ∈ table.rows, ∀ handouts delivered, delivered ≤ handed.count row.event.id →
      Evolves maxAttempts (lifeOf row handouts) (lifeOf (change row) (handouts + delivered))
  known : ∀ id ∈ handed, id ∈ idsOf table.rows

variable {table : Table} {status : OutboxEventStatus} {owned : Row → Bool} {events : List Row} {row : Row}

theorem handed_count (picked : Picked table status owned events) (member : row ∈ table.rows) :
    (idsOf events).count row.event.id = if row ∈ events then 1 else 0 := by
  have listed := picked_member picked member
  split
  · next taken => exact count_eq_one_of_mem picked.unique (listed.mpr taken)
  · next left => exact count_eq_zero.mpr (mt listed.mp left)

variable {maxAttempts : Int} {after : Table} {assignment : Assignment}

theorem touch_effect (picked : Picked table status owned events) (rows : after.rows = table.rows.map (touch events assignment))
    (entry : ∀ row ∈ events, ∀ handouts delivered, delivered ≤ 1 →
      Advance maxAttempts (lifeOf row handouts) (lifeOf (assignment.set row) (handouts + delivered))) :
    Effect maxAttempts table after (idsOf events) := by
  refine ⟨⟨_, rows, touch_id events assignment, ?_⟩, ?_⟩
  · intro row member handouts delivered counted
    rw [handed_count picked member] at counted
    by_cases taken : row ∈ events
    · rw [if_pos taken] at counted
      rw [touch_taken assignment taken]
      exact .inr (entry row taken handouts delivered counted)
    rw [if_neg taken] at counted
    obtain rfl : delivered = 0 := by omega
    rw [touch_left assignment taken]
    exact .inl rfl
  · intro _ listed
    obtain ⟨row, taken, rfl⟩ := mem_map.mp listed
    exact mem_map_of_mem (picked.inTable row taken)

variable {limit : Int} {locked : UUID → Bool} {now : Time}

theorem claim_effect {found} {key} {fromStatus} {handed} (named : ∀ row ∈ table.rows, row.event.id ≠ 0)
    (entry : ∀ row : Row, row.event.status = fromStatus → found row = true → ∀ handouts delivered, delivered ≤ 1 →
      Advance maxAttempts (lifeOf row handouts) ⟨.processing, row.event.attempts, handouts + delivered⟩)
    (claimed : claimRows found key fromStatus owned limit locked now table = .ok (after, handed)) :
    Effect maxAttempts table after (idsOf handed) := by
  obtain ⟨events, picked, fits, rows, rfl⟩ := claim_rows_ok named claimed
  have ids : idsOf (events.map (assignStatus .processing now).set) = idsOf events := by simp [idsOf, assignStatus]
  rw [ids]
  apply touch_effect picked rows
  intro row taken
  exact entry row (picked.sameStatus row taken) (fits row taken)

variable {repo : Repository} {tenantID : String}

theorem mark_event_effect {id} (marked : markEvent repo tenantID id assignment table = .ok after)
    (entry : ∀ row : Row, row.event.status = .processing → ∀ handouts,
      Advance maxAttempts (lifeOf row handouts) (lifeOf (assignment.set row) handouts)) : Effect maxAttempts table after [] := by
  obtain ⟨row, _, _, processing, rows⟩ := mark_event_ok marked
  refine ⟨⟨_, rows, touch_id [row] assignment, ?_⟩, by simp⟩
  intro other _ handouts delivered counted
  obtain rfl : delivered = 0 := by simpa using counted
  by_cases same : other = row
  · subst same
    rw [touch_taken assignment (by simp)]
    exact .inr (entry other processing handouts)
  · rw [touch_left assignment (by simpa using same)]
    exact .inl rfl

theorem reclaim_effect {processingBefore} {retryEvents exhaustedEvents} (named : ∀ row ∈ table.rows, row.event.id ≠ 0)
    (performed : reclaimStuckProcessing repo tenantID limit processingBefore maxAttempts locked now table =
      .ok (after, retryEvents, exhaustedEvents)) : Effect maxAttempts table after (idsOf retryEvents) := by
  obtain ⟨_, retried, exhausted, pickedRetry, pickedSpent, left, spent, rows, rfl, rfl⟩ := reclaim_ok named performed
  have ids : idsOf (retried.map (assignReprocessing now).set) = idsOf retried := by simp [idsOf, assignReprocessing]
  rw [ids]
  refine ⟨⟨_, rows, reclaimed_id retried exhausted now, ?_⟩, ?_⟩
  · intro row member handouts delivered counted
    rw [handed_count pickedRetry member] at counted
    unfold reclaimed
    split at counted
    · next retriedRow =>
      rw [if_pos retriedRow]
      refine .inr ?_
      simp only [lifeOf, pickedRetry.sameStatus row retriedRow]
      exact .reclaim row.event.attempts handouts delivered counted (left row retriedRow)
    · next notRetried =>
      rw [if_neg notRetried]
      obtain rfl : delivered = 0 := by omega
      split
      · next spentRow =>
        refine .inr ?_
        simp only [lifeOf, pickedSpent.sameStatus row spentRow]
        exact .exhaust row.event.attempts handouts (spent row spentRow)
      · exact .inl rfl
  · intro _ listed
    obtain ⟨row, taken, rfl⟩ := mem_map.mp listed
    exact mem_map_of_mem (pickedRetry.inTable row taken)

theorem pending_claim (maxAttempts : Int) (pending : row.event.status = .pending) (handouts : Nat) {delivered} (once : delivered ≤ 1) :
    Advance maxAttempts (lifeOf row handouts) ⟨.processing, row.event.attempts, handouts + delivered⟩ := by
  simp only [lifeOf, pending]
  exact .claim row.event.attempts handouts delivered once

theorem perform_ok {call} (named : ∀ row ∈ table.rows, row.event.id ≠ 0) (performed : perform repo maxAttempts call table = .ok (after, events)) :
    Effect maxAttempts table after (idsOf events) ∨ (events = [] ∧ ∃ row : Row, after.rows = row :: table.rows ∧ row.event.id ≠ 0 ∧
        row.event.id ∉ idsOf table.rows ∧ row.event.status = .pending ∧ row.event.attempts = 0) := by
  unfold perform at performed
  split at performed
  · next event _ =>
    simp only [map_ok_iff, Prod.mk.injEq] at performed
    obtain ⟨_, created, rfl, rfl⟩ := performed
    exact .inr ⟨rfl, create_ok created⟩
  · simp only [listPending, bind_ok_iff] at performed
    obtain ⟨_, _, owned, _, claimed⟩ := performed
    exact .inl (claim_effect named (fun row pending _ => pending_claim maxAttempts pending) claimed)
  · simp only [listPendingByType, bind_ok_iff] at performed
    obtain ⟨_, _, _, _, _, _, claimed⟩ := performed
    exact .inl (claim_effect named (fun row pending _ => pending_claim maxAttempts pending) claimed)
  · simp only [resetForRetry, bind_ok_iff] at performed
    obtain ⟨_, _, _, _, _, _, claimed⟩ := performed
    refine .inl (claim_effect named ?_ claimed)
    intro row failed found handouts delivered once
    simp only [Bool.and_eq_true, decide_eq_true_eq] at found
    simp only [lifeOf, failed]
    exact .retry row.event.attempts handouts delivered once found.1
  · simp only [map_ok_iff, Prod.mk.injEq] at performed
    obtain ⟨⟨_, _, _⟩, reclaimed, rfl, rfl⟩ := performed
    exact .inl (reclaim_effect named reclaimed)
  · simp only [map_ok_iff, Prod.mk.injEq, markPublished, bind_ok_iff] at performed
    obtain ⟨_, ⟨_, _, _, _, marked⟩, rfl, rfl⟩ := performed
    refine .inl (mark_event_effect marked ?_)
    intro row processing handouts
    simp only [lifeOf, processing]
    exact .publish row.event.attempts handouts
  · simp only [map_ok_iff, Prod.mk.injEq, markFailed, bind_ok_iff] at performed
    obtain ⟨_, ⟨_, _, _, _, _, _, _, _, marked⟩, rfl, rfl⟩ := performed
    refine .inl (mark_event_effect marked ?_)
    intro row processing handouts
    simp only [lifeOf, processing, assignFailed]
    by_cases spent : maxAttempts ≤ row.event.attempts + 1
    · rw [if_pos spent]
      exact .exhaust row.event.attempts handouts spent
    · rw [if_neg spent]
      exact .fail row.event.attempts handouts (not_le.mp spent)
  · simp only [map_ok_iff, Prod.mk.injEq, markInvalid, bind_ok_iff] at performed
    obtain ⟨_, ⟨_, _, _, _, marked⟩, rfl, rfl⟩ := performed
    refine .inl (mark_event_effect marked ?_)
    intro row processing handouts
    simp only [lifeOf, processing]
    exact .reject row.event.attempts handouts

structure Sound (maxAttempts : Int) (world : World) : Prop where
  named : ∀ row ∈ world.table.rows, row.event.id ≠ 0
  within : ∀ row ∈ world.table.rows, Within maxAttempts (lifeOf row (world.handedOut.count row.event.id))
  known : ∀ id ∈ world.handedOut, id ∈ idsOf world.table.rows

def Continues (before after : World) : Prop := ∀ row ∈ before.table.rows, ∃ later ∈ after.table.rows, later.event.id = row.event.id ∧
    row.event.attempts ≤ later.event.attempts ∧
    (terminal row.event.status → later.event.status = row.event.status)

theorem continues_refl (world : World) : Continues world world := fun row member => ⟨row, member, rfl, le_refl _, fun _ => rfl⟩

theorem continues_trans (first second third : World) (left : Continues first second) (right : Continues second third) : Continues first third := by
  intro row member
  obtain ⟨middle, inMiddle, sameID, grown, stays⟩ := left row member
  obtain ⟨last, inLast, sameID', grown', stays'⟩ := right middle inMiddle
  refine ⟨last, inLast, sameID'.trans sameID, grown.trans grown', fun ended => ?_⟩
  have halfway := stays ended
  rw [stays' (halfway ▸ ended), halfway]

variable {before : Life}

theorem evolves_within {after} (moved : Evolves maxAttempts before after) (within : Within maxAttempts before) : Within maxAttempts after := by
  rcases moved with rfl | moved
  · exact within
  · exact advance_within moved within

theorem evolves_continues {after} (moved : Evolves maxAttempts before after) :
    before.attempts ≤ after.attempts ∧ (terminal before.status → after.status = before.status) := by
  rcases moved with rfl | moved
  · exact ⟨le_refl _, fun _ => rfl⟩
  · exact ⟨advance_attempts moved, fun ended => absurd ended (advance_not_terminal moved)⟩

variable {world : World}

theorem effect_sound {returned handed} (sound : Sound maxAttempts world)
    (effect : Effect maxAttempts world.table table returned) (part : ∀ id, handed.count id ≤ returned.count id)
    (partKnown : ∀ id ∈ handed, id ∈ returned) :
    Sound maxAttempts ⟨table, world.handedOut ++ handed⟩ ∧ Continues world ⟨table, world.handedOut ++ handed⟩ := by
  obtain ⟨⟨change, rows, sameID, moves⟩, known⟩ := effect
  have evolves : ∀ row ∈ world.table.rows, Evolves maxAttempts (lifeOf row (world.handedOut.count row.event.id))
      (lifeOf (change row) ((world.handedOut ++ handed).count (change row).event.id)) := by
    intro row member
    rw [sameID, count_append]
    exact moves row member _ _ (part row.event.id)
  have sameIDs : idsOf table.rows = idsOf world.table.rows := by
    rw [idsOf, rows, map_map]
    exact map_congr_left fun row _ => sameID row
  refine ⟨⟨?_, ?_, ?_⟩, ?_⟩
  · intro row member
    rw [rows] at member
    obtain ⟨old, found, rfl⟩ := mem_map.mp member
    rw [sameID]
    exact sound.named old found
  · intro row member
    rw [rows] at member
    obtain ⟨old, found, rfl⟩ := mem_map.mp member
    exact evolves_within (evolves old found) (sound.within old found)
  · intro id listed
    rw [sameIDs]
    rcases mem_append.mp listed with earlier | now
    · exact sound.known id earlier
    · exact known id (partKnown id now)
  · intro row member
    refine ⟨change row, by rw [rows]; exact mem_map_of_mem member, sameID row, ?_⟩
    exact evolves_continues (evolves row member)

theorem created_sound (positive : 0 < maxAttempts) (sound : Sound maxAttempts world)
    (rows : table.rows = row :: world.table.rows) (named : row.event.id ≠ 0) (fresh : row.event.id ∉ idsOf world.table.rows)
    (pending : row.event.status = .pending) (unattempted : row.event.attempts = 0) :
    Sound maxAttempts ⟨table, world.handedOut⟩ ∧ Continues world ⟨table, world.handedOut⟩ := by
  refine ⟨⟨?_, ?_, ?_⟩, ?_⟩
  · rw [rows]
    simpa using ⟨named, sound.named⟩
  · rw [rows]
    intro other member
    rcases mem_cons.mp member with rfl | old
    · have never : world.handedOut.count other.event.id = 0 := count_eq_zero.mpr fun listed => fresh (sound.known _ listed)
      simp only [lifeOf, pending, unattempted, never, Within]
      omega
    · exact sound.within other old
  · intro id listed
    rw [idsOf, rows]
    exact mem_cons_of_mem _ (sound.known id listed)
  · intro other member
    exact ⟨other, by simp [rows, member], rfl, le_refl _, fun _ => rfl⟩

theorem next_sound (repo : Repository) (positive : 0 < maxAttempts) (call : Call) (sound : Sound maxAttempts world) :
    Sound maxAttempts (next repo maxAttempts world call) ∧ Continues world (next repo maxAttempts world call) := by
  unfold next
  cases performed : perform repo maxAttempts call world.table with
  | error => exact ⟨sound, continues_refl world⟩
  | ok result =>
    obtain ⟨_, events⟩ := result
    simp only
    obtain ⟨handed, part, logged⟩ : ∃ handed : List UUID, (∀ id, handed.count id ≤ (idsOf events).count id) ∧
        (if call.delivered then world.handedOut ++ idsOf events else world.handedOut) = world.handedOut ++ handed := by
      cases call.delivered with
      | true => exact ⟨idsOf events, fun _ => le_refl _, rfl⟩
      | false => exact ⟨[], fun _ => by simp, by simp⟩
    rw [logged]
    have partKnown : ∀ id ∈ handed, id ∈ idsOf events := fun id listed => count_pos_iff.mp (lt_of_lt_of_le (count_pos_iff.mpr listed) (part id))
    rcases perform_ok sound.named performed with
      effect | ⟨rfl, row, rows, named, fresh, pending, unattempted⟩
    · exact effect_sound sound effect part partKnown
    obtain rfl : handed = [] := eq_nil_iff_forall_not_mem.mpr fun id listed => by
      simpa [idsOf] using partKnown id listed
    rw [append_nil]
    exact created_sound positive sound rows named fresh pending unattempted

theorem dispatch_budget (repo : Repository) (maxAttempts : Int) (positive : 0 < maxAttempts) (calls : List Call)
    (world : World) (run : Run (Step repo maxAttempts) World.empty calls world) :
    (∀ id, world.handedOut.count id ≤ maxAttempts) ∧
      (∀ row ∈ world.table.rows, maxAttempts ≤ row.event.attempts → terminal row.event.status) ∧
      ∀ laterCalls later, Run (Step repo maxAttempts) world laterCalls later → Continues world later := by
  have keeps : ∀ state call after, Sound maxAttempts state → Step repo maxAttempts state call after →
      Sound maxAttempts after := by
    rintro _ call _ sound rfl
    exact (next_sound repo positive call sound).1
  have start : Sound maxAttempts World.empty := ⟨by simp [World.empty], by simp [World.empty], by simp [World.empty]⟩
  have sound := Run.invariant (Sound maxAttempts) keeps _ _ calls run start
  refine ⟨fun id => ?_, fun row member spent => ?_, fun laterCalls later laterRun => ?_⟩
  · by_cases listed : id ∈ world.handedOut
    · obtain ⟨row, member, rfl⟩ := mem_map.mp (sound.known id listed)
      exact within_handouts (sound.within row member)
    · rw [count_eq_zero.mpr listed]
      exact positive.le
  · exact within_spent (sound.within row member) spent
  · refine Run.relates (Sound maxAttempts) Continues keeps continues_refl continues_trans ?_ _ _ laterCalls laterRun sound
    rintro _ call _ sound rfl
    exact (next_sound repo positive call sound).2

theorem run_foldl (repo : Repository) (maxAttempts : Int) (calls : List Call) (world : World) :
    Run (Step repo maxAttempts) world calls (calls.foldl (next repo maxAttempts) world) := by
  induction calls generalizing world with
  | nil => exact .nil world
  | cons call rest ih => exact .cons world _ _ call rest rfl (ih (next repo maxAttempts world call))

def sampleRepository : Repository := ⟨false, false, id, fun payload => payload = [123, 125]⟩

def sampleCall (request : Request) (now : Time) : Call := ⟨request, "", now, fun _ => false, true⟩

def sampleCalls : List Call := [sampleCall (.create ⟨7, " order.created ", 9, [123, 125], .published, 5, none, none, 0, 0⟩) 10,
  sampleCall (.listPending 10) 20,
  sampleCall (.reclaimStuckProcessing 10 30) 40,
  sampleCall (.markFailed 7 "timeout") 50,
  sampleCall (.resetForRetry 10 60) 60,
  sampleCall (.markPublished 7 70) 70]

theorem sample_dispatch_budget :
    (sampleCalls.foldl (next sampleRepository 2) World.empty).handedOut = [7, 7] ∧
      (sampleCalls.foldl (next sampleRepository 2) World.empty).table.rows.map (fun row => row.event.status) = [.invalid] ∧
      (sampleCalls.foldl (next sampleRepository 2) World.empty).handedOut.count 7 ≤ (2 : Int) := by
  refine ⟨by decide, by decide, ?_⟩
  exact (dispatch_budget sampleRepository 2 (by decide) sampleCalls _ (run_foldl _ _ _ _)).1 7

end LibCommons.Outbox
