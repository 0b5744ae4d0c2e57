import LibCommons.TenantManager.Postgres

namespace LibCommons.TenantPostgres

open Function

open Connections hiding Step
open Threads (go Step)

variable {T I : Type} [DecidableEq T]

-- Where a pool is: with the goroutine that opened it, in the map, or taken out for good.
inductive Spot (I : Type) where
  | held (i : I)
  | listed
  | gone

structure Ledger (T I : Type) where
  owner : Nat → T
  spot : Nat → Spot I

def Ledger.put (ledger : Ledger T I) (conn : Nat) (spot : Spot I) : Ledger T I :=
  { ledger with spot := fun other => if other = conn then spot else ledger.spot other }

-- A goroutine gives away only what it holds and nothing comes back.
def Passes (i : I) (before after : Spot I) : Prop :=
  after = before ∨ (∀ j, after ≠ .held j) ∧ before ≠ .gone ∧ ∀ j, before = .held j → j = i

structure Turn (i : I) (opened : Nat) (ledger next : Ledger T I) : Prop where
  owner : ∀ conn, conn < opened → next.owner conn = ledger.owner conn
  spot : ∀ conn, conn < opened → Passes i (ledger.spot conn) (next.spot conn)

structure Book (ledger : Ledger T I) (world : World T ConnStrings Unit) : Prop where
  listed : ∀ tenantID conn, world.connections.lookup tenantID = some conn →
    conn < world.conns.length ∧ ledger.spot conn = .listed ∧ ledger.owner conn = tenantID
  ended : ∀ conn, conn < world.conns.length → world.ended conn = true → ledger.spot conn = .gone

def Knows (ledger : Ledger T I) (opened : Nat) (i : I) : Phase T ConnStrings (Stage T) → Prop
  | .caching tenantID conn _ _ _ | .canStore tenantID conn _ _ | .swap tenantID conn _ _ =>
    conn < opened ∧ ledger.spot conn = .held i ∧ ledger.owner conn = tenantID
  | .front (.healthGate tenantID conn) | .front (.runHealthCheck tenantID conn) =>
    conn < opened ∧ (∀ j, ledger.spot conn ≠ .held j) ∧ ledger.owner conn = tenantID
  | .closing conn after => (conn < opened ∧ ledger.spot conn = .gone) ∧ Knows ledger opened i after
  | .closingAll conns => conns = []
  | _ => True

section

variable {ledger next last : Ledger T I} {i : I} {opened : Nat}

omit [DecidableEq T] in
theorem turn_refl (i : I) (opened : Nat) (ledger : Ledger T I) : Turn i opened ledger ledger := ⟨fun _ _ => rfl, fun _ _ => .inl rfl⟩

omit [DecidableEq T] in
theorem turn_trans (first : Turn i opened ledger next) (later : Turn i opened next last) : Turn i opened ledger last :=
  ⟨fun conn within => (later.owner conn within).trans (first.owner conn within), fun conn within => by
    grind [Passes, first.spot conn within, later.spot conn within]⟩

omit [DecidableEq T] in
theorem turn_put {conn} {spot} (passes : Passes i (ledger.spot conn) spot) : Turn i opened ledger (ledger.put conn spot) :=
  ⟨fun _ _ => rfl, fun other within => by grind [Ledger.put, Passes]⟩

omit [DecidableEq T] in
theorem knows_turn {j} (other : j ≠ i) (turn : Turn i opened ledger next) {later} (longer : opened ≤ later)
    (phase) (knows : Knows ledger opened j phase) : Knows next later j phase := by
  have spot := turn.spot
  have owner := turn.owner
  induction phase with
  | front stage => cases stage <;> grind [Knows, Passes]
  | _ => grind [Knows, Passes]

end

section

variable {ledger : Ledger T I} {world next : World T ConnStrings Unit} {i : I} {tenantID : T} {conn : Nat}

omit [DecidableEq T] in
theorem put_gone (ledger : Ledger T I) (conn : Nat) : (ledger.put conn .gone).spot conn = .gone := if_pos rfl

theorem book_end (conn : Nat) (book : Book ledger world) (gone : ledger.spot conn = .gone) : Book ledger (endConn conn world) := by
  refine ⟨book.listed, ?_⟩
  intro other within ended
  by_cases same : other = conn
  · exact same ▸ gone
  · exact book.ended other within (by simpa [endConn, same] using ended)

theorem book_unlisted (book : Book ledger world) (unlisted : ∀ owner, world.connections.lookup owner ≠ some conn) :
    Book (ledger.put conn .gone) world := by
  refine ⟨?_, ?_⟩
  · intro owner other held
    grind [Ledger.put, book.listed owner other held]
  · intro other within ended
    grind [Ledger.put, book.ended other within ended]

theorem unlisted_held (book : Book ledger world) (mine : ledger.spot conn = .held i) (owner : T) : world.connections.lookup owner ≠ some conn := by
  intro held
  cases mine.symm.trans (book.listed owner conn held).2.1

theorem book_delete (tenantID : T) (book : Book ledger world) : Book ledger (delete tenantID world) :=
  ⟨fun owner other found => book.listed owner other (delete_lookup world tenantID owner other found), book.ended⟩

theorem book_retire (book : Book ledger world) (held : world.connections.lookup tenantID = some conn) :
    Book (ledger.put conn .gone) (delete tenantID world) := by
  refine book_unlisted (book_delete tenantID book) ?_
  intro owner found
  obtain ⟨-, -, owned⟩ := book.listed owner conn (delete_lookup world tenantID owner conn found)
  obtain rfl : owner = tenantID := owned.symm.trans (book.listed tenantID conn held).2.2
  simp [delete] at found

theorem turn_retire (book : Book ledger world) (held : world.connections.lookup tenantID = some conn) :
    Turn i world.conns.length ledger (ledger.put conn .gone) := by
  apply turn_put
  grind [Passes, book.listed tenantID conn held]

theorem book_remove (book : Book ledger world) (held : world.connections.lookup tenantID = some conn) :
    Book (ledger.put conn .gone) (delete tenantID (endConn conn world)) := by
  have retired := book_end conn (book_retire book held) (put_gone ..)
  exact ⟨retired.listed, retired.ended⟩

theorem book_install (config) (fetch : Nat) (now : Int) (book : Book ledger (delete tenantID world))
    (mine : conn < world.conns.length ∧ ledger.spot conn = .held i ∧ ledger.owner conn = tenantID) :
    Book (ledger.put conn .listed) (install postgres tenantID conn config fetch now world) := by
  refine ⟨?_, ?_⟩
  · intro owner other found
    by_cases same : owner = tenantID
    · subst same
      obtain rfl : conn = other := by simpa [install] using found
      exact ⟨mine.1, if_pos rfl, mine.2.2⟩
    · have held : (delete tenantID world).connections.lookup owner = some other := by
        simpa [install, delete, AList.lookup_insert_ne same, AList.lookup_erase_ne same] using found
      grind [Ledger.put, book.listed owner other held, delete, install]
  · intro other within dead
    grind [Ledger.put, book.ended other within dead]

theorem book_evict (settings : Settings) (order : List (Sigma fun _ : T => Int)) (now : Int) (book : Book ledger world) :
    ∃ later, Turn i world.conns.length ledger later ∧ Book later (evictLRU settings order now world) ∧
      ∀ conn, ledger.spot conn = .held i → later.spot conn = .held i := by
  cases evict_cases settings order now world with
  | inl same =>
    rw [same]
    exact ⟨ledger, turn_refl i _ ledger, book, fun _ => id⟩
  | inr evicted =>
    obtain ⟨candidateID, taken, held, same⟩ := evicted
    rw [same]
    refine ⟨_, turn_retire book held, book_remove book held, ?_⟩
    intro _ _
    grind [Ledger.put, book.listed candidateID taken held]

theorem book_open (config) (book : Book ledger world) (i : I) (tenantID : T) :
    ∃ later, Turn i world.conns.length ledger later ∧ Book later (openConn config world) ∧
      world.conns.length < (openConn config world).conns.length ∧ later.spot world.conns.length = .held i ∧
      later.owner world.conns.length = tenantID := by
  refine ⟨{ ledger.put world.conns.length (.held i) with
    owner := fun conn => if conn = world.conns.length then tenantID else ledger.owner conn }, ⟨?_, ?_⟩, ⟨?_, ?_⟩,
    by simp [openConn], if_pos rfl, if_pos rfl⟩
  · intro conn within
    exact if_neg (by omega)
  · intro conn within
    exact .inl (if_neg (by omega))
  · intro owner conn held
    have before := book.listed owner conn held
    simp only [openConn, List.length_append]
    grind [Ledger.put]
  · intro _ within dead
    simp only [openConn, List.length_append, Function.update_apply] at within dead
    grind [Ledger.put, book.ended]

theorem book_close (book : Book ledger world) : ∃ later, Turn i world.conns.length ledger later ∧ Book later (closeAll postgres world) := by
  refine ⟨{ ledger with spot := fun conn => if conn ∈ values world.connections then .gone else ledger.spot conn }, ⟨fun _ _ => rfl, ?_⟩, ⟨?_, ?_⟩⟩
  · intro conn within
    by_cases member : conn ∈ values world.connections
    · obtain ⟨entry, stored, rfl⟩ := List.mem_map.mp member
      grind [Passes, book.listed entry.1 entry.2 (AList.mem_lookup_iff.mpr stored)]
    · exact .inl (if_neg member)
  · intro _ conn held
    cases held
  · intro conn within dead
    by_cases member : conn ∈ values world.connections
    · exact if_pos member
    · refine (if_neg member).trans (book.ended conn within ?_)
      simpa [closeAll, member] using dead

theorem move_books {settings} {phase after} {label} (book : Book ledger world) (knows : Knows ledger world.conns.length i phase)
    (moves : Move settings i world phase label next after) :
    ∃ later, Turn i world.conns.length ledger later ∧ world.conns.length ≤ next.conns.length ∧ Book later next ∧
      Knows later next.conns.length i after := by
  have still := turn_refl i world.conns.length ledger
  have drop {conn : Nat} (mine : ledger.spot conn = .held i) : Turn i world.conns.length ledger (ledger.put conn .gone) := by
    apply turn_put
    grind [Passes]
  cases moves with
  | core moves =>
    cases moves with
    | connects tenantID config | reconnects tenantID config =>
      obtain ⟨later, turn, book, mine⟩ := book_open config book i tenantID
      exact ⟨later, turn, by simp [openConn], book, mine⟩
    | cacheClosed _ conn =>
      exact ⟨_, drop knows.2.1, le_rfl, book_end conn (book_unlisted book (unlisted_held book knows.2.1)) (put_gone ..), trivial⟩
    | cacheExcess tenantID conn _ _ _ _ now =>
      have touched : Book ledger (touch tenantID now world) := ⟨book.listed, book.ended⟩
      exact ⟨_, drop knows.2.1, le_rfl, book_end conn (book_unlisted touched (unlisted_held touched knows.2.1)) (put_gone ..), trivial⟩
    | cacheInstalls tenantID conn config fetch _ order now =>
      obtain ⟨within, mine, owner⟩ := knows
      obtain ⟨later, turn, evicted, kept⟩ := book_evict settings order now book
      have same := evict_conns settings order now world
      have installed := book_install config fetch now (book_delete tenantID evicted)
        ⟨same.symm ▸ within, kept conn mine, (turn.owner conn within).trans owner⟩
      exact ⟨_, turn_trans turn (turn_put (by grind [Passes])), (congrArg List.length same).ge, installed, trivial⟩
    | cannotStore =>
      exact ⟨_, drop knows.2.1, le_rfl, book_unlisted book (unlisted_held book knows.2.1), ⟨knows.1, put_gone ..⟩, trivial⟩
    | canStore => exact ⟨ledger, still, le_rfl, book, knows⟩
    | swap tenantID conn config fetch now =>
      obtain ⟨within, mine, owner⟩ := knows
      cases old : world.connections.lookup tenantID with
      | none =>
        have installed := book_install config fetch now (book_delete tenantID book) ⟨within, mine, owner⟩
        exact ⟨_, turn_put (by grind [Passes]), le_rfl, ⟨installed.listed, installed.ended⟩, trivial⟩
      | some old' =>
        have kept : (ledger.put old' .gone).spot conn = .held i := by grind [Ledger.put, book.listed tenantID old' old]
        have installed := book_install config fetch now (book_retire book old) ⟨within, kept, owner⟩
        refine ⟨_, turn_trans (turn_retire book old) (turn_put (by grind [Passes])), le_rfl,
          ⟨installed.listed, installed.ended⟩, ⟨(book.listed tenantID old' old).1, ?_⟩, trivial⟩
        grind [Ledger.put]
    | closeHeld _ _ _ conn held =>
      exact ⟨_, turn_retire book held, le_rfl, book_end conn (book_retire book held) (put_gone ..), trivial⟩
    | closeReturns _ _ revalidating =>
      exact ⟨ledger, still, le_rfl, book, by cases revalidating <;> trivial⟩
    | close =>
      obtain ⟨later, turn, closed⟩ := book_close book
      exact ⟨later, turn, le_rfl, closed, rfl⟩
    | closeNext => cases knows
    | closing conn => exact ⟨ledger, still, le_rfl, book_end conn book knows.1.2, knows.2⟩
    | _ => exact ⟨ledger, still, le_rfl, ⟨book.listed, book.ended⟩, trivial⟩
  | cached tenantID conn _ held =>
    obtain ⟨within, listed, owner⟩ := book.listed tenantID conn held
    exact ⟨ledger, still, le_rfl, book, within, by simp [listed], owner⟩
  | run => exact ⟨ledger, still, le_rfl, book, knows⟩
  | unhealthy _ _ held =>
    exact ⟨_, turn_retire book held, le_rfl, book_retire book held, ⟨knows.1, put_gone ..⟩, trivial⟩
  | unhealthyReplaced _ conn replaced =>
    obtain ⟨within, _, owner⟩ := knows
    refine ⟨_, turn_put (by grind [Passes]), le_rfl, book_unlisted book ?_, ⟨within, put_gone ..⟩, trivial⟩
    intro other held
    exact replaced ((book.listed other conn held).2.2.symm.trans owner ▸ held)
  | evictUnhealthy _ _ held =>
    refine ⟨_, turn_retire book held, le_rfl, book_remove book held, ?_⟩
    cases world.closed <;> trivial
  | create =>
    refine ⟨ledger, still, le_rfl, book, ?_⟩
    cases world.closed <;> trivial
  | _ => exact ⟨ledger, still, le_rfl, ⟨book.listed, book.ended⟩, trivial⟩

end

variable [DecidableEq I] {settings : Settings}

def Booked (ledger : Ledger T I) (state : Pools T I) : Prop :=
  Book ledger state.world ∧ ∀ i, Knows ledger state.world.conns.length i (state.phase i)

theorem booked_run {state last : Pools T I} {labels : List (I × Label T Unit)}
    (run : Run (Step (Move settings)) state labels last) {ledger : Ledger T I} (booked : Booked ledger state) :
    ∃ later, Booked later last ∧ ∀ conn, conn < state.world.conns.length → conn < last.world.conns.length ∧ later.owner conn = ledger.owner conn := by
  induction run generalizing ledger with
  | nil => exact ⟨ledger, booked, fun _ within => ⟨within, rfl⟩⟩
  | cons state _ _ label _ first _ ih =>
    cases first with
    | move i _ world phase moves =>
      obtain ⟨next, turn, longer, book, knows⟩ := move_books booked.1 (booked.2 i) moves
      have kept : Booked next (⟨world, update state.phase i phase⟩ : Pools T I) := by
        refine ⟨book, ?_⟩
        intro j
        by_cases mine : j = i
        · subst mine
          simpa using knows
        · simpa [mine] using knows_turn mine turn longer _ (booked.2 j)
      obtain ⟨later, final, owners⟩ := ih kept
      refine ⟨later, final, ?_⟩
      intro conn within
      obtain ⟨still, same⟩ := owners conn (within.trans_le longer)
      exact ⟨still, same.trans (turn.owner conn within)⟩

omit [DecidableEq I] in
theorem booked_start (tenantID : T) : Booked ⟨fun _ => tenantID, fun _ => .gone⟩ (start : Pools T I) := by
  refine ⟨⟨?_, ?_⟩, fun _ => trivial⟩
  · intro _ conn held
    cases held
  · intro conn within
    exact absurd within (Nat.not_lt_zero conn)

-- Connect has just given the pool, to buildTenantPostgresConnection or to reconnectPostgres.
inductive Opened (tenantID : T) (conn : Nat) : Phase T ConnStrings (Stage T) → Prop where
  | create (config fetch call) : Opened tenantID conn (.caching tenantID conn config fetch call)
  | reconnect (config fetch) : Opened tenantID conn (.canStore tenantID conn config fetch)

omit [DecidableEq T] [DecidableEq I] in
theorem opened_knows {ledger : Ledger T I} {opened : Nat} {i : I} {phase : Phase T ConnStrings (Stage T)} {tenantID : T}
    {conn : Nat} (knows : Knows ledger opened i phase) (fresh : Opened tenantID conn phase) :
    conn < opened ∧ ledger.owner conn = tenantID := by
  cases fresh with
  | create | reconnect => exact ⟨knows.1, knows.2.2⟩

theorem pools_accounted (settings : Settings) (earlier later : List (I × Label T Unit)) (middle state : Pools T I)
    (run : Run (Step (Move settings)) start earlier middle)
    (onward : Run (Step (Move settings)) middle later state) :
    (∀ tenantID conn, state.world.connections.lookup tenantID = some conn → state.world.ended conn = false) ∧
    ((∀ i, state.phase i = .idle) →
      (∀ conn, conn < state.world.conns.length →
        state.world.ended conn = true ∨ ∃ tenantID, state.world.connections.lookup tenantID = some conn) ∧
      ∀ i tenantID conn, Opened tenantID conn (middle.phase i) →
        state.world.ended conn = true ∨ state.world.connections.lookup tenantID = some conn) := by
  refine ⟨?_, ?_⟩
  · intro tenantID conn held
    obtain ⟨ledger, booked, -⟩ := booked_run (run.append onward) (booked_start tenantID)
    obtain ⟨within, listed, -⟩ := booked.1.listed tenantID conn held
    by_contra dead
    cases listed.symm.trans (booked.1.ended conn within (by simpa using dead))
  · intro idle
    have rests : ∀ conn, conn < state.world.conns.length → Rests state.world conn := by
      intro conn within
      have sound := run_sound calls postgres settings rfl _ state (Threads.run_mono (move_refines settings) _ _ _ (run.append onward))
      refine (sound.accounted conn within).resolve_right ?_
      rintro ⟨i, holds⟩
      rw [idle i] at holds
      exact holds
    refine ⟨rests, ?_⟩
    intro i tenantID conn opened
    obtain ⟨_, booked, -⟩ := booked_run run (booked_start tenantID)
    obtain ⟨within, mine⟩ := opened_knows (booked.2 i) opened
    obtain ⟨_, settled, owners⟩ := booked_run onward booked
    obtain ⟨still, same⟩ := owners conn within
    refine (rests conn still).imp_right ?_
    rintro ⟨owner, held⟩
    rwa [← mine, ← same, (settled.1.listed owner conn held).2.2]

theorem closed_pool_accounted :
    ∃ (earlier later : List (Nat × Label Nat Unit)) (middle state : Pools Nat Nat),
      Run (Step (Move ⟨0, 0, 0⟩)) start earlier middle ∧ Run (Step (Move ⟨0, 0, 0⟩)) middle later state ∧
      Opened 7 0 (middle.phase 0) ∧ (∀ i, state.phase i = .idle) ∧
      (state.world.ended 0 = true ∨ state.world.connections.lookup 7 = some 0) := by
  have runs : ∃ (earlier later : List (Nat × Label Nat Unit)) (middle state : Pools Nat Nat),
      Run (Step (Move ⟨0, 0, 0⟩)) start earlier middle ∧ Run (Step (Move ⟨0, 0, 0⟩)) middle later state ∧
      Opened 7 0 (middle.phase 0) ∧ ∀ i, state.phase i = .idle := by
    refine ⟨_, _, _, _, go 0 (.call _ 7) <| go 0 (.missing _ 7 rfl rfl) <| go 0 (.create _ 7 rfl) <|
      go 0 (.core (.sendNew _ 7 none)) <| go 0 (.core (.newArrives _ 7 1 none ⟨"primary", ""⟩)) <|
      go 0 (.core (.connects _ 7 _ 1 none)) <| .nil _,
      go 0 (.core (.cacheInstalls _ 7 0 _ 1 none [] 0 rfl rfl (List.Perm.refl _))) <|
      go 0 (.core (.returns _ 7 0)) <| go 1 (.core (.closeConnection _ 7)) <|
      go 1 (.core (.closeHeld _ 7 2 false 0 rfl)) <| go 1 (.core (.closeReturns _ 7 2 false)) <| .nil _,
      .create _ _ _, ?_⟩
    intro i
    by_cases zero : i = 0 <;> by_cases one : i = 1 <;> simp [update, start, zero, one]
  obtain ⟨earlier, later, middle, state, run, onward, opened, idle⟩ := runs
  have accounted := ((pools_accounted ⟨0, 0, 0⟩ earlier later middle state run onward).2 idle).2 0 7 0 opened
  exact ⟨earlier, later, middle, state, run, onward, opened, idle, accounted⟩

end LibCommons.TenantPostgres
