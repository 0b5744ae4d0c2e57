import LibCommons.Dlq.Outline

namespace LibCommons.Dlq

open Process List Option
open Function (Injective update update_eq_self update_idem update_of_ne update_self)

inductive Place (I : Type) where
  | queue (key : String) (position : Nat)
  | hand (i : I)

section

variable {I : Type}

def World.At (world : World I) (ticket : Nat) : Place I → FailedMessage → Prop
  | .queue key position, msg => (world.queues key)[position]? = some (ticket, msg)
  | .hand i, msg => world.hands i = some (ticket, msg)

def World.invocations (world : World I) (ticket : Nat) : Nat := world.invoked.countP fun call => call.ticket = ticket

structure Budget (world : World I) (ticket : Nat) (msg : FailedMessage) (spent : Int) : Prop where
  known : ∃ acceptance ∈ world.accepted, acceptance.ticket = ticket
  positive : 0 < msg.maxRetries
  same : ∀ acceptance ∈ world.accepted, acceptance.ticket = ticket → acceptance.msg.maxRetries = msg.maxRetries
  count : ∀ acceptance ∈ world.accepted, acceptance.ticket = ticket →
    (world.invocations ticket : Int) = msg.retryCount - acceptance.msg.retryCount + spent

theorem budget_frame {world after : World I} {ticket : Nat} {msg : FailedMessage} {spent : Int}
    (budget : Budget world ticket msg spent) (accepted : after.accepted = world.accepted)
    (invoked : after.invoked = world.invoked) : Budget after ticket msg spent := by
  obtain ⟨known, positive, same, count⟩ := budget
  rw [← accepted] at known same count
  refine ⟨known, positive, same, ?_⟩
  simpa only [World.invocations, invoked] using count

structure Kept (world : World I) (know : I → Knowledge) : Prop where
  unique : ∀ ticket first second msg other, world.At ticket first msg → world.At ticket second other → first = second
  issued : ∀ acceptance ∈ world.accepted, acceptance.ticket < world.issued
  accounted : ∀ acceptance ∈ world.accepted,
    (∃ place msg, world.At acceptance.ticket place msg) ∨ ∃ why, (acceptance.ticket, why) ∈ world.removed
  queued : ∀ ticket key position msg, world.At ticket (.queue key position) msg → Budget world ticket msg 0
  carried : ∀ ticket i msg, world.At ticket (.hand i) msg → Budget world ticket msg (know i).spent
  hands : ∀ i, (world.hands i).map Prod.snd = (know i).hand
  seen : ∀ i time, (know i).seen = some time → time ≤ world.clock
  bounded : ∀ acceptance ∈ world.accepted,
    (world.invocations acceptance.ticket : Int) ≤ max 0 (acceptance.msg.maxRetries - acceptance.msg.retryCount)
  used : ∀ call ∈ world.invoked, call.ticket < world.issued
  timely : ∀ call ∈ world.invoked, call.msg.nextRetryAt = 0 ∨ call.msg.nextRetryAt ≤ call.time
  truthful : ∀ ticket msg, (ticket, Removal.exhausted msg) ∈ world.removed ∨ (ticket, Removal.pruned msg) ∈ world.removed →
    msg.maxRetries ≤ msg.retryCount
  accepts : ∀ i, (know i).accepted = true → ∃ acceptance ∈ world.accepted, acceptance.caller = i

variable {world : World I} {know : I → Knowledge} {i : I} {key : String} {other : Nat} {place : Place I} {found : FailedMessage}

theorem append_at {ticket} {msg} {k} {position} {found}
    (here : (update world.queues key (world.queues key ++ [(ticket, msg)]) k)[position]? = some found) :
    (k = key ∧ position = (world.queues key).length ∧ found = (ticket, msg)) ∨ (world.queues k)[position]? = some found := by
  by_cases same : k = key
  · subst same
    rw [update_self] at here
    rcases Nat.lt_trichotomy position (world.queues k).length with before | last | _
    · rw [getElem?_append_left before] at here
      exact .inr here
    · subst last
      rw [getElem?_concat_length] at here
      exact .inl ⟨rfl, rfl, (some.inj here).symm⟩
    · rw [getElem?_eq_none (by simp; omega)] at here
      cases here
  · rw [update_of_ne same] at here
    exact .inr here

theorem append_keeps (ticket : Nat) (msg) {k : String} {position : Nat} {found : Nat × FailedMessage}
    (here : (world.queues k)[position]? = some found) :
    (update world.queues key (world.queues key ++ [(ticket, msg)]) k)[position]? = some found := by
  by_cases same : k = key
  · subst same
    have inside := (List.getElem?_eq_some_iff.mp here).1
    rw [update_self, getElem?_append_left inside]
    exact here
  · rw [update_of_ne same]
    exact here

theorem told_update [DecidableEq I] (holds : I → Knowledge → Prop) {mine} (all : ∀ j, holds j (know j))
    (here : holds i mine) (j : I) : holds j (update know i mine j) := by
  by_cases same : j = i
  · subst same
    simpa using here
  · simpa [same] using all j

theorem seen_kept [DecidableEq I] (kept : Kept world know) {mine} (seen : mine.seen = (know i).seen) :
    ∀ j time, (update know i mine j).seen = some time → time ≤ world.clock := by
  refine told_update (fun _ told => ∀ time, told.seen = some time → time ≤ world.clock) kept.seen ?_
  rw [seen]
  exact kept.seen i

theorem accepts_kept [DecidableEq I] (kept : Kept world know) {mine} (accepted : mine.accepted = (know i).accepted) :
    ∀ j, (update know i mine j).accepted = true → ∃ one ∈ world.accepted, one.caller = j := by
  refine told_update (fun j told => told.accepted = true → ∃ one ∈ world.accepted, one.caller = j) kept.accepts ?_
  rw [accepted]
  exact kept.accepts i

theorem located_issued (kept : Kept world know) {ticket} {place} {msg} (here : world.At ticket place msg) : ticket < world.issued := by
  have budget : ∃ spent, Budget world ticket msg spent := by
    cases place with
    | queue key position => exact ⟨_, kept.queued ticket key position msg here⟩
    | hand i => exact ⟨_, kept.carried ticket i msg here⟩
  obtain ⟨_, ⟨acceptance, member, rfl⟩, -⟩ := budget
  exact kept.issued acceptance member

section

variable {msg : FailedMessage}

theorem accept_at (here : (world.accept i key msg).At other place found) :
    (place = .queue key (world.queues key).length ∧ other = world.issued ∧ found = msg) ∨ world.At other place found := by
  cases place with
  | queue =>
    rcases append_at here with ⟨rfl, rfl, same⟩ | old
    · cases same
      exact .inl ⟨rfl, rfl, rfl⟩
    · exact .inr old
  | hand => exact .inr here

theorem accept_keeps (here : world.At other place found) : (world.accept i key msg).At other place found := by
  cases place with
  | queue => exact append_keeps world.issued msg here
  | hand => exact here

theorem accept_budget {ticket} {found} {spent} (budget : Budget world ticket found spent)
    (old : ticket ≠ world.issued) : Budget (world.accept i key msg) ticket found spent := by
  refine ⟨?_, budget.positive, ?_, ?_⟩
  · obtain ⟨acceptance, member, same⟩ := budget.known
    exact ⟨acceptance, mem_cons_of_mem _ member, same⟩
  · intro acceptance member same
    rcases mem_cons.mp member with rfl | before
    · exact absurd same.symm old
    · exact budget.same acceptance before same
  · intro acceptance member same
    rcases mem_cons.mp member with rfl | before
    · exact absurd same.symm old
    · exact budget.count acceptance before same

theorem unused_count (kept : Kept world know) : world.invocations world.issued = 0 := by
  refine countP_eq_zero.mpr ?_
  intro call member same
  have used := kept.used call member
  rw [of_decide_eq_true same] at used
  exact lt_irrefl _ used

theorem kept_accept [DecidableEq I] (kept : Kept world know) (positive : 0 < msg.maxRetries) {mine : Knowledge}
    (hand : mine.hand = (know i).hand) (retried : mine.retried = (know i).retried) (seen : mine.seen = (know i).seen) :
    Kept (world.accept i key msg) (update know i mine) := by
  have fresh : ∀ ticket place found, world.At ticket place found → ticket ≠ world.issued := by
    intro ticket place found here
    exact (located_issued kept here).ne
  have count := unused_count kept
  refine ⟨?_, ?_, ?_, ?_, ?_, ?_, ?_, ?_, ?_, kept.timely, kept.truthful, ?_⟩
  · intro ticket first second found also here there
    rcases accept_at here with ⟨rfl, rfl, -⟩ | old <;> rcases accept_at there with ⟨rfl, same, -⟩ | before
    · rfl
    · exact absurd rfl (fresh _ _ _ before)
    · exact absurd same (fresh _ _ _ old)
    · exact kept.unique _ _ _ _ _ old before
  · intro acceptance member
    rcases mem_cons.mp member with rfl | before
    · exact Nat.lt_succ_self _
    · exact Nat.lt_succ_of_lt (kept.issued acceptance before)
  · intro acceptance member
    rcases mem_cons.mp member with rfl | before
    · exact .inl ⟨.queue key (world.queues key).length, msg, by simp [World.At, World.accept]⟩
    · refine (kept.accounted acceptance before).imp ?_ id
      rintro ⟨place, found, here⟩
      exact ⟨place, found, accept_keeps here⟩
  · intro ticket k position found here
    rcases accept_at here with ⟨-, rfl, rfl⟩ | old
    · refine ⟨⟨_, mem_cons_self, rfl⟩, positive, ?_, ?_⟩
      · intro acceptance member same
        rcases mem_cons.mp member with rfl | before
        · rfl
        · exact absurd same (kept.issued acceptance before).ne
      intro acceptance member same
      rcases mem_cons.mp member with rfl | before
      · show (world.invocations world.issued : Int) = _
        rw [count]
        simp
      · exact absurd same (kept.issued acceptance before).ne
    · exact accept_budget (kept.queued ticket k position found old) (fresh _ _ _ old)
  · intro ticket j found here
    have before : world.At ticket (.hand j) found := here
    have budget : Budget (world.accept i key msg) ticket found (know j).spent :=
      accept_budget (kept.carried ticket j found before) (fresh _ _ _ before)
    refine told_update (fun k told => k = j → Budget (world.accept i key msg) ticket found told.spent) ?_ ?_ j rfl
    · rintro _ rfl
      exact budget
    · rintro rfl
      simpa [Knowledge.spent, retried] using budget
  · refine told_update (fun j told => (world.hands j).map Prod.snd = told.hand) kept.hands ?_
    rw [hand]
    exact kept.hands i
  · exact seen_kept kept seen
  · intro acceptance member
    rcases mem_cons.mp member with rfl | before
    · show (world.invocations world.issued : Int) ≤ _
      rw [count]
      simp
    · exact kept.bounded acceptance before
  · intro call member
    exact Nat.lt_succ_of_lt (kept.used call member)
  · refine told_update (fun j told => told.accepted = true → ∃ one ∈ (world.accept i key msg).accepted, one.caller = j) ?_ ?_
    · intro j accepted
      obtain ⟨one, member, same⟩ := kept.accepts j accepted
      exact ⟨one, mem_cons_of_mem _ member, same⟩
    · intro _
      exact ⟨_, mem_cons_self, rfl⟩

end

variable [DecidableEq I]

section

variable {ticket : Nat} {popped msg : FailedMessage}

theorem give_back_at (here : (world.giveBack i ticket key msg).At other place found) :
    (place = .queue key (world.queues key).length ∧ other = ticket ∧ found = msg) ∨ (place ≠ .hand i ∧ world.At other place found) := by
  cases place with
  | queue =>
    rcases append_at here with ⟨rfl, rfl, same⟩ | old
    · cases same
      exact .inl ⟨rfl, rfl, rfl⟩
    · exact .inr ⟨nofun, old⟩
  | hand j =>
    by_cases same : j = i
    · simp [World.At, World.giveBack, same] at here
    · simp only [World.At, World.giveBack, update_of_ne same] at here
      exact .inr ⟨by simpa using same, here⟩

theorem give_back_here : (world.giveBack i ticket key msg).At ticket (.queue key (world.queues key).length) msg := by
  simp [World.giveBack, World.At]

theorem give_back_keeps (here : world.At other place found)
    (elsewhere : place ≠ .hand i) : (world.giveBack i ticket key msg).At other place found := by
  cases place with
  | queue => exact append_keeps ticket msg here
  | hand j =>
    have different : j ≠ i := fun same => elsewhere (by rw [same])
    simpa [World.giveBack, World.At, different] using here

theorem kept_give_back (kept : Kept world know) (held : world.hands i = some (ticket, popped))
    (positive : 0 < msg.maxRetries) (gives : GivesBack (know i) popped msg) {mine}
    (free : mine.hand = none) (seen : mine.seen = (know i).seen) (accepted : mine.accepted = (know i).accepted) :
    Kept (world.giveBack i ticket key msg) (update know i mine) := by
  have hand : world.At ticket (.hand i) popped := held
  have carried := kept.carried ticket i popped hand
  refine { kept with
    unique := ?_, accounted := ?_, queued := ?_, carried := ?_, hands := ?_, seen := ?_, accepts := ?_ }
  · intro other _ _ found _ here there
    rcases give_back_at here with ⟨rfl, rfl, -⟩ | ⟨elsewhere, old⟩ <;> rcases give_back_at there with ⟨rfl, same, -⟩ | ⟨different, before⟩
    · rfl
    · exact absurd (kept.unique _ _ _ _ _ before hand) different
    · subst same
      exact absurd (kept.unique _ _ _ _ _ old hand) elsewhere
    · exact kept.unique _ _ _ _ _ old before
  · intro acceptance member
    refine (kept.accounted acceptance member).imp ?_ id
    rintro ⟨place, found, here⟩
    by_cases mine : place = .hand i
    · subst mine
      have same : (acceptance.ticket, found) = (ticket, popped) := some.inj (here.symm.trans held)
      rw [(Prod.mk.inj same).1]
      exact ⟨_, msg, give_back_here⟩
    · exact ⟨place, found, give_back_keeps here mine⟩
  · intro other k position found here
    rcases give_back_at here with ⟨-, rfl, rfl⟩ | ⟨-, old⟩
    · refine ⟨carried.known, positive, ?_, ?_⟩
      · intro acceptance member same
        rw [gives.1 carried.positive]
        exact carried.same acceptance member same
      intro acceptance member same
      have spent := carried.count acceptance member same
      have count := gives.2
      show (world.invocations other : Int) = _
      omega
    · have budget := kept.queued other k position found old
      exact budget_frame budget rfl rfl
  · intro other j found here
    rcases give_back_at here with ⟨contra, -⟩ | ⟨elsewhere, old⟩
    · cases contra
    have different : j ≠ i := fun same => elsewhere (by rw [same])
    have budget := kept.carried other j found old
    rw [update_of_ne different]
    exact budget_frame budget rfl rfl
  · intro j
    by_cases same : j = i
    · subst same
      simp [World.giveBack, free]
    · simpa [World.giveBack, same] using kept.hands j
  · exact seen_kept kept seen
  · exact accepts_kept kept accepted

end

section

variable {ticket : Nat} {msg : FailedMessage} {rest : List (Nat × FailedMessage)}

def beforeTake (key : String) (i : I) : Place I → Place I
  | .queue k position => if k = key then .queue k (position + 1) else .queue k position
  | .hand j => if j = i then .queue key 0 else .hand j

theorem before_take_injective : Injective (beforeTake key i) := by
  intro first second same
  cases first <;> cases second <;> simp only [beforeTake] at same <;> split at same <;> split at same <;> simp_all

theorem take_at (head : world.queues key = (ticket, msg) :: rest)
    (here : (world.take i key ticket msg rest).At other place found) : world.At other (beforeTake key i place) found := by
  cases place with
  | queue k =>
    by_cases same : k = key
    · subst same
      simpa [World.At, World.take, beforeTake, head] using here
    · simpa [World.At, World.take, beforeTake, same] using here
  | hand j =>
    by_cases same : j = i
    · subst same
      simpa [World.At, World.take, beforeTake, head] using here
    · simpa [World.At, World.take, beforeTake, same] using here

theorem take_keeps (free : world.hands i = none) (head : world.queues key = (ticket, msg) :: rest) (here : world.At other place found) :
    ∃ after, (world.take i key ticket msg rest).At other after found := by
  cases place with
  | queue k position =>
    by_cases same : k = key
    · subst same
      cases position with
      | zero => exact ⟨.hand i, by simpa [World.At, World.take, head] using here⟩
      | succ position => exact ⟨.queue k position, by simpa [World.At, World.take, head] using here⟩
    · exact ⟨.queue k position, by simpa [World.At, World.take, same] using here⟩
  | hand j =>
    have different : j ≠ i := by
      rintro rfl
      rw [World.At, free] at here
      cases here
    exact ⟨.hand j, by simpa [World.At, World.take, different] using here⟩

theorem kept_take (kept : Kept world know) (free : world.hands i = none)
    (head : world.queues key = (ticket, msg) :: rest) {mine} (hand : mine.hand = some msg)
    (fresh : mine.retried = false) (seen : mine.seen = (know i).seen) (accepted : mine.accepted = (know i).accepted) :
    Kept (world.take i key ticket msg rest) (update know i mine) := by
  refine { kept with
    unique := ?_, accounted := ?_, queued := ?_, carried := ?_, hands := ?_, seen := ?_, accepts := ?_ }
  · intro other _ _ found _ here there
    exact before_take_injective (kept.unique _ _ _ _ _ (take_at head here) (take_at head there))
  · intro acceptance member
    refine (kept.accounted acceptance member).imp ?_ id
    rintro ⟨_, found, here⟩
    obtain ⟨after, there⟩ := take_keeps free head here
    exact ⟨after, found, there⟩
  · intro other _ _ found here
    have old := take_at head here
    have budget : Budget world other found 0 := by
      simp only [beforeTake] at old
      split at old
      · exact kept.queued _ _ _ _ old
      · exact kept.queued _ _ _ _ old
    exact budget_frame budget rfl rfl
  · intro _ j _ here
    have old := take_at head here
    by_cases same : j = i
    · subst same
      simp only [beforeTake, if_pos] at old
      have budget := kept.queued _ _ _ _ old
      have none : mine.spent = 0 := by simp [Knowledge.spent, fresh]
      rw [update_self, none]
      exact budget_frame budget rfl rfl
    · simp only [beforeTake, if_neg same] at old
      have budget := kept.carried _ _ _ old
      rw [update_of_ne same]
      exact budget_frame budget rfl rfl
  · intro j
    by_cases same : j = i
    · subst same
      simp [World.take, hand]
    · simpa [World.take, same] using kept.hands j
  · exact seen_kept kept seen
  · exact accepts_kept kept accepted

end

section

variable {ticket : Nat} {msg : FailedMessage}

theorem remove_eq (held : world.hands i = some (ticket, msg)) (why) : world.remove i why =
      { world with hands := update world.hands i none, removed := (ticket, why msg) :: world.removed } := by
  simp [World.remove, held]

theorem kept_remove (kept : Kept world know) (held : world.hands i = some (ticket, msg)) (why)
    (reason : ∀ other, why msg = .exhausted other ∨ why msg = .pruned other → other.maxRetries ≤ other.retryCount)
    (mine) (free : mine.hand = none) (seen : mine.seen = (know i).seen)
    (accepted : mine.accepted = (know i).accepted) :
    Kept (world.remove i why) (update know i mine) := by
  rw [remove_eq held why]
  have at_ : ∀ other place found, World.At { world with hands := update world.hands i none, removed := (ticket, why msg) :: world.removed }
      other place found → place ≠ .hand i ∧ world.At other place found := by
    intro other place found here
    cases place with
    | queue => exact ⟨nofun, here⟩
    | hand j =>
      by_cases same : j = i
      · simp [World.At, same] at here
      · simp only [World.At, update_of_ne same] at here
        exact ⟨by simpa using same, here⟩
  refine { kept with
    unique := ?_, accounted := ?_, queued := ?_, carried := ?_, hands := ?_, seen := ?_, truthful := ?_, accepts := ?_ }
  · intro other _ _ found _ here there
    exact kept.unique _ _ _ _ _ (at_ _ _ _ here).2 (at_ _ _ _ there).2
  · intro acceptance member
    rcases kept.accounted acceptance member with ⟨place, found, here⟩ | ⟨why', gone⟩
    · by_cases mine : place = .hand i
      · subst mine
        have same : (acceptance.ticket, found) = (ticket, msg) := some.inj (here.symm.trans held)
        rw [(Prod.mk.inj same).1]
        exact .inr ⟨why msg, mem_cons_self⟩
      refine .inl ⟨place, found, ?_⟩
      cases place with
      | queue => exact here
      | hand j =>
        have different : j ≠ i := fun same => mine (by rw [same])
        simpa [World.At, different] using here
    · exact .inr ⟨why', mem_cons_of_mem _ gone⟩
  · intro other k position found here
    have budget := kept.queued other k position found (at_ _ _ _ here).2
    exact budget_frame budget rfl rfl
  · intro other j found here
    obtain ⟨elsewhere, old⟩ := at_ _ _ _ here
    have different : j ≠ i := fun same => elsewhere (by rw [same])
    have budget := kept.carried other j found old
    rw [update_of_ne different]
    exact budget_frame budget rfl rfl
  · intro j
    by_cases same : j = i
    · subst same
      simp [free]
    · simpa [same] using kept.hands j
  · exact seen_kept kept seen
  · intro other found gone
    simp only [mem_cons, Prod.mk.injEq] at gone
    rcases gone with (⟨-, same⟩ | old) | (⟨-, same⟩ | old)
    · exact reason found (.inl same.symm)
    · exact kept.truthful other found (.inl old)
    · exact reason found (.inr same.symm)
    · exact kept.truthful other found (.inr old)
  · exact accepts_kept kept accepted

end

section

variable {ticket : Nat} {msg : FailedMessage}

omit [DecidableEq I] in
theorem invoke_eq (held : world.hands i = some (ticket, msg)) :
    world.invoke i = { world with invoked := ⟨ticket, msg, world.clock⟩ :: world.invoked } := by
  simp [World.invoke, held]

omit [DecidableEq I] in
theorem invoke_count (other : Nat) : World.invocations { world with invoked := ⟨ticket, msg, world.clock⟩ :: world.invoked } other =
      world.invocations other + if ticket = other then 1 else 0 := by
  simp [World.invocations, countP_cons]

theorem kept_invoke (kept : Kept world know) (held : world.hands i = some (ticket, msg)) (fresh : (know i).retried = false)
    (left : msg.retryCount < msg.maxRetries) (due : msg.nextRetryAt = 0 ∨ msg.nextRetryAt ≤ world.clock) :
    Kept (world.invoke i) (update know i { know i with retried := true }) := by
  rw [invoke_eq held]
  have hand : world.At ticket (.hand i) msg := held
  have carried := kept.carried ticket i msg hand
  have other : ∀ {ticket' place found}, world.At ticket' place found → place ≠ .hand i → ticket' ≠ ticket := by
    rintro ticket' _ found here elsewhere rfl
    exact elsewhere (kept.unique _ _ _ _ _ here hand)
  have spread : ∀ {ticket' found spent}, Budget world ticket' found spent → ticket' ≠ ticket →
      Budget { world with invoked := ⟨ticket, msg, world.clock⟩ :: world.invoked } ticket' found spent := by
    intro ticket' found _ budget different
    refine ⟨budget.known, budget.positive, budget.same, ?_⟩
    intro acceptance member same
    rw [invoke_count, if_neg different.symm]
    exact budget.count acceptance member same
  refine { kept with queued := ?_, carried := ?_, hands := ?_, seen := ?_, bounded := ?_, used := ?_, timely := ?_, accepts := ?_ }
  · intro ticket' k position found here
    have before : world.At ticket' (.queue k position) found := here
    exact spread (kept.queued ticket' k position found before) (other before nofun)
  · intro ticket' j found here
    by_cases same : j = i
    · subst same
      have equal : (ticket', found) = (ticket, msg) := some.inj (here.symm.trans held)
      cases equal
      rw [update_self]
      refine ⟨carried.known, carried.positive, carried.same, ?_⟩
      intro acceptance member same
      have count := carried.count acceptance member same
      rw [invoke_count, if_pos rfl]
      simp only [Knowledge.spent, fresh, Bool.false_eq_true, if_false, if_true, Nat.cast_add, Nat.cast_one] at count ⊢
      omega
    · have before : world.At ticket' (.hand j) found := here
      rw [update_of_ne same]
      exact spread (kept.carried ticket' j found before) (other before (by simpa using same))
  · exact told_update (fun j told => (world.hands j).map Prod.snd = told.hand) kept.hands (kept.hands i)
  · exact seen_kept kept rfl
  · intro acceptance member
    rw [invoke_count]
    by_cases same : ticket = acceptance.ticket
    · have count := carried.count acceptance member same.symm
      have max := carried.same acceptance member same.symm
      rw [if_pos same, ← same]
      simp only [Knowledge.spent, fresh, Bool.false_eq_true, if_false, Nat.cast_add, Nat.cast_one] at count ⊢
      omega
    · rw [if_neg same]
      exact kept.bounded acceptance member
  · intro call member
    rcases mem_cons.mp member with rfl | before
    · exact located_issued kept hand
    · exact kept.used call before
  · intro call member
    rcases mem_cons.mp member with rfl | before
    · exact due
    · exact kept.timely call before
  · exact accepts_kept kept rfl

end

variable (kept : Kept world know)

include kept

theorem kept_same {mine} (same : (know i).Same mine)
    (accepted : mine.accepted = (know i).accepted) (seen : ∀ time, mine.seen = some time → time ≤ world.clock) :
    Kept world (update know i mine) := by
  refine { kept with carried := ?_, hands := ?_, seen := ?_, accepts := ?_ }
  · intro ticket j msg here
    refine told_update (fun k told => k = j → Budget world ticket msg told.spent) ?_ ?_ j rfl
    · rintro k rfl
      exact kept.carried ticket k msg here
    · rintro rfl
      simpa [Knowledge.spent, same.2] using kept.carried ticket i msg here
  · refine told_update (fun j told => (world.hands j).map Prod.snd = told.hand) kept.hands ?_
    rw [same.1]
    exact kept.hands i
  · exact told_update (fun _ told => ∀ time, told.seen = some time → time ≤ world.clock) kept.seen seen
  · exact accepts_kept kept accepted

omit [DecidableEq I] in
theorem kept_held (msg) (hand : (know i).hand = some msg) : ∃ ticket, world.hands i = some (ticket, msg) := by
  have told := kept.hands i
  rw [hand, Option.map_eq_some_iff] at told
  obtain ⟨⟨ticket, _⟩, held, same⟩ := told
  exact ⟨ticket, by rw [held, ← same]⟩

omit [DecidableEq I] in
theorem kept_free (hand : (know i).hand = none) : world.hands i = none := by
  have told := kept.hands i
  rw [hand] at told
  exact Option.map_eq_none_iff.mp told

theorem kept_push {msg} (may : dlqMay (know i) (.rPush key msg)) : Kept (world.push i key msg) (update know i
      { know i with hand := none, accepted := (know i).accepted || (know i).hand.isNone }) := by
  obtain ⟨positive, gives⟩ := may
  cases hand : (know i).hand with
  | none =>
    have push : world.push i key msg = world.accept i key msg := by simp only [World.push, kept_free kept hand]
    rw [push]
    exact kept_accept kept positive hand.symm rfl rfl
  | some popped =>
    obtain ⟨ticket, held⟩ := kept_held kept popped hand
    have push : world.push i key msg = world.giveBack i ticket key msg := by simp only [World.push, held]
    rw [push]
    exact kept_give_back kept held positive (gives popped hand) rfl rfl (by simp)

theorem kept_settle {msg} (hand : (know i).hand = some msg) {why}
    (reason : ∀ other, why msg = .exhausted other ∨ why msg = .pruned other → other.maxRetries ≤ other.retryCount) :
    Kept (world.remove i why) (update know i { know i with hand := none }) := by
  obtain ⟨_, held⟩ := kept_held kept msg hand
  exact kept_remove kept held why reason _ rfl rfl rfl

theorem kept_retry {tenantID} {sent} (may : dlqMay (know i) (.retryFunc tenantID sent)) :
    Kept (world.invoke i) (update know i { know i with retried := true }) ∧
      Kept ((world.invoke i).remove i fun _ => .retried) (update know i { know i with hand := none }) := by
  obtain ⟨msg, hand, fresh, left, due⟩ := may
  obtain ⟨ticket, held⟩ := kept_held kept msg hand
  have time : msg.nextRetryAt = 0 ∨ msg.nextRetryAt ≤ world.clock := by
    refine due.imp id ?_
    rintro ⟨now, seen, reached⟩
    exact reached.trans (kept.seen i now seen)
  have invoked := kept_invoke kept held fresh left time
  refine ⟨invoked, ?_⟩
  have after : (world.invoke i).hands i = some (ticket, msg) := by
    rw [invoke_eq held]
    exact held
  have removed := kept_remove invoked after (fun _ => .retried) nofun { know i with hand := none } rfl (by simp) (by simp)
  rwa [update_idem] at removed

theorem kept_act {op} {result} {after} (may : dlqMay (know i) op)
    (done : DlqExec i op world result after) : Kept after (update know i (dlqLearn (know i) op result)) := by
  have stays : Kept world (update know i (know i)) := by rwa [update_eq_self]
  cases op with
  | now =>
    obtain ⟨rfl, rfl⟩ := done
    refine kept_same kept ⟨rfl, rfl⟩ rfl ?_
    intro _ same
    cases same
    exact le_refl _
  | backoffDuration =>
    obtain ⟨-, rfl⟩ := done
    exact stays
  | rPush =>
    rcases done with ⟨rfl, rfl⟩ | ⟨failed, rfl⟩
    · exact kept_push kept may
    · simpa [dlqLearn, failed] using kept
  | lPop =>
    rcases done with ⟨_, _, _, head, rfl, rfl⟩ | ⟨-, rfl, rfl⟩ | ⟨err, rfl, rfl⟩
    · exact kept_take kept (kept_free kept may) head rfl rfl rfl rfl
    · exact stays
    · exact stays
  | lLen =>
    obtain ⟨rfl, -⟩ := done
    exact stays
  | retryFunc =>
    obtain ⟨failed, succeeded⟩ := kept_retry kept may
    rcases done with ⟨rfl, rfl⟩ | ⟨err, rfl⟩
    · exact succeeded
    · simpa [dlqLearn, err] using failed
  | recordExhausted | logPruned =>
    obtain ⟨_, hand, spent⟩ := may
    cases done
    exact kept_settle kept hand (by rintro other (same | same) <;> cases same; exact spent)
  | recordLost =>
    cases done
    cases hand : (know i).hand with
    | some =>
      exact kept_settle kept hand (by rintro other (same | same) <;> cases same)
    | none =>
      have none : world.remove i (fun _ => .lost) = world := by simp only [World.remove, kept_free kept hand]
      rw [none]
      exact kept_same kept ⟨hand.symm, rfl⟩ rfl (kept.seen i)
  | _ =>
    cases done
    exact stays

omit kept

theorem dlq_keeps : Keeps dlqOutline dlqSemantics (Kept (I := I)) where
  sees _ _ _ _ _ _ := trivial
  act world know i op result after kept may done := kept_act kept may done
  wait world know i op after kept may moved := moved.elim
  drift world know after kept moved := by
    obtain ⟨_, later, rfl⟩ := moved
    exact { kept with
      queued := fun ticket key position msg here => budget_frame (kept.queued ticket key position msg here) rfl rfl
      carried := fun ticket j msg here => budget_frame (kept.carried ticket j msg here) rfl rfl
      seen := fun j time told => (kept.seen j time told).trans later }

omit [DecidableEq I] in
theorem kept_opened (calls : I → Call) (clock : Time) : Kept (opened calls clock).world fun _ => .initial := by
  have nowhere : ∀ ticket place msg, ¬ (opened calls clock).world.At ticket place msg := by
    intro ticket place msg here
    cases place <;> simp [opened, World.At] at here
  constructor
  case unique =>
    intro ticket _ _ msg _ here _
    exact absurd here (nowhere _ _ _)
  case queued =>
    intro _ _ _ _ here
    exact absurd here (nowhere _ _ _)
  case carried =>
    intro _ _ _ here
    exact absurd here (nowhere _ _ _)
  all_goals simp [opened, Knowledge.initial]

omit [DecidableEq I] in
theorem held_ended (kept : Kept world know) {prog} (follows : Follows dlqOutline (know i) prog) {ticket}
    {msg} (here : world.At ticket (.hand i) msg) :
    (∃ op onward, prog = .call op onward) ∨ ∃ count err, prog = .ret (.pruned count (some err)) := by
  cases prog with
  | call op onward => exact .inl ⟨op, onward, rfl⟩
  | ret =>
    have told := kept.hands i
    have held : world.hands i = some (ticket, msg) := here
    rcases follows.1 with free | ⟨count, err, rfl⟩
    · rw [held, free] at told
      cases told
    · exact .inr ⟨count, err, rfl⟩

end

def sampleHandler : Handler := ⟨"dlq:", 3, by decide⟩

def sampleMessage : FailedMessage :=
  { source := "out", originalData := [1], errorMessage := "timeout", retryCount := 0, maxRetries := 0, createdAt := 0
    nextRetryAt := 0, tenantID := "" }

def sampleStored : FailedMessage := { sampleMessage with maxRetries := 3, createdAt := 7, nextRetryAt := 7 + minBackoff }

abbrev sampleCalls (pruner : Bool) : Call :=
  if pruner then .pruneExhaustedMessages sampleHandler "" "out" 1 else .enqueue sampleHandler "" sampleMessage

theorem sample_act (pool : Pool Bool (World Bool) DlqOp DlqRes Reply)
    (goal : Pool Bool (World Bool) DlqOp DlqRes Reply → Prop) (i : Bool) (op : DlqOp) (result : DlqRes op)
    (world : World Bool) (onward : DlqRes op → DlqProg) (stands : pool.threads i = .call op onward)
    (done : DlqExec i op pool.world result world)
    (later : Run.Leads (Step dlqSemantics) ⟨world, update pool.threads i (onward result)⟩ goal) :
    Run.Leads (Step dlqSemantics) pool goal :=
  leads_act stands done later

theorem sample_popped : Run.Leads (Step dlqSemantics) (opened sampleCalls 7) fun last =>
    last.threads false = .ret (.enqueued none) ∧ last.world.At 0 (.hand true) sampleStored := by
  refine sample_act _ _ false .now (7 : Int) _ _ rfl ⟨rfl, rfl⟩ ?_
  refine sample_act _ _ false (.backoffDuration 0) minBackoff _ _ rfl ⟨le_refl _, rfl⟩ ?_
  refine sample_act _ _ false (.marshal sampleStored) none _ _ rfl rfl ?_
  refine sample_act _ _ false .getClient none _ _ rfl rfl ?_
  refine sample_act _ _ false (.rPush "dlq:out" sampleStored) none _ _ rfl (.inl ⟨rfl, rfl⟩) ?_
  refine sample_act _ _ true .getClient none _ _ rfl rfl ?_
  refine sample_act _ _ true (.lPop "dlq:out") (.item sampleStored) _ _ rfl (.inl ⟨0, sampleStored, [], rfl, rfl, rfl⟩) ?_
  exact Run.leads_here _ _ ⟨rfl, rfl⟩

end LibCommons.Dlq
