import LibCommons.Outbox.Mongo

namespace LibCommons.Outbox.Mongo

def Final (status : OutboxEventStatus) : Prop := status = .published ∨ status = .invalid

def Document.fixed (doc : Document) : UUID × String × String × UUID × List UInt8 × Time :=
  (doc.id, doc.tenantID, doc.eventType, doc.aggregateID, doc.payload, doc.createdAt)

-- With the same attempts it has the same error and publication time, unless it has come to an end.
structure Evolved (Stamp : Time → Prop) (read current : Document) : Prop where
  fixed : current.fixed = read.fixed
  attempts : read.attempts ≤ current.attempts
  final : Final read.status → current = read
  kept : current.attempts = read.attempts → Final current.status ∨
    (current.lastError = read.lastError ∧ current.publishedAt = read.publishedAt)
  stamped : current = read ∨ Stamp current.updatedAt

theorem evolved_refl (Stamp : Time → Prop) (doc : Document) : Evolved Stamp doc doc :=
  ⟨rfl, le_refl _, fun _ => rfl, fun _ => .inr ⟨rfl, rfl⟩, .inl rfl⟩

theorem evolved_trans {Stamp} {first second third} (earlier : Evolved Stamp first second)
    (later : Evolved Stamp second third) : Evolved Stamp first third := by
  refine ⟨later.fixed.trans earlier.fixed, earlier.attempts.trans later.attempts, ?_, ?_, ?_⟩
  · intro final
    rw [earlier.final final] at later
    exact later.final final
  · intro same
    have middle : second.attempts = first.attempts := le_antisymm (same ▸ later.attempts) earlier.attempts
    rcases earlier.kept middle with ended | ⟨error, published⟩
    · rw [later.final ended]
      exact .inl ended
    rcases later.kept (same.trans middle.symm) with ended | ⟨laterError, laterPublished⟩
    · exact .inl ended
    · exact .inr ⟨laterError.trans error, laterPublished.trans published⟩
  · rcases later.stamped with rfl | stamp
    · exact earlier.stamped
    · exact .inr stamp

structure Tidy (doc : Document) : Prop where
  unclaimed : doc.status = .pending ∨ doc.status = .failed → doc.claimToken = none
  trimmed : doc.status ≠ .invalid → Go.trimSpace doc.lastError = doc.lastError

structure Write (Stamp : Time → Prop) (current written : Document) : Prop where
  live : ¬ Final current.status
  evolved : Evolved Stamp current written
  tidy : Tidy current → Tidy written

section

variable {Stamp : Time → Prop} {current : Document} {now : Time}

theorem claim_write {query} {candidate} (token : String) (stamp : Stamp now)
    (guard : claimGuard query candidate current = true) : Write Stamp current (query.set candidate token now current) := by
  simp only [claimGuard, Bool.and_eq_true, decide_eq_true_eq] at guard
  obtain ⟨⟨status, _⟩, -⟩ := guard
  have live : ¬ Final current.status := by
    rw [status]
    cases query <;> simp [Final, ClaimQuery.fromStatus]
  have more : current.attempts ≤ candidate.attempts + 1 := by omega
  have different : candidate.attempts + 1 ≠ current.attempts := by omega
  cases query with
  | pending | failed =>
    refine ⟨live, ⟨rfl, le_refl _, fun final => absurd final live, fun _ => .inr ⟨rfl, rfl⟩, .inr stamp⟩, ?_⟩
    intro tidy
    refine ⟨by simp [ClaimQuery.set], fun _ => tidy.trimmed ?_⟩
    simp [status, ClaimQuery.fromStatus]
  | stuck _ maxAttempts =>
    refine ⟨live, ⟨rfl, more, fun final => absurd final live, fun same => absurd same different, .inr stamp⟩, ?_⟩
    intro _
    have trimmed : Go.trimSpace (decoded candidate).lastError = (decoded candidate).lastError := Go.trim_idempotent _
    by_cases exhausted : (decoded candidate).attempts + 1 ≥ maxAttempts
    · exact ⟨by simp [ClaimQuery.set, exhausted], by simp [ClaimQuery.set, exhausted]⟩
    · exact ⟨by simp [ClaimQuery.set, exhausted], by simpa [ClaimQuery.set, exhausted] using trimmed⟩

theorem rollback_write (query : ClaimQuery) {token} (stamp : Stamp now) (guard : rollbackGuard token current = true) :
    Write Stamp current { current with status := query.fromStatus, updatedAt := now, claimToken := none } := by
  simp only [rollbackGuard, Bool.and_eq_true, decide_eq_true_eq] at guard
  have status : current.status = .processing := guard.1
  have live : ¬ Final current.status := by simp [status, Final]
  refine ⟨live, ⟨rfl, le_refl _, fun final => absurd final live, fun _ => .inr ⟨rfl, rfl⟩, .inr stamp⟩, ?_⟩
  intro tidy
  exact ⟨fun _ => rfl, fun _ => tidy.trimmed (by simp [status])⟩

theorem failed_write {read : Document} (nextStatus : OutboxEventStatus) {nextLastError : String} (stamp : Stamp now)
    (trimmed : Go.trimSpace nextLastError = nextLastError)
    (guard : (decide (current.status = .processing) && decide (current.attempts = read.attempts)) = true) :
    Write Stamp current { current with
      status := nextStatus, attempts := read.attempts + 1, lastError := nextLastError, updatedAt := now
      claimToken := none } := by
  simp only [Bool.and_eq_true, decide_eq_true_eq] at guard
  have live : ¬ Final current.status := by simp [guard.1, Final]
  have more : current.attempts ≤ read.attempts + 1 := by omega
  have different : read.attempts + 1 ≠ current.attempts := by omega
  refine ⟨live, ⟨rfl, more, fun final => absurd final live, fun same => absurd same different, .inr stamp⟩, ?_⟩
  intro _
  exact ⟨fun _ => rfl, fun _ => trimmed⟩

theorem published_write (publishedAt : Time) (stamp : Stamp now) (guard : decide (current.status = .processing) = true) :
    Write Stamp current { current with
      status := .published, publishedAt := some publishedAt, updatedAt := now, claimToken := none } := by
  have status := of_decide_eq_true guard
  have live : ¬ Final current.status := by simp [status, Final]
  refine ⟨live, ⟨rfl, le_refl _, fun final => absurd final live, fun _ => .inl (.inl rfl), .inr stamp⟩, ?_⟩
  intro tidy
  exact ⟨fun _ => rfl, fun _ => tidy.trimmed (by simp [status])⟩

theorem invalid_write (errMsg : String) (stamp : Stamp now) (guard : decide (current.status = .processing) = true) :
    Write Stamp current { current with status := .invalid, lastError := errMsg, updatedAt := now, claimToken := none } := by
  have status := of_decide_eq_true guard
  have live : ¬ Final current.status := by simp [status, Final]
  refine ⟨live, ⟨rfl, le_refl _, fun final => absurd final live, fun _ => .inl (.inr rfl), .inr stamp⟩, ?_⟩
  intro _
  exact ⟨fun _ => rfl, fun valid => absurd rfl valid⟩

end

structure Replaces {tenantField : Bool} (docs after : Collection tenantField) (current written : Document) : Prop where
  here : docs.get? (scopeKey tenantField current) = some current
  there : after.get? (scopeKey tenantField current) = some written
  others : ∀ key, key ≠ scopeKey tenantField current → after.get? key = docs.get? key

theorem replaces_cases {tenantField : Bool} {docs after : Collection tenantField} {current written : Document}
    (replaces : Replaces docs after current written) {key : UUID × String} {doc : Document}
    (found : after.get? key = some doc) : doc = written ∨ docs.get? key = some doc := by
  by_cases same : key = scopeKey tenantField current
  · rw [same, replaces.there] at found
    exact .inl (Option.some.inj found).symm
  · rw [replaces.others key same] at found
    exact .inr found

section

variable {tenantField : Bool} (docs : Collection tenantField) (query : ClaimQuery) (filter : Document → Bool)
  (tenantID : String)

theorem mem_found (doc : Document) (member : doc ∈ findDocuments docs query filter tenantID) :
    docs.get? (scopeKey tenantField doc) = some doc ∧ filter doc = true := by
  have found := (List.perm_insertionSort query.sortSpec _).mem_iff.mp member
  obtain ⟨present, matched⟩ := List.mem_filter.mp found
  simp only [Bool.and_eq_true] at matched
  exact ⟨Keyed.get_mem present, matched.1⟩

theorem found_unique : ((findDocuments docs query filter tenantID).map fun doc => doc.id).Nodup := by
  refine ((List.perm_insertionSort query.sortSpec _).map _).nodup_iff.mpr ?_
  refine List.Nodup.map_on ?_ ((List.Nodup.of_map _ docs.unique).filter _)
  intro _ firstFound _ secondFound same
  obtain ⟨firstPresent, firstMatched⟩ := List.mem_filter.mp firstFound
  obtain ⟨secondPresent, secondMatched⟩ := List.mem_filter.mp secondFound
  apply List.inj_on_of_nodup_map docs.unique firstPresent secondPresent
  cases tenantField with
  | false => simp [scopeKey, same]
  | true =>
    simp only [tenantMatch, Bool.and_eq_true, Bool.not_true, Bool.false_or, decide_eq_true_eq] at firstMatched secondMatched
    simp [scopeKey, same, firstMatched.2, secondMatched.2]

end

variable {I : Type} {tenantField : Bool} (Stamp : Time → Prop) (i : I) (world : World I tenantField)

-- A write carries the caller's token and is logged, or leaves the document without one.
inductive Effect : MongoOp → World I tenantField → Prop where
  | none (op) : Effect op world
  | issue (token) (fresh : token ∉ world.tokens) : Effect .newToken { world with tokens := token :: world.tokens }
  | claim (query : ClaimQuery) (candidate : Document) (token : String) (docs : Collection tenantField)
      (current written : Document) (guard : claimGuard query candidate current = true)
      (key : scopeKey tenantField current = scopeKey tenantField candidate) (carries : written.claimToken = some token)
      (write : Write Stamp current written) (replaces : Replaces world.docs docs current written) :
      Effect (.claimOne query candidate token) ⟨docs, world.tokens, ⟨i, token, current, written⟩ :: world.moves⟩
  | release (op : MongoOp) (docs : Collection tenantField) (current written : Document)
      (carries : written.claimToken = none) (write : Write Stamp current written)
      (replaces : Replaces world.docs docs current written) : Effect op ⟨docs, world.tokens, world.moves⟩

variable {Stamp i world} {after : World I tenantField}

theorem updates_replaces {result} {key} {guard} {change} {keeps} {record} (updates : Updates world after result key guard change keeps record) :
    after = world ∨ ∃ current, scopeKey tenantField current = key ∧ guard current = true ∧
      after = ⟨after.docs, world.tokens, record current ++ world.moves⟩ ∧
      Replaces world.docs after.docs current (change current) := by
  rcases updates with ⟨doc, found, hit, -, rfl⟩ | ⟨-, -, same⟩ | ⟨-, same⟩
  · have here : scopeKey tenantField doc = key := ((Keyed.get_some_iff _ _ _).mp found).2
    subst here
    exact .inr ⟨doc, rfl, hit, rfl, found, Keyed.modify_get_self _ _ change keeps doc found,
      fun other different => Keyed.modify_get_other _ _ change keeps other different⟩
  · exact .inl same
  · exact .inl same

def Computed : MongoOp → Prop
  | .updateFailed read _ nextAttempts nextLastError =>
    nextAttempts = read.attempts + 1 ∧ Go.trimSpace nextLastError = nextLastError
  | _ => True

theorem exec_effect {op} {result} (computed : Computed op) (done : Exec Stamp i op world result after) : Effect Stamp i world op after := by
  cases op with
  | findClaimCandidates | readBack | getByIDAndStatus =>
    obtain ⟨rfl, -⟩ := done
    exact .none _
  | newToken =>
    obtain ⟨fresh, rfl⟩ := done
    exact .issue result fresh
  | bulkOrder =>
    obtain ⟨-, rfl⟩ := done
    exact .none _
  | claimOne query candidate token =>
    obtain ⟨now, stamp, updates⟩ := done
    obtain rfl | ⟨current, key, guard, shape, replaces⟩ := updates_replaces updates
    · exact .none _
    rw [shape]
    refine .claim query candidate token _ current _ guard key ?_ (claim_write token stamp guard) replaces
    cases query <;> rfl
  | rollbackOne query =>
    obtain ⟨now, stamp, updates⟩ := done
    obtain rfl | ⟨current, key, guard, shape, replaces⟩ := updates_replaces updates
    · exact .none _
    rw [shape]
    exact .release _ _ current _ rfl (rollback_write query stamp guard) replaces
  | updateFailed _ nextStatus =>
    obtain ⟨now, stamp, updates⟩ := done
    obtain ⟨rfl, trimmed⟩ := computed
    obtain rfl | ⟨current, key, guard, shape, replaces⟩ := updates_replaces updates
    · exact .none _
    rw [shape]
    exact .release _ _ current _ rfl (failed_write nextStatus stamp trimmed guard) replaces
  | updatePublished _ _ publishedAt =>
    obtain ⟨_, stamp, updates⟩ := done
    obtain rfl | ⟨current, _, guard, shape, replaces⟩ := updates_replaces updates
    · exact .none _
    rw [shape]
    exact .release _ _ current _ rfl (published_write publishedAt stamp guard) replaces
  | updateInvalid _ _ errMsg =>
    obtain ⟨_, stamp, updates⟩ := done
    obtain rfl | ⟨current, _, guard, shape, replaces⟩ := updates_replaces updates
    · exact .none _
    rw [shape]
    exact .release _ _ current _ rfl (invalid_write errMsg stamp guard) replaces

end LibCommons.Outbox.Mongo
