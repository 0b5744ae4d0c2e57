import LibCommons.Lib.Outline
import LibCommons.Outbox.MongoHistory

namespace LibCommons.Outbox.Mongo

open Process List

def Call.query : Call → Option ClaimQuery
  | .claimPending _ eventType _ => some (.pending eventType)
  | .resetForRetry _ _ failedBefore maxAttempts => some (.failed failedBefore maxAttempts)
  | .reclaimStuckProcessing _ _ processingBefore maxAttempts => some (.stuck processingBefore maxAttempts)
  | .markPublished _ _ _ | .markInvalid _ _ _ | .markFailed _ _ _ _ => none

-- What a call has read last, its token, what it has read back so far, and a mark's result.
structure Knowledge where
  call : Call
  read : List Document
  token : Option String
  unread : Bool
  held : List Document
  updated : Option UpdateResult

def markResult : UpdateResult → Reply
  | .modified => .done
  | .unmatched => .stateTransitionConflict
  | .failed => .failed

section

variable (repo : Repository)

def idTenantKey (id : UUID) (tenantID : String) : UUID × String := (id, if repo.tenantField then tenantID else "")

structure FailedUpdate (know : Knowledge) (read : Document) (nextStatus : OutboxEventStatus) (nextAttempts : Int)
    (nextLastError tenantID : String) (id : UUID) (errMsg : String) (maxAttempts : Int) : Prop where
  call : know.call = .markFailed tenantID id errMsg maxAttempts
  known : read ∈ know.read
  key : scopeKey repo.tenantField read = idTenantKey repo id tenantID
  attempts : nextAttempts = read.attempts + 1
  status : nextStatus = if read.attempts + 1 ≥ maxAttempts then .invalid else .failed
  error : nextLastError = appendErrorCause (Go.trimSpace read.lastError) (repo.sanitizeErrorMessageForStorage errMsg)

variable (know : Knowledge)

def mongoMay (op : MongoOp) : Prop := know.updated = none ∧
    match op with
    | .findClaimCandidates query _ limit =>
      know.call.query = some query ∧ know.held.length + limit ≤ know.call.limit.toNat
    | .newToken | .bulkOrder _ => know.call.query.isSome
    | .claimOne query candidate token =>
      know.call.query = some query ∧ know.token = some token ∧ candidate ∈ know.read ∧ query.filter candidate = true
    | .readBack _ token ids _ => know.call.query.isSome ∧ know.token = some token ∧ know.unread = true ∧
        know.held.length + ids.length ≤ know.call.limit.toNat
    | .rollbackOne _ _ token => know.call.query.isSome ∧ know.token = some token
    | .getByIDAndStatus id tenantID status =>
      status = .processing ∧ ∃ errMsg maxAttempts, know.call = .markFailed tenantID id errMsg maxAttempts
    | .updateFailed read nextStatus nextAttempts nextLastError => ∃ tenantID id errMsg maxAttempts,
        FailedUpdate repo know read nextStatus nextAttempts nextLastError tenantID id errMsg maxAttempts
    | .updatePublished id tenantID publishedAt => know.call = .markPublished tenantID id publishedAt
    | .updateInvalid id tenantID _ => ∃ errMsg, know.call = .markInvalid tenantID id errMsg

def mongoLearn : (op : MongoOp) → MongoRes op → Knowledge
  | .findClaimCandidates _ _ _, found => { know with read := found.getD know.read }
  | .newToken, token => { know with token := some token, unread := true }
  | .readBack _ _ _ _, found => { know with held := know.held ++ found.getD [], unread := false }
  | .getByIDAndStatus _ _ _, found => { know with read := (found.getD none).toList }
  | .updateFailed _ _ _ _, result | .updatePublished _ _ _, result | .updateInvalid _ _ _, result =>
    { know with updated := some result }
  | .bulkOrder _, _ | .claimOne _ _ _, _ | .rollbackOne _ _ _, _ => know

def Reply.returned : Reply → List OutboxEvent
  | .events found => found
  | .reclaimed retry invalid => retry ++ invalid
  | _ => []

def mongoFinish (reply : Reply) : Prop :=
  (∀ result, know.updated = some result → reply = markResult result) ∧ (reply = .done → know.updated ≠ none) ∧ (reply.returned = [] ∨
      (reply.returned.Perm (know.held.map toOutboxEvent) ∧ know.held.length ≤ know.call.limit.toNat))

def mongoSees : (op : MongoOp) → MongoRes op → Prop
  | .findClaimCandidates query _ limit, found =>
    ∀ docs, found = some docs → docs.length ≤ limit ∧ ∀ doc ∈ docs, query.filter doc = true
  | .bulkOrder candidates, order => order.Perm candidates
  | .readBack _ _ ids _, found => ∀ docs, found = some docs → docs.length ≤ ids.length
  | .getByIDAndStatus id tenantID _, found =>
    ∀ doc, found = some (some doc) → scopeKey repo.tenantField doc = idTenantKey repo id tenantID
  | _, _ => True

def mongoOutline : Outline MongoOp MongoRes Knowledge Reply where
  may := mongoMay repo
  learn := mongoLearn
  finish := mongoFinish
  sees := mongoSees repo

end

section

variable {repo : Repository} {know : Knowledge} {query : ClaimQuery} {token : String}

theorem follows_claim_each {order} (modified : Nat) (failed) {next}
    (idle : know.updated = none) (asks : know.call.query = some query) (holds : know.token = some token)
    (reads : ∀ doc ∈ order, doc ∈ know.read ∧ query.filter doc = true)
    (onward : ∀ result, Follows (mongoOutline repo) know (next result)) :
    Follows (mongoOutline repo) know (claimEach query token order modified failed next) := by
  induction order generalizing modified failed with
  | nil => exact onward _
  | cons candidate rest ih =>
    obtain ⟨found, filtered⟩ := reads candidate mem_cons_self
    refine ⟨⟨idle, asks, holds, found, filtered⟩, ?_⟩
    intro result _
    have later : ∀ doc ∈ rest, doc ∈ know.read ∧ query.filter doc = true := fun doc member => reads doc (mem_cons_of_mem candidate member)
    cases result with
    | modified => exact ih (modified + 1) failed later
    | unmatched => exact ih modified failed later
    | failed => exact ih modified true later

variable {next : Bool → MongoProg}

theorem follows_rollback_each (order failed) (idle : know.updated = none) (asks : know.call.query.isSome) (holds : know.token = some token)
    (onward : ∀ result, Follows (mongoOutline repo) know (next result)) :
    Follows (mongoOutline repo) know (rollbackEach query token order failed next) := by
  induction order generalizing failed with
  | nil => exact onward _
  | cons _ _ ih =>
    refine ⟨⟨idle, asks, holds⟩, ?_⟩
    intro result _
    cases result with
    | modified | unmatched => exact ih failed
    | failed => exact ih true

theorem follows_rollback_missing (candidates claimed) (idle : know.updated = none) (asks : know.call.query.isSome) (holds : know.token = some token)
    (onward : ∀ result, Follows (mongoOutline repo) know (next result)) :
    Follows (mongoOutline repo) know (rollbackMissingClaims query candidates claimed token next) := by
  unfold rollbackMissingClaims
  dsimp only
  split
  · exact onward true
  · refine ⟨⟨idle, asks⟩, ?_⟩
    intro order _
    exact follows_rollback_each order false idle asks holds onward

theorem follows_claim_documents {candidates} {next} (idle : know.updated = none) (asks : know.call.query = some query)
    (reads : ∀ doc ∈ candidates, doc ∈ know.read ∧ query.filter doc = true)
    (room : know.held.length + candidates.length ≤ know.call.limit.toNat)
    (fails : ∀ later : Knowledge, later.call = know.call → later.updated = none → Follows (mongoOutline repo) later (next none))
    (onward : ∀ later : Knowledge, ∀ batch modified token, later.call = know.call → later.updated = none →
      later.token = some token → later.held = know.held ++ batch → batch.length ≤ candidates.length →
      Follows (mongoOutline repo) later (next (some (batch, modified, token)))) :
    Follows (mongoOutline repo) know (claimDocuments query candidates next) := by
  refine ⟨⟨idle, by simp [asks]⟩, ?_⟩
  intro token _
  refine ⟨⟨idle, by simp [mongoOutline, mongoLearn, asks]⟩, ?_⟩
  intro _ shuffled
  refine follows_claim_each 0 false idle asks rfl ?_ ?_
  · intro doc member
    exact reads doc (shuffled.mem_iff.mp member)
  intro modified
  match modified with
  | none => exact fails _ rfl idle
  | some 0 => exact onward _ [] 0 token rfl idle rfl (by simp [mongoOutline, mongoLearn]) (by simp)
  | some (count + 1) =>
    refine ⟨⟨idle, by simp [mongoOutline, mongoLearn, asks], rfl, rfl, by simpa [mongoOutline, mongoLearn] using room⟩, ?_⟩
    intro found seen
    cases found with
    | none => exact fails _ rfl idle
    | some docs => exact onward _ docs _ token rfl idle rfl rfl (by simpa using seen docs rfl)

theorem follows_claim_matching (tenantID) {limit} {next} (left : Nat) (idle : know.updated = none) (asks : know.call.query = some query)
    (limited : know.call.limit.toNat = limit) (room : know.held.length ≤ limit)
    (fails : ∀ later : Knowledge, later.call = know.call → later.updated = none → Follows (mongoOutline repo) later (next none))
    (onward : ∀ later : Knowledge, later.call = know.call → later.updated = none → later.held.length ≤ limit →
      Follows (mongoOutline repo) later (next (some later.held))) :
    Follows (mongoOutline repo) know (claimMatching query tenantID limit next left know.held) := by
  induction left generalizing know with
  | zero => exact onward know rfl idle room
  | succ left ih =>
    unfold claimMatching
    split
    · exact onward know rfl idle room
    refine ⟨⟨idle, asks, by omega⟩, ?_⟩
    intro found seen
    cases found with
    | none => exact fails _ rfl idle
    | some candidates =>
      obtain ⟨_, filtered⟩ := seen candidates rfl
      dsimp only
      split
      · exact onward _ rfl idle room
      refine follows_claim_documents idle asks ?_ ?_ fails ?_
      · intro doc member
        exact ⟨member, filtered doc member⟩
      · simp only [mongoOutline, mongoLearn]
        omega
      intro later batch _ _ call updated holds held _
      have asked : later.call.query = some query := call ▸ asks
      have fits : later.held.length ≤ limit := by
        rw [held, length_append]
        simp only [mongoOutline, mongoLearn]
        omega
      have again : Follows (mongoOutline repo) later (claimMatching query tenantID limit next left later.held) :=
        ih updated asked (call ▸ limited) fits (fun final same => fails final (same.trans call)) fun final same => onward final (same.trans call)
      have stop := onward later call updated fits
      rw [held] at again stop
      dsimp only
      split
      · refine follows_rollback_missing candidates batch updated (by simp [asked]) holds ?_
        intro ok
        cases ok with
        | true => exact again
        | false => exact fails later call updated
      · split
        · exact stop
        · split
          · exact stop
          · exact again

theorem follows_mark_reply {result} (updated : know.updated = some result) : Follows (mongoOutline repo) know (markReply result) := by
  have told : ∀ other, know.updated = some other → markResult result = markResult other := by
    intro _ same
    rw [Option.some.inj (updated.symm.trans same)]
  have made : know.updated ≠ none := by simp [updated]
  cases result with
  | modified | unmatched | failed => exact ⟨told, fun _ => made, .inl rfl⟩

variable (idle : know.updated = none)

include idle

theorem follows_refusal {reply} (other : reply ≠ .done) (empty : reply.returned = []) : Follows (mongoOutline repo) know (.ret reply) := by
  refine ⟨?_, fun same => absurd same other, .inl empty⟩
  intro _ updated
  rw [idle] at updated
  cases updated

theorem follows_claim_reply (room : know.held.length ≤ know.call.limit.toNat) : Follows (mongoOutline repo) know (claimReply (some know.held)) := by
  refine ⟨?_, nofun, .inr ⟨List.Perm.refl _, room⟩⟩
  intro _ updated
  rw [idle] at updated
  cases updated

theorem follows_reclaim_reply (room : know.held.length ≤ know.call.limit.toNat) :
    Follows (mongoOutline repo) know (reclaimReply (some know.held)) := by
  refine ⟨?_, nofun, .inr ⟨?_, room⟩⟩
  · intro _ updated
    rw [idle] at updated
    cases updated
  · have parts := filter_append_perm (fun event => decide (event.status ≠ .invalid)) (know.held.map toOutboxEvent)
    simpa [Reply.returned] using parts

end

def Knowledge.initial (call : Call) : Knowledge where
  call := call
  read := []
  token := none
  unread := false
  held := []
  updated := none

theorem follows_program (repo call) : Follows (mongoOutline repo) (.initial call) (call.program repo) := by
  cases call with
  | claimPending tenantID =>
    simp only [Call.program, claimPending]
    split
    · exact follows_refusal rfl nofun rfl
    refine follows_claim_matching tenantID maxListScanMultiplier rfl rfl rfl (Nat.zero_le _) ?_ ?_
    · intro later call idle
      exact follows_refusal idle nofun rfl
    · intro later call idle room
      exact follows_claim_reply idle (by rwa [call])
  | resetForRetry tenantID =>
    simp only [Call.program, resetForRetry]
    split
    · exact follows_refusal rfl nofun rfl
    split
    · exact follows_refusal rfl nofun rfl
    refine follows_claim_matching tenantID maxListScanMultiplier rfl rfl rfl (Nat.zero_le _) ?_ ?_
    · intro later call idle
      exact follows_refusal idle nofun rfl
    · intro later call idle _
      exact follows_claim_reply idle (by rwa [call])
  | reclaimStuckProcessing tenantID =>
    simp only [Call.program, reclaimStuckProcessing]
    split
    · exact follows_refusal rfl nofun rfl
    split
    · exact follows_refusal rfl nofun rfl
    refine follows_claim_matching tenantID maxListScanMultiplier rfl rfl rfl (Nat.zero_le _) ?_ ?_
    · intro _ call idle
      exact follows_refusal idle nofun rfl
    · intro _ call idle _
      exact follows_reclaim_reply idle (by rwa [call])
  | markPublished =>
    simp only [Call.program, markPublished]
    split
    · exact follows_refusal rfl nofun rfl
    · exact ⟨⟨rfl, rfl⟩, fun result _ => follows_mark_reply rfl⟩
  | markInvalid _ _ errMsg =>
    simp only [Call.program, markInvalid]
    split
    · exact follows_refusal rfl nofun rfl
    · exact ⟨⟨rfl, errMsg, rfl⟩, fun result _ => follows_mark_reply rfl⟩
  | markFailed tenantID id errMsg maxAttempts =>
    simp only [Call.program, markFailed]
    split
    · exact follows_refusal rfl nofun rfl
    split
    · exact follows_refusal rfl nofun rfl
    refine ⟨⟨rfl, rfl, errMsg, maxAttempts, rfl⟩, ?_⟩
    intro found seen
    match found with
    | none => exact follows_refusal rfl nofun rfl
    | some none => exact follows_refusal rfl nofun rfl
    | some (some read) =>
      refine ⟨⟨rfl, tenantID, id, errMsg, maxAttempts, rfl, by simp [mongoOutline, mongoLearn], seen read rfl, rfl, rfl,
        rfl⟩, fun result _ => follows_mark_reply rfl⟩

theorem mongo_sees {I} {repo} {Stamp} (i : I) (op : MongoOp)
    (world : World I repo.tenantField) (result : MongoRes op) (after : World I repo.tenantField)
    (done : Exec Stamp i op world result after) : mongoSees repo op result := by
  cases op with
  | findClaimCandidates =>
    obtain ⟨-, missing | found⟩ := done
    · intro docs same
      rw [missing] at same
      cases same
    intro docs same
    rw [found] at same
    cases same
    refine ⟨length_take_le _ _, ?_⟩
    intro doc member
    exact (mem_found _ _ _ _ doc (mem_of_mem_take member)).2
  | bulkOrder => exact done.1
  | readBack query token ids tenantID =>
    obtain ⟨-, missing | found⟩ := done
    · intro _ same
      rw [missing] at same
      cases same
    intro _ same
    rw [found] at same
    cases same
    have inside : ((findDocuments world.docs query
        (fun doc => doc.claimToken = some token && ids.contains doc.id) tenantID).map fun doc => doc.id) ⊆ ids := by
      intro _ member
      obtain ⟨doc, present, rfl⟩ := List.mem_map.mp member
      have matched := (mem_found _ _ _ _ doc present).2
      simp only [Bool.and_eq_true, contains_iff_mem] at matched
      exact matched.2
    simpa using (subperm_of_subset (found_unique _ _ _ _) inside).length_le
  | getByIDAndStatus =>
    obtain ⟨-, missing | found⟩ := done
    · intro _ same
      rw [missing] at same
      cases same
    intro _ same
    rw [found] at same
    have present := (Option.filter_eq_some_iff.mp (Option.some.inj same)).1
    exact ((Keyed.get_some_iff _ _ _).mp present).2
  | _ => trivial

end LibCommons.Outbox.Mongo
