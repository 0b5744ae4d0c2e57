import LibCommons.Outbox.MongoClaims

namespace LibCommons.Outbox.Mongo

open Process

def failedRule (repo : Repository) (errMsg : String) (maxAttempts : Int) (now : Time) (doc : Document) : Document :=
  { doc with
    attempts := doc.attempts + 1
    status := if doc.attempts + 1 ≥ maxAttempts then .invalid else .failed
    lastError := appendErrorCause doc.lastError (repo.sanitizeErrorMessageForStorage errMsg)
    updatedAt := now
    claimToken := none }

-- What an atomic MarkFailed can do and answer; a driver's error may hide an update.
inductive AtomicMarkFailed (repo : Repository) (Stamp : Time → Prop) (tenantID : String) (id : UUID) (errMsg : String)
    (maxAttempts : Int) (docs : Collection repo.tenantField) : Reply → Collection repo.tenantField → Prop where
  | applied (reply : Reply) (ends : reply = .done ∨ reply = .failed) (current : Document) (now : Time)
      (found : docs.get? (idTenantKey repo id tenantID) = some current) (processing : current.status = .processing)
      (stamp : Stamp now) :
      AtomicMarkFailed repo Stamp tenantID id errMsg maxAttempts docs reply
        (docs.modify (idTenantKey repo id tenantID) (failedRule repo errMsg maxAttempts now) fun _ => rfl)
  | refused (reply) (ends : reply = .stateTransitionConflict ∨ reply = .failed) :
      AtomicMarkFailed repo Stamp tenantID id errMsg maxAttempts docs reply docs

section

variable {I : Type} [DecidableEq I] {repo : Repository} {Stamp : Time → Prop} {calls : I → Call}
  {world after : World I repo.tenantField} {know : I → Knowledge} {i : I} {read : Document}

omit [DecidableEq I] in
theorem cas_current {current} (held : Held Stamp calls world know) (known : read ∈ (know i).read)
    (found : world.docs.get? (scopeKey repo.tenantField read) = some current) (processing : current.status = .processing)
    (attempts : current.attempts = read.attempts) : Go.trimSpace read.lastError = current.lastError := by
  obtain ⟨_, present, evolved⟩ := (held.own i).evolved read known
  rw [found] at present
  cases present
  have live : ¬ Final current.status := by simp [processing, Final]
  obtain ⟨error, -⟩ := (evolved.kept attempts).resolve_left live
  rw [← error]
  exact (held.sound.tidy _ _ found).trimmed (by simp [processing])

variable {result : UpdateResult}

omit [DecidableEq I] in
theorem cas_atomic {nextStatus} {nextAttempts} {nextLastError tenantID} {id} {errMsg} {maxAttempts} (held : Held Stamp calls world know)
    (update : FailedUpdate repo (know i) read nextStatus nextAttempts nextLastError tenantID id errMsg maxAttempts)
    (done : Exec Stamp i (.updateFailed read nextStatus nextAttempts nextLastError) world result after) :
    AtomicMarkFailed repo Stamp tenantID id errMsg maxAttempts world.docs (markResult result) after.docs := by
  obtain ⟨now, stamp, ⟨current, found, guard, hit, rfl⟩ | ⟨-, missed, rfl⟩ | ⟨rfl, rfl⟩⟩ := done
  · simp only [Bool.and_eq_true, decide_eq_true_eq] at guard
    obtain ⟨processing, attempts⟩ := guard
    have error := cas_current held update.known found processing attempts
    have rule : world.docs.modify (scopeKey repo.tenantField read) (fun doc => { doc with
            status := nextStatus, attempts := nextAttempts, lastError := nextLastError, updatedAt := now
            claimToken := none }) (fun _ => rfl) =
        world.docs.modify (scopeKey repo.tenantField read) (failedRule repo errMsg maxAttempts now) fun _ => rfl := by
      apply Keyed.modify_congr
      intro _ same
      rw [found] at same
      cases same
      rw [update.status, update.attempts, update.error, error, ← attempts]
      rfl
    rw [rule, update.key]
    refine .applied _ ?_ current now (update.key ▸ found) processing stamp
    cases result with
    | modified => exact .inl rfl
    | unmatched => exact absurd rfl hit
    | failed => exact .inr rfl
  · refine .refused _ ?_
    cases result with
    | modified => exact absurd rfl missed
    | unmatched => exact .inl rfl
    | failed => exact .inr rfl
  · exact .refused _ (.inr rfl)

omit [DecidableEq I] in
theorem updated_returns {mine} {prog} (follows : Follows (mongoOutline repo) mine prog)
    (updated : mine.updated = some result) : prog = .ret (markResult result) := by
  cases prog with
  | ret => rw [follows.1 result updated]
  | call =>
    have idle := follows.1.1
    rw [updated] at idle
    cases idle

theorem mark_failed_is_atomic (repo : Repository) (Stamp : Time → Prop) (calls : I → Call)
    (docs : Collection repo.tenantField) (tokens : List String) (sound : Sound docs tokens)
    (labels : List (Event I MongoOp MongoRes)) (last : Pool I (World I repo.tenantField) MongoOp MongoRes Reply)
    (run : Run (Step (semantics repo.tenantField Stamp)) (start repo calls docs tokens) labels last)
    (i : I) (tenantID : String) (id : UUID) (errMsg : String) (maxAttempts : Int)
    (call : calls i = .markFailed tenantID id errMsg maxAttempts) (op : MongoOp) (result : MongoRes op)
    (next : Pool I (World I repo.tenantField) MongoOp MongoRes Reply)
    (step : Step (semantics repo.tenantField Stamp) last (.act i op result) next) :
    (next.world.docs = last.world.docs ∧ next.threads i ≠ .ret .done) ∨
      ∃ reply, next.threads i = .ret reply ∧
        AtomicMarkFailed repo Stamp tenantID id errMsg maxAttempts last.world.docs reply next.world.docs := by
  obtain ⟨know, tracks, held⟩ := held_run sound run
  have follows := tracks_step mongo_sees tracks step i
  obtain ⟨_, stands, _, -, done⟩ := act_thread step
  obtain ⟨idle, may⟩ := tracks_may tracks stands
  have known : (know i).call = .markFailed tenantID id errMsg maxAttempts := (held.own i).call.trans call
  simp only [Outline.after, Function.update_self] at follows
  cases op with
  | getByIDAndStatus =>
    refine .inl ⟨by rw [done.1], ?_⟩
    intro ended
    rw [ended] at follows
    exact follows.2.1 rfl idle
  | updateFailed =>
    obtain ⟨_, _, _, _, update⟩ := may
    have same := update.call.symm.trans known
    cases same
    exact .inr ⟨_, updated_returns follows rfl, cas_atomic held update done⟩
  | updatePublished | updateInvalid => simp [known] at may
  | _ => simp [known, Call.query] at may

end

def sampleProcessing : Document := { sampleDocument with status := .processing, lastError := "timeout" }

def sampleFailed : Document := { sampleProcessing with status := .failed, attempts := 1, lastError := "timeout\nrefused", updatedAt := 9 }

abbrev sampleMark : Call := .markFailed "" 1 "refused" 3

def sampleUpdate (error : String) : MongoProg := .call (.updateFailed sampleProcessing .failed 1 error) markReply

theorem sample_mark_read : Run.Leads (Step (semantics false fun _ => True))
    (start sampleRepository (fun _ : Bool => sampleMark) (sampleCollection sampleProcessing) []) fun last =>
      last.world = ⟨sampleCollection sampleProcessing, [], []⟩ ∧ last.threads true = sampleUpdate "timeout\nrefused" := by
  refine sample_act _ _ _ true (.getByIDAndStatus 1 "" .processing) (some (some sampleProcessing)) _ _ rfl ⟨rfl, .inr (by decide)⟩ ?_
  have error : appendErrorCause (Go.trimSpace "timeout") "refused" = "timeout\nrefused" := by decide
  exact Run.leads_here _ _ ⟨rfl, congrArg sampleUpdate error⟩

theorem sample_mark_atomic : Run.Leads (Step (semantics false fun _ => True))
    (start sampleRepository (fun _ : Bool => sampleMark) (sampleCollection sampleProcessing) []) fun last =>
      ∃ next, Step (semantics false fun _ => True) last
          (.act true (.updateFailed sampleProcessing .failed 1 "timeout\nrefused") .modified) next ∧
        next.threads true = .ret .done ∧
        AtomicMarkFailed sampleRepository (fun _ => True) "" 1 "refused" 3 last.world.docs .done next.world.docs := by
  obtain ⟨labels, last, run, world, stands⟩ := sample_mark_read
  have done : Exec (fun _ => True) true (.updateFailed sampleProcessing .failed 1 "timeout\nrefused") last.world .modified
      ⟨sampleCollection sampleFailed, [], []⟩ := by
    rw [world]
    exact ⟨9, trivial, .inl ⟨sampleProcessing, by decide, by decide, by decide, rfl⟩⟩
  have step : Step (semantics false fun _ => True) last _ _ :=
    .act last true (.updateFailed sampleProcessing .failed 1 "timeout\nrefused") markReply .modified _ stands done
  have ended : (Function.update last.threads true (markReply .modified)) true = .ret .done := by
    rw [Function.update_self]
    rfl
  refine ⟨labels, last, run, _, step, ended, ?_⟩
  rcases mark_failed_is_atomic sampleRepository (fun _ => True) (fun _ => sampleMark) (sampleCollection sampleProcessing) []
    (sample_sound ⟨fun _ => rfl, fun _ => by decide⟩ rfl) labels last run true "" 1 "refused" 3 rfl
    (.updateFailed sampleProcessing .failed 1 "timeout\nrefused") UpdateResult.modified _ step
    with ⟨-, other⟩ | ⟨reply, same, atomic⟩
  · exact absurd ended other
  · have answer := same.symm.trans ended
    cases answer
    exact atomic

end LibCommons.Outbox.Mongo
