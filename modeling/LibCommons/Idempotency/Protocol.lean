import LibCommons.Idempotency.Handle

namespace LibCommons.Idempotency

structure Ticket where
  key : String
  fingerprint : String
  owner : String

namespace Ticket

variable (ticket : Ticket)

def record : StoreRecord := { state := keyStateProcessing, fingerprint := ticket.fingerprint, owner := ticket.owner }

def processing : Bytes := recordBytes ticket.record

def Owns (record : StoreRecord) : Prop := record.fingerprint = ticket.fingerprint ∧ record.owner = ticket.owner

-- The bytes of a finished record of this request; the last has an unrecorded outcome.
def Finished (bytes : Bytes) : Prop := ∃ record, bytes = recordBytes record ∧ record.state = keyStateComplete ∧ ticket.Owns record

def fenced : Bytes := recordBytes (fencedRecord ticket.record)

theorem fenced_of_owns (record) (owned : ticket.Owns record) : recordBytes (fencedRecord record) = ticket.fenced := by
  rw [fenced, fencedRecord, fencedRecord, owned.1, owned.2]
  rfl

theorem fenced_finished : ticket.Finished ticket.fenced := ⟨_, rfl, rfl, rfl, rfl⟩

theorem record_bytes_injective {first second} (same : recordBytes first = recordBytes second) : first = second := by
  have read := unmarshal_record_bytes first
  rw [same, unmarshal_record_bytes second] at read
  exact (Option.some.inj read).symm

variable {first second : Ticket}

theorem processing_owner (same : first.processing = second.processing) : first.owner = second.owner :=
  congrArg StoreRecord.owner (record_bytes_injective same)

theorem finished_not_processing (finished : first.Finished second.processing) : False := by
  obtain ⟨record, same, state, -⟩ := finished
  have equal : keyStateProcessing = record.state := congrArg StoreRecord.state (record_bytes_injective same)
  rw [state] at equal
  exact absurd equal (by decide)

end Ticket

section

variable {H : Type}

def Kept (m : Middleware H) (request : Request) (outcome : Outcome H) : Prop := outcome.err = none ∧ outcome.response.statusCode < 500 ∧
    ¬ (400 ≤ outcome.response.statusCode ∧ resolveClientErrorPolicy m request outcome.response outcome.response.statusCode = .release)

def OwnBeat (ticket : Ticket) (beat : Option Beat) : Prop := ∀ b ∈ beat, b.key = ticket.key ∧ b.processing = ticket.processing ∧ 0 < b.lease

def OwnComplete (ticket : Ticket) (key : String) (expected completed : Bytes) (ttl : Duration) : Prop :=
  key = ticket.key ∧ expected = ticket.processing ∧ ticket.Finished completed ∧ 0 < ttl

def Recorded (ticket : Ticket) (completed : Bytes) (program : RequestProg H) : Prop :=
  ∃ reply, program = .ret reply ∧ (reply.fence = some true → completed = ticket.fenced)

-- A request with an outcome to keep; it answers unfenced when no attempt was reported to work.
def Settling (ticket : Ticket) : RequestProg H → Prop
  | .ret reply => reply.answer = .refused .unfenced ∧ reply.fence ≠ some true
  | .call (.complete key expected completed ttl) next =>
    OwnComplete ticket key expected completed ttl ∧ Recorded ticket completed (next (.ok true)) ∧
      ∀ result, result ≠ .ok true → Settling ticket (next result)
  | .call _ _ => False

-- A request that created its record: every write names its own processing bytes.
def Holding (ticket : Ticket) (kept : Outcome H → Prop) : RequestProg H → Prop
  | .ret reply => reply.fence ≠ some true
  | .call (.acquire _ _ _) _ => False
  | .call (.start beat) next => OwnBeat ticket beat ∧ ∀ result, Holding ticket kept (next result)
  | .call (.await beat) next =>
    OwnBeat ticket beat ∧ (∀ outcome, kept outcome → Settling ticket (next (some outcome))) ∧ ∀ result, Holding ticket kept (next result)
  | .call (.complete key expected completed ttl) next =>
    OwnComplete ticket key expected completed ttl ∧ Recorded ticket completed (next (.ok true)) ∧
      ∀ result, result ≠ .ok true → Holding ticket kept (next result)
  | .call (.release key expected) next =>
    key = ticket.key ∧ expected = ticket.processing ∧ ∀ result, Holding ticket kept (next result)

variable {ticket : Ticket}

theorem settling_holding (kept : Outcome H → Prop) {program} (settling : Settling ticket program) : Holding ticket kept program := by
  induction program with
  | ret => exact settling.2
  | call op next ih =>
    cases op with
    | complete =>
      obtain ⟨own, recorded, again⟩ := settling
      exact ⟨own, recorded, fun result failed => ih result (again result failed)⟩
    | _ => exact settling.elim

variable [ResponseHeader H] {m : Middleware H} {request : Request} {record : StoreRecord} {ttl : Duration} (owned : ticket.Owns record)

include owned

theorem mark_typed {typed : RequestProg H → Prop} (positive : 0 < ttl)
    (closed : ∀ completed next, OwnComplete ticket ticket.key ticket.processing completed ttl →
      Recorded ticket completed (next (.ok true)) → (∀ result, result ≠ .ok true → typed (next result)) →
      typed (.call (.complete ticket.key ticket.processing completed ttl) next)) {response : Response H}
    {next : Bool → Response H → RequestProg H}
    (fenced : Recorded ticket ticket.fenced (next true (setHeader response idempotencyFenced "true")))
    (unfenced : typed (next false (setHeader response idempotencyFenced "false"))) :
    typed (markOutcomeUnknown ticket.key ticket.processing record ttl response next) := by
  have bytes := ticket.fenced_of_owns record owned
  refine closed (recordBytes (fencedRecord record)) _ ⟨rfl, rfl, ?_, positive⟩ ?_ ?_
  · rw [bytes]
    exact ticket.fenced_finished
  · rw [bytes]
    exact fenced
  · intro result failed
    obtain e | flag := result
    · exact unfenced
    · cases flag with
      | false => exact unfenced
      | true => exact absurd rfl failed

theorem fail_settling (positive : 0 < ttl) (response) :
    Settling ticket (failPostHandler m request ticket.key ticket.processing record ttl response) := by
  apply mark_typed owned positive
  · intro _ _ own recorded again
    exact ⟨own, recorded, again⟩
  · exact ⟨_, rfl, fun _ => rfl⟩
  · exact ⟨by simp [respondUnfenced], by simp⟩

theorem complete_settling (state : record.state = keyStateComplete) (positive : 0 < ttl)
    (outcome) : Settling ticket (complete m request ticket.key ticket.processing record ttl outcome) := by
  refine ⟨⟨rfl, rfl, ⟨record, rfl, state, owned⟩, positive⟩, ⟨_, rfl, fun reported => by cases reported⟩, ?_⟩
  intro result failed
  obtain e | flag := result
  · exact fail_settling owned positive outcome.response
  · cases flag with
    | false => exact fail_settling owned positive outcome.response
    | true => exact absurd rfl failed

omit owned

variable (ticket : Ticket)

theorem after_handler_settling (positive : 0 < ttl) (before) {outcome} (kept : Kept m request outcome) :
    Settling ticket (afterHandler m request ticket.key ticket.processing ticket.record ttl before outcome) := by
  obtain ⟨clean, below, notReleased⟩ := kept
  unfold afterHandler
  dsimp only
  rw [if_neg (by simp [clean, below]), if_neg notReleased]
  split
  · exact complete_settling ⟨rfl, rfl⟩ rfl positive outcome
  · exact fail_settling ⟨rfl, rfl⟩ positive outcome.response
  · exact complete_settling ⟨rfl, rfl⟩ rfl positive outcome

theorem after_handler_holding (kept : Outcome H → Prop) (positive : 0 < ttl) (before : HeaderSnapshot) (outcome : Outcome H) :
    Holding ticket kept (afterHandler m request ticket.key ticket.processing ticket.record ttl before outcome) := by
  by_cases keeps : Kept m request outcome
  · exact settling_holding kept (after_handler_settling ticket positive before keeps)
  unfold afterHandler
  dsimp only
  split_ifs with failed fence client
  · apply mark_typed ⟨rfl, rfl⟩ positive
    · intro _ _ own recorded again
      exact ⟨own, recorded, again⟩
    · exact ⟨_, rfl, fun _ => rfl⟩
    · simp [Holding]
  · exact ⟨rfl, rfl, fun _ => by simp [Holding]⟩
  · exact ⟨rfl, rfl, fun _ => by simp [Holding]⟩
  · exact absurd ⟨by simpa using fun some_ => failed (.inl some_), by omega, client⟩ keeps

theorem acquired_holding {lease} (positive : 0 < ttl) (leased : 0 < lease) (response) : Holding ticket (Kept m request)
      (handleStoreAcquired m request ticket.key ticket.processing ticket.record ttl lease response) := by
  have own : OwnBeat ticket (if m.hasExtender = true then
      some { key := ticket.key, processing := ticket.processing, lease := lease } else none) := by
    intro _ present
    split at present
    · cases present
      exact ⟨rfl, rfl, leased⟩
    · cases present
  refine ⟨own, fun _ => ⟨own, ?_, ?_⟩⟩
  · intro outcome kept
    exact after_handler_settling ticket positive _ kept
  intro outcome
  cases outcome with
  | none => simp [Holding]
  | some outcome => exact after_handler_holding ticket _ positive _ outcome

end

variable {H : Type} [ResponseHeader H]

-- A request about to read the store: what it does with either answer.
def Waiting (m : Middleware H) (range : MapRange) (request : Request) (response : Response H) (ticket : Ticket)
    (program : RequestProg H) : Prop :=
  ∃ lease next, program = .call (.acquire ticket.key ticket.processing lease) next ∧ 0 < lease ∧
    (∀ current, Holding ticket (Kept m request) (next (.ok (current, true)))) ∧
    ∀ stored, next (.ok (stored, false)) = .ret (respondStored m range request response ticket.fingerprint stored)

variable (m : Middleware H) (range : MapRange) (request : Request) (response : Response H)

theorem handle_store_waits (owner key fingerprint ttl lease) (positive : 0 < ttl) :
    (∃ reply, handleStore m range request owner key fingerprint ttl lease response = .ret reply ∧ reply.answer = .refused .unavailable) ∨
    Waiting m range request response { key := key, fingerprint := fingerprint, owner := owner }
      (handleStore m range request owner key fingerprint ttl lease response) := by
  by_cases short : m.hasExtender = true ∧ (if lease ≤ 0 then ttl else lease) < minHeartbeatLease
  · refine .inl ⟨respondUnavailable m request response, ?_, by simp [respondUnavailable]⟩
    simp [handleStore, marshalRecord, short]
  have leased : 0 < if lease ≤ 0 then ttl else lease := by
    split_ifs with borrowed
    · exact positive
    · exact not_le.mp borrowed
  refine .inr ⟨if lease ≤ 0 then ttl else lease, afterAcquire m range request key fingerprint
    (recordBytes { state := keyStateProcessing, fingerprint := fingerprint, owner := owner })
    { state := keyStateProcessing, fingerprint := fingerprint, owner := owner } ttl
    (if lease ≤ 0 then ttl else lease) response, ?_, leased, ?_, fun _ => rfl⟩
  · unfold handleStore marshalRecord
    dsimp only
    rw [if_neg short]
    rfl
  · intro _
    exact acquired_holding _ positive leased response

theorem handle_carries (key owner) (stored : m.hasStore = true) (carries : Carries m key request) :
    (∃ reply refusal, handle m range request owner response = .ret reply ∧ reply.answer = .refused refusal) ∨
    Waiting m range request response { key := key, fingerprint := fingerprintOf m request, owner := owner }
      (handle m range request owner response) := by
  obtain ⟨mutating, idempotencyKey, tenant, resolved, named, rooted, owned, rfl⟩ := carries
  unfold handle
  simp only [mutating, resolved, rooted, if_neg named, if_neg owned, stored, Bool.not_true, Bool.false_eq_true, if_false]
  split_ifs with long misconfigured
  · exact .inl ⟨_, .keyTooLong, rfl, by simp [respondKeyTooLong]⟩
  · exact .inl ⟨_, .unavailable, rfl, by simp [respondUnavailable]⟩
  · cases printed : resolveFingerprint m request with
    | error => exact .inl ⟨_, .unavailable, rfl, by simp [respondUnavailable]⟩
    | ok fingerprint =>
      cases retained : resolveTTL m request with
      | error => exact .inl ⟨_, .unavailable, rfl, by simp [respondUnavailable]⟩
      | ok ttl =>
        obtain ⟨reply, refused, answer⟩ | waits := handle_store_waits m range request response owner
          (storeKey m tenant idempotencyKey) fingerprint ttl (resolveProcessingTTL m request)
          (resolve_ttl_positive m request ttl retained)
        · exact .inl ⟨reply, .unavailable, refused, answer⟩
        · exact .inr (by simpa [fingerprintOf, printed] using waits)

theorem replay_cases (encoded) : (∃ cached, replay m range request encoded response =
      { answer := .replayed, response := replayResponse range cached response, err := none }) ∨
    replay m range request encoded response = respondPostHandlerStoreError m request response := by
  unfold replay
  split_ifs
  · exact .inr rfl
  split
  · exact .inr rfl
  split_ifs
  · exact .inr rfl
  split
  · exact .inr rfl
  · split_ifs
    · exact .inr rfl
    · exact .inl ⟨_, rfl⟩

theorem respond_finished (ticket : Ticket) (stored : Bytes) (finished : ticket.Finished stored) (fingerprint : String) :
    (fingerprint ≠ ticket.fingerprint → (respondStored m range request response fingerprint stored).answer = .refused .keyReuse) ∧
    ((respondStored m range request response fingerprint stored).answer = .replayed ∨
      ∃ refusal, (respondStored m range request response fingerprint stored).answer = .refused refusal) := by
  obtain ⟨record, rfl, _, same, -⟩ := finished
  rw [respondStored, unmarshal_record_bytes]
  dsimp only
  rw [same]
  constructor
  · intro other
    rw [if_pos (Ne.symm other)]
    simp [respondKeyReuse]
  split_ifs with other unrecorded large processing
  · exact .inr ⟨.keyReuse, by simp [respondKeyReuse]⟩
  · exact .inr ⟨.outcomeUnknown, by simp [respondOutcomeUnknown, refuseTerminal]⟩
  · exact .inr ⟨.replayUnavailable, by simp [respondReplayUnavailable]⟩
  · exact .inr ⟨.conflict, by simp [respondConflict]⟩
  · obtain ⟨cached, sent⟩ | refused := replay_cases m range request response record.response
    · exact .inl (by rw [sent])
    · exact .inr ⟨.postHandlerStoreError, by simp [refused, respondPostHandlerStoreError]⟩

theorem respond_fenced (ticket : Ticket) (fingerprint : String) :
    ∃ refusal, (respondStored m range request response fingerprint ticket.fenced).answer = .refused refusal := by
  rw [respondStored, Ticket.fenced, unmarshal_record_bytes]
  dsimp only
  split_ifs with other unrecorded
  · exact ⟨.keyReuse, by simp [respondKeyReuse]⟩
  · exact ⟨.outcomeUnknown, by simp [respondOutcomeUnknown, refuseTerminal]⟩
  all_goals exact absurd rfl unrecorded

end LibCommons.Idempotency
