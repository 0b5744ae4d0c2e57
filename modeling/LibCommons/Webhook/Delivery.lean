import LibCommons.Webhook.Deliverer

namespace LibCommons.Webhook

open List

variable {C : Type} (hmac : Bytes → Bytes → Bytes) (outside : Outside C) (d : Deliverer C)

def retried (outcome : Except C Nat) (attempt : Nat) (result : DeliveryResult C) : DeliveryResult C :=
  match outcome with
  | .error cause => { result with attempts := attempt + 1, statusCode := 0, error := some (.httpRequest cause) }
  | .ok statusCode => { result with attempts := attempt + 1, statusCode := statusCode }

def ended (statusCode attempt : Nat) (result : DeliveryResult C) : DeliveryResult C :=
  if statusCode < 300 then { result with attempts := attempt + 1, statusCode := statusCode, success := true }
  else if statusCode < 400 then
    { result with attempts := attempt + 1, statusCode := statusCode, error := some (.redirectStatus statusCode) }
  else { result with attempts := attempt + 1, statusCode := statusCode, error := some (.nonRetryableStatus statusCode) }

def retriedFor (outcome : Nat → Except C Nat) : Nat → DeliveryResult C → DeliveryResult C
  | 0, result => result
  | attempts + 1, result => retried (outcome attempts) attempts (retriedFor outcome attempts result)

def World.sent (world : World) (count : Nat) (request : Request) : World :=
  { world with requests := world.requests ++ List.replicate count request }

theorem sent_more (world : World) (count : Nat) (request : Request) : (world.sent count request).sent 1 request = world.sent (count + 1) request := by
  simp only [World.sent, replicate_succ', append_assoc, replicate_zero, nil_append]

section

variable (outcome : Nat → Except C Nat) (endpointID : String)

theorem retried_success (attempts : Nat) (result) : (retriedFor outcome attempts result).success = result.success := by
  induction attempts with
  | zero => rfl
  | succ attempts ih =>
    rw [← ih]
    cases answered : outcome attempts with
    | error | ok => simp only [retriedFor, retried, answered]

theorem retried_attempts (attempts : Nat) (result) (first : result.attempts = 0) : (retriedFor outcome attempts result).attempts = attempts := by
  cases attempts with
  | zero => exact first
  | succ attempts =>
    cases answered : outcome attempts with
    | error | ok => simp only [retriedFor, retried, answered]

theorem retried_status (attempts : Nat) (result) : (retriedFor outcome (attempts + 1) result).statusCode = statusOf (outcome attempts) := by
  cases answered : outcome attempts with
  | error | ok => simp only [retriedFor, retried, answered, statusOf]

theorem retried_error (attempts : Nat) (result) : (retriedFor outcome attempts result).error = none ↔
      result.error = none ∧ ¬ ∃ n < attempts, ∃ cause, outcome n = .error cause := by
  induction attempts with
  | zero => simp [retriedFor]
  | succ attempts ih =>
    cases answered : outcome attempts with
    | error cause =>
      simp only [retriedFor, retried, answered, reduceCtorEq, false_iff]
      rintro ⟨_, clean⟩
      exact clean ⟨attempts, Nat.lt_succ_self attempts, cause, answered⟩
    | ok =>
      simp only [retriedFor, retried, answered, ih]
      constructor
      · rintro ⟨fresh, clean⟩
        refine ⟨fresh, ?_⟩
        rintro ⟨n, bound, cause, failed⟩
        rcases Nat.lt_succ_iff_lt_or_eq.mp bound with earlier | rfl
        · exact clean ⟨n, earlier, cause, failed⟩
        · rw [answered] at failed
          cases failed
      · rintro ⟨fresh, clean⟩
        refine ⟨fresh, ?_⟩
        rintro ⟨n, bound, failed⟩
        exact clean ⟨n, Nat.lt_succ_of_lt bound, failed⟩

end

section

variable (ep : Endpoint) (event : Event) (target : Target) (secret : Bytes)

def outcomes (n : Nat) : Except C Nat := outside.clientDo n (requestFor hmac d target event secret)

variable (waits : ∀ attempt, outside.waitContext attempt = .ok ()) (builds : outside.newRequest target.pinnedURL = .ok ())

include builds

theorem do_http (attempt : Nat) (world) : doHTTP hmac outside d target event secret attempt world =
      ((outcomes hmac outside d event target secret attempt).mapError .httpRequest, world.sent 1 (requestFor hmac d target event secret)) := by
  simp only [doHTTP, builds, outcomes, World.sent, replicate_one]

include waits

theorem loop_retries (rounds attempt : Nat) (result world) (goes : ¬ Ends (outcomes hmac outside d event target secret attempt)) :
    retryLoop hmac outside d ep event target secret (rounds + 1) attempt result world =
      retryLoop hmac outside d ep event target secret rounds (attempt + 1)
        (retried (outcomes hmac outside d event target secret attempt) attempt result)
        (world.sent 1 (requestFor hmac d target event secret)) := by
  simp only [retryLoop, waits, ite_self, do_http hmac outside d event target secret builds]
  generalize outcomes hmac outside d event target secret attempt = outcome at goes ⊢
  cases outcome with
  | error => rfl
  | ok statusCode =>
    have passes : ¬ (200 ≤ statusCode ∧ statusCode < 500 ∧ statusCode ≠ 429) := fun final => goes ⟨statusCode, rfl, final⟩
    simp only [Except.mapError, retried]
    rw [if_neg (by omega), if_neg (by omega), if_neg (by omega)]

theorem loop_runs (count rounds : Nat) (result : DeliveryResult C) (world : World)
    (goes : ∀ n < count, ¬ Ends (outcomes hmac outside d event target secret n)) :
    retryLoop hmac outside d ep event target secret (rounds + count) 0 result world =
      retryLoop hmac outside d ep event target secret rounds count (retriedFor (outcomes hmac outside d event target secret) count result)
        (world.sent count (requestFor hmac d target event secret)) := by
  induction count generalizing rounds with
  | zero => simp only [Nat.add_zero, retriedFor, World.sent, replicate_zero, append_nil]
  | succ count ih =>
    have regroup : rounds + (count + 1) = (rounds + 1) + count := by omega
    rw [regroup, ih (rounds + 1) (fun n below => goes n (by omega)),
      loop_retries hmac outside d ep event target secret waits builds rounds count _ _ (goes count (by omega)),
      sent_more]
    rfl

theorem loop_ends (rounds attempt statusCode : Nat) (result world) (answered : outcomes hmac outside d event target secret attempt = .ok statusCode)
    (final : 200 ≤ statusCode ∧ statusCode < 500 ∧ statusCode ≠ 429) (fresh : result.success = false) :
    retryLoop hmac outside d ep event target secret (rounds + 1) attempt result world = (ended statusCode attempt result,
        recordMetrics d ep.id (ended statusCode attempt result).success statusCode (attempt + 1)
          (world.sent 1 (requestFor hmac d target event secret))) := by
  simp only [retryLoop, waits, ite_self, do_http hmac outside d event target secret builds, answered, Except.mapError]
  by_cases good : statusCode < 300
  · rw [if_pos ⟨final.1, good⟩]
    simp only [ended, good, if_true]
  by_cases moved : statusCode < 400
  · rw [if_neg (by omega), if_pos ⟨by omega, moved⟩]
    simp only [ended, good, moved, if_true, if_false, fresh]
  · rw [if_neg (by omega), if_neg (by omega), if_pos ⟨by omega, final.2⟩]
    simp only [ended, good, moved, if_false, fresh]

end

theorem rounds_bounded : (rounds d : Int) ≤ d.maxRetries.toInt + 1 := by
  have positive := d.retries
  have small : d.maxRetries.toInt < 2 ^ 63 := Int64.toInt_lt d.maxRetries
  have sum : (d.maxRetries + 1).toInt = (d.maxRetries.toInt + 1).bmod (2 ^ 64) := Int64.toInt_add d.maxRetries 1
  rw [rounds, sum, Int.bmod]
  omega

def LateSuccess (outcome : Nat → Except C Nat) (limit : Nat) : Prop :=
  ∃ last < limit, (∀ n < last, ¬ Ends (outcome n)) ∧ Is2xx (outcome last) ∧ ∃ n < last, ∃ cause, outcome n = .error cause

section

variable (ep : Endpoint) (event : Event) (world : World) (target : Target) (secret : Bytes)

def blank : DeliveryResult C := ⟨ep.id, 0, false, none, 0⟩

theorem deliver_loops (allowed : outside.resolveAndValidateWebhookTarget ep.url d.allowPrivateNetwork = .ok target)
    (signed : resolveSecret d ep.secret = .ok secret) :
    deliverToEndpoint hmac outside d ep event world = retryLoop hmac outside d ep event target secret (rounds d) 0 (blank ep) world := by
  simp only [deliverToEndpoint, allowed, signed, blank]

theorem recorded_once (result : DeliveryResult C) (success : Bool) (statusCode attempts : Nat) (sent : World)
    (shown : success = result.success ∧ statusCode = result.statusCode ∧ attempts = result.attempts)
    (quiet : sent.recorded = world.recorded) :
    (recordMetrics d ep.id success statusCode attempts sent).recorded = world.recorded ++
      if d.metrics = true then [⟨ep.id, result.success, result.statusCode, result.attempts⟩] else [] := by
  obtain ⟨rfl, rfl, rfl⟩ := shown
  by_cases attached : d.metrics = true
  · simp only [recordMetrics, attached, if_true, quiet]
  · rw [recordMetrics, if_neg attached, if_neg attached, quiet, append_nil]

theorem record_requests (success) (statusCode attempts : Nat) (sent) :
    (recordMetrics d ep.id success statusCode attempts sent).requests = sent.requests := by
  by_cases attached : d.metrics = true
  · simp only [recordMetrics, attached, if_true]
  · rw [recordMetrics, if_neg attached]

theorem ended_success (statusCode last : Nat) {result : DeliveryResult C} (fresh : result.success = false) :
    (ended statusCode last result).success = true ↔ statusCode < 300 := by
  by_cases good : statusCode < 300
  · simp only [ended, good, if_true]
  · by_cases moved : statusCode < 400
    · simp only [ended, good, moved, if_true, if_false, fresh, Bool.false_eq_true]
    · simp only [ended, good, moved, if_false, fresh, Bool.false_eq_true]

theorem ended_error (statusCode last : Nat) (result : DeliveryResult C) :
    (ended statusCode last result).error = none ↔ statusCode < 300 ∧ result.error = none := by
  by_cases good : statusCode < 300
  · simp only [ended, good, if_true, true_and]
  · by_cases moved : statusCode < 400
    · simp only [ended, good, moved, if_true, if_false, reduceCtorEq, false_and]
    · simp only [ended, good, moved, if_false, reduceCtorEq, false_and]

theorem ended_counts (statusCode last : Nat) (result : DeliveryResult C) :
    (ended statusCode last result).attempts = last + 1 ∧ (ended statusCode last result).statusCode = statusCode := by
  by_cases good : statusCode < 300
  · simp only [ended, good, if_true, and_self]
  · by_cases moved : statusCode < 400
    · simp only [ended, good, moved, if_true, if_false, and_self]
    · simp only [ended, good, moved, if_false, and_self]

variable (waits : ∀ attempt, outside.waitContext attempt = .ok ()) (builds : outside.newRequest target.pinnedURL = .ok ())
  (allowed : outside.resolveAndValidateWebhookTarget ep.url d.allowPrivateNetwork = .ok target)
  (signed : resolveSecret d ep.secret = .ok secret)

include waits builds allowed signed

theorem deliver_ends (last statusCode : Nat) (below : last < rounds d) (goes : ∀ n < last, ¬ Ends (outcomes hmac outside d event target secret n))
    (answered : outcomes hmac outside d event target secret last = .ok statusCode)
    (final : 200 ≤ statusCode ∧ statusCode < 500 ∧ statusCode ≠ 429)
    (result) (shown : result = ended statusCode last (retriedFor (outcomes hmac outside d event target secret) last (blank ep))) :
    deliverToEndpoint hmac outside d ep event world = (result, recordMetrics d ep.id result.success statusCode (last + 1)
        (world.sent (last + 1) (requestFor hmac d target event secret))) := by
  obtain ⟨more, _⟩ := Nat.exists_eq_add_of_lt below
  have regroup : rounds d = (more + 1) + last := by omega
  rw [deliver_loops hmac outside d ep event world target secret allowed signed, regroup,
    loop_runs hmac outside d ep event target secret waits builds last _ _ _ goes,
    loop_ends hmac outside d ep event target secret waits builds more last statusCode _ _ answered final
      (retried_success _ last (blank ep)), sent_more, shown]

theorem deliver_exhausts (goes : ∀ n < rounds d, ¬ Ends (outcomes hmac outside d event target secret n)) :
    deliverToEndpoint hmac outside d ep event world =
      exhaust outside d ep (retriedFor (outcomes hmac outside d event target secret) (rounds d) (blank ep))
        (world.sent (rounds d) (requestFor hmac d target event secret)) := by
  have runs := loop_runs hmac outside d ep event target secret waits builds (rounds d) 0 (blank ep) world goes
  rw [Nat.zero_add] at runs
  rw [deliver_loops hmac outside d ep event world target secret allowed signed, runs, retryLoop]

theorem ended_truthful (last statusCode : Nat) (below : last < rounds d) (goes : ∀ n < last, ¬ Ends (outcomes hmac outside d event target secret n))
    (answered : outcomes hmac outside d event target secret last = .ok statusCode)
    (final : 200 ≤ statusCode ∧ statusCode < 500 ∧ statusCode ≠ 429) :
    Truthful d ep (requestFor hmac d target event secret) (outcomes hmac outside d event target secret) world
        (deliverToEndpoint hmac outside d ep event world).2 (deliverToEndpoint hmac outside d ep event world).1 ↔
      (statusCode < 300 → ¬ ∃ n < last, ∃ cause, outcomes hmac outside d event target secret n = .error cause) := by
  obtain ⟨result, shown⟩ : ∃ result, result = ended statusCode last
      (retriedFor (outcomes hmac outside d event target secret) last (blank ep)) := ⟨_, rfl⟩
  rw [deliver_ends hmac outside d ep event world target secret waits builds allowed signed last statusCode below goes answered final result shown]
  have counted : result.attempts = last + 1 ∧ result.statusCode = statusCode := shown ▸ ended_counts statusCode last _
  have succeeds : result.success = true ↔ statusCode < 300 := shown ▸ ended_success statusCode last (retried_success _ last (blank ep))
  have errs : result.error = none ↔ statusCode < 300 ∧ ¬ ∃ n < last, ∃ cause, outcomes hmac outside d event target secret n = .error cause := by
    rw [shown, ended_error, retried_error]
    simp only [blank, true_and]
  constructor
  · intro truthful good
    exact (errs.mp (truthful.error.mpr (succeeds.mpr good))).2
  intro clean
  have limit := rounds_bounded d
  refine ⟨?_, ?_, ?_, ?_, ?_, ?_, ?_⟩
  · rw [record_requests, counted.1]
    rfl
  · rw [counted.1]
    push_cast
    omega
  · intro n earlier
    rw [counted.1] at earlier
    exact goes n (by omega)
  · intro n same
    rw [counted.1] at same
    obtain rfl : last = n := by omega
    rw [counted.2, answered, statusOf]
  · rw [succeeds]
    constructor
    · intro good
      exact ⟨last, counted.1, statusCode, answered, final.1, good⟩
    rintro ⟨n, same, other, found, _, good⟩
    rw [counted.1] at same
    obtain rfl : last = n := by omega
    rw [answered] at found
    obtain rfl : statusCode = other := Except.ok.inj found
    exact good
  · rw [errs, succeeds]
    exact ⟨And.left, fun good => ⟨good, clean good⟩⟩
  · exact recorded_once d ep world result _ _ _ _ ⟨rfl, counted.2.symm, counted.1.symm⟩ rfl

theorem exhausted_truthful (goes : ∀ n < rounds d, ¬ Ends (outcomes hmac outside d event target secret n)) :
    Truthful d ep (requestFor hmac d target event secret) (outcomes hmac outside d event target secret) world
      (deliverToEndpoint hmac outside d ep event world).2 (deliverToEndpoint hmac outside d ep event world).1 := by
  rw [deliver_exhausts hmac outside d ep event world target secret waits builds allowed signed goes]
  have counted := retried_attempts (outcomes hmac outside d event target secret) (rounds d) (blank ep) rfl
  have failed := retried_success (outcomes hmac outside d event target secret) (rounds d) (blank ep)
  have status := retried_status (outcomes hmac outside d event target secret)
  generalize retrying : retriedFor (outcomes hmac outside d event target secret) (rounds d) (blank ep) = result at counted failed
  have missed : result.success = false := failed
  refine ⟨?_, ?_, ?_, ?_, ?_, ?_, ?_⟩
  · rw [exhaust, record_requests]
    simp only [counted, World.sent]
  · simp only [exhaust, counted]
    exact rounds_bounded d
  · intro n earlier
    simp only [exhaust, counted] at earlier
    exact goes n (by omega)
  · intro n same
    simp only [exhaust, counted] at same ⊢
    rw [← retrying, same]
    exact status n (blank ep)
  · simp only [exhaust, missed, Bool.false_eq_true, counted, false_iff]
    rintro ⟨n, _, statusCode, answered, least, _⟩
    exact goes n (by omega) ⟨statusCode, answered, least, by omega, by omega⟩
  · simp only [exhaust, missed, reduceCtorEq, Bool.false_eq_true]
  · exact recorded_once d ep world _ _ _ _ _ ⟨missed.symm, rfl, rfl⟩ rfl

theorem deliver_truthful_iff :
    Truthful d ep (requestFor hmac d target event secret) (outcomes hmac outside d event target secret) world
        (deliverToEndpoint hmac outside d ep event world).2 (deliverToEndpoint hmac outside d ep event world).1 ↔
      ¬ LateSuccess (outcomes hmac outside d event target secret) (rounds d) := by
  by_cases settles : ∃ last < rounds d, Ends (outcomes hmac outside d event target secret last)
  · classical
    obtain ⟨below, statusCode, answered, final⟩ := Nat.find_spec settles
    have goes : ∀ n < Nat.find settles, ¬ Ends (outcomes hmac outside d event target secret n) :=
      fun n earlier ends => Nat.find_min settles earlier ⟨earlier.trans below, ends⟩
    generalize Nat.find settles = last at below answered goes
    rw [ended_truthful hmac outside d ep event world target secret waits builds allowed signed last statusCode below goes
      answered final]
    constructor
    · rintro clean ⟨other, _, passes, ⟨found, shown, least, most⟩, failed⟩
      have same : other = last := by
        rcases Nat.lt_trichotomy other last with earlier | same | later
        · exact absurd ⟨found, shown, least, by omega, by omega⟩ (goes other earlier)
        · exact same
        · exact absurd ⟨statusCode, answered, final⟩ (passes last later)
      subst same
      rw [answered] at shown
      obtain rfl : statusCode = found := Except.ok.inj shown
      exact clean most failed
    · intro never good failed
      exact never ⟨last, below, goes, ⟨statusCode, answered, final.1, good⟩, failed⟩
  · have goes : ∀ n < rounds d, ¬ Ends (outcomes hmac outside d event target secret n) :=
      fun n below ends => settles ⟨n, below, ends⟩
    constructor
    · rintro _ ⟨last, below, _, ⟨statusCode, answered, least, _⟩, _⟩
      exact goes last below ⟨statusCode, answered, least, by omega, by omega⟩
    · intro _
      exact exhausted_truthful hmac outside d ep event world target secret waits builds allowed signed goes

end

theorem default_retries : 0 < defaultMaxRetries.toInt := by decide

def plainDeliverer : Deliverer Unit := ⟨defaultMaxRetries, default_retries, .signatureV1, none, false, true⟩

def plainEndpoint : Endpoint := ⟨"orders", "http://203.0.113.7/hook", [], true⟩

def plainEvent : Event := ⟨"order.created", [123, 125], 1700000000⟩

def receiver (firstStatus : Except Unit Nat) : Outside Unit where
  resolveAndValidateWebhookTarget := fun url _ => .ok ⟨url, "", ""⟩
  newRequest := fun _ => .ok ()
  waitContext := fun _ => .ok ()
  clientDo := fun attempt _ => if attempt = 0 then firstStatus else .ok 200
  sanitizeURL := id

theorem busy_receiver_truthful :
    Truthful plainDeliverer plainEndpoint
      (requestFor (fun _ _ => []) plainDeliverer ⟨plainEndpoint.url, "", ""⟩ plainEvent [])
      (outcomes (fun _ _ => []) (receiver (.ok 503)) plainDeliverer plainEvent ⟨plainEndpoint.url, "", ""⟩ []) ⟨[], []⟩
      (deliverToEndpoint (fun _ _ => []) (receiver (.ok 503)) plainDeliverer plainEndpoint plainEvent ⟨[], []⟩).2
      (deliverToEndpoint (fun _ _ => []) (receiver (.ok 503)) plainDeliverer plainEndpoint plainEvent ⟨[], []⟩).1 := by
  apply (deliver_truthful_iff (fun _ _ => []) (receiver (.ok 503)) plainDeliverer plainEndpoint plainEvent ⟨[], []⟩
    ⟨plainEndpoint.url, "", ""⟩ [] (fun _ => rfl) rfl rfl rfl).mpr
  rintro ⟨_, _, _, _, n, _, _, failed⟩
  cases n with
  | zero | succ => cases failed

theorem dropped_connection_left_as_error :
    (deliverToEndpoint (fun _ _ => []) (receiver (.error ())) plainDeliverer plainEndpoint plainEvent ⟨[], []⟩).1 =
      ⟨"orders", 200, true, some (.httpRequest ()), 2⟩ := by
  decide +kernel

end LibCommons.Webhook
