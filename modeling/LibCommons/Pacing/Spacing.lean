import LibCommons.Pacing.Pacer

namespace LibCommons.Pacing

open List Option Function

section

theorem application_plain (p : Pacer) : '}' ∉ p.application := by
  have valid := p.valid
  intro inside
  cases shape : p.application with
  | nil =>
    rw [shape] at inside
    cases inside
  | cons =>
    rw [shape] at valid inside
    simp only [isValidTenantID, Bool.and_eq_true, List.all_eq_true] at valid
    rcases mem_cons.mp inside with same | later
    · have alnum := valid.1.2
      rw [← same] at alnum
      exact absurd alnum (by decide)
    · exact absurd (valid.2 _ later) (by decide)

theorem keyspace_append (p rest) : keyspace p ++ rest = keyRoot ++ '{' :: (p.application ++ '}' :: (':' :: rest)) := by
  simp [keyspace]

variable {p : Pacer}

theorem clock_apart {other} {rest} (same : clockKey p = keyspace other ++ rest) : p.application = other.application ∧ clockSuffix = rest := by
  rw [clockKey, keyspace_append, keyspace_append] at same
  have texts := (List.cons.inj (append_cancel_left same)).2
  have plain : '}' ∉ ':' :: clockSuffix := by decide
  obtain ⟨applications, _, rests⟩ := (append_cons_inj_of_notMem (application_plain p) plain).mp texts
  exact ⟨applications, (List.cons.inj rests).2⟩

theorem clock_not_bucket (p other bucket) : clockKey p ≠ bucketKey other bucket := by
  intro same
  have names := (clock_apart same).2
  have colon : ':' ∈ clockSuffix := by
    rw [names]
    exact mem_append_right _ mem_cons_self
  exact absurd colon (by decide)

theorem clock_same (p other) : clockKey p = clockKey other ↔ p.application = other.application := by
  constructor
  · intro same
    exact (clock_apart same).1
  · intro same
    rw [clockKey, clockKey, keyspace, keyspace, same]

theorem bucket_keys_ok (p buckets seen keys) (named : bucketKeys p buckets seen = .ok keys) : keys = buckets.map (bucketKey p) := by
  induction buckets generalizing seen keys with
  | nil => exact (Except.ok.inj named).symm
  | cons bucket rest ih =>
    simp only [bucketKeys] at named
    split at named
    · cases named
    split at named
    · cases named
    cases later : bucketKeys p rest (bucketKey p bucket :: seen) with
    | error =>
      rw [later] at named
      cases named
    | ok others =>
      rw [later] at named
      have shape : keys = bucketKey p bucket :: others := (Except.ok.inj named).symm
      rw [shape, ih _ _ later]
      rfl

theorem keys_for_ok {buckets} {keys} (named : keysFor p buckets = .ok keys) : buckets ≠ [] ∧ keys = clockKey p :: buckets.map (bucketKey p) := by
  unfold keysFor at named
  split at named
  · cases named
  rename_i some'
  cases found : bucketKeys p buckets [] with
  | error =>
    rw [found] at named
    cases named
  | ok others =>
    rw [found] at named
    have shape : keys = clockKey p :: others := (Except.ok.inj named).symm
    exact ⟨some', by rw [shape, bucket_keys_ok p buckets [] others found]⟩

end

section

theorem allow_at_ok (now : Int) (db keys intervals) (allow result : Int) (allowed : allowAt now db keys intervals allow = .ok result) :
    allow ≤ result ∧ ∀ key interval, (key, interval) ∈ keys.zip intervals → ∀ last, db key = some (.number last) → last + interval ≤ result := by
  induction keys generalizing intervals allow with
  | nil =>
    have same : allow = result := Except.ok.inj allowed
    exact ⟨same.le, by simp⟩
  | cons key _ ih =>
    cases intervals with
    | nil => cases allowed
    | cons _ intervals =>
      simp only [allowAt] at allowed
      split at allowed
      · cases allowed
      cases found : db key with
      | none =>
        rw [found] at allowed
        obtain ⟨least, each⟩ := ih intervals _ allowed
        refine ⟨(le_max_left allow now).trans least, ?_⟩
        intro other value member last held
        rcases mem_cons.mp member with same | later
        · obtain ⟨rfl, rfl⟩ := Prod.mk.inj same
          rw [found] at held
          cases held
        · exact each other value later last held
      | some raw =>
        cases raw with
        | text =>
          rw [found] at allowed
          cases allowed
        | number value =>
          rw [found] at allowed
          obtain ⟨least, each⟩ := ih intervals _ allowed
          refine ⟨(le_max_left allow _).trans least, ?_⟩
          intro other span member last held
          rcases mem_cons.mp member with same | later
          · obtain ⟨rfl, rfl⟩ := Prod.mk.inj same
            rw [found] at held
            obtain rfl : value = last := Raw.number.inj (some.inj held)
            exact (le_max_right allow _).trans least
          · exact each other span later last held

theorem allow_at_error (now : Int) (db keys intervals) (allow : Int)
    (reply) (refused : allowAt now db keys intervals allow = .error reply) : reply ≠ .values 1 0 := by
  induction keys generalizing intervals allow with
  | nil => cases refused
  | cons _ _ ih =>
    cases intervals with
    | nil =>
      cases refused
      simp
    | cons =>
      simp only [allowAt] at refused
      split at refused
      · cases refused
        simp
      split at refused
      · exact ih _ _ refused
      split at refused
      · cases refused
        simp
      · exact ih _ _ refused

variable {key : List Char}

theorem set_other (now ttlMillis : Int) (store) {writes}
    (untouched : key ∉ writes.map Prod.fst) : Store.set now ttlMillis store writes key = store key := by
  induction writes generalizing store with
  | nil => rfl
  | cons write _ ih =>
    obtain ⟨_, _⟩ := write
    rw [map_cons, mem_cons, not_or] at untouched
    rw [Store.set, ih _ untouched.2]
    exact update_of_ne untouched.1 _ _

theorem set_charged (now ttlMillis : Int) (store) {keys : List (List Char)} (charged : key ∈ keys) :
    Store.set now ttlMillis store (keys.map fun key => (key, now)) key = some ⟨now, now, ttlMillis⟩ := by
  induction keys generalizing store with
  | nil => cases charged
  | cons other keys ih =>
    rw [map_cons, Store.set]
    by_cases later : key ∈ keys
    · exact ih _ later
    · have here : key = other := (mem_cons.mp charged).resolve_right later
      rw [set_other _ _ _ (by simpa using later), here]
      exact update_self _ _ _

end

-- The watermark left, the keys left alone, and what a grant charges and waited for.
structure Passed (store : Store) (e : Evaluation) (next : Store) : Prop where
  fair : ∀ mark, e.db (clockKey e.pacer) = some (.number mark) → mark - 5000 ≤ e.reading
  marked : next (clockKey e.pacer) = some ⟨highWater e.reading ((e.db (clockKey e.pacer)).bind Raw.tonumber), e.reading, stateTTLMillis⟩
  others : ∀ key, key ≠ clockKey e.pacer → ¬ e.Grants key → next key = store key
  charged : ∀ key, e.Grants key → next key = some ⟨e.reading, e.reading, stateTTLMillis⟩
  spaced : e.Granted → ∀ key interval, (key, interval) ∈ e.keys.zip e.intervals → ∀ last, e.db key = some (.number last) →
    last + interval ≤ e.reading

variable {e : Evaluation}

theorem bucket_key_not_clock {key} (member : key ∈ e.keys) (p) : key ≠ clockKey p := by
  obtain ⟨bucket, _, rfl⟩ := List.mem_map.mp member
  exact (clock_not_bucket p e.pacer bucket).symm

variable {mark : Option Int}

theorem refused_passed (store : Store) (shown : (e.db (clockKey e.pacer)).bind Raw.tonumber = mark)
    (fair : ∀ mark, e.db (clockKey e.pacer) = some (.number mark) → mark - 5000 ≤ e.reading) (refused : ¬ e.Granted) :
    Passed store e (Store.set e.reading stateTTLMillis store [(clockKey e.pacer, highWater e.reading mark)]) where
  fair := fair
  marked := by
    rw [shown]
    exact update_self _ _ _
  others := fun key different _ => update_of_ne different _ _
  charged := fun _ grants => absurd grants.1 refused
  spaced := fun granted => absurd granted refused

theorem granted_passed (store : Store) (shown : (e.db (clockKey e.pacer)).bind Raw.tonumber = mark)
    (fair : ∀ mark, e.db (clockKey e.pacer) = some (.number mark) → mark - 5000 ≤ e.reading) (granted : e.Granted)
    (spaced : ∀ key interval, (key, interval) ∈ e.keys.zip e.intervals → ∀ last, e.db key = some (.number last) → last + interval ≤ e.reading) :
    Passed store e (Store.set e.reading stateTTLMillis store
      ((clockKey e.pacer, highWater e.reading mark) :: e.keys.map fun key => (key, e.reading))) where
  fair := fair
  marked := by
    have apart : clockKey e.pacer ∉ (e.keys.map fun key => (key, e.reading)).map Prod.fst := by
      intro member
      rw [List.map_map, List.mem_map] at member
      obtain ⟨key, charged, same⟩ := member
      exact bucket_key_not_clock charged e.pacer same
    rw [Store.set, set_other _ _ _ apart, shown]
    exact update_self _ _ _
  others := by
    intro key different spared
    have outside : key ∉ (e.keys.map fun key => (key, e.reading)).map Prod.fst := by
      intro member
      rw [List.map_map, List.mem_map] at member
      obtain ⟨other, charged, same⟩ := member
      obtain rfl : other = key := same
      exact spared ⟨granted, charged⟩
    rw [Store.set, set_other _ _ _ outside]
    exact update_of_ne different _ _
  charged := fun key grants => set_charged _ _ _ grants.2
  spaced := fun _ => spaced

theorem step_cases {store next} (step : Step store e next) : (next = store ∧ ¬ e.Granted) ∨ Passed store e next := by
  cases step with
  | evaluate _ _ named _ _ _ ran =>
    obtain ⟨_, rfl⟩ := keys_for_ok named
    change pacingScript _ _ (clockKey e.pacer :: e.keys) _ _ _ = _ at ran
    simp only [pacingScript] at ran
    split at ran
    · obtain ⟨reply, rfl⟩ := Prod.mk.inj ran
      exact .inl ⟨rfl, by simp [Evaluation.Granted, ← reply]⟩
    split at ran
    · obtain ⟨reply, rfl⟩ := Prod.mk.inj ran
      exact .inl ⟨rfl, by simp [Evaluation.Granted, ← reply]⟩
    split at ran
    · obtain ⟨reply, rfl⟩ := Prod.mk.inj ran
      exact .inl ⟨rfl, by simp [Evaluation.Granted, ← reply]⟩
    rename_i inTime
    have fair : ∀ mark, e.db (clockKey e.pacer) = some (.number mark) → mark - 5000 ≤ e.reading := by
      intro _ shown
      simp only [shown, bind_some, Raw.tonumber, any_some, decide_eq_true_eq] at inTime
      exact not_lt.mp inTime
    right
    cases allowed : allowAt e.reading (update e.db (clockKey e.pacer)
        (some (.number (highWater e.reading ((e.db (clockKey e.pacer)).bind Raw.tonumber))))) e.keys e.intervals
        e.reading with
    | error reply =>
      simp only [allowed] at ran
      obtain ⟨same, rfl⟩ := Prod.mk.inj ran
      apply refused_passed store rfl fair
      intro granted
      exact allow_at_error _ _ _ _ _ _ allowed (same.trans granted)
    | ok allow =>
      simp only [allowed] at ran
      obtain ⟨_, each⟩ := allow_at_ok _ _ _ _ _ _ allowed
      by_cases early : e.reading < allow
      · rw [if_pos early] at ran
        obtain ⟨same, rfl⟩ := Prod.mk.inj ran
        apply refused_passed store rfl fair
        simp [Evaluation.Granted, ← same]
      rw [if_neg early] at ran
      obtain ⟨same, rfl⟩ := Prod.mk.inj ran
      apply granted_passed store rfl fair same.symm
      intro key interval member last held
      have apart := bucket_key_not_clock (of_mem_zip member).1 e.pacer
      have bound := each key interval member last (by rw [update_of_ne apart, held])
      omega

section

variable {e : Evaluation} {key : List Char}

theorem grants_bucket (grants : e.Grants key) : ∃ p bucket, key = bucketKey p bucket := by
  obtain ⟨bucket, _, same⟩ := List.mem_map.mp grants.2
  exact ⟨e.pacer, bucket, same.symm⟩

variable {store next : Store} {p : Pacer} {bucket : Bucket}

theorem step_spares (step : Step store e next) (spared : ¬ e.Grants (bucketKey p bucket)) :
    next (bucketKey p bucket) = store (bucketKey p bucket) := by
  rcases step_cases step with ⟨rfl, _⟩ | passed
  · rfl
  · exact passed.others _ (clock_not_bucket e.pacer p bucket).symm spared

theorem run_spares {last} {labels} (run : Run Step store labels last)
    (spared : ∀ e ∈ labels, ¬ e.Grants (bucketKey p bucket)) : last (bucketKey p bucket) = store (bucketKey p bucket) := by
  induction run with
  | nil => rfl
  | cons _ _ _ e _ first _ ih =>
    rw [ih (fun other member => spared other (mem_cons_of_mem e member))]
    exact step_spares first (spared e mem_cons_self)

theorem step_charges (step : Step store e next) (grants : e.Grants key) : next key = some ⟨e.reading, e.reading, stateTTLMillis⟩ := by
  rcases step_cases step with ⟨_, refused⟩ | passed
  · exact absurd grants.1 refused
  · exact passed.charged key grants

theorem step_spaced (step : Step store e next) (grants : e.Grants key) {granted}
    (held : store key = some ⟨granted, granted, stateTTLMillis⟩) {interval}
    (supplied : (key, interval) ∈ e.keys.zip e.intervals) : interval ≤ e.reading - granted := by
  rcases step_cases step with ⟨_, refused⟩ | passed
  · exact absurd grants.1 refused
  cases step with
  | evaluate _ _ _ _ range sees =>
    rcases sees key with present | ⟨_, _, found, expired⟩
    · rw [held] at present
      have waited := passed.spaced grants.1 key interval supplied granted present
      omega
    rw [held] at found
    obtain rfl := some.inj found
    have longest := (range interval (of_mem_zip supplied).2).2
    simp only [stateTTLMillis] at expired
    omega

def Level (store : Store) : Prop :=
  ∀ p entry, store (clockKey p) = some entry → entry.value ≤ entry.writtenAt + 5000 ∧ entry.ttlMillis = stateTTLMillis

theorem step_level (store e next) (level : Level store) (step : Step store e next) : Level next := by
  rcases step_cases step with ⟨rfl, _⟩ | passed
  · exact level
  intro p entry found
  by_cases mine : clockKey p = clockKey e.pacer
  · rw [mine, passed.marked] at found
    obtain rfl := some.inj found
    refine ⟨?_, rfl⟩
    cases shown : e.db (clockKey e.pacer) with
    | none =>
      simp only [bind_none, highWater]
      omega
    | some raw =>
      cases raw with
      | text =>
        simp only [bind_some, Raw.tonumber, highWater]
        omega
      | number mark =>
        have fair := passed.fair mark shown
        simp only [bind_some, Raw.tonumber, highWater]
        omega
  · have spared : ¬ e.Grants (clockKey p) := fun grants => bucket_key_not_clock grants.2 p rfl
    rw [passed.others _ mine spared] at found
    exact level p entry found

theorem step_behind (level : Level store) (step : Step store e next) {entry}
    (found : store (clockKey e.pacer) = some entry) (behind : e.reading < entry.value - 5000) : ¬ e.Granted ∧ next = store := by
  rcases step_cases step with ⟨same, refused⟩ | passed
  · exact ⟨refused, same⟩
  obtain ⟨_, lifetime⟩ := level e.pacer entry found
  cases step with
  | evaluate _ _ _ _ _ sees =>
    exfalso
    rcases sees (clockKey e.pacer) with present | ⟨_, _, held, expired⟩
    · rw [found] at present
      have fair := passed.fair entry.value present
      omega
    rw [found] at held
    obtain rfl := some.inj held
    rw [lifetime, stateTTLMillis] at expired
    omega

theorem step_watermark (store next e) (step : Step store e next) (p entry) (found : store (clockKey p) = some entry)
    (present : e.pacer.application = p.application → e.db (clockKey p) ≠ none) :
    ∃ later, next (clockKey p) = some later ∧ entry.value ≤ later.value := by
  rcases step_cases step with ⟨rfl, _⟩ | passed
  · exact ⟨entry, found, le_rfl⟩
  by_cases mine : e.pacer.application = p.application
  · have key : clockKey e.pacer = clockKey p := (clock_same e.pacer p).mpr mine
    cases step with
    | evaluate _ _ _ _ _ sees =>
      rcases sees (clockKey p) with shown | ⟨gone, _⟩
      · refine ⟨_, key ▸ passed.marked, ?_⟩
        rw [found] at shown
        simp only [shown, map_some, bind_some, Raw.tonumber, highWater]
        exact le_max_right _ _
      · exact absurd gone (present mine)
  · have different : clockKey p ≠ clockKey e.pacer := fun same => mine ((clock_same p e.pacer).mp same).symm
    have spared : ¬ e.Grants (clockKey p) := fun grants => bucket_key_not_clock grants.2 p rfl
    exact ⟨entry, by rw [passed.others _ different spared, found], le_rfl⟩

theorem run_watermark (store last labels) (run : Run Step store labels last) (p entry) (found : store (clockKey p) = some entry)
    (present : ∀ e ∈ labels, e.pacer.application = p.application → e.db (clockKey p) ≠ none) :
    ∃ later, last (clockKey p) = some later ∧ entry.value ≤ later.value := by
  induction run generalizing entry with
  | nil => exact ⟨entry, found, le_rfl⟩
  | cons store middle _ e _ first _ ih =>
    obtain ⟨between, held, higher⟩ := step_watermark store middle e first p entry found (present e mem_cons_self)
    obtain ⟨final, reached, highest⟩ := ih between held (fun other member => present other (mem_cons_of_mem e member))
    exact ⟨final, reached, higher.trans highest⟩

end

theorem level_empty : Level empty := by
  intro _ _ found
  cases found

theorem paced_buckets_never_over_spent (labels : List Evaluation) (last : Store) (run : Run Step empty labels last) :
    (∀ before first between second after key interval, labels = before ++ first :: (between ++ second :: after) →
      first.Grants key → second.Grants key → (∀ e ∈ between, ¬ e.Grants key) →
      (key, interval) ∈ second.keys.zip second.intervals → interval ≤ second.reading - first.reading) ∧
    (∀ before e after store next, labels = before ++ e :: after → Run Step empty before store → Step store e next →
      (e.Granted ∧ ∀ key ∈ e.keys, next key = some ⟨e.reading, e.reading, stateTTLMillis⟩) ∨
      (¬ e.Granted ∧ ∀ p bucket, next (bucketKey p bucket) = store (bucketKey p bucket))) ∧
    (∀ before segment after store next p entry, labels = before ++ (segment ++ after) → Run Step empty before store →
      Run Step store segment next → store (clockKey p) = some entry →
      (∀ e ∈ segment, e.pacer.application = p.application → e.db (clockKey p) ≠ none) →
      ∃ later, next (clockKey p) = some later ∧ entry.value ≤ later.value) ∧
    (∀ before e after store next entry, labels = before ++ e :: after → Run Step empty before store → Step store e next →
      store (clockKey e.pacer) = some entry → e.reading < entry.value - 5000 → ¬ e.Granted ∧ next = store) := by
  refine ⟨?_, ?_, ?_, ?_⟩
  · intro before _ _ _ after key _ shape grants again spared supplied
    subst shape
    obtain ⟨_, _, _, firstStep, rest⟩ := Run.at_label _ _ _ _ _ run
    obtain ⟨_, _, middle, secondStep, _⟩ := Run.at_label _ _ _ _ _ rest
    obtain ⟨p, bucket, rfl⟩ := grants_bucket grants
    have held := run_spares middle spared
    rw [step_charges firstStep grants] at held
    exact step_spaced secondStep again held supplied
  · intro before e after store next _ _ step
    by_cases granted : e.Granted
    · exact .inl ⟨granted, fun key member => step_charges step ⟨granted, member⟩⟩
    · exact .inr ⟨granted, fun p bucket => step_spares step (fun grants => granted grants.1)⟩
  · intro before segment after store next p entry _ _ within found present
    exact run_watermark store next segment within p entry found present
  · intro before _ _ store _ _ _ earlier step found behind
    have level := Run.invariant Level step_level empty store before earlier level_empty
    exact step_behind level step found behind

theorem ledger_valid : isValidTenantID ['l', 'e', 'd', 'g', 'e', 'r'] = true := by decide

def ledgerPacer : Pacer := ⟨['l', 'e', 'd', 'g', 'e', 'r'], ledger_valid⟩

def ledgerBucket : Bucket := ⟨['t', 'e', 'n', 'a', 'n', 't'], ['0', '7'], true⟩

def firstCall : Evaluation := ⟨ledgerPacer, [ledgerBucket], [1000], 5000000, fun _ => none, .values 1 0⟩

def firstWrites : List (List Char × Int) := [(clockKey ledgerPacer, 5000000), (bucketKey ledgerPacer ledgerBucket, 5000000)]

def afterFirst : Store := Store.set 5000000 stateTTLMillis empty firstWrites

def secondCall : Evaluation :=
  ⟨ledgerPacer, [ledgerBucket], [1000], 5001000, fun key => (afterFirst key).map fun entry => .number entry.value, .values 1 0⟩

def secondWrites : List (List Char × Int) := [(clockKey ledgerPacer, 5001000), (bucketKey ledgerPacer ledgerBucket, 5001000)]

theorem calls_run : Run Step empty [firstCall, secondCall] (Store.set 5001000 stateTTLMillis afterFirst secondWrites) := by
  have first : Step empty firstCall afterFirst := by
    apply Step.evaluate empty firstCall [clockKey ledgerPacer, bucketKey ledgerPacer ledgerBucket] firstWrites
    · decide
    · rfl
    · decide
    · exact fun _ => .inl rfl
    · decide
  have second : Step afterFirst secondCall (Store.set 5001000 stateTTLMillis afterFirst secondWrites) := by
    apply Step.evaluate afterFirst secondCall [clockKey ledgerPacer, bucketKey ledgerPacer ledgerBucket] secondWrites
    · decide
    · rfl
    · decide
    · exact fun _ => .inl rfl
    · decide
  exact .cons _ _ _ _ _ first (.cons _ _ _ _ _ second (.nil _))

theorem calls_a_millisecond_apart : 1000 ≤ secondCall.reading - firstCall.reading := by
  have key : bucketKey ledgerPacer ledgerBucket ∈ firstCall.keys := mem_singleton_self _
  exact (paced_buckets_never_over_spent _ _ calls_run).1 [] firstCall [] secondCall [] (bucketKey ledgerPacer ledgerBucket) 1000
    rfl ⟨rfl, key⟩ ⟨rfl, key⟩ (by simp) (mem_singleton_self _)

end LibCommons.Pacing
