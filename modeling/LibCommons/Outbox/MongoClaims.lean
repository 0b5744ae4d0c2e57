import LibCommons.Outbox.MongoOutline

namespace LibCommons.Outbox.Mongo

open Process List Function

section

variable {I : Type} {repo : Repository} {Stamp : Time → Prop} {calls : I → Call}

structure Own (Stamp : Time → Prop) (call : Call) (world : World I repo.tenantField) (i : I) (know : Knowledge) : Prop where
  call : know.call = call
  owned : ∀ doc ∈ know.held, ∃ move ∈ world.moves, move.caller = i ∧ move.after = doc
  distinct : know.held.Nodup
  carried : ∀ doc ∈ know.held, ∃ token ∈ world.tokens, doc.claimToken = some token
  unread : know.unread = true → ∀ doc ∈ know.held, doc.claimToken ≠ know.token
  token : ∀ token, know.token = some token → token ∈ world.tokens
  mine : ∀ token key doc, know.token = some token → world.docs.get? key = some doc →
    doc.claimToken = some token → ∃ move ∈ world.moves, move.caller = i ∧ move.after = doc
  tidy : ∀ doc ∈ know.read, Tidy doc
  evolved : ∀ doc ∈ know.read, ∃ current, world.docs.get? (scopeKey repo.tenantField doc) = some current ∧ Evolved Stamp doc current

-- A collection the repository has written, with the tokens issued for it.
structure Sound {tenantField : Bool} (docs : Collection tenantField) (tokens : List String) : Prop where
  tidy : ∀ key doc, docs.get? key = some doc → Tidy doc
  issued : ∀ key doc token, docs.get? key = some doc → doc.claimToken = some token → token ∈ tokens

structure Held (Stamp : Time → Prop) (calls : I → Call) (world : World I repo.tenantField) (know : I → Knowledge) : Prop where
  sound : Sound world.docs world.tokens
  own : ∀ i, Own Stamp (calls i) world i (know i)
  apart : ∀ i j token, (know i).token = some token → (know j).token = some token → i = j

variable {world after : World I repo.tenantField} {know : I → Knowledge} {tokens : List String} {current : Document}

theorem sound_replaces {tenantField : Bool} {docs written : Collection tenantField} {new : Document} (sound : Sound docs tokens)
    (replaces : Replaces docs written current new) (write : Write Stamp current new)
    (issued : ∀ token, new.claimToken = some token → token ∈ tokens) : Sound written tokens := by
  constructor
  · intro key doc found
    rcases replaces_cases replaces found with rfl | old
    · exact write.tidy (sound.tidy _ _ replaces.here)
    · exact sound.tidy key doc old
  intro key doc token found carries
  rcases replaces_cases replaces found with rfl | old
  · exact issued token carries
  · exact sound.issued key doc token old carries

variable {call : Call} {docs : Collection repo.tenantField} {i : I} {mine : Knowledge}

theorem own_replaces {written} {moves} (own : Own Stamp call world i mine)
    (replaces : Replaces world.docs docs current written) (write : Write Stamp current written) (logged : world.moves ⊆ moves)
    (moved : ∀ token, mine.token = some token → written.claimToken = some token →
      ∃ move ∈ moves, move.caller = i ∧ move.after = written) : Own Stamp call ⟨docs, world.tokens, moves⟩ i mine := by
  refine { own with owned := ?_, mine := ?_, evolved := ?_ }
  · intro doc member
    obtain ⟨move, known, made⟩ := own.owned doc member
    exact ⟨move, logged known, made⟩
  · intro token key doc has found carries
    rcases replaces_cases replaces found with rfl | old
    · exact moved token has carries
    · obtain ⟨move, known, made⟩ := own.mine token key doc has old carries
      exact ⟨move, logged known, made⟩
  · intro doc member
    obtain ⟨stored, found, evolved⟩ := own.evolved doc member
    by_cases same : scopeKey repo.tenantField doc = scopeKey repo.tenantField current
    · rw [same, replaces.here] at found
      cases found
      exact ⟨written, same ▸ replaces.there, evolved_trans evolved write.evolved⟩
    · exact ⟨stored, (replaces.others _ same).trans found, evolved⟩

variable {op : MongoOp}

theorem held_effect (held : Held Stamp calls world know) (may : mongoMay repo (know i) op)
    (effect : Effect Stamp i world op after) : Held Stamp calls after know := by
  cases effect with
  | none => exact held
  | issue token =>
    refine ⟨⟨held.sound.tidy, ?_⟩, ?_, held.apart⟩
    · intro key doc other found carries
      exact mem_cons_of_mem token (held.sound.issued key doc other found carries)
    intro j
    refine { held.own j with carried := ?_, token := ?_ }
    · intro doc member
      obtain ⟨other, known, carries⟩ := (held.own j).carried doc member
      exact ⟨other, mem_cons_of_mem token known, carries⟩
    · intro other has
      exact mem_cons_of_mem token ((held.own j).token other has)
  | claim _ _ token _ _ _ _ _ carries write replaces =>
    have holds : (know i).token = some token := may.2.2.1
    refine ⟨sound_replaces held.sound replaces write ?_, ?_, held.apart⟩
    · intro _ same
      rw [carries] at same
      cases same
      exact (held.own i).token token holds
    intro j
    refine own_replaces (held.own j) replaces write (subset_cons_self _ _) ?_
    intro _ has same
    rw [carries] at same
    cases same
    exact ⟨_, mem_cons_self, held.apart i j token holds has, rfl⟩
  | release _ _ _ written carries write replaces =>
    have none : ∀ token, written.claimToken ≠ some token := by simp [carries]
    refine ⟨sound_replaces held.sound replaces write ?_, ?_, held.apart⟩
    · intro token same
      exact absurd same (none token)
    intro j
    refine own_replaces (held.own j) replaces write (List.Subset.refl _) ?_
    intro token _ same
    exact absurd same (none token)

theorem own_read (own : Own Stamp call world i mine) (sound : Sound world.docs world.tokens) {docs}
    (found : ∀ doc ∈ docs, world.docs.get? (scopeKey repo.tenantField doc) = some doc) :
    Own Stamp call world i { mine with read := docs } :=
  { own with
    tidy := fun doc member => sound.tidy _ doc (found doc member)
    evolved := fun doc member => ⟨doc, found doc member, evolved_refl Stamp doc⟩ }

variable {token : String}

theorem own_read_back (own : Own Stamp call world i mine) (has : mine.token = some token) (unread : mine.unread = true) {docs} (nodup : docs.Nodup)
    (found : ∀ doc ∈ docs, world.docs.get? (scopeKey repo.tenantField doc) = some doc ∧ doc.claimToken = some token) :
    Own Stamp call world i { mine with held := mine.held ++ docs, unread := false } := by
  refine { own with owned := ?_, distinct := ?_, carried := ?_, unread := fun contra => by cases contra }
  · intro doc member
    rcases mem_append.mp member with old | new
    · exact own.owned doc old
    · exact own.mine token _ doc has (found doc new).1 (found doc new).2
  · refine nodup_append'.mpr ⟨own.distinct, nodup, ?_⟩
    intro doc old new
    exact own.unread unread doc old ((found doc new).2.trans has.symm)
  · intro doc member
    rcases mem_append.mp member with old | new
    · exact own.carried doc old
    · exact ⟨token, own.token token has, (found doc new).2⟩

theorem held_create {event} {tenantID} {now} (held : Held Stamp calls world know)
    (fresh : scopeKey repo.tenantField (createdDocument event tenantID now) ∉ world.docs.items.map (scopeKey repo.tenantField)) :
    Held Stamp calls { world with docs := world.docs.insert (createdDocument event tenantID now) fresh } know := by
  have split : ∀ key doc, (world.docs.insert (createdDocument event tenantID now) fresh).get? key = some doc →
      doc = createdDocument event tenantID now ∨ world.docs.get? key = some doc := by
    intro key doc found
    rw [Keyed.insert_get] at found
    split at found
    · exact .inl (Option.some.inj found).symm
    · exact .inr found
  have unclaimed : (createdDocument event tenantID now).claimToken = none := rfl
  refine ⟨⟨?_, ?_⟩, ?_, held.apart⟩
  · intro key doc found
    rcases split key doc found with rfl | old
    · exact ⟨fun _ => rfl, fun _ => show Go.trimSpace "" = "" by decide⟩
    · exact held.sound.tidy key doc old
  · intro key doc token found carries
    rcases split key doc found with rfl | old
    · rw [unclaimed] at carries
      cases carries
    · exact held.sound.issued key doc token old carries
  · intro i
    refine { held.own i with mine := ?_, evolved := ?_ }
    · intro token key doc has found carries
      rcases split key doc found with rfl | old
      · rw [unclaimed] at carries
        cases carries
      · exact (held.own i).mine token key doc has old carries
    · intro doc member
      obtain ⟨current, found, evolved⟩ := (held.own i).evolved doc member
      refine ⟨current, ?_, evolved⟩
      obtain ⟨present, key⟩ := (Keyed.get_some_iff _ _ _).mp found
      rw [Keyed.insert_get, if_neg, found]
      rw [← key]
      exact fun same => fresh (same ▸ List.mem_map_of_mem present)

variable [DecidableEq I]

theorem held_update {next} (held : Held Stamp calls world know) (own : Own Stamp (calls i) world i next)
    (token : next.token = (know i).token) : Held Stamp calls world (update know i next) := by
  have same : ∀ j, (update know i next j).token = (know j).token := by
    intro j
    by_cases here : j = i
    · subst here
      simpa using token
    · simp [here]
  refine ⟨held.sound, ?_, ?_⟩
  · intro j
    by_cases here : j = i
    · subst here
      simpa using own
    · simpa [here] using held.own j
  · intro j k other
    rw [same j, same k]
    exact held.apart j k other

theorem held_token (i : I) (held : Held Stamp calls world know) (fresh : token ∉ world.tokens) :
    Held Stamp calls { world with tokens := token :: world.tokens } (update know i { know i with token := some token, unread := true }) := by
  have other : ∀ j, (know j).token ≠ some token := fun j has => fresh ((held.own j).token token has)
  refine ⟨⟨held.sound.tidy, ?_⟩, ?_, ?_⟩
  · intro key doc old found carries
    exact mem_cons_of_mem token (held.sound.issued key doc old found carries)
  · intro j
    have carried : ∀ doc ∈ (know j).held, ∃ old ∈ token :: world.tokens, doc.claimToken = some old := by
      intro doc member
      obtain ⟨old, known, carries⟩ := (held.own j).carried doc member
      exact ⟨old, mem_cons_of_mem token known, carries⟩
    by_cases here : j = i
    · subst here
      simp only [update_self]
      refine { held.own j with carried := carried, unread := ?_, token := ?_, mine := ?_ }
      · intro _ doc member same
        obtain ⟨old, known, carries⟩ := (held.own j).carried doc member
        rw [carries] at same
        cases same
        exact fresh known
      · intro old same
        cases same
        exact mem_cons_self
      · intro old key doc same found carries
        cases same
        exact absurd (held.sound.issued key doc token found carries) fresh
    · simp only [update_of_ne here]
      exact { held.own j with
        carried := carried, token := fun old has => mem_cons_of_mem token ((held.own j).token old has) }
  · intro j k old hasFirst hasSecond
    by_cases first : j = i <;> by_cases second : k = i
    · rw [first, second]
    · subst first
      simp only [update_self, update_of_ne second] at hasFirst hasSecond
      cases hasFirst
      exact absurd hasSecond (other k)
    · subst second
      simp only [update_self, update_of_ne first] at hasFirst hasSecond
      cases hasSecond
      exact absurd hasFirst (other j)
    · simp only [update_of_ne first, update_of_ne second] at hasFirst hasSecond
      exact held.apart j k old hasFirst hasSecond

theorem held_act {result} (held : Held Stamp calls world know) (may : mongoMay repo (know i) op) (done : Exec Stamp i op world result after) :
    Held Stamp calls after (update know i (mongoLearn (know i) op result)) := by
  have computed : Computed op := by
    cases op with
    | updateFailed =>
      obtain ⟨-, _, _, _, _, update⟩ := may
      refine ⟨update.attempts, ?_⟩
      rw [update.error]
      exact append_trimmed _ (Go.trim_idempotent _)
    | _ => trivial
  have kept := held_effect held may (exec_effect computed done)
  cases op with
  | findClaimCandidates =>
    obtain ⟨rfl, rfl | rfl⟩ := done
    · exact held_update kept (kept.own i) rfl
    · refine held_update kept (own_read (kept.own i) kept.sound ?_) rfl
      intro doc member
      exact (mem_found _ _ _ _ doc (mem_of_mem_take member)).1
  | newToken =>
    obtain ⟨fresh, rfl⟩ := done
    exact held_token i held fresh
  | readBack =>
    obtain ⟨-, -, has, unread, -⟩ := may
    obtain ⟨rfl, rfl | rfl⟩ := done
    · refine held_update kept (own_read_back (kept.own i) has unread nodup_nil ?_) rfl
      simp
    refine held_update kept (own_read_back (kept.own i) has unread (found_unique _ _ _ _).of_map ?_) rfl
    intro doc member
    obtain ⟨found, matched⟩ := mem_found _ _ _ _ doc member
    simp only [Bool.and_eq_true, decide_eq_true_eq] at matched
    exact ⟨found, matched.1⟩
  | getByIDAndStatus =>
    obtain ⟨rfl, rfl | rfl⟩ := done
    · refine held_update kept (own_read (kept.own i) kept.sound ?_) rfl
      simp
    refine held_update kept (own_read (kept.own i) kept.sound ?_) rfl
    intro _ member
    have found := (Option.filter_eq_some_iff.mp (Option.mem_toList.mp member)).1
    rwa [((Keyed.get_some_iff _ _ _).mp found).2]
  | updateFailed | updatePublished | updateInvalid =>
    exact held_update kept { kept.own i with } rfl
  | bulkOrder | claimOne | rollbackOne => simpa [mongoLearn] using kept

theorem mongo_keeps : Keeps (mongoOutline repo) (semantics repo.tenantField Stamp) (@Held I repo Stamp calls) where
  sees := mongo_sees
  act world know i op result after held may done := held_act held may done
  wait world know i op after held may moved := moved.elim
  drift world know after held moved := by
    obtain ⟨_, _, _, fresh, rfl⟩ := moved
    exact held_create held fresh

omit [DecidableEq I] in
theorem held_start (sound : Sound docs tokens) : Held Stamp calls (start repo calls docs tokens).world fun i => .initial (calls i) where
  sound := sound
  own i := by constructor <;> simp [Knowledge.initial]
  apart i j token has := by cases has

variable {labels : List (Event I MongoOp MongoRes)} {last : Pool I (World I repo.tenantField) MongoOp MongoRes Reply}

theorem held_run (sound : Sound docs tokens) (run : Run (Step (semantics repo.tenantField Stamp)) (start repo calls docs tokens) labels last) :
    ∃ know, Tracks (mongoOutline repo) know last ∧ Held Stamp calls last.world know :=
  keeps_run mongo_keeps (fun i => follows_program repo (calls i)) (held_start sound) run

def Later (calls : I → Call) (now : Time) : Prop := ∀ i cutoff, (calls i).cutoff = some cutoff → cutoff < now

omit [DecidableEq I] in
theorem guard_unchanged {query} {candidate} (asks : (calls i).query = some query)
    (filtered : query.filter candidate = true) (readTidy : Tidy candidate) (tidy : Tidy current)
    (evolved : Evolved (Later calls) candidate current) (guard : claimGuard query candidate current = true) :
    current = candidate := by
  simp only [claimGuard, Bool.and_eq_true, decide_eq_true_eq] at guard
  obtain ⟨⟨status, attempts⟩, updatedAt⟩ := guard
  rcases evolved.stamped with same | stamp
  · exact same
  -- A candidate under a cutoff is older than any write.
  have recent : ∀ cutoff, (calls i).cutoff = some cutoff → candidate.updatedAt ≤ cutoff → current = candidate := by
    intro cutoff limited old
    have newer := stamp i cutoff limited
    rw [updatedAt] at newer
    exact absurd old (not_le.mpr newer)
  cases query with
  | pending =>
    have live : ¬ Final current.status := by simp [status, Final, ClaimQuery.fromStatus]
    obtain ⟨_, _⟩ := (evolved.kept attempts).resolve_left live
    have waits : candidate.status = .pending := by
      simp only [ClaimQuery.filter, Bool.and_eq_true, decide_eq_true_eq] at filtered
      exact filtered.1
    have token := readTidy.unclaimed (.inl waits)
    have free := tidy.unclaimed (.inl status)
    have fixed := evolved.fixed
    simp only [Document.fixed, Prod.mk.injEq] at fixed
    obtain ⟨_, _, _, _, _, _⟩ := fixed
    cases current
    cases candidate
    simp_all [ClaimQuery.fromStatus]
  | failed failedBefore =>
    simp only [ClaimQuery.filter, Bool.and_eq_true, decide_eq_true_eq] at filtered
    refine recent failedBefore ?_ filtered.2
    cases call : calls i <;> simp_all [Call.query, Call.cutoff]
  | stuck processingBefore =>
    simp only [ClaimQuery.filter, Bool.and_eq_true, decide_eq_true_eq] at filtered
    refine recent processingBefore ?_ filtered.2
    cases call : calls i <;> simp_all [Call.query, Call.cutoff]

omit [DecidableEq I] in
theorem held_moves (own : Own Stamp call world i mine) :
    ∃ moves : List (Move I), moves.Nodup ∧ (∀ move ∈ moves, move ∈ world.moves ∧ move.caller = i) ∧
      moves.map (fun move => move.after) = mine.held := by
  choose made known using own.owned
  have after : (mine.held.pmap made fun _ member => member).map (fun move => move.after) = mine.held := by
    rw [List.map_pmap]
    conv_rhs => rw [← List.map_id mine.held, ← List.pmap_eq_map (fun _ member => member)]
    exact pmap_congr_left _ fun doc member _ _ => (known doc member).2.2
  refine ⟨_, ?_, ?_, after⟩
  · exact List.Nodup.of_map _ (after ▸ own.distinct)
  · intro _ member
    obtain ⟨doc, present, rfl⟩ := mem_pmap.mp member
    exact ⟨(known doc present).1, (known doc present).2.1⟩

omit [DecidableEq I] in
theorem returned_moves {prog} (own : Own Stamp call world i mine) (follows : Follows (mongoOutline repo) mine prog) :
    ∃ moves : List (Move I), (moves.Nodup ∧ ∀ move ∈ moves, move ∈ world.moves ∧ move.caller = i) ∧
      ∀ reply, prog = .ret reply → reply.returned.Perm (moves.map fun move => toOutboxEvent move.after) ∧
        reply.returned.length ≤ call.limit.toNat := by
  by_cases returns : ∃ reply : Reply, prog = .ret reply ∧ reply.returned ≠ []
  · obtain ⟨reply, rfl, nonempty⟩ := returns
    obtain ⟨moves, distinct, made, after⟩ := held_moves own
    obtain ⟨same, short⟩ := follows.2.2.resolve_left nonempty
    refine ⟨moves, ⟨distinct, made⟩, ?_⟩
    intro _ equal
    cases equal
    constructor
    · rw [← after, List.map_map] at same
      exact same
    · rw [same.length_eq, length_map, ← own.call]
      exact short
  · refine ⟨[], ⟨nodup_nil, by simp⟩, ?_⟩
    intro reply same
    have empty : reply.returned = [] := by
      by_contra nonempty
      exact returns ⟨reply, same, nonempty⟩
    simp [empty]

theorem claims_are_exclusive (repo : Repository) (calls : I → Call) (docs : Collection repo.tenantField) (tokens : List String)
    (sound : Sound docs tokens) (labels : List (Event I MongoOp MongoRes))
    (last : Pool I (World I repo.tenantField) MongoOp MongoRes Reply)
    (run : Run (Step (semantics repo.tenantField (Later calls))) (start repo calls docs tokens) labels last) :
    (∃ own : I → List (Move I),
      (∀ i, (own i).Nodup ∧ ∀ move ∈ own i, move ∈ last.world.moves ∧ move.caller = i) ∧
      (∀ i j, i ≠ j → (own i).Disjoint (own j)) ∧
      ∀ i reply, last.threads i = .ret reply →
        reply.returned.Perm ((own i).map fun move => toOutboxEvent move.after) ∧
          reply.returned.length ≤ (calls i).limit.toNat) ∧
    (∀ i query candidate token result next,
      Step (semantics repo.tenantField (Later calls)) last (.act i (.claimOne query candidate token) result) next →
      last.world.docs.get? (scopeKey repo.tenantField candidate) ≠ some candidate →
      next.world.docs = last.world.docs) ∧
    (∀ i query candidate token result next,
      Step (semantics repo.tenantField (Later calls)) last (.act i (.rollbackOne query candidate token) result) next →
      ∀ key doc, last.world.docs.get? key = some doc → next.world.docs.get? key ≠ some doc →
        doc.claimToken = some token ∧ ∃ move ∈ last.world.moves, move.caller = i ∧ move.after = doc) := by
  obtain ⟨_, tracks, held⟩ := held_run sound run
  refine ⟨?_, ?_, ?_⟩
  · have each := fun i => returned_moves (held.own i) (tracks i)
    choose own made returned using each
    refine ⟨own, made, ?_, returned⟩
    intro i j different move first second
    exact different (((made i).2 move first).2.symm.trans ((made j).2 move second).2)
  · intro i _ candidate token _ _ step changed
    obtain ⟨_, stands, -, -, _, _, updates⟩ := act_thread step
    obtain ⟨-, asks, -, known, filtered⟩ := tracks_may tracks stands
    obtain same | ⟨current, key, guard, -, replaces⟩ := updates_replaces updates
    · rw [same]
    obtain ⟨_, found, evolved⟩ := (held.own i).evolved candidate known
    rw [← key, replaces.here] at found changed
    cases found
    have same := guard_unchanged ((held.own i).call ▸ asks) filtered
      ((held.own i).tidy candidate known) (held.sound.tidy _ _ replaces.here) evolved guard
    exact absurd (congrArg some same) changed
  · intro i _ _ token _ _ step key _ found changed
    obtain ⟨_, stands, -, -, _, _, updates⟩ := act_thread step
    obtain ⟨-, -, has⟩ := tracks_may tracks stands
    obtain same | ⟨current, -, guard, -, replaces⟩ := updates_replaces updates
    · rw [same] at changed
      exact absurd found changed
    by_cases here : key = scopeKey repo.tenantField current
    · rw [here, replaces.here] at found
      cases found
      simp only [rollbackGuard, Bool.and_eq_true, decide_eq_true_eq] at guard
      exact ⟨guard.2, (held.own i).mine token _ _ has replaces.here guard.2⟩
    · exact absurd ((replaces.others key here).trans found) changed

end

def sampleRepository : Repository := ⟨false, fun message => message⟩

def sampleDocument : Document :=
  { id := 1, tenantID := "", eventType := "created", aggregateID := 2, payload := [], status := .pending, attempts := 0
    publishedAt := none, lastError := "", createdAt := 1, updatedAt := 1, claimToken := none }

def sampleCollection (doc : Document) : Collection false := ⟨[doc], by simp⟩

theorem sample_sound {doc} (tidy : Tidy doc) (free : doc.claimToken = none) : Sound (sampleCollection doc) [] := by
  have only : ∀ key stored, (sampleCollection doc).get? key = some stored → stored = doc := by
    intro key stored found
    simpa [sampleCollection] using ((Keyed.get_some_iff _ _ _).mp found).1
  constructor
  · intro key stored found
    rw [only key stored found]
    exact tidy
  · intro key stored _ found carries
    rw [only key stored found, free] at carries
    cases carries

def sampleClaimed : Document := { sampleDocument with status := .processing, updatedAt := 5, claimToken := some "a" }

theorem sample_act (Stamp : Time → Prop) (pool : Pool Bool (World Bool false) MongoOp MongoRes Reply)
    (goal : Pool Bool (World Bool false) MongoOp MongoRes Reply → Prop) (i : Bool) (op : MongoOp)
    (result : MongoRes op) (world : World Bool false) (onward : MongoRes op → MongoProg)
    (stands : pool.threads i = .call op onward) (done : Exec Stamp i op pool.world result world)
    (later : Run.Leads (Step (semantics false Stamp)) ⟨world, update pool.threads i (onward result)⟩ goal) :
    Run.Leads (Step (semantics false Stamp)) pool goal :=
  leads_act stands done later

theorem sample_claim : Run.Leads (Step (semantics false (Later fun _ : Bool => Call.claimPending "" "" 1)))
    (start sampleRepository (fun _ : Bool => Call.claimPending "" "" 1) (sampleCollection sampleDocument) []) fun last =>
      last.threads false = .ret (.events [toOutboxEvent sampleClaimed]) := by
  have stamp : Later (fun _ : Bool => Call.claimPending "" "" 1) 5 := by simp [Later, Call.cutoff]
  refine sample_act _ _ _ false (.findClaimCandidates (.pending "") "" 1) (some [sampleDocument]) _ _ rfl ⟨rfl, .inr (by decide)⟩ ?_
  refine sample_act _ _ _ true (.findClaimCandidates (.pending "") "" 1) (some [sampleDocument]) _ _ rfl ⟨rfl, .inr (by decide)⟩ ?_
  refine sample_act _ _ _ false .newToken "a" _ _ rfl ⟨by simp [start], rfl⟩ ?_
  refine sample_act _ _ _ false (.bulkOrder [sampleDocument]) [sampleDocument] _ _ rfl ⟨List.Perm.refl _, rfl⟩ ?_
  refine sample_act _ _ _ false (.claimOne (.pending "") sampleDocument "a") .modified
    ⟨sampleCollection sampleClaimed, ["a"], [⟨false, "a", sampleDocument, sampleClaimed⟩]⟩ _ rfl
    ⟨5, stamp, .inl ⟨sampleDocument, by decide, by decide, by decide, rfl⟩⟩ ?_
  refine sample_act _ _ _ false (.readBack (.pending "") "a" [1] "") (some [sampleClaimed]) _ _ rfl ⟨rfl, .inr (by decide)⟩ ?_
  exact Run.leads_here _ _ rfl

theorem sample_claim_exclusive : Run.Leads (Step (semantics false (Later fun _ : Bool => Call.claimPending "" "" 1)))
    (start sampleRepository (fun _ : Bool => Call.claimPending "" "" 1) (sampleCollection sampleDocument) []) fun last =>
      last.threads false = .ret (.events [toOutboxEvent sampleClaimed]) ∧
        ∃ own : List (Move Bool), own.Nodup ∧ (∀ move ∈ own, move ∈ last.world.moves ∧ move.caller = false) ∧
          [toOutboxEvent sampleClaimed].Perm (own.map fun move => toOutboxEvent move.after) := by
  obtain ⟨labels, last, run, returned⟩ := sample_claim
  obtain ⟨⟨own, made, -, each⟩, -⟩ := claims_are_exclusive sampleRepository (fun _ => .claimPending "" "" 1)
    (sampleCollection sampleDocument) [] (sample_sound ⟨fun _ => rfl, fun _ => by decide⟩ rfl) labels last run
  exact ⟨labels, last, run, returned, own false, (made false).1, (made false).2, (each false _ returned).1⟩

end LibCommons.Outbox.Mongo
