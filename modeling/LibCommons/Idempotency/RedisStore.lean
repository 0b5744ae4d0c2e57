import LibCommons.Idempotency.AtMostOnce

namespace LibCommons.Idempotency

open Lease

-- What the scripts see of a server: its clock in milliseconds and the values with their expiry.
structure RedisServer where
  now : Nat
  db : String → Option (Bytes × Nat)

namespace RedisServer

variable (server : RedisServer) (key : String)

def get : Option Bytes := ((server.db key).filter fun stored => server.now < stored.2).map Prod.fst

def store (stored : Option (Bytes × Nat)) : RedisServer := { server with db := Function.update server.db key stored }

def setPX (value : Bytes) (millis : Nat) : RedisServer := server.store key (some (value, server.now + millis))

def setPXNX (value : Bytes) (millis : Nat) : Option RedisServer :=
  if (server.get key).isSome then none else some (server.setPX key value millis)

def del : RedisServer := server.store key none

def pexpire (millis : Nat) : RedisServer :=
  match server.get key with
  | none => server
  | some value => server.setPX key value millis

end RedisServer

inductive RedisValue where
  | int (value : Int)
  | bulk (value : Bytes)
  | array (items : List RedisValue)

def redisAcquireScript (key : String) (candidate : Bytes) (millis : Nat) (server : RedisServer) : RedisValue × RedisServer :=
  match server.get key with
  | some current => (.array [.int 0, .bulk current], server)
  | none =>
    match server.setPXNX key candidate millis with
    | some created => (.array [.int 1, .bulk []], created)
    | none =>
      match server.get key with
      | some current => (.array [.int 0, .bulk current], server)
      | none => (.array [.int (-1), .bulk []], server)

-- The three scripts that write only while the key holds what they expect.
def redisCompareScript (key : String) (expected : Bytes) (write : RedisServer → RedisServer) (server : RedisServer) :
    RedisValue × RedisServer :=
  match server.get key with
  | none => (.int 0, server)
  | some current => if current ≠ expected then (.int 0, server) else (.int 1, write server)

def redisCompleteScript (key : String) (expected completed : Bytes) (millis : Nat) : RedisServer → RedisValue × RedisServer :=
  redisCompareScript key expected fun server => server.setPX key completed millis

def redisReleaseScript (key : String) (expected : Bytes) : RedisServer → RedisValue × RedisServer :=
  redisCompareScript key expected fun server => server.del key

def redisExtendScript (key : String) (expected : Bytes) (millis : Nat) : RedisServer → RedisValue × RedisServer :=
  redisCompareScript key expected fun server => server.pexpire key millis

def errInvalidStoreResult : StoreError := "idempotency store returned an invalid result"

def errInvalidTTL : StoreError := "idempotency TTL must be positive"

def parseRedisAcquireResult : RedisValue → Except StoreError (Bytes × Bool)
  | .array [.int 1, _] => .ok ([], true)
  | .array [.int 0, .bulk current] => .ok (current, false)
  | _ => .error errInvalidStoreResult

-- go-redis's Int64 on a reply.
def replyInt64 : RedisValue → Except StoreError Int
  | .int value => .ok value
  | _ => .error "redis: unexpected type"

def redisTTLMilliseconds (ttl : Duration) : Except StoreError Nat :=
  if ttl ≤ 0 then .error errInvalidTTL
  else if (ttl / millisecond).toNat = 0 then .ok 1
  else .ok (ttl / millisecond).toNat

-- What becomes of a call on its way.
inductive Link where
  | up
  | noClient (cause : StoreError)
  | failed (cause : StoreError) (ran : Bool)

variable (link : Link)

def runScript (operation : String) (script : RedisServer → RedisValue × RedisServer) (server : RedisServer) :
    Except StoreError RedisValue × RedisServer :=
  match link with
  | .up => (.ok (script server).1, (script server).2)
  | .noClient cause => (.error ("get redis client: " ++ cause), server)
  | .failed cause ran =>
    (.error (operation ++ " idempotency key: " ++ cause), if ran then (script server).2 else server)

def redisAcquire (key : String) (candidate : Bytes) (ttl : Duration) (server : RedisServer) :
    Except StoreError (Bytes × Bool) × RedisServer :=
  match redisTTLMilliseconds ttl with
  | .error e => (.error e, server)
  | .ok millis =>
    let answer := runScript link "acquire" (redisAcquireScript key candidate millis) server
    (answer.1.bind parseRedisAcquireResult, answer.2)

def applied (operation : String) (script : RedisServer → RedisValue × RedisServer) (server : RedisServer) :
    Except StoreError Bool × RedisServer :=
  let answer := runScript link operation script server
  ((answer.1.bind replyInt64).map fun count => count = 1, answer.2)

def redisComplete (key : String) (expected completed : Bytes) (ttl : Duration) (server : RedisServer) :
    Except StoreError Bool × RedisServer :=
  match redisTTLMilliseconds ttl with
  | .error e => (.error e, server)
  | .ok millis => applied link "complete" (redisCompleteScript key expected completed millis) server

def redisRelease (key : String) (expected : Bytes) : RedisServer → Except StoreError Bool × RedisServer :=
  applied link "release" (redisReleaseScript key expected)

def redisExtend (key : String) (expected : Bytes) (ttl : Duration) (server : RedisServer) : Except StoreError Bool × RedisServer :=
  match redisTTLMilliseconds ttl with
  | .error e => (.error e, server)
  | .ok millis => applied link "extend" (redisExtendScript key expected millis) server

def redisLifetime : Lifetime where
  ticks := fun ttl => if (ttl / millisecond).toNat = 0 then 1 else (ttl / millisecond).toNat
  positive := by
    intro _ _
    split_ifs with short
    · exact Nat.one_pos
    · exact Nat.pos_of_ne_zero short

theorem redis_ttl_positive (ttl) (positive : 0 < ttl) : redisTTLMilliseconds ttl = .ok (redisLifetime.ticks ttl) := by
  rw [redisTTLMilliseconds, if_neg (not_le.mpr positive)]
  simp only [redisLifetime]
  split_ifs <;> rfl

theorem redis_ttl_rejected {ttl} (rejected : ¬ 0 < ttl) : redisTTLMilliseconds ttl = .error errInvalidTTL := by
  rw [redisTTLMilliseconds, if_pos (not_lt.mp rejected)]

section

variable {I : Type}

-- A server stands for a store that holds the same values for as long.
structure Represents (server : RedisServer) (world : StoreWorld I) : Prop where
  clock : world.now = server.now
  stored : ∀ key, server.db key = (world.cells key).map fun entry => (entry.value, entry.deadline)

def fromServer (server : RedisServer) : StoreWorld I where
  now := server.now
  cells := fun key => (server.db key).map fun stored => ⟨stored.1, stored.2, none⟩

theorem from_server_represents (server) : Represents server (fromServer server : StoreWorld I) := by
  refine ⟨rfl, ?_⟩
  intro _
  simp [fromServer, Function.comp_def]

variable {server : RedisServer} {world : StoreWorld I} (related : Represents server world)

include related

theorem get_represents (key) : server.get key = (live world key).map Entry.value := by
  rw [RedisServer.get, related.stored, live, related.clock]
  cases world.cells key with
  | none => rfl
  | some entry => by_cases alive : server.now < entry.deadline <;> simp [Option.filter, alive]

theorem store_represents (key entry) :
    Represents (server.store key (entry.map fun entry => (entry.value, entry.deadline))) (put world key entry) := by
  refine ⟨related.clock, ?_⟩
  intro other
  by_cases same : other = key
  · subst same
    simp [RedisServer.store, put]
  · simp [RedisServer.store, put, Function.update_of_ne same, related.stored]

theorem set_represents (key value) (millis : Nat) (writer) :
    Represents (server.setPX key value millis) (put world key (some ⟨value, world.now + millis, writer⟩)) := by
  rw [RedisServer.setPX, ← related.clock]
  exact store_represents related key (some ⟨value, world.now + millis, writer⟩)

theorem del_represents (key) : Represents (server.del key) (put world key none) := store_represents related key none

theorem pexpire_represents (key) (millis : Nat) (entry) (found : live world key = some entry) : Represents (server.pexpire key millis)
      (put world key (some ⟨entry.value, world.now + millis, entry.writer⟩)) := by
  rw [RedisServer.pexpire, get_represents related, found]
  exact set_represents related key entry.value millis entry.writer

theorem compare_script (key expected write) : redisCompareScript key expected write server =
      match held world key expected with
      | some _ => (.int 1, write server)
      | none => (.int 0, server) := by
  rw [redisCompareScript, get_represents related, held]
  cases live world key with
  | none => rfl
  | some entry => by_cases same : entry.value = expected <;> simp [Option.filter, same]

theorem applied_swaps (faults link) (reliable : faults = false → link = .up) (operation key expected write after)
    (writes : ∀ entry, live world key = some entry → entry.value = expected → Represents (write server) (put world key (after entry))) :
    ∃ final, Swaps faults key expected after world (applied link operation (redisCompareScript key expected write) server).1 final ∧
      Represents (applied link operation (redisCompareScript key expected write) server).2 final := by
  have script := compare_script related key expected write
  have faulty : link ≠ .up → faults = true := by
    intro broken
    cases faults with
    | true => rfl
    | false => exact absurd (reliable rfl) broken
  unfold Swaps
  cases holds : held world key expected with
  | none =>
    rw [holds] at script
    refine ⟨world, ⟨rfl, ?_⟩, ?_⟩
    · cases link with
      | up => exact .inl (by simp [applied, runScript, script, replyInt64, Except.bind, Except.map])
      | noClient | failed => exact .inr ⟨faulty (by simp), _, rfl⟩
    · cases link <;> simpa [applied, runScript, script] using related
  | some entry =>
    rw [holds] at script
    obtain ⟨living, equal⟩ := held_some holds
    have wrote := writes entry living equal
    cases link with
    | up =>
      refine ⟨_, .inl ⟨?_, rfl⟩, ?_⟩
      · simp [applied, runScript, script, replyInt64, Except.bind, Except.map]
      · simpa [applied, runScript, script] using wrote
    | noClient => exact ⟨world, .inr ⟨faulty (by simp), _, rfl, .inl rfl⟩, related⟩
    | failed cause ran =>
      cases ran with
      | false => exact ⟨world, .inr ⟨faulty (by simp), _, rfl, .inl rfl⟩, related⟩
      | true =>
        refine ⟨_, .inr ⟨faulty (by simp), _, rfl, .inr rfl⟩, ?_⟩
        simpa [applied, runScript, script] using wrote

theorem acquire_script (key candidate) (millis : Nat) : redisAcquireScript key candidate millis server =
      match live world key with
      | some entry => (.array [.int 0, .bulk entry.value], server)
      | none => (.array [.int 1, .bulk []], server.setPX key candidate millis) := by
  rw [redisAcquireScript, RedisServer.setPXNX, get_represents related]
  cases live world key with
  | none => rfl
  | some => rfl

end

section

variable (H : Type) {I : Type} (faults : Bool)

-- The calls of a request on a Redis store; as in the contract an Acquire is answered.
def RedisExec : (op : Op) → RedisServer → Res H op → RedisServer → Prop
  | .acquire key candidate ttl, server, result, after => (result, after) = redisAcquire .up key candidate ttl server
  | .complete key expected completed ttl, server, result, after =>
    ∃ link, (faults = false → link = .up) ∧ (result, after) = redisComplete link key expected completed ttl server
  | .release key expected, server, result, after =>
    ∃ link, (faults = false → link = .up) ∧ (result, after) = redisRelease link key expected server
  | .start _, server, _, after => after = server
  | .await _, server, _, after => after = server

def RedisIdle : Op → RedisServer → RedisServer → Prop
  | .await (some beat), server, after =>
    ∃ link result, (result, after) = redisExtend link beat.key beat.processing beat.lease server
  | _, server, after => after = server

def redisSemantics : Process.Semantics I RedisServer Op (Res H) where
  exec := fun _ => RedisExec H faults
  idle := fun _ => RedisIdle
  drift := fun server after => after.db = server.db ∧ server.now ≤ after.now

theorem redis_acquires (i : I) (key candidate ttl server world) (related : Represents server world) :
    ∃ final, StoreExec H redisLifetime faults i (.acquire key candidate ttl) world (redisAcquire .up key candidate ttl server).1 final ∧
      Represents (redisAcquire .up key candidate ttl server).2 final := by
  by_cases positive : 0 < ttl
  · simp only [StoreExec, redisAcquire, if_pos positive, redis_ttl_positive ttl positive, runScript, acquire_script related, Acquires]
    cases live world key with
    | some => exact ⟨world, ⟨rfl, rfl⟩, related⟩
    | none => exact ⟨_, ⟨⟨[], rfl⟩, rfl⟩, set_represents related key candidate _ (some i)⟩
  · simp only [StoreExec, redisAcquire, if_neg positive, redis_ttl_rejected positive]
    exact ⟨world, ⟨⟨_, rfl⟩, rfl⟩, related⟩

theorem redis_completes (i : I) (link) (reliable : faults = false → link = .up) (key expected completed ttl server world)
    (related : Represents server world) :
    ∃ final, StoreExec H redisLifetime faults i (.complete key expected completed ttl) world
        (redisComplete link key expected completed ttl server).1 final ∧
      Represents (redisComplete link key expected completed ttl server).2 final := by
  by_cases positive : 0 < ttl
  · simp only [StoreExec, redisComplete, if_pos positive, redis_ttl_positive ttl positive]
    refine applied_swaps related faults link reliable "complete" key expected _ _ ?_
    intro entry _ _
    exact set_represents related key completed _ entry.writer
  · simp only [StoreExec, redisComplete, if_neg positive, redis_ttl_rejected positive]
    exact ⟨world, ⟨⟨_, rfl⟩, rfl⟩, related⟩

theorem redis_releases (link : Link) (reliable : faults = false → link = .up) (key : String) (expected : Bytes)
    (server : RedisServer) (world : StoreWorld I) (related : Represents server world) :
    ∃ final, Swaps faults key expected (fun _ => none) world (redisRelease link key expected server).1 final ∧
      Represents (redisRelease link key expected server).2 final := by
  refine applied_swaps related faults link reliable "release" key expected _ _ ?_
  intro _ _ _
  exact del_represents related key

theorem redis_extends (link : Link) (key : String) (expected : Bytes) (ttl : Duration) {server : RedisServer}
    {world : StoreWorld I} (related : Represents server world) :
    ∃ result final, Swaps (E := StoreError) true key expected (renewed redisLifetime world expected ttl) world result
        final ∧ Represents (redisExtend link key expected ttl server).2 final := by
  unfold redisExtend
  by_cases positive : 0 < ttl
  · rw [redis_ttl_positive ttl positive]
    obtain ⟨final, swapped, represented⟩ := applied_swaps related true link (by simp) "extend" key expected
      (fun server => server.pexpire key (redisLifetime.ticks ttl)) (renewed redisLifetime world expected ttl) (by
        intro entry found equal
        rw [← equal]
        exact pexpire_represents related key _ entry found)
    exact ⟨_, final, swapped, represented⟩
  · rw [redis_ttl_rejected positive]
    refine ⟨.error errInvalidTTL, world, ?_, related⟩
    unfold Swaps
    split
    · exact .inr ⟨rfl, _, rfl, .inl rfl⟩
    · exact ⟨rfl, .inr ⟨rfl, _, rfl⟩⟩

theorem redis_simulates : Process.Simulates (redisSemantics H faults : Process.Semantics I RedisServer Op (Res H))
    (storeSemantics H redisLifetime faults) Represents := by
  refine ⟨?_, ?_, ?_⟩
  · intro i op server result after done world related
    cases op with
    | acquire key candidate ttl =>
      obtain ⟨rfl, rfl⟩ := Prod.ext_iff.mp done
      exact redis_acquires H faults i key candidate ttl server world related
    | complete key expected completed ttl =>
      obtain ⟨link, reliable, done⟩ := done
      obtain ⟨rfl, rfl⟩ := Prod.ext_iff.mp done
      exact redis_completes H faults i link reliable key expected completed ttl server world related
    | release key expected =>
      obtain ⟨link, reliable, done⟩ := done
      obtain ⟨rfl, rfl⟩ := Prod.ext_iff.mp done
      exact redis_releases faults link reliable key expected server world related
    | start | await =>
      cases done
      exact ⟨world, rfl, related⟩
  · intro _ op _ after moved world related
    match op, moved with
    | .await (some beat), moved =>
      obtain ⟨link, result, done⟩ := moved
      obtain ⟨-, rfl⟩ := Prod.ext_iff.mp done
      obtain ⟨result, final, swapped, represented⟩ := redis_extends link beat.key beat.processing beat.lease related
      exact ⟨final, ⟨result, swapped⟩, represented⟩
    | .await none, moved | .acquire .., moved | .complete .., moved | .release .., moved | .start _, moved =>
      cases moved
      exact ⟨world, rfl, related⟩
  · rintro _ after ⟨same, later⟩ world related
    refine ⟨⟨after.now, world.cells⟩, ⟨rfl, ?_⟩, rfl, ?_⟩
    · rw [related.clock]
      exact later
    · intro key
      rw [same]
      exact related.stored key

end

variable {H I : Type} [ResponseHeader H] [DecidableEq I] (s : Scenario H I)

abbrev RedisPool (H I : Type) := Process.Pool I RedisServer Op (Res H) (Reply H)

def redisInitial (server : RedisServer) : RedisPool H I := ⟨server, (s.initial (fromServer server)).threads⟩

omit [ResponseHeader H] in
theorem redis_run_refines (lifetime : s.lifetime = redisLifetime) (first last : RedisPool H I)
    (labels : List (RequestEvent H I)) (run : Run (Process.Step (redisSemantics H s.faults)) first labels last)
    (world : StoreWorld I) (related : Represents first.world world) :
    ∃ final, Run (Process.Step s.semantics) ⟨world, first.threads⟩ labels ⟨final, last.threads⟩ ∧ Represents last.world final := by
  have simulates := redis_simulates (I := I) H s.faults
  rw [← lifetime] at simulates
  exact Process.simulates_run simulates first last labels run world related

def redisScenario : Scenario PlainHeader (Fin 3) := { Scenario.sampleScenario with lifetime := redisLifetime }

end LibCommons.Idempotency
