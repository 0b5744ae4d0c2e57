import LibCommons.Lib.Lease
import LibCommons.Lib.Process
import LibCommons.Idempotency.Middleware

namespace LibCommons.Idempotency

open Lease

open Process (Semantics)

abbrev StoreError := String

structure Beat where
  key : String
  processing : Bytes
  lease : Duration

structure Outcome (H : Type) where
  err : Option HandlerError
  response : Response H
  seed : Nat

-- Invoking the handler chain and its return are two steps: other requests move in between.
inductive Op where
  | acquire (key : String) (candidate : Bytes) (ttl : Duration)
  | complete (key : String) (expected completed : Bytes) (ttl : Duration)
  | release (key : String) (expected : Bytes)
  | start (beat : Option Beat)
  | await (beat : Option Beat)

-- A handler that panics returns no outcome.
@[reducible] def Res (H : Type) : Op → Type
  | .acquire _ _ _ => Except StoreError (Bytes × Bool)
  | .complete _ _ _ _ => Except StoreError Bool
  | .release _ _ => Except StoreError Bool
  | .start _ => Unit
  | .await _ => Option (Outcome H)

-- How long a store keeps a value it was given a positive TTL for.
structure Lifetime where
  ticks : Duration → Nat
  positive : ∀ ttl, 0 < ttl → 0 < ticks ttl

abbrev StoreWorld (I : Type) := World String I Bytes

variable {I : Type} (H : Type) (lifetime : Lifetime) (faults : Bool)

def renewed (world : StoreWorld I) (value : Bytes) (ttl : Duration) (entry : Entry I Bytes) : Option (Entry I Bytes) :=
  some { entry with value := value, deadline := world.now + lifetime.ticks ttl }

-- The Store contract; under faults Complete and Release may report errors.
def StoreExec (i : I) : (op : Op) → StoreWorld I → Res H op → StoreWorld I → Prop
  | .acquire key candidate ttl, world, result, after =>
    if 0 < ttl then Acquires i key candidate (lifetime.ticks ttl) world result after
    else (∃ e, result = .error e) ∧ after = world
  | .complete key expected completed ttl, world, result, after =>
    if 0 < ttl then Swaps faults key expected (renewed lifetime world completed ttl) world result after
    else (∃ e, result = .error e) ∧ after = world
  | .release key expected, world, result, after => Swaps faults key expected (fun _ => none) world result after
  | .start _, world, _, after => after = world
  | .await _, world, _, after => after = world

-- While its handler runs, a request's heartbeat may extend the lease.
def StoreIdle : Op → StoreWorld I → StoreWorld I → Prop
  | .await (some beat), world, after =>
    ∃ result, Swaps (E := StoreError) true beat.key beat.processing (renewed lifetime world beat.processing beat.lease) world result after
  | _, world, after => after = world

def storeSemantics : Semantics I (StoreWorld I) Op (Res H) where
  exec := StoreExec H lifetime faults
  idle := fun _ => StoreIdle lifetime
  drift := fun world after => after.cells = world.cells ∧ world.now ≤ after.now

end LibCommons.Idempotency
