import Mathlib

namespace LibCommons.RateLimit

-- Counter keys hold a number and the Redis time, in milliseconds, from which the key is absent.
structure Counter where
  value : Int
  expiresAt : Option Nat
deriving DecidableEq, Repr

abbrev Key := Option Counter

def Key.live (now : Nat) (key : Key) : Key := key.filter fun counter => counter.expiresAt.all fun moment => now < moment

inductive RedisError where
  | overflow
deriving DecidableEq, Repr

def incr : Key → Except RedisError (Counter × Int)
  | none => .ok (⟨1, none⟩, 1)
  | some counter =>
    if counter.value = 2 ^ 63 - 1 then .error .overflow
    else .ok (⟨counter.value + 1, counter.expiresAt⟩, counter.value + 1)

def pexpire (now ms : Nat) (counter : Counter) : Counter := { counter with expiresAt := some (now + ms) }

def pttl (now : Nat) (counter : Counter) : Int :=
  match counter.expiresAt with
  | none => -1
  | some moment => moment - now

-- The script runs at one Redis time. INCR is its only call that can fail, and it fails first.
def luaIncrExpire (windowMs now : Nat) (key : Key) : Except RedisError (Counter × Int × Int) := do
  let (counter, count) ← incr (key.live now)
  if count = 1 then
    return (pexpire now windowMs counter, count, windowMs)
  let left := pttl now counter
  if left < 0 then
    return (pexpire now windowMs counter, count, windowMs)
  return (counter, count, left)

structure Tier where
  max : Nat
  window : Int
deriving DecidableEq, Repr

def milliseconds (window : Int) : Int := window.tdiv 1000000

inductive IncrementError where
  | errInvalidWindow
  | redis (cause : RedisError)
deriving DecidableEq, Repr

def increment (window : Int) (now : Nat) (key : Key) : Except IncrementError (Counter × Int × Int) :=
  if window ≤ 0 ∨ milliseconds window ≤ 0 then .error .errInvalidWindow
  else
    let windowMs := milliseconds window
    match luaIncrExpire windowMs.toNat now key with
    | .error cause => .error (.redis cause)
    | .ok (counter, count, ttlMs) => .ok (counter, count, (if ttlMs < 0 then windowMs else ttlMs) * 1000000)

-- How check goes on: to the handler with the remaining budget, to the 429, or to handleRedisError.
inductive Verdict where
  | next (remaining ttl : Int)
  | limitExceeded (ttl : Int)
  | redisError (cause : IncrementError)
deriving DecidableEq, Repr

def check (tier : Tier) (now : Nat) (key : Key) : Key × Verdict :=
  match increment tier.window now key with
  | .error cause => (key, .redisError cause)
  | .ok (counter, count, ttl) =>
    if count ≤ tier.max then (some counter, .next (Max.max (tier.max - count) 0) ttl)
    else (some counter, .limitExceeded ttl)

def Verdict.admitted : Verdict → Bool
  | next _ _ => true
  | _ => false

end LibCommons.RateLimit
