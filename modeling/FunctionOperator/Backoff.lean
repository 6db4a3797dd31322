import FunctionOperator.Duration
import FunctionOperator.SortedMap

/-!
# Backoff

How long a failing key waits before it is tried again. The delay doubles with each failure until
it reaches a cap. `Backoff.delayFor` is the delay after a number of earlier failures, and a
`RateLimiter` keeps these numbers for each key.
-/

namespace FunctionOperator

/-- A delay that doubles with each failure. -/
structure Backoff where
  /-- The delay after the first failure. -/
  base : Duration
  /-- The cap of every delay. -/
  max : Duration
deriving DecidableEq

namespace Backoff

/-- Five milliseconds, up to a thousand seconds. -/
def standard : Backoff := ⟨.milliseconds 5, .milliseconds 1000000⟩

/-- The power of two, if it fits 32 bits. -/
def factor? (failures : Nat) : Option Nat :=
  if failures < 32 then some (Nat.pow 2 failures) else none

/-- The delay after a number of earlier failures. Where the doubled delay cannot be computed in
the width of its parts, the cap holds. -/
def delayFor (backoff : Backoff) (failures : Nat) : Duration :=
  match (factor? failures).bind backoff.base.times? with
  | some delay => delay.shorter backoff.max
  | none => backoff.max

end Backoff

/-- Counts the failures of keys. -/
structure RateLimiter where
  /-- How delays grow. -/
  backoff : Backoff
  /-- The failures of each key since it was last forgotten. -/
  failures : SortedMap Nat

namespace RateLimiter

/-- The greatest count. -/
def countLimit : Nat := 4_294_967_295

/-- A limiter that has seen no failure. -/
def new (backoff : Backoff) : RateLimiter := ⟨backoff, ∅⟩

/-- The number of failures of a key. -/
def requeues (limiter : RateLimiter) (key : String) : Nat :=
  (limiter.failures.get? key).getD 0

/-- Counts a failure of a key, and tells how long the key has to wait. -/
def record (limiter : RateLimiter) (key : String) : Duration × RateLimiter :=
  let count := limiter.requeues key
  (limiter.backoff.delayFor count,
    { limiter with failures := limiter.failures.insert key (min (count + 1) countLimit) })

/-- Forgets the failures of a key. -/
def forget (limiter : RateLimiter) (key : String) : RateLimiter :=
  { limiter with failures := limiter.failures.erase key }

end RateLimiter

end FunctionOperator
