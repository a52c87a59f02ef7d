import IdentityMap.Backoff.Arithmetic
import IdentityMap.Backoff.Twister

/-!
# Reconnect delays

Delays start at an initial value and grow by a factor up to a maximum, until they are reset. A
jitter adds or removes a random fraction of each delay; it does not reach later delays.
-/

namespace IdentityMap

/-- How delays grow. Times are in milliseconds; the jitter is the greatest fraction of a delay
that is added or removed. -/
structure Policy (α : Type) [Arithmetic α] where
  initialDelay : Int := 100
  maxDelay : Int := 30000
  multiplier : α := Arithmetic.ofInt 2
  jitter : α := Arithmetic.ofInt 0

/-- A schedule of delays: the base of the next one, the delays given since the last reset and
the source of the jitter. -/
structure Backoff (α : Type) [Arithmetic α] where
  policy : Policy α
  base : α
  attempts : UInt32
  source : Twister

namespace Backoff

open Arithmetic

variable {α : Type} [Arithmetic α]

def ofPolicy (policy : Policy α) (seed : UInt32) : Backoff α where
  policy := policy
  base := ofInt policy.initialDelay
  attempts := 0
  source := Twister.ofSeed seed

def limit (backoff : Backoff α) : α :=
  ofInt backoff.policy.maxDelay

def capped (backoff : Backoff α) : α :=
  lesser backoff.base backoff.limit

def drawJitter (backoff : Backoff α) : α × Twister :=
  let (low, source) := backoff.source.draw
  let (high, source) := source.draw
  let jitter := backoff.policy.jitter
  (fraction low high * (jitter - -jitter) + -jitter, source)

/-- The next delay before truncation, and the source afterwards. Nothing is drawn unless the
jitter is positive. -/
def jittered (backoff : Backoff α) : α × Twister :=
  if ofInt 0 < backoff.policy.jitter then
    let (r, source) := backoff.drawJitter
    (backoff.capped + backoff.capped * r, source)
  else (backoff.capped, backoff.source)

def next (backoff : Backoff α) : Int64 × Backoff α :=
  let (delay, source) := backoff.jittered
  (truncate (greater delay (ofInt 0)),
    { backoff with
      base := lesser (backoff.base * backoff.policy.multiplier) backoff.limit
      attempts := backoff.attempts + 1
      source := source })

/-- Starts over with the initial delay. The source of the jitter goes on. -/
def reset (backoff : Backoff α) : Backoff α :=
  { backoff with base := ofInt backoff.policy.initialDelay, attempts := 0 }

end Backoff

end IdentityMap
