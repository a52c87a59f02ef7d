import Mathlib.Data.List.Induction
import IdentityMap.Backoff.Basic

/-!
# Schedules of delays

A schedule is asked for delays and reset in any order.  Where it stands then depends on two numbers
alone: the delays that were given since the last reset tell the base of the next one, and the
delays that were given at all tell where the source of the jitter stands.
-/

namespace IdentityMap

open Arithmetic

variable {α : Type} [Arithmetic α]

/-! ## Where a schedule stands -/

namespace Policy

def base (policy : Policy α) : Nat → α
  | 0 => ofInt policy.initialDelay
  | earlier + 1 => lesser (policy.base earlier * policy.multiplier) (ofInt policy.maxDelay)

/-- The source of the jitter after one more delay.  Without jitter nothing is drawn from it. -/
def spend (policy : Policy α) (source : Twister) : Twister :=
  if ofInt 0 < policy.jitter then source.draw.2.draw.2 else source

def sourceAfter (policy : Policy α) (seed : UInt32) : Nat → Twister
  | 0 => .ofSeed seed
  | given + 1 => policy.spend (policy.sourceAfter seed given)

/-- The schedule that has given so many delays, and so many of them since it started over. -/
def scheduleAt (policy : Policy α) (seed : UInt32) (given earlier : Nat) : Backoff α where
  policy := policy
  base := policy.base earlier
  attempts := UInt32.ofNat earlier
  source := policy.sourceAfter seed given

end Policy

namespace Backoff

variable (policy : Policy α) (seed : UInt32) (given earlier : Nat)

theorem ofPolicy_eq : ofPolicy policy seed = policy.scheduleAt seed 0 0 :=
  rfl

theorem next_eq (backoff : Backoff α) :
    backoff.next =
      (truncate (greater backoff.jittered.1 (ofInt 0)),
        { backoff with
          base := lesser (backoff.base * backoff.policy.multiplier) backoff.limit
          attempts := backoff.attempts + 1
          source := backoff.policy.spend backoff.source }) := by
  by_cases hjitter : ofInt 0 < backoff.policy.jitter <;>
    simp [next, jittered, drawJitter, Policy.spend, hjitter]

@[simp] theorem next_scheduleAt :
    (policy.scheduleAt seed given earlier).next.2 =
      policy.scheduleAt seed (given + 1) (earlier + 1) := by
  rw [next_eq]
  simp only [Policy.scheduleAt, Policy.sourceAfter, UInt32.ofNat_add]
  rfl

@[simp] theorem reset_scheduleAt :
    (policy.scheduleAt seed given earlier).reset = policy.scheduleAt seed given 0 :=
  rfl

/-! ## Histories -/

inductive Call where
  | next
  | reset
  deriving DecidableEq

def after (backoff : Backoff α) : Call → Backoff α
  | .next => backoff.next.2
  | .reset => backoff.reset

def run (backoff : Backoff α) (calls : List Call) : Backoff α :=
  calls.foldl after backoff

def delays (calls : List Call) : Nat :=
  calls.count .next

def sinceReset (calls : List Call) : Nat :=
  (calls.reverse.takeWhile (· = .next)).length

theorem run_append (backoff : Backoff α) (calls more : List Call) :
    (backoff.run calls).run more = backoff.run (calls ++ more) :=
  List.foldl_append.symm

theorem run_concat (backoff : Backoff α) (calls : List Call) (last : Call) :
    backoff.run (calls ++ [last]) = (backoff.run calls).after last :=
  List.foldl_append

theorem sinceReset_concat (calls : List Call) (last : Call) :
    sinceReset (calls ++ [last]) = if last = .next then sinceReset calls + 1 else 0 := by
  cases last <;> simp [sinceReset]

theorem sinceReset_append_next (calls : List Call) (more : Nat) :
    sinceReset (calls ++ List.replicate more .next) = sinceReset calls + more := by
  induction more with
  | zero => simp
  | succ more ih =>
      rw [List.replicate_succ', ← List.append_assoc, sinceReset_concat, if_pos rfl, ih]
      rfl

theorem run_ofPolicy (calls : List Call) :
    (ofPolicy policy seed).run calls =
      policy.scheduleAt seed (delays calls) (sinceReset calls) := by
  induction calls using List.reverseRecOn with
  | nil => exact ofPolicy_eq policy seed
  | append_singleton calls last ih =>
      rw [run_concat, ih, sinceReset_concat]
      cases last <;> simp [after, delays, List.count_append]

end Backoff

end IdentityMap
