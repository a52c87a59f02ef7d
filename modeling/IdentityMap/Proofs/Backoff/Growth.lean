import Mathlib.Algebra.Order.Floor.Ring
import Mathlib.Data.Rat.Floor
import Mathlib.Tactic.Linarith
import IdentityMap.Proofs.Backoff.Schedule

/-!
# How delays grow

In exact arithmetic the bases of a schedule are powers of the multiplier, cut off at the maximum:
it makes no difference that each base is made from the one before it and is cut off twice.  A delay
is its base and a share of it that is drawn at random.  The share reaches no later base, and it is
never so large that a delay were negative or too long for its type.
-/

namespace IdentityMap

open Arithmetic

/-! ## Exact arithmetic -/

section Exact

variable {x y : Rat}

theorem lesser_eq_min : lesser x y = min x y := by
  rw [lesser, min_def]
  by_cases h : x ≤ y
  · rw [if_pos h]
    exact if_neg (not_lt.2 h)
  · rw [if_neg h]
    exact if_pos (not_le.1 h)

theorem greater_of_nonneg (h : 0 ≤ x) : greater x (ofInt 0) = x :=
  if_neg (not_lt.2 h)

theorem fraction_eq (low high : UInt32) :
    (fraction low high : Rat) = (low.toNat + 4294967296 * high.toNat) / 18446744073709551616 := by
  change ratFraction low high = _
  rw [ratFraction, Rat.mkRat_eq_div]
  push_cast
  rfl

theorem fraction_nonneg (low high : UInt32) : 0 ≤ (fraction low high : Rat) := by
  rw [fraction_eq]
  positivity

theorem fraction_lt_one (low high : UInt32) : (fraction low high : Rat) < 1 := by
  have hwords : low.toNat + 4294967296 * high.toNat < 18446744073709551616 := by
    have hlow := low.toNat_lt
    have hhigh := high.toNat_lt
    omega
  rw [fraction_eq, div_lt_one (by norm_num)]
  exact_mod_cast hwords

theorem toInt_truncate (hnonneg : 0 ≤ x) (hfits : x < 2 ^ 63) : (truncate x).toInt = ⌊x⌋ := by
  have hwhole : x.num.tdiv x.den = ⌊x⌋ := by
    rw [Int.tdiv_eq_ediv_of_nonneg (Rat.num_nonneg.2 hnonneg), Rat.floor_def']
  have hlow : 0 ≤ ⌊x⌋ := Int.floor_nonneg.2 hnonneg
  have hhigh : ⌊x⌋ < 2 ^ 63 := Int.floor_lt.2 (by exact_mod_cast hfits)
  change (ratTruncate x).toInt = ⌊x⌋
  rw [ratTruncate, hwhole, if_pos (by omega)]
  exact Int64.toInt_ofInt_of_le (by omega) (by omega)

end Exact

/-! ## Bases -/

namespace Policy

structure Admissible (policy : Policy Rat) : Prop where
  one_le_initialDelay : 1 ≤ policy.initialDelay
  initialDelay_le_maxDelay : policy.initialDelay ≤ policy.maxDelay
  maxDelay_le : policy.maxDelay ≤ 2 ^ 32 - 1
  one_le_multiplier : 1 ≤ policy.multiplier
  jitter_nonneg : 0 ≤ policy.jitter
  jitter_le_one : policy.jitter ≤ 1

/-- The power of the multiplier that a delay is based on, by the number of delays since the
schedule started over. -/
def plain (policy : Policy Rat) (earlier : Nat) : Rat :=
  min (policy.initialDelay * policy.multiplier ^ earlier) policy.maxDelay

variable {policy : Policy Rat}

theorem base_of_jitter (policy : Policy Rat) (jitter : Rat) (earlier : Nat) :
    ({ policy with jitter := jitter } : Policy Rat).base earlier = policy.base earlier := by
  induction earlier with
  | zero => rfl
  | succ earlier ih => simp only [base, ih]

theorem plain_le_maxDelay (earlier : Nat) : policy.plain earlier ≤ policy.maxDelay :=
  min_le_right _ _

namespace Admissible

variable (admissible : policy.Admissible)

include admissible

theorem maxDelay_nonneg : (0 : Rat) ≤ policy.maxDelay := by
  have hmax : 0 ≤ policy.maxDelay := by
    have := admissible.one_le_initialDelay
    have := admissible.initialDelay_le_maxDelay
    omega
  exact_mod_cast hmax

theorem initialDelay_nonneg : (0 : Rat) ≤ policy.initialDelay := by
  have hinitial : 0 ≤ policy.initialDelay := by
    have := admissible.one_le_initialDelay
    omega
  exact_mod_cast hinitial

theorem plain_nonneg (earlier : Nat) : 0 ≤ policy.plain earlier := by
  have hpower : 0 ≤ policy.multiplier ^ earlier :=
    pow_nonneg (zero_le_one.trans admissible.one_le_multiplier) earlier
  exact le_min (mul_nonneg admissible.initialDelay_nonneg hpower) admissible.maxDelay_nonneg

theorem plain_mono : Monotone policy.plain := by
  refine monotone_nat_of_le_succ fun earlier => min_le_min_right _ ?_
  have hpower : policy.multiplier ^ earlier ≤ policy.multiplier ^ (earlier + 1) :=
    pow_le_pow_right₀ admissible.one_le_multiplier (Nat.le_succ earlier)
  exact mul_le_mul_of_nonneg_left hpower admissible.initialDelay_nonneg

/-- The maximum is not passed once it is reached, so cutting a base off is as good as cutting
off the power it stands for. -/
theorem base_eq_plain (earlier : Nat) : policy.base earlier = policy.plain earlier := by
  induction earlier with
  | zero =>
      have hle : (policy.initialDelay : Rat) ≤ policy.maxDelay := by
        exact_mod_cast admissible.initialDelay_le_maxDelay
      rw [plain, pow_zero, mul_one, min_eq_left hle]
      rfl
  | succ earlier ih =>
      have hmultiplier : 0 ≤ policy.multiplier := zero_le_one.trans admissible.one_le_multiplier
      have hmax : (policy.maxDelay : Rat) ≤ policy.maxDelay * policy.multiplier :=
        le_mul_of_one_le_right admissible.maxDelay_nonneg admissible.one_le_multiplier
      calc policy.base (earlier + 1)
          = min (policy.plain earlier * policy.multiplier) policy.maxDelay := by
            rw [base, lesser_eq_min, ih]
            rfl
        _ = min (policy.initialDelay * policy.multiplier ^ (earlier + 1))
              (min (policy.maxDelay * policy.multiplier) policy.maxDelay) := by
            rw [plain, min_mul_of_nonneg _ _ hmultiplier, min_assoc, mul_assoc, ← pow_succ]
        _ = policy.plain (earlier + 1) := by
            rw [min_eq_right hmax, plain]

/-- A share of at most the jitter takes a base no further than the jitter allows, and no further
than to twice the base. -/
theorem share_bounds {base share : Rat} (hbase : 0 ≤ base) (hlow : -policy.jitter ≤ share)
    (hhigh : share ≤ policy.jitter) :
    0 ≤ base * (1 + share) ∧ base * (1 - policy.jitter) ≤ base * (1 + share) ∧
      base * (1 + share) ≤ base * (1 + policy.jitter) ∧ base * (1 + share) ≤ base * 2 := by
  have hjitter := admissible.jitter_le_one
  refine ⟨mul_nonneg hbase (by linarith), ?_, ?_, ?_⟩
  all_goals exact mul_le_mul_of_nonneg_left (by linarith) hbase

end Admissible

end Policy

/-! ## Shares -/

namespace Backoff

/-- The share of its base that the next delay is longer by, or shorter by if it is negative. -/
def share (backoff : Backoff Rat) : Rat :=
  if 0 < backoff.policy.jitter then backoff.drawJitter.1 else 0

variable {backoff : Backoff Rat}

theorem jittered_eq : backoff.jittered.1 = backoff.capped * (1 + backoff.share) := by
  by_cases hjitter : 0 < backoff.policy.jitter
  · rw [jittered, share, if_pos hjitter, mul_add, mul_one]
    exact congrArg Prod.fst (if_pos hjitter)
  · rw [jittered, share, if_neg hjitter, add_zero, mul_one]
    exact congrArg Prod.fst (if_neg hjitter)

theorem share_of_jitter_eq_zero (hjitter : backoff.policy.jitter = 0) : backoff.share = 0 :=
  if_neg (by simp [hjitter])

theorem source_of_jitter_eq_zero (hjitter : backoff.policy.jitter = 0) :
    backoff.next.2.source = backoff.source := by
  rw [next_eq]
  refine if_neg ?_
  rw [hjitter]
  exact lt_irrefl (0 : Rat)

/-- A draw is a fraction of the way from the negated jitter to the jitter. -/
theorem share_mem (hjitter : 0 ≤ backoff.policy.jitter) :
    -backoff.policy.jitter ≤ backoff.share ∧ backoff.share ≤ backoff.policy.jitter := by
  by_cases hpositive : 0 < backoff.policy.jitter
  · obtain ⟨low, high, hdraw⟩ : ∃ low high : UInt32, backoff.drawJitter.1 =
        fraction low high * (backoff.policy.jitter - -backoff.policy.jitter) +
          -backoff.policy.jitter :=
      ⟨_, _, rfl⟩
    rw [share, if_pos hpositive, hdraw]
    have hlow := mul_nonneg (fraction_nonneg low high) hjitter
    have hhigh := mul_le_of_le_one_left hjitter (fraction_lt_one low high).le
    constructor <;> linarith
  · rw [share, if_neg hpositive]
    constructor <;> linarith

/-! ## Delays -/

theorem capped_run {policy : Policy Rat} (admissible : policy.Admissible) (seed : UInt32)
    (calls : List Call) :
    ((ofPolicy policy seed).run calls).capped = policy.plain (sinceReset calls) := by
  have hle := policy.plain_le_maxDelay (sinceReset calls)
  rw [run_ofPolicy, capped, lesser_eq_min]
  change min (policy.base (sinceReset calls)) (policy.maxDelay : Rat) = _
  rw [admissible.base_eq_plain, min_eq_left hle]

theorem base_run_of_jitter (policy : Policy Rat) (jitter : Rat) (seed other : UInt32)
    (calls : List Call) :
    ((ofPolicy { policy with jitter := jitter } other).run calls).base =
      ((ofPolicy policy seed).run calls).base := by
  rw [run_ofPolicy, run_ofPolicy]
  exact policy.base_of_jitter jitter (sinceReset calls)

structure Due (policy : Policy Rat) (earlier : Nat) (schedule : Backoff Rat) : Prop where
  capped : schedule.capped = policy.plain earlier
  delay : schedule.next.1.toInt = ⌊policy.plain earlier * (1 + schedule.share)⌋
  attempts : schedule.next.2.attempts.toNat = (earlier + 1) % 2 ^ 32
  /-- The share is drawn between the negated jitter and the jitter. -/
  share_low : -policy.jitter ≤ schedule.share
  share_high : schedule.share ≤ policy.jitter
  /-- Without jitter nothing is drawn. -/
  undrawn : policy.jitter = 0 → schedule.share = 0 ∧ schedule.next.2.source = schedule.source
  /-- The delay stays near its base. -/
  delay_low : ⌊policy.plain earlier * (1 - policy.jitter)⌋ ≤ schedule.next.1.toInt
  delay_high : (schedule.next.1.toInt : Rat) ≤ policy.plain earlier * (1 + policy.jitter)
  /-- What is truncated to the delay has a whole part that fits. -/
  nonneg : 0 ≤ policy.plain earlier * (1 + schedule.share)
  fits : policy.plain earlier * (1 + schedule.share) < 2 ^ 63
  delay_nonneg : 0 ≤ schedule.next.1.toInt
  delay_le : schedule.next.1.toInt ≤ 2 * policy.maxDelay

theorem due_of_capped {policy : Policy Rat} (admissible : policy.Admissible) {earlier : Nat}
    {schedule : Backoff Rat} (hpolicy : schedule.policy = policy)
    (hcapped : schedule.capped = policy.plain earlier)
    (hattempts : schedule.attempts = UInt32.ofNat earlier) : Due policy earlier schedule := by
  have hmax := policy.plain_le_maxDelay earlier
  have hlimit : (policy.maxDelay : Rat) ≤ 2 ^ 32 - 1 := by
    exact_mod_cast admissible.maxDelay_le
  obtain ⟨hlow, hhigh⟩ := share_mem (hpolicy ▸ admissible.jitter_nonneg)
  rw [hpolicy] at hlow hhigh
  obtain ⟨hnonneg, hlower, hupper, htwice⟩ :=
    admissible.share_bounds (admissible.plain_nonneg earlier) hlow hhigh
  have hfits : policy.plain earlier * (1 + schedule.share) < 2 ^ 63 := by linarith
  have hdelay : schedule.next.1.toInt = ⌊policy.plain earlier * (1 + schedule.share)⌋ := by
    rw [next_eq, jittered_eq, hcapped]
    dsimp only
    rw [greater_of_nonneg hnonneg, toInt_truncate hnonneg hfits]
  have hfloor : (schedule.next.1.toInt : Rat) ≤ policy.plain earlier * (1 + schedule.share) :=
    hdelay ▸ Int.floor_le _
  refine
    { capped := hcapped
      delay := hdelay
      attempts := ?_
      share_low := hlow
      share_high := hhigh
      undrawn := fun hzero => ?_
      delay_low := hdelay ▸ Int.floor_mono hlower
      delay_high := hfloor.trans hupper
      nonneg := hnonneg
      fits := hfits
      delay_nonneg := hdelay ▸ Int.floor_nonneg.2 hnonneg
      delay_le := ?_ }
  · rw [next_eq, hattempts, ← UInt32.toNat_ofNat', UInt32.ofNat_add]
    rfl
  · rw [← hpolicy] at hzero
    exact ⟨share_of_jitter_eq_zero hzero, source_of_jitter_eq_zero hzero⟩
  · have hbound : (schedule.next.1.toInt : Rat) ≤ 2 * policy.maxDelay := by linarith
    exact_mod_cast hbound

/-- After any history of calls the base of the next delay is a power of the multiplier, cut off
at the maximum.  The number of delays since the last reset tells which one, and no draw has a
part in it. -/
theorem delays_follow_closed_form {policy : Policy Rat} (admissible : policy.Admissible)
    (seed : UInt32) (calls : List Call) :
    let schedule := (ofPolicy policy seed).run calls
    Due policy (sinceReset calls) schedule ∧
      schedule.capped ≤ policy.maxDelay ∧
      (∀ more, schedule.capped ≤ (schedule.run (List.replicate more .next)).capped) ∧
      ∀ jitter other,
        ((ofPolicy { policy with jitter := jitter } other).run calls).base = schedule.base := by
  intro schedule
  have hcapped : schedule.capped = policy.plain (sinceReset calls) :=
    capped_run admissible seed calls
  refine ⟨?_, ?_, fun more => ?_,
    fun jitter other => base_run_of_jitter policy jitter seed other calls⟩
  · have hstands := run_ofPolicy policy seed calls
    exact due_of_capped admissible (congrArg Backoff.policy hstands) hcapped
      (congrArg Backoff.attempts hstands)
  · exact hcapped ▸ policy.plain_le_maxDelay _
  · rw [hcapped, run_append, capped_run admissible, sinceReset_append_next]
    exact admissible.plain_mono (Nat.le_add_right _ _)

/-- Delays of up to half a minute that are shortened or lengthened by up to a half. -/
def swaying : Policy Rat where
  jitter := 1 / 2

theorem admissible_swaying : swaying.Admissible where
  one_le_initialDelay := by decide
  initialDelay_le_maxDelay := by decide
  maxDelay_le := by decide
  one_le_multiplier := by decide
  jitter_nonneg := by norm_num [swaying]
  jitter_le_one := by norm_num [swaying]

/-- Nine doublings after a reset pass the maximum. -/
theorem tenth_delay_of_swaying :
    swaying.Admissible ∧
      let schedule := (ofPolicy swaying 7).run (.next :: .reset :: List.replicate 9 .next)
      schedule.capped = 30000 ∧ 15000 ≤ schedule.next.1.toInt ∧
        schedule.next.1.toInt ≤ 45000 ∧ schedule.next.2.attempts.toNat = 10 := by
  obtain ⟨hdue, -⟩ := delays_follow_closed_form admissible_swaying 7
    (.next :: .reset :: List.replicate 9 .next)
  have hsince : sinceReset (.next :: .reset :: List.replicate 9 .next) = 9 := by decide
  have hplain : swaying.plain 9 = 30000 := by
    change min (((100 : Int) : Rat) * ((2 : Int) : Rat) ^ 9) ((30000 : Int) : Rat) = 30000
    norm_num
  rw [hsince] at hdue
  have hlow : ⌊(30000 : Rat) * (1 - 1 / 2)⌋ ≤ _ := hplain ▸ hdue.delay_low
  have hhigh : _ ≤ (30000 : Rat) * (1 + 1 / 2) := hplain ▸ hdue.delay_high
  norm_num at hlow hhigh
  exact ⟨admissible_swaying, hdue.capped.trans hplain, hlow, by exact_mod_cast hhigh, hdue.attempts⟩

end Backoff

end IdentityMap
