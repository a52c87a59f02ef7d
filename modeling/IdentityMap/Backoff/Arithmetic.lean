/-!
# Arithmetic of delays

Delays are computed in doubles. The same formulas make sense in exact arithmetic, which is what
the doubles approximate; both are instances of one class.
-/

namespace IdentityMap

class Arithmetic (α : Type) extends Add α, Sub α, Mul α, Neg α, LT α where
  /-- Comparison is decided. -/
  decideLt : DecidableLT α
  /-- A whole number. -/
  ofInt : Int → α
  /-- The fraction, at least zero and below one, with these low and high words of digits. -/
  fraction : (low high : UInt32) → α
  /-- Drops the digits behind the point. -/
  truncate : α → Int64

namespace Arithmetic

variable {α : Type} [Arithmetic α]

instance : DecidableLT α :=
  decideLt

/-- The lesser of two numbers, the first unless the second is below it. -/
def lesser (a b : α) : α :=
  if b < a then b else a

/-- The greater of two numbers, the first unless it is below the second. -/
def greater (a b : α) : α :=
  if a < b then b else a

/-! ## Doubles -/

/-- The largest double below one. -/
def belowOne : Float :=
  Float.ofBits 0x3fefffffffffffff

def floatFraction (low high : UInt32) : Float :=
  let fraction := (low.toFloat + high.toFloat * 4294967296.0) / 18446744073709551616.0
  if fraction < 1.0 then fraction else belowOne

/-- Drops the digits behind the point. A double without a 64-bit integer part gives the least
integer. -/
def floatTruncate (x : Float) : Int64 :=
  if -9223372036854775808.0 ≤ x ∧ x < 9223372036854775808.0 then x.toInt64
  else Int64.minValue

instance : Arithmetic Float where
  decideLt := inferInstance
  ofInt := Float.ofInt
  fraction := floatFraction
  truncate := floatTruncate

/-! ## Exact arithmetic -/

def ratFraction (low high : UInt32) : Rat :=
  mkRat (low.toNat + 4294967296 * high.toNat) 18446744073709551616

/-- Drops the digits behind the point. A number without a 64-bit integer part gives the least
integer. -/
def ratTruncate (x : Rat) : Int64 :=
  let whole := x.num.tdiv x.den
  if -9223372036854775808 ≤ whole ∧ whole < 9223372036854775808 then Int64.ofInt whole
  else Int64.minValue

instance : Arithmetic Rat where
  decideLt := inferInstance
  ofInt := fun n => n
  fraction := ratFraction
  truncate := ratTruncate

end Arithmetic

end IdentityMap
