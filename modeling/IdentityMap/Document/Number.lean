/-!
# Numbers in scalars

Unsigned integers are written with decimal digits alone. A floating-point number is a decimal
with an optional point and exponent, rounded to the nearest double, or one of the spellings of
the infinities and of not-a-number. A decimal that rounds to infinity is no number.
-/

namespace IdentityMap

def digitsValue (digits : List Char) : Nat :=
  digits.foldl (fun value c => 10 * value + (c.toNat - '0'.toNat)) 0

def uint32OfText? (text : String) : Option UInt32 :=
  let digits := text.toList
  if digits ≠ [] ∧ digits.all Char.isDigit ∧ digitsValue digits < UInt32.size then
    some (UInt32.ofNat (digitsValue digits))
  else none

/-- The number `± mantissa * 10 ^ exponent`. A zero keeps its sign. -/
structure Decimal where
  negative : Bool
  mantissa : Nat
  exponent : Int
  deriving DecidableEq, Repr

namespace Decimal

/-- Beyond this power of ten in either direction every double is infinite or zero. -/
def exponentBound : Int :=
  400

def magnitude (decimal : Decimal) : Float :=
  let scale := decimal.exponent + (Nat.toDigits 10 decimal.mantissa).length
  if decimal.mantissa = 0 ∨ scale < -exponentBound then 0.0
  else if exponentBound < scale then 1.0 / 0.0
  else Float.ofScientific decimal.mantissa (decimal.exponent < 0) decimal.exponent.natAbs

def toFloat (decimal : Decimal) : Float :=
  if decimal.negative then -decimal.magnitude else decimal.magnitude

def splitSign : List Char → Bool × List Char
  | '-' :: rest => (true, rest)
  | '+' :: rest => (false, rest)
  | rest => (false, rest)

def exponentOf? : List Char → Option Int
  | [] => some 0
  | c :: rest =>
    let (negative, digits) := splitSign rest
    if (c = 'e' ∨ c = 'E') ∧ digits ≠ [] ∧ digits.all Char.isDigit then
      some (if negative then -(digitsValue digits : Int) else digitsValue digits)
    else none

/-- The decimal that a text writes: a sign, digits with at most one point among them, and an
exponent, of which only the digits are required. -/
def ofText? (text : String) : Option Decimal := do
  let (negative, unsigned) := splitSign text.toList
  let (whole, rest) := unsigned.span Char.isDigit
  let (fraction, rest) := match rest with
    | '.' :: rest => rest.span Char.isDigit
    | rest => ([], rest)
  guard (whole ++ fraction ≠ [])
  let exponent ← exponentOf? rest
  return ⟨negative, digitsValue (whole ++ fraction), exponent - fraction.length⟩

end Decimal

def floatOfText? (text : String) : Option Float :=
  if text ∈ [".inf", ".Inf", ".INF", "+.inf", "+.Inf", "+.INF"] then some (1.0 / 0.0)
  else if text ∈ ["-.inf", "-.Inf", "-.INF"] then some (-1.0 / 0.0)
  else if text ∈ [".nan", ".NaN", ".NAN"] then some (0.0 / 0.0)
  else (Decimal.ofText? text).bind fun decimal =>
    if decimal.toFloat.isFinite then some decimal.toFloat else none

end IdentityMap
