import IdentityMap.Document.Node

/-!
# Scalar texts

How the scalars of a line are delimited: plain text, text in single quotes and text in
double quotes, where a backslash starts an escape.
-/

namespace IdentityMap.Document

def splitDouble : List Char → Option (List Char × List Char)
  | [] => none
  | '"' :: rest => some ([], rest)
  | '\\' :: c :: rest =>
    (splitDouble rest).map fun (raw, tail) => ('\\' :: c :: raw, tail)
  | c :: rest => (splitDouble rest).map fun (raw, tail) => (c :: raw, tail)

/-- Splits off the text up to the closing single quote. A quote written twice is one quote. -/
def splitSingle : List Char → Option (List Char × List Char)
  | [] => none
  | '\'' :: '\'' :: rest => (splitSingle rest).map fun (text, tail) => ('\'' :: text, tail)
  | '\'' :: rest => some ([], rest)
  | c :: rest => (splitSingle rest).map fun (text, tail) => (c :: text, tail)

def hexDigit? (c : Char) : Option Nat :=
  if c.isDigit then some (c.toNat - '0'.toNat)
  else if 'a' ≤ c ∧ c ≤ 'f' then some (c.toNat - 'a'.toNat + 10)
  else if 'A' ≤ c ∧ c ≤ 'F' then some (c.toNat - 'A'.toNat + 10)
  else none

def hexValue? (digits : List Char) : Option Nat :=
  digits.foldlM (fun value c => (hexDigit? c).map (16 * value + ·)) 0

def simpleEscape? : Char → Option Char
  | '"' => some '"'
  | '\\' => some '\\'
  | '/' => some '/'
  | 'n' => some '\n'
  | 't' => some '\t'
  | 'r' => some '\r'
  | 'b' => some '\x08'
  | 'f' => some '\x0c'
  | _ => none

def surrogatePair? (high low : Nat) : Option Char :=
  if 0xD800 ≤ high ∧ high < 0xDC00 ∧ 0xDC00 ≤ low ∧ low < 0xE000 then
    some (Char.ofNat (0x10000 + (high - 0xD800) * 0x400 + (low - 0xDC00)))
  else none

/-- The character of one code unit. A surrogate on its own stands for no character. -/
def unitChar (unit : Nat) : Char :=
  if unit.isValidChar then Char.ofNat unit else '\uFFFD'

/-- Puts a character or an escaped code unit in front of others, two surrogates as one
character. -/
def prependUnit : Char ⊕ Nat → List (Char ⊕ Nat) → List (Char ⊕ Nat)
  | .inr high, .inr low :: rest =>
    match surrogatePair? high low with
    | some c => .inl c :: rest
    | none => .inr high :: .inr low :: rest
  | unit, rest => unit :: rest

def textUnits : List Char → Except SyntaxError (List (Char ⊕ Nat))
  | [] => .ok []
  | '\\' :: 'u' :: a :: b :: c :: d :: rest => do
    let some unit := hexValue? [a, b, c, d] | throw .badEscape
    return .inr unit :: (← textUnits rest)
  | '\\' :: c :: rest => do
    let some char := simpleEscape? c | throw .badEscape
    return .inl char :: (← textUnits rest)
  | '\\' :: [] => throw .badEscape
  | c :: rest => return .inl c :: (← textUnits rest)

def unescape (text : List Char) : Except SyntaxError (List Char) := do
  let units ← textUnits text
  return (units.foldr prependUnit []).map (Sum.elim id unitChar)

def quoted (quote : Char) (rest : List Char) : Except SyntaxError (String × List Char) :=
  if quote = '"' then do
    let some (raw, tail) := splitDouble rest | throw .unclosedText
    return (String.ofList (← unescape raw), tail)
  else
    match splitSingle rest with
    | some (text, tail) => .ok (String.ofList text, tail)
    | none => .error .unclosedText

def isFlowPunctuation (c : Char) : Bool :=
  c ∈ [',', '[', ']', '\x7b', '\x7d']

def endsKey (inFlow : Bool) : List Char → Bool
  | [] => true
  | c :: _ => c == ' ' || (inFlow && isFlowPunctuation c)

/-- The part of a line that belongs to a plain scalar which starts it: up to the end of a
key, a comment or, within a flow collection, the next delimiter. -/
def takePlain (inFlow : Bool) : List Char → List Char
  | [] => []
  | ' ' :: '#' :: _ => []
  | c :: rest =>
    if c = ':' ∧ endsKey inFlow rest then []
    else if inFlow && isFlowPunctuation c then []
    else c :: takePlain inFlow rest

def trimEnd (text : List Char) : List Char :=
  (text.reverse.dropWhile (· == ' ')).reverse

def isBlank (rest : List Char) : Bool :=
  match rest.dropWhile (· == ' ') with
  | [] => true
  | c :: _ => c == '#'

end IdentityMap.Document
