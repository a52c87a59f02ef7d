/-!
# Document nodes

A document is a tree of nodes: nulls, scalars, sequences and maps. Maps keep their keys in
the order of the text. A plain scalar spelt as a null is a null; every other scalar keeps
its literal text, whatever it looks like.
-/

namespace IdentityMap

inductive Node where
  | null
  | scalar (text : String)
  | seq (items : List Node)
  | map (pairs : List (String × Node))
  deriving Repr, Inhabited

namespace Node

def nullSpellings : List String :=
  ["", "~", "null", "Null", "NULL"]

def plain (text : String) : Node :=
  if text ∈ nullSpellings then .null else .scalar text

/-- The value of a key in a map, where a null value counts as no value. -/
def value? (pairs : List (String × Node)) (key : String) : Option Node :=
  match pairs.lookup key with
  | none | some .null => none
  | some node => some node

end Node

inductive SyntaxError where
  | unclosedText
  | unclosedCollection
  | mismatchedBracket
  | badEscape
  | badKey
  | strayText
  | badIndentation
  deriving DecidableEq, Repr

/-- The one wording under which the faults of a document's text are reported. -/
def Node.faultText : String :=
  "<yaml>"

def SyntaxError.message (_ : SyntaxError) : String :=
  Node.faultText

end IdentityMap
