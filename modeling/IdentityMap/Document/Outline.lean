import IdentityMap.Document.Node

/-!
# Outlines

The block structure of a text is an outline: marks in the order of the text, each with the
column it stands in. A mark owns the marks after it that stand further to the right. The
outline is folded from its end, so that whatever a mark owns is complete when the mark is met.
-/

namespace IdentityMap.Document

inductive Label where
  | dash
  | key (text : String)
  | leaf (node : Node)

structure Mark where
  column : Nat
  label : Label

/-- Orders marks by column and, within a column, keys before dashes before leaves: a sequence
may stand in the same column as the key that owns it. -/
def Mark.rank (mark : Mark) : Nat :=
  3 * mark.column + match mark.label with
    | .key _ => 0
    | .dash => 1
    | .leaf _ => 2

namespace Outline

/-- The complete nodes with the ranks of their marks, the nearest first. -/
abbrev Pieces := List (Nat × Node)

def whole : Pieces → Except SyntaxError Node
  | [] => .ok .null
  | [(_, node)] => .ok node
  | _ => .error .badIndentation

def attach (mark : Mark) (pieces : Pieces) : Except SyntaxError Pieces := do
  let (owned, others) := pieces.span fun piece => mark.rank < piece.1
  match mark.label with
  | .leaf node =>
    unless owned.isEmpty do throw .badIndentation
    return (mark.rank, node) :: others
  | .dash =>
    let item ← whole owned
    match others with
    | (rank, .seq items) :: others' =>
      if rank = mark.rank then return (rank, .seq (item :: items)) :: others'
      else return (mark.rank, .seq [item]) :: others
    | _ => return (mark.rank, .seq [item]) :: others
  | .key text =>
    let value ← whole owned
    match others with
    | (rank, .map pairs) :: others' =>
      if rank = mark.rank then return (rank, .map ((text, value) :: pairs)) :: others'
      else return (mark.rank, .map [(text, value)]) :: others
    | _ => return (mark.rank, .map [(text, value)]) :: others

def toNode (marks : List Mark) : Except SyntaxError Node := do
  whole (← marks.foldrM attach [])

end Outline

end IdentityMap.Document
