import IdentityMap.Document.Dialect
import IdentityMap.Document.Flow
import IdentityMap.Document.Number
import IdentityMap.Document.Outline

/-!
# Document texts

A text is read line by line into an outline. A line may leave a flow collection or a literal
block open, which the lines after it continue. This dialect is a part of YAML, without anchors,
tags, document markers, folded blocks and scalars that run over several lines; its integers are
decimal.
-/

namespace IdentityMap.Document

def splitLines : List Char → List (List Char)
  | [] => [[]]
  | c :: rest =>
    if c = '\n' then [] :: splitLines rest
    else
      match splitLines rest with
      | [] => [[c]]
      | line :: lines => (c :: line) :: lines

/-! ## Literal blocks -/

/-- A literal block that is being read: the least column of its text, the column of its first
line once known, whether it ends in a line break, and its lines, the last one first. -/
structure Literal where
  floor : Nat
  margin : Option Nat := none
  keepsBreak : Bool
  lines : List (List Char) := []

namespace Literal

def line? (block : Literal) (line : List Char) : Option Literal :=
  let column := (line.takeWhile (· == ' ')).length
  if column = line.length then
    some { block with lines := line.drop (block.margin.getD column) :: block.lines }
  else if block.margin.getD block.floor ≤ column then
    let margin := block.margin.getD column
    some { block with margin := some margin, lines := line.drop margin :: block.lines }
  else none

def text (block : Literal) : String :=
  let lines := (block.lines.dropWhile List.isEmpty).reverse
  let joined := String.ofList (['\n'].intercalate lines)
  if block.keepsBreak ∧ lines ≠ [] then joined ++ "\n" else joined

end Literal

/-! ## Lines -/

inductive Pending where
  | nothing
  | flow (column : Nat) (frames : List Frame)
  | literal (column : Nat) (block : Literal)

abbrev LineResult := List Mark × Pending

def flowResult (column : Nat) : Flow → LineResult
  | .finished node => ([⟨column, .leaf node⟩], .nothing)
  | .unfinished frames => ([], .flow column frames)

/-- Reads the value that starts in a column. The text of a literal block stands in column
`floor` or further right. -/
def lineValue (column floor : Nat) (text : List Char) : Except SyntaxError LineResult :=
  match text.dropWhile (· == ' ') with
  | [] => .ok ([], .nothing)
  | c :: rest =>
    if c = '#' then .ok ([], .nothing)
    else if c = '[' ∨ c = '\x7b' then do
      return flowResult column (← (Flow.unfinished []).line (c :: rest))
    else if c = '|' then
      match rest with
      | '-' :: rest =>
        if isBlank rest then .ok ([], .literal column ⟨floor, none, false, []⟩)
        else .error .strayText
      | rest =>
        if isBlank rest then .ok ([], .literal column ⟨floor, none, true, []⟩)
        else .error .strayText
    else if c = '"' ∨ c = '\'' then do
      let (content, tail) ← quoted c rest
      unless isBlank tail do throw .strayText
      return ([⟨column, .leaf (.scalar content)⟩], .nothing)
    else do
      let content := takePlain false (c :: rest)
      unless isBlank ((c :: rest).drop content.length) do throw .strayText
      return ([⟨column, .leaf (.plain (String.ofList (trimEnd content)))⟩], .nothing)

def lineKey? (text : List Char) : Except SyntaxError (Option (String × List Char)) :=
  match text with
  | [] => .ok none
  | c :: rest =>
    if c = '[' ∨ c = '\x7b' then .ok none
    else if c = '"' ∨ c = '\'' then do
      let (key, tail) ← quoted c rest
      match tail.dropWhile (· == ' ') with
      | ':' :: after => return if endsKey false after then some (key, after) else none
      | _ => return none
    else
      let key := takePlain false text
      match text.drop key.length with
      | ':' :: after => .ok (some (String.ofList (trimEnd key), after))
      | _ => .ok none

def lineEntry (column floor : Nat) (text : List Char) : Except SyntaxError LineResult := do
  match ← lineKey? text with
  | some (key, after) =>
    let (marks, pending) ← lineValue (column + 1) (column + 1) after
    return (⟨column, .key key⟩ :: marks, pending)
  | none => lineValue column floor text

def lineMarks (column floor : Nat) : List Char → Except SyntaxError LineResult
  | [] => .ok ([], .nothing)
  | c :: rest =>
    if c = ' ' then lineMarks (column + 1) floor rest
    else if c = '#' then .ok ([], .nothing)
    else if c = '-' ∧ (rest.head?.getD ' ') = ' ' then do
      let (marks, pending) ← lineMarks (column + 1) (column + 1) rest
      return (⟨column, .dash⟩ :: marks, pending)
    else lineEntry column floor (c :: rest)

/-! ## Whole texts -/

structure Reading where
  marks : List Mark := []
  pending : Pending := .nothing

namespace Reading

def extend (reading : Reading) (result : LineResult) : Reading :=
  ⟨reading.marks ++ result.1, result.2⟩

def line (reading : Reading) (text : List Char) : Except SyntaxError Reading :=
  match reading.pending with
  | .nothing => do return reading.extend (← lineMarks 0 0 text)
  | .flow column frames => do
    return reading.extend (flowResult column (← (Flow.unfinished frames).line text))
  | .literal column block =>
    match block.line? text with
    | some block => .ok { reading with pending := .literal column block }
    | none => do
      let reading := reading.extend ([⟨column, .leaf (.scalar block.text)⟩], .nothing)
      return reading.extend (← lineMarks 0 0 text)

def finish (reading : Reading) : Except SyntaxError (List Mark) :=
  match reading.pending with
  | .nothing => .ok reading.marks
  | .flow _ _ => .error .unclosedCollection
  | .literal column block => .ok (reading.marks ++ [⟨column, .leaf (.scalar block.text)⟩])

end Reading

end IdentityMap.Document

namespace IdentityMap

/-- Loads a text. A text without content is a null. -/
def Node.ofText (text : String) : Except SyntaxError Node := do
  let reading ← (Document.splitLines text.toList).foldlM Document.Reading.line {}
  Document.Outline.toNode (← reading.finish)

instance : Dialect where
  load := Node.ofText
  uint32? := uint32OfText?
  float? := floatOfText?

end IdentityMap
