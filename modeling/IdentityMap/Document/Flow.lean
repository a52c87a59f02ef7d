import IdentityMap.Document.Scalar

/-!
# Flow collections

Collections written in brackets, which may run over several lines. A line is cut into tokens
first; the tokens then drive a stack of the collections that are still open.
-/

namespace IdentityMap.Document

inductive Bracket where
  | square
  | curly
  deriving DecidableEq, Repr

inductive Token where
  | opening (bracket : Bracket)
  | closing (bracket : Bracket)
  | comma
  | colon
  | leaf (node : Node)

def Token.ofChar? : Char → Option Token
  | '[' => some (.opening .square)
  | ']' => some (.closing .square)
  | '\x7b' => some (.opening .curly)
  | '\x7d' => some (.closing .curly)
  | ',' => some .comma
  | ':' => some .colon
  | _ => none

/-- Cuts a line into tokens. `skip` counts the characters that the token before has taken. -/
def Token.ofLine : (skip : Nat) → List Char → Except SyntaxError (List Token)
  | _, [] => .ok []
  | skip + 1, _ :: rest => Token.ofLine skip rest
  | 0, c :: rest =>
    if c = ' ' then Token.ofLine 0 rest
    else if c = '#' then .ok []
    else if c = '"' ∨ c = '\'' then do
      let (text, tail) ← quoted c rest
      return .leaf (.scalar text) :: (← Token.ofLine (rest.length - tail.length) rest)
    else
      match Token.ofChar? c with
      | some token => do return token :: (← Token.ofLine 0 rest)
      | none => do
        let text := takePlain true (c :: rest)
        return .leaf (.plain (String.ofList (trimEnd text))) ::
          (← Token.ofLine (text.length - 1) rest)

/-- A collection that is still open: the entries so far, the last one first, and the key and
value read since the last comma. -/
structure Frame where
  bracket : Bracket
  entries : List (Option String × Node) := []
  key : Option String := none
  value : Option Node := none

namespace Frame

def endEntry (frame : Frame) : Frame :=
  match frame.key, frame.value with
  | none, none => frame
  | key, value =>
    { frame with
      entries := (key, value.getD .null) :: frame.entries
      key := none
      value := none }

def put (frame : Frame) (node : Node) : Except SyntaxError Frame :=
  match frame.value with
  | none => .ok { frame with value := some node }
  | some _ => .error .strayText

def endKey (frame : Frame) : Except SyntaxError Frame :=
  match frame.key, frame.value with
  | none, some (.scalar text) => .ok { frame with key := some text, value := none }
  | none, some .null => .ok { frame with key := some "null", value := none }
  | _, _ => .error .badKey

/-- The pair of an entry in curly brackets. A node without a value is a key. -/
private def pair : Option String × Node → Except SyntaxError (String × Node)
  | (some key, node) => .ok (key, node)
  | (none, .scalar text) => .ok (text, .null)
  | (none, _) => .error .badKey

/-- The node of an entry in square brackets. A pair is a map of its own. -/
private def item : Option String × Node → Node
  | (some key, node) => .map [(key, node)]
  | (none, node) => node

/-- The node of a collection that is complete. -/
def toNode (frame : Frame) : Except SyntaxError Node :=
  let entries := frame.endEntry.entries.reverse
  match frame.bracket with
  | .square => .ok (.seq (entries.map item))
  | .curly => do return .map (← entries.mapM pair)

end Frame

/-- How far a flow collection has been read: the open collections, the innermost first, or
the complete node. -/
inductive Flow where
  | unfinished (frames : List Frame)
  | finished (node : Node)

namespace Flow

def step : Flow → Token → Except SyntaxError Flow
  | .unfinished frames, .opening bracket => .ok (.unfinished ({ bracket := bracket } :: frames))
  | .unfinished (frame :: frames), .leaf node => do
    return .unfinished ((← frame.put node) :: frames)
  | .unfinished (frame :: frames), .colon => do
    return .unfinished ((← frame.endKey) :: frames)
  | .unfinished (frame :: frames), .comma => .ok (.unfinished (frame.endEntry :: frames))
  | .unfinished (frame :: frames), .closing bracket => do
    unless frame.bracket = bracket do throw .mismatchedBracket
    let node ← frame.toNode
    match frames with
    | [] => return .finished node
    | outer :: frames => return .unfinished ((← outer.put node) :: frames)
  | _, _ => .error .strayText

def line (flow : Flow) (text : List Char) : Except SyntaxError Flow := do
  (← Token.ofLine 0 text).foldlM step flow

end Flow

end IdentityMap.Document
