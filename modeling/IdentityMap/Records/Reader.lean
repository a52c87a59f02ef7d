import IdentityMap.Document.Dialect
import IdentityMap.Records.Entry

/-!
# Reading record lists

A list of records is read in one of two ways: collecting keeps every entry that reads and
gathers the faults of the others, strict reading gives up at the first fault.
-/

namespace IdentityMap

abbrev Reader (α : Type) := Nat → Node → Except EntryFault α

inductive ListFault where
  | malformed (cause : SyntaxError)
  | notList
  deriving DecidableEq, Repr

def ListFault.message : ListFault → String
  | .malformed cause => cause.message
  | .notList => "expected a list"

inductive ReadFault where
  | list (fault : ListFault)
  | entry (fault : EntryFault)
  deriving DecidableEq, Repr

def ReadFault.message : ReadFault → String
  | .list fault => fault.message
  | .entry fault => fault.message

structure Collected (α : Type) where
  records : List α
  faults : List EntryFault
  deriving DecidableEq, Repr

/-- The entries of a document. A null stands for the empty list. -/
def Node.entries : Node → Except ListFault (List Node)
  | .null => .ok []
  | .seq items => .ok items
  | _ => .error .notList

def entriesOfText [Dialect] (text : String) : Except ListFault (List Node) :=
  match Dialect.load text with
  | .ok node => node.entries
  | .error cause => .error (.malformed cause)

namespace Reader

variable {α : Type}

def results (reader : Reader α) (nodes : List Node) : List (Except EntryFault α) :=
  nodes.mapIdx reader

def fault? : Except EntryFault α → Option EntryFault
  | .ok _ => none
  | .error fault => some fault

/-- Keeps the entries that read and gathers the faults of the others, both in order. -/
def collectNodes (reader : Reader α) (nodes : List Node) : Collected α where
  records := (reader.results nodes).filterMap Except.toOption
  faults := (reader.results nodes).filterMap fault?

def readNodes (reader : Reader α) (nodes : List Node) : Except EntryFault (List α) :=
  (reader.results nodes).mapM id

def collect [Dialect] (reader : Reader α) (text : String) : Except ListFault (Collected α) := do
  return reader.collectNodes (← entriesOfText text)

def read [Dialect] (reader : Reader α) (text : String) : Except ReadFault (List α) :=
  match entriesOfText text with
  | .error fault => .error (.list fault)
  | .ok nodes => (reader.readNodes nodes).mapError .entry

end Reader

end IdentityMap
