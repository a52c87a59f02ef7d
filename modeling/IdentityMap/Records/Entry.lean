import IdentityMap.Document.Node
import IdentityMap.Mapping

/-!
# Entries of a record list

An entry of a list of users or roles is a map that carries an ARN under the key of its kind,
and may carry a user name and a list of groups. An entry of a list of accounts is a scalar.
Keys that are not recognised are ignored. An entry is refused for its first fault, in the
order in which the checks stand here.
-/

namespace IdentityMap

/-- Why an entry is refused. Positions count from zero. -/
inductive EntryFault where
  | notMapping (index : Nat)
  | notText (key : String)
  | missing (index : Nat) (key : String)
  | groupsNotList
  | groupNotText
  | notAccount (index : Nat)
  deriving DecidableEq, Repr

def EntryFault.message : EntryFault → String
  | .notMapping index => "entry " ++ toString index ++ " is not a mapping"
  | .notText key => "field '" ++ key ++ "' must be a string"
  | .missing index key => "entry " ++ toString index ++ " is missing '" ++ key ++ "'"
  | .groupsNotList => "field 'groups' must be a list"
  | .groupNotText => "field 'groups' must contain strings"
  | .notAccount index => "entry " ++ toString index ++ " is not a string"

namespace Entry

/-- The text under a key. A key that is absent or null stands for the empty text. -/
def optionalText (pairs : List (String × Node)) (key : String) : Except EntryFault String :=
  match Node.value? pairs key with
  | none => .ok ""
  | some (.scalar text) => .ok text
  | some _ => .error (.notText key)

def requiredText (index : Nat) (pairs : List (String × Node)) (key : String) :
    Except EntryFault String := do
  let text ← optionalText pairs key
  if text = "" then throw (.missing index key) else return text

def groupName : Node → Except EntryFault String
  | .scalar text => .ok text
  | _ => .error .groupNotText

def groups (pairs : List (String × Node)) : Except EntryFault (List String) :=
  match Node.value? pairs "groups" with
  | none => .ok []
  | some (.seq items) => items.mapM groupName
  | some _ => .error .groupsNotList

def mapping (kind : Kind) (index : Nat) : Node → Except EntryFault Mapping
  | .map pairs => do
    let arn ← requiredText index pairs kind.arnKey
    let username ← optionalText pairs "username"
    let groups ← groups pairs
    return ⟨arn, username, groups⟩
  | _ => .error (.notMapping index)

def account (index : Nat) : Node → Except EntryFault String
  | .scalar text => .ok text
  | _ => .error (.notAccount index)

end Entry

end IdentityMap
