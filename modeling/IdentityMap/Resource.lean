import Std.Data.TreeMap
import IdentityMap.Document.Dialect
import IdentityMap.Wording

/-!
# Configuration resources

A resource has a name, a namespace and data, a map from keys to texts. In a file it is a
document whose `metadata` gives name and namespace and whose `data` gives the data.
-/

namespace IdentityMap

open Std (TreeMap)

/-- A named map of texts. The field `ns` is its namespace. -/
structure Resource where
  ns : String := ""
  name : String
  data : TreeMap String String := ∅

inductive ResourceFault where
  | unreadable
  | notMapping
  | noName
  | dataNotMapping
  | notText (key : String)
  deriving DecidableEq, Repr

def ResourceFault.message (path : String) (fault : ResourceFault) : String :=
  upToNul <| match fault with
    | .unreadable => "failed to load resource " ++ path ++ ": " ++ Node.faultText
    | .notMapping => "resource " ++ path ++ " is not a mapping"
    | .noName => "resource " ++ path ++ " has no metadata.name"
    | .dataNotMapping => "resource " ++ path ++ " data is not a mapping"
    | .notText key => "resource " ++ path ++ " data." ++ key ++ " is not a string"

namespace Resource

def documentName (metadata : List (String × Node)) : Except ResourceFault String :=
  match metadata.lookup "name" with
  | some (.scalar name) => .ok name
  | _ => .error .noName

/-- The namespace in the metadata of a document, empty unless it is a scalar. -/
def documentNamespace (metadata : List (String × Node)) : String :=
  match metadata.lookup "namespace" with
  | some (.scalar ns) => ns
  | _ => ""

def addEntry (data : TreeMap String String) :
    String × Node → Except ResourceFault (TreeMap String String)
  | (key, .scalar text) => .ok (data.insert key text)
  | (key, _) => .error (.notText key)

def documentData : Option Node → Except ResourceFault (TreeMap String String)
  | none => .ok ∅
  | some (.map entries) => entries.foldlM addEntry ∅
  | some _ => .error .dataNotMapping

def ofNode : Node → Except ResourceFault Resource
  | .map pairs => do
    let some (.map metadata) := pairs.lookup "metadata" | throw .noName
    let name ← documentName metadata
    let data ← documentData (Node.value? pairs "data")
    return ⟨documentNamespace metadata, name, data⟩
  | _ => .error .notMapping

def ofFile? [Dialect] (text : Option String) : Except ResourceFault Resource :=
  match text.map Dialect.load with
  | some (.ok node) => ofNode node
  | _ => .error .unreadable

end Resource

end IdentityMap
