/-!
# Identity mappings

A mapping gives one ARN a user name and the groups it belongs to. ARNs are looked up
without regard to the case of ASCII letters, so every mapping is filed under its folded ARN.
-/

namespace IdentityMap

/-- Lower-cases the ASCII letters `A` to `Z` and keeps every other character. -/
def foldCase (text : String) : String :=
  text.map Char.toLower

@[simp] theorem toList_foldCase (text : String) :
    (foldCase text).toList = text.toList.map Char.toLower := by
  simp [foldCase]

inductive Kind where
  | user
  | role
  deriving DecidableEq, Repr

def Kind.arnKey : Kind → String
  | .user => "userarn"
  | .role => "rolearn"

structure Mapping where
  arn : String
  username : String := ""
  groups : List String := []
  deriving DecidableEq, Repr

def Mapping.key (mapping : Mapping) : String :=
  foldCase mapping.arn

end IdentityMap
