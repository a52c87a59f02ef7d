import IdentityMap.Resource

/-!
# Watch events

A watch on a resource is a stream of events. A source of events may refuse to open one.
-/

namespace IdentityMap

inductive EventKind where
  | added
  | modified
  | deleted
  | error
  deriving DecidableEq, Repr

namespace EventKind

def name : EventKind → String
  | added => "ADDED"
  | modified => "MODIFIED"
  | deleted => "DELETED"
  | error => "ERROR"

def ofName? (text : String) : Option EventKind :=
  [added, modified, deleted, error].find? (·.name == text)

end EventKind

structure Event where
  kind : EventKind
  object : Option Resource := none
  message : String := ""

/-- What a stream answers when it is asked for its next event. A blocked stream has nothing to
give yet, but may have later. -/
inductive Answer where
  | event (event : Event)
  | ended
  | blocked

instance : (answer : Answer) → Decidable (answer = .blocked)
  | .blocked => isTrue rfl
  | .event _ | .ended => isFalse nofun

inductive OpenFault where
  | injected (ns name : String)
  | noDirectory (ns name directory : String)
  deriving DecidableEq, Repr

def OpenFault.message (fault : OpenFault) : String :=
  upToNul <| match fault with
    | .injected ns name => "memory watch: injected open failure for " ++ ns ++ "/" ++ name
    | .noDirectory ns name directory =>
      "cannot watch " ++ ns ++ "/" ++ name ++ ": directory " ++ directory ++ " does not exist"

end IdentityMap
