/-!
# States of the sync loop
-/

namespace IdentityMap

inductive State where
  | disconnected
  | watching
  | stopped
  | failed
  deriving DecidableEq, Repr

namespace State

def name : State → String
  | disconnected => "DISCONNECTED"
  | watching => "WATCHING"
  | stopped => "STOPPED"
  | failed => "FAILED"

def code : State → Nat
  | disconnected => 0
  | watching => 1
  | stopped => 2
  | failed => 3

def ofName? (text : String) : Option State :=
  [disconnected, watching, stopped, failed].find? (·.name == text)

end State

end IdentityMap
