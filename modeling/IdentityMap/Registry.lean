import Std.Data.TreeMap
import IdentityMap.Counter

/-!
# The metric registry

Gauges hold the last value set and are filed under the name followed by the label in braces.
Counters hold the number of increments modulo `2 ^ 64`.
-/

namespace IdentityMap

open Std (TreeMap)

structure Registry where
  gauges : TreeMap String Float
  counters : TreeMap String UInt64

namespace Registry

def empty : Registry :=
  ⟨∅, ∅⟩

/-- The key of a gauge: its name, then its label in braces. -/
def gaugeKey (name label : String) : String :=
  name ++ "\x7b" ++ label ++ "\x7d"

def setGauge (registry : Registry) (name label : String) (value : Float) : Registry :=
  { registry with gauges := registry.gauges.insert (gaugeKey name label) value }

def increment (registry : Registry) (name : String) : Registry :=
  { registry with
    counters := registry.counters.insert name ((registry.counters[name]?).getD 0 + 1) }

def gauge? (registry : Registry) (name label : String) : Option Float :=
  registry.gauges[gaugeKey name label]?

def counter (registry : Registry) (name : String) : UInt64 :=
  (registry.counters[name]?).getD 0

def setHealth (registry : Registry) (health : Health) : Registry :=
  registry.setGauge Health.gaugeName health.label health.value

end Registry

end IdentityMap
