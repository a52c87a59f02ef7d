import IdentityMap.Counter
import IdentityMap.Records.Fields
import IdentityMap.Store
import IdentityMap.Event

/-!
# Handling events

An event is handled by a list of actions on the store and on the counters. An event about
another resource, or about none, needs no action. The actions stop where the sink refuses a
counter; what was done before stays done.
-/

namespace IdentityMap

inductive Action where
  | count (counter : Counter)
  | replace (users roles : List Mapping) (accounts : List String)
  deriving DecidableEq, Repr

variable [Dialect]

def Resource.actions (resource : Resource) : List Action :=
  let parsed := Parsed.ofData resource.data
  let report := if parsed.errors = [] then [] else [Action.count .parseErrors]
  report ++ [.replace parsed.users parsed.roles parsed.accounts, .count .replaces]

def Event.actions (tracked : String) (event : Event) : List Action :=
  match event.kind, event.object with
  | .error, _ => [.count .watchErrors]
  | .deleted, _ => [.replace [] [] [], .count .replaces]
  | .added, some resource | .modified, some resource =>
    if resource.name = tracked then resource.actions else []
  | .added, none | .modified, none => []

/-- The store after some actions, what was counted in their course, and the counter whose
refusal cut them short, if one did. -/
structure Handling where
  store : Store
  counted : List Counter := []
  refused : Option Counter := none

namespace Handling

def afterCount (counter : Counter) (handling : Handling) : Handling :=
  { handling with counted := counter :: handling.counted }

def perform (sink : Sink) (store : Store) : List Action → Handling
  | [] => { store }
  | .count counter :: rest =>
    if sink.refuses counter then { store, refused := some counter }
    else (perform sink store rest).afterCount counter
  | .replace users roles accounts :: rest =>
    perform sink (store.replace users roles accounts) rest

/-- Counts a refusal as a watch error. If that is refused as well, its refusal is the one left. -/
def contain (sink : Sink) (handling : Handling) : Handling :=
  match handling.refused with
  | none => handling
  | some _ =>
    if sink.refuses .watchErrors then { handling with refused := some .watchErrors }
    else { handling with counted := handling.counted ++ [.watchErrors], refused := none }

end Handling

def Event.handle (event : Event) (sink : Sink) (tracked : String) (store : Store) : Handling :=
  Handling.perform sink store (event.actions tracked)

end IdentityMap
