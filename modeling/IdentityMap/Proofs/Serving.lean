import IdentityMap.Loop.Handling

/-!
# What the handled events leave in the store

Only some events reach the store: those that say the tracked resource was removed, and those that
carry the tracked resource.  The last of them alone decides what is served, and their number is
the generation of the store.  Everything here is about a sink that takes every report; a sink
that refuses one may keep an update from the store.
-/

namespace IdentityMap

def Resource.tables [Dialect] (resource : Resource) : Tables :=
  let parsed := Parsed.ofData resource.data
  Tables.ofLists parsed.users parsed.roles parsed.accounts

namespace Event

def concerns (tracked : String) (event : Event) : Bool :=
  match event.kind, event.object with
  | .deleted, _ => true
  | .added, some resource | .modified, some resource => resource.name = tracked
  | _, _ => false

def tables [Dialect] (event : Event) : Tables :=
  match event.kind, event.object with
  | .added, some resource | .modified, some resource => resource.tables
  | _, _ => Tables.empty

end Event

/-- The tables that are served after some events: those of the last event that concerns the
tracked resource. -/
def served [Dialect] (tracked : String) (events : List Event) : Tables :=
  (events.filter (Event.concerns tracked)).getLast?.elim Tables.empty Event.tables

def updates (tracked : String) (events : List Event) : Nat :=
  events.countP (Event.concerns tracked)

@[simp] theorem served_nil [Dialect] (tracked : String) : served tracked [] = Tables.empty :=
  rfl

@[simp] theorem updates_nil (tracked : String) : updates tracked [] = 0 :=
  rfl

theorem served_concat [Dialect] (tracked : String) (events : List Event) (event : Event) :
    served tracked (events ++ [event]) =
      if event.concerns tracked then event.tables else served tracked events := by
  by_cases h : event.concerns tracked = true
  · simp [served, List.filter_append, h]
  · simp [served, List.filter_append, h]

theorem updates_concat (tracked : String) (events : List Event) (event : Event) :
    updates tracked (events ++ [event]) =
      updates tracked events + if event.concerns tracked then 1 else 0 := by
  simp [updates, List.countP_append, List.countP_cons]

/-! ## Handling with a sink that takes every report -/

namespace Handling

def counter? : Action → Option Counter
  | .count counter => some counter
  | .replace _ _ _ => none

def act (store : Store) : Action → Store
  | .count _ => store
  | .replace users roles accounts => store.replace users roles accounts

theorem perform_accepting (store : Store) (actions : List Action) :
    perform .accepting store actions =
      { store := actions.foldl act store, counted := actions.filterMap counter? } := by
  induction actions generalizing store with
  | nil => rfl
  | cons action rest ih =>
      cases action with
      | count counter => simp [perform, afterCount, ih, act, counter?]
      | replace users roles accounts =>
          rw [perform, ih, List.filterMap_cons_none (by rfl)]
          rfl

@[simp] theorem contain_of_taken (sink : Sink) {handling : Handling}
    (h : handling.refused = none) : handling.contain sink = handling := by
  simp [contain, h]

end Handling

namespace Event

variable [Dialect] (event : Event) (tracked : String) (store : Store)

@[simp] theorem refused_handle_accepting :
    (event.handle .accepting tracked store).refused = none := by
  simp [handle, Handling.perform_accepting]

/-- An event that concerns the tracked resource is one replacement, any other event none. -/
theorem store_handle_accepting :
    (event.handle .accepting tracked store).store =
      if event.concerns tracked then ⟨event.tables, store.generation + 1⟩ else store := by
  obtain ⟨kind, object, message⟩ := event
  rw [handle, Handling.perform_accepting]
  cases kind with
  | error => rfl
  | deleted => rfl
  | added | modified =>
      cases object with
      | none => rfl
      | some resource =>
          by_cases hname : resource.name = tracked
          · have hacts : (Resource.actions resource).foldl Handling.act store =
                ⟨resource.tables, store.generation + 1⟩ := by
              simp only [Resource.actions]
              split <;> rfl
            simp [actions, concerns, tables, hname, hacts]
          · simp [actions, concerns, hname]

theorem counted_handle_accepting :
    .watchOpens ∉ (event.handle .accepting tracked store).counted ∧
      .watchCloses ∉ (event.handle .accepting tracked store).counted := by
  obtain ⟨kind, object, message⟩ := event
  rw [handle, Handling.perform_accepting]
  have hresource : ∀ (resource : Resource) (counter : Counter),
      counter ∈ resource.actions.filterMap Handling.counter? →
        counter = .parseErrors ∨ counter = .replaces := by
    intro resource counter hmem
    simp only [Resource.actions] at hmem
    split at hmem <;> simp [Handling.counter?] at hmem <;> grind
  cases kind with
  | error => simp [actions, Handling.counter?]
  | deleted => simp [actions, Handling.counter?]
  | added | modified =>
      cases object with
      | none => simp [actions]
      | some resource =>
          by_cases hname : resource.name = tracked
          · simp only [actions, hname, if_true]
            constructor <;> intro hmem <;> simpa using hresource resource _ hmem
          · simp [actions, hname]

end Event

end IdentityMap
