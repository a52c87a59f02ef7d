import IdentityMap.Document.Text
import IdentityMap.Proofs.Serving

/-!
# Handling events with a sink that refuses reports

A sink may refuse a report, and the handling of the event ends there.  What this keeps from the
store depends on the order of reports and replacements.  A replacement is reported after it was
made, so a refusal comes too late to undo it; an update with errors is reported before it is
made, and a refusal keeps the store as it was.
-/

namespace IdentityMap

/-! ## What an event makes the loop report -/

namespace Event

/-- Whether an event carries the tracked resource with data that holds at least one error. -/
def isFaulty [Dialect] (tracked : String) (event : Event) : Bool :=
  match event.kind, event.object with
  | .added, some resource | .modified, some resource =>
    resource.name = tracked ∧ (Parsed.ofData resource.data).errors ≠ []
  | _, _ => false

def reports [Dialect] (tracked : String) (event : Event) : List Counter :=
  (if event.kind = .error then [.watchErrors] else []) ++
    (if event.isFaulty tracked then [.parseErrors] else []) ++
    (if event.concerns tracked then [.replaces] else [])

def replacement [Dialect] (event : Event) : Action :=
  match event.kind, event.object with
  | .added, some resource | .modified, some resource =>
    let parsed := Parsed.ofData resource.data
    .replace parsed.users parsed.roles parsed.accounts
  | _, _ => .replace [] [] []

variable {event : Event} {tracked : String}

theorem concerns_of_isFaulty [Dialect] (h : event.isFaulty tracked = true) :
    event.concerns tracked = true := by
  unfold isFaulty at h
  unfold concerns
  split at h <;> simp_all

theorem kind_ne_error_of_concerns (h : event.concerns tracked = true) : event.kind ≠ .error := by
  unfold concerns at h
  split at h <;> simp_all

variable [Dialect] (event tracked) (store : Store)

/-- An event is reported first if it is an error or carries data with errors; a replacement is
reported after it was made. -/
theorem actions_eq :
    event.actions tracked =
      (if event.kind = .error then [.count .watchErrors] else []) ++
        (if event.isFaulty tracked then [.count .parseErrors] else []) ++
        (if event.concerns tracked then [event.replacement, .count .replaces] else []) := by
  obtain ⟨kind, object, message⟩ := event
  cases kind with
  | error | deleted => simp [actions, isFaulty, concerns, replacement]
  | added | modified =>
      cases object with
      | none => simp [actions, isFaulty, concerns]
      | some resource =>
          by_cases hname : resource.name = tracked
          · by_cases herrors : (Parsed.ofData resource.data).errors = [] <;>
              simp [actions, Resource.actions, isFaulty, concerns, replacement, hname, herrors]
          · simp [actions, isFaulty, concerns, hname]

/-- No report is made twice for one event.  A sink is therefore known, as far as one event goes,
by the counters that it refuses. -/
theorem nodup_reports : (event.reports tracked).Nodup := by
  unfold reports
  split <;> split <;> split <;> decide

theorem count_reports (counter : Counter) :
    (event.reports tracked).count counter =
      match counter with
      | .watchErrors => if event.kind = .error then 1 else 0
      | .parseErrors => if event.isFaulty tracked then 1 else 0
      | .replaces => if event.concerns tracked then 1 else 0
      | .watchOpens | .watchCloses => 0 := by
  unfold reports
  cases counter <;> split <;> split <;> split <;> rfl

theorem counter?_replacement : Handling.counter? event.replacement = none := by
  unfold replacement
  split <;> rfl

theorem counted_handle :
    (event.handle .accepting tracked store).counted = event.reports tracked := by
  rw [handle, Handling.perform_accepting, actions_eq, reports]
  simp only [List.filterMap_append]
  congr 1
  · congr 1
    · split <;> rfl
    · split <;> rfl
  · split
    · rw [List.filterMap_cons_none event.counter?_replacement]
      rfl
    · rfl

end Event

/-! ## Refusals -/

namespace Handling

variable (sink : Sink)

@[simp] theorem store_contain (handling : Handling) :
    (handling.contain sink).store = handling.store := by
  unfold contain
  split
  · rfl
  · split <;> rfl

@[simp] theorem store_afterCount (counter : Counter) (handling : Handling) :
    (handling.afterCount counter).store = handling.store :=
  rfl

/-- A replacement is made before its report can be refused. -/
theorem store_perform_replacement [Dialect] (event : Event) (store : Store) :
    (perform sink store [event.replacement, .count .replaces]).store =
      act store event.replacement := by
  unfold Event.replacement
  split <;> (rw [perform, perform]; split <;> rfl)

end Handling

namespace Event

section Refused

variable [Dialect] (event : Event) (sink : Sink) (tracked : String) (store : Store)

/-- The only report whose refusal changes what is stored is that of data with errors. -/
theorem store_handle :
    (event.handle sink tracked store).store =
      if event.isFaulty tracked ∧ sink.refuses .parseErrors then store
      else if event.concerns tracked then Handling.act store event.replacement
      else store := by
  rw [handle, actions_eq]
  by_cases hfaulty : event.isFaulty tracked = true
  · have hconcerns := concerns_of_isFaulty hfaulty
    have hkind := kind_ne_error_of_concerns hconcerns
    cases hrefuses : sink.refuses .parseErrors <;>
      simp [hfaulty, hconcerns, hkind, hrefuses, Handling.perform,
        Handling.store_perform_replacement]
  · by_cases hconcerns : event.concerns tracked = true
    · have hkind := kind_ne_error_of_concerns hconcerns
      simp [hfaulty, hconcerns, hkind, Handling.store_perform_replacement]
    · by_cases hkind : event.kind = .error <;>
        cases hrefuses : sink.refuses .watchErrors <;>
        simp [hfaulty, hconcerns, hkind, hrefuses, Handling.perform]

/-- A refused report of data with errors ends the handling before the update is made. -/
theorem handle_of_refused (hfaulty : event.isFaulty tracked = true)
    (hrefuses : sink.refuses .parseErrors = true) :
    event.handle sink tracked store = { store, refused := some .parseErrors } := by
  have hkind := kind_ne_error_of_concerns (concerns_of_isFaulty hfaulty)
  rw [handle, actions_eq]
  simp [hfaulty, hrefuses, hkind, Handling.perform]

/-- Whatever the sink refuses, and whether or not the refusal is contained, the store comes out
as with a sink that takes every report, unless the event carries data with errors and the report
of that is refused.  Then the update is not made at all. -/
theorem store_handle_eq_accepting_iff :
    (((event.handle sink tracked store).contain sink).store =
        (event.handle .accepting tracked store).store ↔
      ¬ (event.isFaulty tracked = true ∧ sink.refuses .parseErrors = true)) ∧
    ((event.handle sink tracked store).contain sink).store =
      (event.handle sink tracked store).store ∧
    (event.isFaulty tracked = true ∧ sink.refuses .parseErrors = true →
      event.handle sink tracked store = { store, refused := some .parseErrors }) := by
  refine ⟨?_, by simp, fun h => event.handle_of_refused sink tracked store h.1 h.2⟩
  rw [Handling.store_contain]
  by_cases hlost : event.isFaulty tracked = true ∧ sink.refuses .parseErrors = true
  · have hraised : (event.handle .accepting tracked store).store.generation =
        store.generation + 1 := by
      rw [store_handle_accepting, if_pos (concerns_of_isFaulty hlost.1)]
      rfl
    have hkept : (event.handle sink tracked store).store = store := by
      rw [event.handle_of_refused sink tracked store hlost.1 hlost.2]
    -- The generation tells the two stores apart, whatever records they hold.
    constructor
    · intro hsame
      rw [← hsame, hkept] at hraised
      simp at hraised
    · intro hnot
      exact absurd hlost hnot
  · have htaken :
        ¬ (event.isFaulty tracked = true ∧ Sink.accepting.refuses .parseErrors = true) := by
      simp
    have hsame : (event.handle sink tracked store).store =
        (event.handle .accepting tracked store).store := by
      rw [store_handle, store_handle, if_neg hlost, if_neg htaken]
    exact ⟨fun _ => hlost, fun _ => hsame⟩

end Refused

/-- One user is given, next to an entry that does not read, and the sink refuses to count that. -/
theorem refused_parse_error_loses_update :
    let event : Event :=
      { kind := .modified
        object := some { name := "aws-auth", data := .ofList [("mapUsers", "[{userarn: a}, b]")] } }
    let sink : Sink := ⟨fun counter => counter = .parseErrors⟩
    ((event.handle sink "aws-auth" .empty).store.tables.find? .user "a").isNone = true ∧
      ((event.handle .accepting "aws-auth" .empty).store.tables.find? .user "a").isSome = true ∧
      (event.handle sink "aws-auth" .empty).store ≠
        (event.handle .accepting "aws-auth" .empty).store := by
  intro event sink
  refine ⟨by decide +kernel, by decide +kernel, ?_⟩
  intro hsame
  have hgeneration := congrArg Store.generation hsame
  revert hgeneration
  decide +kernel

end Event

end IdentityMap
