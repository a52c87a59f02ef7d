import IdentityMap.Proofs.Loop.Moves

/-!
# Loops without their counts

Two runs of a loop whose sinks refuse different reports may differ in what is counted and, since a
refusal may keep an update from the store, in what is stored.  `bare` leaves out both.  Apart from
them, a step whose reports are taken, or whose refusals are contained, leads where it leads with a
sink that takes every report.
-/

namespace IdentityMap

/-! ## Leaving out the store and the counts -/

/-- What can be seen, except for reports and for what is in the store. -/
def Item.bare : Item → Option Item
  | .counted _ => none
  | .asked state _ => some (.asked state Store.empty.stats)
  | item => some item

theorem Item.bare_of_bare {item kept : Item} (h : item.bare = some kept) :
    kept.bare = some kept := by
  cases item <;> cases h <;> rfl

theorem filterMap_bare_idem (items : List Item) :
    (items.filterMap Item.bare).filterMap Item.bare = items.filterMap Item.bare := by
  rw [List.filterMap_filterMap]
  congr 1
  funext item
  cases hbare : item.bare with
  | none => rfl
  | some kept => exact Item.bare_of_bare hbare

@[simp] theorem filterMap_bare_counted (counters : List Counter) :
    (counters.map Item.counted).filterMap Item.bare = [] := by
  simp [Item.bare]

/-- A view that looks at neither the store nor the counts sees the same without them. -/
theorem filterMap_filterMap_bare {α : Type} {view : Item → Option α}
    (h : ∀ item, item.bare.bind view = view item) (trace : List Item) :
    (trace.filterMap Item.bare).filterMap view = trace.filterMap view := by
  rw [List.filterMap_filterMap]
  congr 1
  exact funext h

@[simp] theorem handled_filterMap_bare (trace : List Item) :
    handled (trace.filterMap Item.bare) = handled trace :=
  filterMap_filterMap_bare (fun item => by cases item <;> rfl) trace

@[simp] theorem openings_filterMap_bare (trace : List Item) :
    openings (trace.filterMap Item.bare) = openings trace := by
  rw [openings, List.countP_filterMap, openings]
  congr 1
  funext item
  cases item <;> rfl

def Setup.accepting (setup : Setup) : Setup :=
  { setup with sink := .accepting }

namespace Loop

variable {setup : Setup} {loop : Loop} {worker : Worker}

def bare (loop : Loop) : Loop :=
  { loop with store := .empty, trace := loop.trace.filterMap Item.bare }

@[simp] theorem script_bare : loop.bare.script = loop.script :=
  rfl

@[simp] theorem state_bare : loop.bare.state = loop.state :=
  rfl

@[simp] theorem running_bare : loop.bare.running = loop.running :=
  rfl

@[simp] theorem worker_bare : loop.bare.worker = loop.worker :=
  rfl

@[simp] theorem bare_bare (loop : Loop) : loop.bare.bare = loop.bare := by
  simp [bare, filterMap_bare_idem]

@[simp] theorem bare_record (items : List Item) :
    (loop.record items).bare = loop.bare.record (items.filterMap Item.bare) := by
  simp [bare, record]

@[simp] theorem record_nil : loop.record [] = loop := by
  simp [record]

@[simp] theorem bare_goTo (stage : Stage) :
    (loop.goTo worker stage).bare = loop.bare.goTo worker stage :=
  rfl

@[simp] theorem bare_requestStop : loop.requestStop.bare = loop.bare.requestStop :=
  rfl

@[simp] theorem bare_halt : (loop.halt worker).bare = loop.bare.halt worker :=
  rfl

@[simp] theorem bare_pause : (loop.pause worker).bare = loop.bare.pause worker := by
  simp [pause, Item.bare]

theorem bare_callStop : loop.callStop.bare = loop.bare.callStop := by
  simp [callStop, Item.bare]

theorem bare_join : loop.join.bare = loop.bare.join := by
  unfold join
  cases hworker : loop.worker.map Worker.stage with
  | none => simp [hworker]
  | some stage =>
      cases stage with
      | ended => simp [hworker, bare]
      | _ => simp [hworker]

theorem bare_start (seed : UInt32) :
    (loop.start setup seed).bare = loop.bare.start setup.accepting seed := by
  cases hrunning : loop.running with
  | true => simp [start, record, bare, hrunning, Item.bare]
  | false =>
      cases hworker : loop.worker <;>
        simp [start, record, bare, goTo, hrunning, hworker, Item.bare, Setup.accepting]

/-! ## Steps -/

theorem bare_fail (reason : String) :
    (loop.fail setup worker reason).bare = loop.bare.fail setup.accepting worker reason := by
  have hitems : (setup.handler.items reason).filterMap Item.bare =
      setup.handler.items reason := by
    cases setup.handler <;> rfl
  simp [fail_eq, bare, Setup.accepting, hitems]

theorem bare_afterRefusal (reason : String) :
    (loop.afterRefusal setup worker reason).bare =
      loop.bare.afterRefusal setup.accepting worker reason := by
  have hfail : ∀ (worker : Worker) (message : String),
      ((loop.record [.health .fail]).fail setup worker message).bare =
        (loop.bare.record [.health .fail]).fail setup.accepting worker message := by
    intro worker message
    rw [bare_fail, bare_record]
    rfl
  by_cases hconnected : worker.connected = true
  · by_cases hspent : 0 < setup.options.maxReopenAttempts ∧
        setup.options.maxReopenAttempts ≤ worker.failures + 1
    · simp [afterRefusal, hconnected, hspent, hfail, Setup.accepting]
    · simp [afterRefusal, hconnected, hspent, Setup.accepting, Item.bare]
  · simp [afterRefusal, hconnected, hfail]

theorem bare_count {counter : Counter} {go : Loop → Loop}
    (htaken : setup.sink.refuses counter = false) (hgo : ∀ loop, (go loop).bare = go loop.bare) :
    (loop.count setup worker counter go).bare = go loop.bare := by
  simp [count, htaken, hgo, Item.bare, List.filterMap_cons]

theorem bare_afterOpening (htaken : setup.sink.refuses .watchOpens = false) (stream : Stream) :
    (loop.afterOpening setup worker stream).bare =
      { loop.bare.record [.health .success] with state := .watching }.goTo
        { worker with connected := true, failures := 0 }
        (.asking (if loop.running then stream else stream.close) 0) := by
  rw [afterOpening, bare_count htaken]
  · rw [bare_record]
    rfl
  · intro loop
    rfl

theorem bare_openWatch (hworker : loop.worker = some worker) (hstage : worker.stage = .deciding)
    (hrunning : loop.running = true)
    (htaken : ∀ stream, (attemptAt loop.script 0).outcome = .opened stream →
      setup.sink.refuses .watchOpens = false) :
    (loop.openWatch setup worker).bare = (loop.bare.openWatch setup.accepting worker).bare := by
  have hopening : (loop.bare.opening setup.accepting).bare = (loop.opening setup).bare := by
    simp [opening, bare, filterMap_bare_idem, Setup.accepting]
  have hkept : loop.bare.worker = some worker := hworker
  rw [openWatch_eq hworker hstage hrunning, openWatch_eq hkept hstage hrunning, script_bare]
  cases houtcome : (attemptAt loop.script 0).outcome with
  | refused reason =>
      simp only [bare_afterRefusal, hopening]
      rfl
  | opened stream =>
      have haccepted : setup.accepting.sink.refuses .watchOpens = false := rfl
      simp only [bare_afterOpening (htaken stream houtcome), bare_afterOpening haccepted, hopening]
      rfl

theorem bare_ask (stream : Stream) (delivered : Nat) :
    (loop.ask worker stream delivered).bare = (loop.bare.ask worker stream delivered).bare := by
  unfold ask
  split <;> simp [Item.bare]

theorem bare_receive [Dialect] {stream : Stream} {delivered : Nat} {event : Event}
    (hcontained : ((event.handle setup.sink setup.options.name loop.store).contain
      setup.sink).refused = none) :
    (loop.receive setup worker stream delivered event).bare =
      (loop.bare.record [.received (some event)]).goTo worker (.asking stream (delivered + 1)) := by
  simp only [receive, hcontained]
  simp [bare, record, goTo, Item.bare]

theorem bare_release (htaken : setup.sink.refuses .watchCloses = false) (delivered : Nat) :
    (loop.release setup worker delivered).bare =
      (loop.bare.release setup.accepting worker delivered).bare := by
  have haccepted : setup.accepting.sink.refuses .watchCloses = false := rfl
  rw [release, release, bare_count htaken, bare_count haccepted]
  · simp
  all_goals
    intro loop
    cases hrunning : loop.running <;> by_cases hdelivered : 0 < delivered <;>
      simp [hrunning, hdelivered]

end Loop

end IdentityMap
