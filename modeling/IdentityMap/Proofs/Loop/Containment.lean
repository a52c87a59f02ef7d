import IdentityMap.Proofs.Loop.Grammar
import IdentityMap.Proofs.Loop.Refusal

/-!
# Events whose handling is cut short

A sink that refuses a report cuts the handling of an event short.  As long as watch errors are
counted, this stays with the event: the store is the one before the event or the one that the
event asks for, one watch error is counted, and the events after it are handled from that store as
if nothing had happened.
-/

namespace IdentityMap

open Relation (ReflTransGen)

/-! ## One event -/

namespace Event

def contained [Dialect] (event : Event) (sink : Sink) (tracked : String) (store : Store) :
    Handling :=
  (event.handle sink tracked store).contain sink

variable [Dialect] (event : Event) (sink : Sink) (tracked : String) (store : Store)

theorem act_replacement :
    Handling.act store event.replacement = ⟨event.tables, store.generation + 1⟩ := by
  obtain ⟨kind, object, message⟩ := event
  cases kind <;> cases object <;> rfl

theorem perform_replacement (actions : List Action) :
    Handling.perform sink store (event.replacement :: actions) =
      Handling.perform sink ⟨event.tables, store.generation + 1⟩ actions := by
  rw [← act_replacement]
  unfold replacement
  split <;> rfl

theorem handle_eq :
    event.handle sink tracked store =
      if event.kind = .error then
        if sink.refuses .watchErrors then { store, refused := some .watchErrors }
        else { store, counted := [.watchErrors] }
      else if event.concerns tracked then
        if event.isFaulty tracked ∧ sink.refuses .parseErrors then
          { store, refused := some .parseErrors }
        else
          let store : Store := ⟨event.tables, store.generation + 1⟩
          let counted := if event.isFaulty tracked then [Counter.parseErrors] else []
          if sink.refuses .replaces then { store, counted, refused := some .replaces }
          else { store, counted := counted ++ [.replaces] }
      else { store } := by
  rw [handle, actions_eq]
  by_cases hconcerns : event.concerns tracked = true
  · have hkind := kind_ne_error_of_concerns hconcerns
    cases hfaulty : event.isFaulty tracked <;> cases hparse : sink.refuses .parseErrors <;>
      cases hreplace : sink.refuses .replaces <;>
      simp [hkind, hconcerns, hparse, hreplace, perform_replacement, Handling.perform,
        Handling.afterCount]
  · have hfaulty : event.isFaulty tracked = false := by
      rw [Bool.eq_false_iff]
      exact mt concerns_of_isFaulty hconcerns
    by_cases hkind : event.kind = .error <;> cases hrefuses : sink.refuses .watchErrors <;>
      simp [hkind, hconcerns, hfaulty, hrefuses, Handling.perform, Handling.afterCount]

structure Contains : Prop where
  /-- The refusal does not get out. -/
  refused : (event.contained sink tracked store).refused = none
  /-- It is counted once, in addition to the count of an error event. -/
  watchErrors : (event.contained sink tracked store).counted.count .watchErrors =
    (if event.kind = .error then 1 else 0) +
      (if (event.handle sink tracked store).refused.isSome then 1 else 0)
  /-- No replacement is counted along with it. -/
  replaces : (event.handle sink tracked store).refused.isSome = true →
    (event.contained sink tracked store).counted.count .replaces = 0
  /-- The store is untouched or replaced as a whole, by the counter that was refused. -/
  stored : ∀ counter, (event.handle sink tracked store).refused = some counter →
    counter = .parseErrors ∧ (event.contained sink tracked store).store = store ∨
      counter = .replaces ∧
        (event.contained sink tracked store).store = ⟨event.tables, store.generation + 1⟩
  /-- Without a refusal the event is handled as with a sink that takes every report. -/
  unrefused : (event.handle sink tracked store).refused = none →
    event.contained sink tracked store = event.handle .accepting tracked store

variable {sink} in
theorem contains_of_taken (htaken : sink.refuses .watchErrors = false) :
    event.Contains sink tracked store := by
  by_cases hkind : event.kind = .error
  · have hhandle : event.handle sink tracked store = { store, counted := [.watchErrors] } := by
      rw [handle_eq, if_pos hkind, htaken]
      rfl
    constructor <;> simp [contained, hhandle, hkind, handle_eq]
  by_cases hconcerns : event.concerns tracked = true
  · by_cases hlost : event.isFaulty tracked = true ∧ sink.refuses .parseErrors = true
    · have hhandle := event.handle_of_refused sink tracked store hlost.1 hlost.2
      constructor <;> simp [contained, hhandle, hkind, Handling.contain, htaken]
    · cases hreplaces : sink.refuses .replaces <;> constructor <;>
        cases hfaulty : event.isFaulty tracked <;>
        simp_all [contained, handle_eq, Handling.contain]
  · have hhandle : event.handle sink tracked store = { store } := by
      rw [handle_eq, if_neg hkind, if_neg hconcerns]
    constructor <;> simp [contained, hhandle, hkind, hconcerns, handle_eq]

end Event

/-! ## The events of a stream -/

/-- The store after some events, each of which is handled from the store that the last one left. -/
def Setup.storeAfter [Dialect] (setup : Setup) (store : Store) (events : List Event) : Store :=
  events.foldl (fun store event =>
    (event.contained setup.sink setup.options.name store).store) store

def Setup.reading [Dialect] (setup : Setup) (state : State) (store : Store) (event : Event) :
    List Item :=
  .asked state store.stats :: .received (some event) ::
    (event.contained setup.sink setup.options.name store).counted.map .counted

def Setup.readings [Dialect] (setup : Setup) (state : State) : Store → List Event → List Item
  | _, [] => []
  | store, event :: rest =>
    setup.reading state store event ++
      setup.readings state (setup.storeAfter store [event]) rest

section Readings

variable [Dialect] (setup : Setup) (state : State) (store : Store) (event : Event)
  (events more : List Event)

theorem storeAfter_append :
    setup.storeAfter store (events ++ more) =
      setup.storeAfter (setup.storeAfter store events) more :=
  List.foldl_append

theorem readings_append :
    setup.readings state store (events ++ more) =
      setup.readings state store events ++
        setup.readings state (setup.storeAfter store events) more := by
  induction events generalizing store with
  | nil => rfl
  | cons event events ih =>
      rw [List.cons_append, Setup.readings, Setup.readings, ih, List.append_assoc]
      rfl

@[simp] theorem handled_readings : handled (setup.readings state store events) = events := by
  induction events generalizing store with
  | nil => rfl
  | cons event events ih => simp [Setup.readings, Setup.reading, ih]

end Readings

namespace Loop

section Runs

variable {setup : Setup} {loop next later : Loop} {worker : Worker} {stream : Stream}
  {delivered : Nat} {event : Event} {events more rest : List Event}

def afterAsking (stream : Stream) : Stream :=
  if stream.stopAfter = some 0 then stream.countDown.close else stream.countDown

theorem queue_afterAsking (stream : Stream) :
    (afterAsking stream).channel.queue = stream.channel.queue := by
  unfold afterAsking
  split <;> rfl

theorem closed_afterAsking (h : stream.channel.closed = true) :
    (afterAsking stream).channel.closed = true := by
  unfold afterAsking
  split
  · rfl
  · exact h

theorem ask_eq (loop : Loop) (worker : Worker) (stream : Stream) (delivered : Nat) :
    loop.ask worker stream delivered =
      { loop with
        running := loop.running && stream.stopAfter != some 0
        worker := some { worker with stage := .waiting (afterAsking stream) delivered }
        trace := loop.trace ++ [.asked loop.state loop.store.stats] } := by
  by_cases hstop : stream.stopAfter = some 0
  · simp [ask, afterAsking, hstop, record, goTo, requestStop, Stage.closeStream]
  · simp [ask, afterAsking, hstop, record, goTo]

variable [Dialect]

structure Consumed (setup : Setup) (loop : Loop) (events : List Event) (next : Loop) : Prop where
  works : Works setup loop next
  state : next.state = loop.state
  store : next.store = setup.storeAfter loop.store events
  trace : next.trace = loop.trace ++ setup.readings loop.state loop.store events

theorem Consumed.refl (setup : Setup) (loop : Loop) : Consumed setup loop [] loop :=
  ⟨.refl, rfl, rfl, (List.append_nil _).symm⟩

theorem Consumed.trans (h : Consumed setup loop events next)
    (h' : Consumed setup next more later) : Consumed setup loop (events ++ more) later := by
  refine ⟨h.works.trans h'.works, h'.state.trans h.state, ?_, ?_⟩
  · rw [storeAfter_append, ← h.store, h'.store]
  · rw [readings_append, ← h.store, h'.trace, h.trace, h.state, List.append_assoc]

theorem step_of_asking
    (hworker : loop.worker = some { worker with stage := .asking stream delivered }) :
    loop.step setup =
      some (loop.ask { worker with stage := .asking stream delivered } stream delivered) := by
  simp [step, hworker]

/-- A worker that is about to ask a stream with an event left reads that event, refused or not. -/
theorem exists_consumed_event (htaken : setup.sink.refuses .watchErrors = false)
    (hworker : loop.worker = some { worker with stage := .asking stream delivered })
    (hqueue : stream.channel.queue = event :: rest) :
    ∃ next left, Consumed setup loop [event] next ∧
      next.worker = some { worker with stage := .asking left (delivered + 1) } ∧
      left.channel.queue = rest ∧ (stream.channel.closed = true → left.channel.closed = true) := by
  let left : Stream :=
    { afterAsking stream with channel := { (afterAsking stream).channel with queue := rest } }
  let asked := loop.ask { worker with stage := .asking stream delivered } stream delivered
  have hasked : asked = { loop with
      running := loop.running && stream.stopAfter != some 0
      worker := some { worker with stage := .waiting (afterAsking stream) delivered }
      trace := loop.trace ++ [.asked loop.state loop.store.stats] } := ask_eq _ _ _ _
  have hcontained := (event.contains_of_taken setup.options.name loop.store htaken).refused
  have hreceived : asked.step setup = some (asked.receive setup
      { worker with stage := .waiting (afterAsking stream) delivered } left delivered event) := by
    simp [step, hasked, Channel.next, queue_afterAsking, hqueue, left]
  have hnext : asked.receive setup { worker with stage := .waiting (afterAsking stream) delivered }
      left delivered event =
        { asked with
          store := setup.storeAfter loop.store [event]
          worker := some { worker with stage := .asking left (delivered + 1) }
          trace := loop.trace ++ setup.reading loop.state loop.store event } := by
    unfold Event.contained at hcontained
    simp [receive, hasked, hcontained, record, goTo, Setup.storeAfter, Setup.reading,
      Event.contained]
  rw [hnext] at hreceived
  refine ⟨_, left, ⟨.head (step_of_asking hworker) (.single hreceived), ?_, rfl, ?_⟩, rfl, rfl,
    closed_afterAsking⟩
  · change asked.state = loop.state
    rw [hasked]
  · simp [Setup.readings]

/-- A worker that is about to ask a stream reads all its events in order, refused or not. -/
theorem exists_consumed (htaken : setup.sink.refuses .watchErrors = false)
    (hworker : loop.worker = some { worker with stage := .asking stream delivered }) :
    ∃ next left, Consumed setup loop stream.channel.queue next ∧
      next.worker = some
        { worker with stage := .asking left (delivered + stream.channel.queue.length) } ∧
      left.channel.queue = [] ∧ (stream.channel.closed = true → left.channel.closed = true) := by
  induction hqueue : stream.channel.queue generalizing loop stream delivered with
  | nil => exact ⟨loop, stream, .refl setup loop, hworker, hqueue, id⟩
  | cons event rest ih =>
      obtain ⟨next, left, hevent, hasking, hleft, hclosed⟩ :=
        exists_consumed_event htaken hworker hqueue
      obtain ⟨later, last, hrest, hlast, hempty, hended⟩ := ih hasking hleft
      refine ⟨later, last, hevent.trans hrest, ?_, hempty, hended ∘ hclosed⟩
      rw [hlast, List.length_cons, Nat.add_assoc, Nat.add_comm 1]

/-- As long as watch errors are counted, a worker reads all events of its stream in order, and
knows how many they were when it releases the stream.  A refusal leaves one watch error and a store
that is either untouched or replaced as a whole.  The events after it are read just like those of
a stream that any other loop opens with that store. -/
theorem consume_contains_refusals (htaken : setup.sink.refuses .watchErrors = false)
    (hworker : loop.worker = some { worker with stage := .asking stream 0 })
    (hevents : stream.channel.queue = events) :
    ∃ next last left, Consumed setup loop events next ∧
      handled next.trace = handled loop.trace ++ events ∧ next.step setup = some last ∧
      last.store = next.store ∧
      last.worker = some { worker with stage := .waiting left events.length } ∧
      left.channel.queue = [] ∧
      (stream.channel.closed = true → last.step setup = some (last.release setup
        { worker with stage := .waiting left events.length } events.length)) ∧
      ∀ before event after, events = before ++ event :: after →
        let store := setup.storeAfter loop.store before
        event.Contains setup.sink setup.options.name store ∧
        ∀ (other : Loop) (fresh : Worker) (stream : Stream),
          other.worker = some { fresh with stage := .asking stream 0 } →
          stream.channel.queue = after → other.state = loop.state →
          other.store = (event.contained setup.sink setup.options.name store).store →
            ∃ later items, Consumed setup other after later ∧ later.store = next.store ∧
              later.trace = other.trace ++ items ∧
              next.trace = loop.trace ++ setup.readings loop.state loop.store before ++
                setup.reading loop.state store event ++ items := by
  obtain ⟨next, left, hconsumed, hasking, hempty, hclosed⟩ := exists_consumed htaken hworker
  rw [hevents] at hconsumed hasking
  rw [Nat.zero_add] at hasking
  refine ⟨next, _, afterAsking left, hconsumed, ?_, step_of_asking hasking, ?_, ?_, ?_, ?_, ?_⟩
  · rw [hconsumed.trace, handled_append, handled_readings]
  · rw [ask_eq]
  · rw [ask_eq]
  · rw [queue_afterAsking, hempty]
  · intro hended
    have hlast := closed_afterAsking (hclosed hended)
    simp [step, ask_eq, Channel.next, queue_afterAsking, hempty, hlast]
  · rintro before event after rfl
    refine ⟨event.contains_of_taken _ _ htaken, ?_⟩
    intro other fresh stream hother hafter hstate hstore
    obtain ⟨later, -, hlater, -⟩ := exists_consumed htaken hother
    rw [hafter] at hlater
    refine ⟨later, setup.readings other.state other.store after, hlater, ?_, hlater.trace, ?_⟩
    · rw [hlater.store, hstore, hconsumed.store, storeAfter_append]
      rfl
    · rw [hconsumed.trace, readings_append, hstate, hstore, List.append_assoc, List.append_assoc]
      rfl

end Runs

/-- An account, an update with an entry that does not read, and another account. -/
def interrupted : List Event :=
  let update (data : List (String × String)) : Event :=
    { kind := .modified, object := some { name := "aws-auth", data := .ofList data } }
  [update [("mapAccounts", "['1']")], update [("mapUsers", "[{userarn: a}, b]")],
    update [("mapAccounts", "['2']")]]

/-- A sink refuses to count that an update has errors.  Only that update is lost. -/
theorem consume_contains_refusals_of_interrupted :
    let setup : Setup := { sink := ⟨fun counter => counter = .parseErrors⟩ }
    let opened := ((withStream interrupted).start setup 1).advance setup (fun _ => false) 1
    ∃ next, Works setup opened next ∧ handled next.trace = interrupted ∧
      next.store.generation = 2 ∧ next.store.tables.hasAccount "2" = true ∧
      reported .watchErrors next.trace = 1 ∧ reported .replaces next.trace = 2 := by
  intro setup opened
  let worker : Worker := { backoff := .ofPolicy setup.options.backoff 1, connected := true }
  let stream : Stream := { channel := { queue := interrupted, closed := true } }
  have hworker : opened.worker = some { worker with stage := .asking stream 0 } := rfl
  have htaken : setup.sink.refuses .watchErrors = false := rfl
  obtain ⟨next, -, -, hconsumed, hhandled, -⟩ := consume_contains_refusals htaken hworker rfl
  have htrace := hconsumed.trace
  have hstore := hconsumed.store
  refine ⟨next, hconsumed.works, hhandled, ?_, ?_, ?_, ?_⟩
  · rw [hstore]
    decide +kernel
  · rw [hstore]
    decide +kernel
  · rw [htrace]
    decide +kernel
  · rw [htrace]
    decide +kernel

end Loop

end IdentityMap
