import Mathlib.Logic.Relation
import IdentityMap.Proofs.Loop.Turn

/-!
# Moves of a loop

Between two calls to start it, a loop proceeds by steps of its worker and by the calls of its
owner to stop it.  A call to stop is a request followed by the worker's own steps and a join, so
that everything can be seen that happens in its course.

A trace is read through a few views: the events that were handled, and how often a watch was
opened and a stream released.  What a move does to these views depends only on whether it opens
a watch (`Opens`) or not (`Continues`); the history of a run is a sum of the two.
-/

namespace IdentityMap

open Relation (ReflTransGen)

/-! ## Views of a trace -/

namespace Item

@[simp] def event? : Item → Option Event
  | received event => event
  | _ => none

@[simp] def isOpening : Item → Bool
  | opening _ _ _ => true
  | _ => false

@[simp] def isClosing : Item → Bool
  | counted .watchCloses => true
  | _ => false

@[simp] def fatal? : Item → Option (String × State)
  | fatal reason state => some (reason, state)
  | _ => none

end Item

def handled (trace : List Item) : List Event :=
  trace.filterMap Item.event?

def openings (trace : List Item) : Nat :=
  trace.countP Item.isOpening

def closings (trace : List Item) : Nat :=
  trace.countP Item.isClosing

def fatals (trace : List Item) : List (String × State) :=
  trace.filterMap Item.fatal?

section Views

variable (trace items : List Item) (item : Item)

@[simp] theorem handled_nil : handled [] = [] :=
  rfl

@[simp] theorem handled_cons : handled (item :: items) = item.event?.toList ++ handled items := by
  rw [handled, List.filterMap_cons]
  cases item.event? <;> rfl

@[simp] theorem handled_append : handled (trace ++ items) = handled trace ++ handled items :=
  List.filterMap_append

@[simp] theorem openings_nil : openings [] = 0 :=
  rfl

@[simp] theorem openings_cons :
    openings (item :: items) = openings items + if item.isOpening then 1 else 0 :=
  List.countP_cons

@[simp] theorem openings_append : openings (trace ++ items) = openings trace + openings items :=
  List.countP_append

@[simp] theorem closings_nil : closings [] = 0 :=
  rfl

@[simp] theorem closings_cons :
    closings (item :: items) = closings items + if item.isClosing then 1 else 0 :=
  List.countP_cons

@[simp] theorem closings_append : closings (trace ++ items) = closings trace + closings items :=
  List.countP_append

@[simp] theorem fatals_nil : fatals [] = [] :=
  rfl

@[simp] theorem fatals_cons : fatals (item :: items) = item.fatal?.toList ++ fatals items := by
  rw [fatals, List.filterMap_cons]
  cases item.fatal? <;> rfl

@[simp] theorem fatals_append : fatals (trace ++ items) = fatals trace ++ fatals items :=
  List.filterMap_append

end Views

/-! ## What turns leave in a trace -/

section Items

variable (reason : String) (handler : FatalHandler)

@[simp] theorem handled_handler : handled (handler.items reason) = [] := by
  cases handler <;> rfl

@[simp] theorem openings_handler : openings (handler.items reason) = 0 := by
  cases handler <;> rfl

@[simp] theorem closings_handler : closings (handler.items reason) = 0 := by
  cases handler <;> rfl

variable [Dialect] (event : Event) (tracked : String) (store : Store)

@[simp] theorem handled_items : handled (event.items tracked store) = [] := by
  simp [handled, Event.items]

@[simp] theorem openings_items : openings (event.items tracked store) = 0 := by
  simp [openings, Event.items]

@[simp] theorem closings_items : closings (event.items tracked store) = 0 := by
  obtain ⟨-, hcloses⟩ := event.counted_handle_accepting tracked store
  simp only [closings, Event.items, List.countP_eq_zero, List.mem_map]
  rintro item ⟨counter, hcounter, rfl⟩
  cases counter <;> simp_all

@[simp] theorem fatals_items : fatals (event.items tracked store) = [] := by
  simp [fatals, Event.items]

end Items

/-! ## The stream at hand -/

@[simp] theorem Stream.channel_countDown (stream : Stream) :
    stream.countDown.channel = stream.channel :=
  rfl

@[simp] theorem Stream.channel_close (stream : Stream) :
    stream.close.channel = stream.channel.close :=
  rfl

def Attempt.events (attempt : Attempt) : List Event :=
  match attempt.outcome with
  | .refused _ => []
  | .opened stream => stream.channel.queue

def Stage.stream? : Stage → Option Stream
  | .asking stream _ | .waiting stream _ => some stream
  | _ => none

namespace Loop

def stream? (loop : Loop) : Option Stream :=
  loop.worker.bind fun worker => worker.stage.stream?

def queued (loop : Loop) : List Event :=
  loop.stream?.elim [] fun stream => stream.channel.queue

def held (loop : Loop) : Nat :=
  loop.stream?.elim 0 fun _ => 1

/-! ## Moves -/

def callStop (loop : Loop) : Loop :=
  (loop.record [.stop loop.state]).requestStop

/-- What happens to a loop between two calls to start it. -/
inductive Proceeds [Dialect] (setup : Setup) (loop : Loop) : Loop → Prop
  | work {next : Loop} (hstep : loop.step setup = some next) : Proceeds setup loop next
  | callStop : Proceeds setup loop loop.callStop
  | join (hrunning : loop.running = false) : Proceeds setup loop loop.join

inductive Moves [Dialect] (setup : Setup) (loop : Loop) : Loop → Prop
  | proceed {next : Loop} (hproceeds : Proceeds setup loop next) : Moves setup loop next
  | start (seed : UInt32) : Moves setup loop (loop.start setup seed)

abbrev Works [Dialect] (setup : Setup) : Loop → Loop → Prop :=
  ReflTransGen fun loop next => loop.step setup = some next

def crashed (loop : Loop) : Prop :=
  ∃ worker cause, loop.worker = some worker ∧ worker.stage = .aborted cause

/-- What can become of a loop in the course of any calls of its owner. -/
abbrev Reaches [Dialect] (setup : Setup) : Loop → Loop → Prop :=
  ReflTransGen (Moves setup)

/-- A move that opens no watch.  The events that are handled or at hand stay the same, and so do
the streams that are released or at hand. -/
structure Continues (loop next : Loop) : Prop where
  script : next.script = loop.script
  openings : openings next.trace = openings loop.trace
  delivery : handled next.trace ++ next.queued = handled loop.trace ++ loop.queued
  release : closings next.trace + next.held = closings loop.trace + loop.held

/-- A move that asks the client for a watch.  The events of the attempt come to hand. -/
structure Opens (loop next : Loop) : Prop where
  running : loop.running = true
  deciding : ∃ worker, loop.worker = some worker ∧ worker.stage = .deciding
  script : next.script = loop.script.tail
  openings : openings next.trace = openings loop.trace + 1
  handled : handled next.trace = handled loop.trace
  queued : next.queued = (attemptAt loop.script 0).events
  closings : closings next.trace = closings loop.trace

variable {setup : Setup} {loop next : Loop} {worker : Worker}

theorem Opens.stream?_eq_none (h : Opens loop next) : loop.stream? = none := by
  obtain ⟨worker, hworker, hstage⟩ := h.deciding
  simp [stream?, hworker, hstage, Stage.stream?]

theorem continues_or_opens_of_turn [Dialect] (hworker : loop.worker = some worker)
    (h : Turn setup loop worker next) : Continues loop next ∨ Opens loop next := by
  cases h with
  | halt hstage hrunning | wake hstage =>
      left
      constructor <;> simp [queued, held, stream?, hworker, hstage, Stage.stream?]
  | giveUp hstage hrunning houtcome _ | retry hstage hrunning houtcome _ _ =>
      right
      constructor <;>
        simp [queued, stream?, hworker, hstage, hrunning, Stage.stream?, houtcome, Attempt.events]
  | opened hstage hrunning houtcome =>
      right
      constructor <;>
        simp [queued, stream?, hworker, hstage, hrunning, Stage.stream?, houtcome, Attempt.events]
      split <;> rfl
  | ask hstage =>
      left
      constructor <;> simp [queued, held, stream?, hworker, hstage, Stage.stream?]
      split <;> rfl
  | receive hstage hqueue | leave hstage hqueue _ _ | reopen hstage hqueue _ _ _ =>
      left
      constructor <;> simp [queued, held, stream?, hworker, hstage, Stage.stream?, hqueue]

/-! ## Calls of the owner -/

section Start

variable (seed : UInt32)

@[simp] theorem store_start : (loop.start setup seed).store = loop.store := by
  unfold start
  cases hworker : loop.worker <;> cases hrunning : loop.running <;>
    simp [record, goTo, hworker, hrunning]

@[simp] theorem script_start : (loop.start setup seed).script = loop.script := by
  unfold start
  cases hworker : loop.worker <;> cases hrunning : loop.running <;>
    simp [record, goTo, hworker, hrunning]

@[simp] theorem trace_start :
    (loop.start setup seed).trace = loop.trace ++ [.start loop.state] := by
  unfold start
  cases hworker : loop.worker <;> cases hrunning : loop.running <;>
    simp [record, goTo, hworker, hrunning]

@[simp] theorem running_start : (loop.start setup seed).running = true := by
  unfold start
  cases hworker : loop.worker <;> cases hrunning : loop.running <;>
    simp [record, goTo, hworker, hrunning]

theorem start_of_running (hrunning : loop.running = true) :
    loop.start setup seed = loop.record [.start loop.state] := by
  simp [start, record, hrunning]

theorem start_of_idle (hrunning : loop.running = false) (hworker : loop.worker = none) :
    loop.start setup seed =
      { loop with
        running := true
        worker := some { backoff := .ofPolicy setup.options.backoff seed }
        trace := loop.trace ++ [.start loop.state] } := by
  simp [start, record, hrunning, hworker]

theorem start_of_unjoined (hrunning : loop.running = false) (hworker : loop.worker = some worker) :
    loop.start setup seed =
      { loop with
        running := true
        worker := some { worker with stage := .aborted .workerReplaced }
        trace := loop.trace ++ [.start loop.state] } := by
  simp [start, record, goTo, hrunning, hworker]

theorem start_cases (setup : Setup) (loop : Loop) :
    loop.running = true ∧ loop.start setup seed = loop.record [.start loop.state] ∨
      loop.running = false ∧ loop.worker = none ∧
        loop.start setup seed =
          { loop with
            running := true
            worker := some { backoff := .ofPolicy setup.options.backoff seed }
            trace := loop.trace ++ [.start loop.state] } ∨
      loop.running = false ∧ ∃ worker, loop.worker = some worker ∧
        loop.start setup seed =
          { loop with
            running := true
            worker := some { worker with stage := .aborted .workerReplaced }
            trace := loop.trace ++ [.start loop.state] } := by
  cases hrunning : loop.running with
  | true => exact .inl ⟨rfl, start_of_running seed hrunning⟩
  | false =>
      right
      cases hworker : loop.worker with
      | none => exact .inl ⟨rfl, rfl, start_of_idle seed hrunning hworker⟩
      | some worker => exact .inr ⟨rfl, worker, rfl, start_of_unjoined seed hrunning hworker⟩

end Start

@[simp] theorem trace_callStop : loop.callStop.trace = loop.trace ++ [.stop loop.state] :=
  rfl

@[simp] theorem stream?_callStop : loop.callStop.stream? = loop.stream?.map Stream.close := by
  cases hworker : loop.worker with
  | none => simp [stream?, callStop, record, requestStop, hworker]
  | some worker =>
      cases hstage : worker.stage <;>
        simp [stream?, callStop, record, requestStop, hworker, hstage, Stage.closeStream,
          Stage.stream?]

section Join

@[simp] theorem store_join : loop.join.store = loop.store := by
  unfold join
  split <;> rfl

@[simp] theorem script_join : loop.join.script = loop.script := by
  unfold join
  split <;> rfl

@[simp] theorem state_join : loop.join.state = loop.state := by
  unfold join
  split <;> rfl

@[simp] theorem running_join : loop.join.running = loop.running := by
  unfold join
  split <;> rfl

@[simp] theorem fatalError_join : loop.join.fatalError = loop.fatalError := by
  unfold join
  split <;> rfl

@[simp] theorem trace_join : loop.join.trace = loop.trace := by
  unfold join
  split <;> rfl

theorem worker_join (loop : Loop) :
    loop.join.worker = loop.worker ∨
      loop.join.worker = none ∧ ∃ worker, loop.worker = some worker ∧ worker.stage = .ended := by
  cases hworker : loop.worker with
  | none => exact .inl (by simp [join, hworker])
  | some worker =>
      cases hstage : worker.stage with
      | ended => exact .inr ⟨by simp [join, hworker, hstage], worker, rfl, hstage⟩
      | _ => exact .inl (by simp [join, hworker, hstage])

@[simp] theorem stream?_join : loop.join.stream? = loop.stream? := by
  rcases loop.worker_join with hsame | ⟨hnone, worker, hworker, hstage⟩
  · rw [stream?, hsame, stream?]
  · simp [stream?, hnone, hworker, hstage, Stage.stream?]

end Join

theorem continues_callStop : Continues loop loop.callStop := by
  constructor
  · rfl
  · simp
  · cases h : loop.stream? <;> simp [queued, h]
  · cases h : loop.stream? <;> simp [held, h]

theorem continues_join : Continues loop loop.join := by
  constructor <;> simp [queued, held]

variable [Dialect]

theorem Proceeds.continues_or_opens (hsink : setup.sink = .accepting)
    (h : Proceeds setup loop next) : Continues loop next ∨ Opens loop next := by
  cases h with
  | work hstep =>
      obtain ⟨worker, hworker, hturn⟩ := turn_of_step hsink hstep
      exact continues_or_opens_of_turn hworker hturn
  | callStop => exact .inl continues_callStop
  | join _ => exact .inl continues_join

/-! ## Whole calls -/

theorem works_advance (setup : Setup) (condition : Loop → Bool) (steps : Nat) (loop : Loop) :
    Works setup loop (loop.advance setup condition steps) := by
  induction steps generalizing loop with
  | zero => exact .refl
  | succ steps ih =>
      rw [advance]
      split
      · exact .refl
      · split
        · rename_i next hstep
          exact .head hstep (ih next)
        · exact .refl

theorem works_settle (setup : Setup) (loop : Loop) : Works setup loop (loop.settle setup) :=
  works_advance setup _ _ loop

theorem proceeds_of_works (h : Works setup loop next) : ReflTransGen (Proceeds setup) loop next :=
  ReflTransGen.mono (fun _ _ => Proceeds.work) _ _ h

theorem reaches_of_proceeds (h : ReflTransGen (Proceeds setup) loop next) :
    Reaches setup loop next :=
  ReflTransGen.mono (fun _ _ => Moves.proceed) _ _ h

theorem Proceeds.running_eq_false (hsink : setup.sink = .accepting) (h : Proceeds setup loop next)
    (hrunning : loop.running = false) : next.running = false := by
  cases h with
  | work hstep =>
      obtain ⟨worker, -, hturn⟩ := turn_of_step hsink hstep
      cases hturn <;> simp_all
  | callStop => rfl
  | join _ => exact running_join.trans hrunning

theorem running_eq_false_of_proceeds (hsink : setup.sink = .accepting)
    (h : ReflTransGen (Proceeds setup) loop next) (hrunning : loop.running = false) :
    next.running = false := by
  induction h with
  | refl => exact hrunning
  | tail _ hproceeds ih => exact hproceeds.running_eq_false hsink ih

theorem proceeds_stop (hsink : setup.sink = .accepting) (loop : Loop) :
    ReflTransGen (Proceeds setup) loop (loop.stop setup) := by
  have hsettled : ReflTransGen (Proceeds setup) loop.callStop (loop.callStop.settle setup) :=
    proceeds_of_works (works_settle setup _)
  exact .head .callStop
    (hsettled.tail (.join (running_eq_false_of_proceeds hsink hsettled rfl)))

end Loop

end IdentityMap
