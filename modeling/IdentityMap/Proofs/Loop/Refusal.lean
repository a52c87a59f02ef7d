import IdentityMap.Document.Text
import IdentityMap.Proofs.Handling
import IdentityMap.Proofs.Loop.Bare
import IdentityMap.Proofs.Loop.History
import IdentityMap.Proofs.Loop.Stopping

/-!
# Runs with a sink that refuses reports

A refused report ends the handling of an event, and this is contained: it is counted as a watch
error, and the next event follows.  Three reports are made outside of that: that a watch was
opened, that a stream was released, and the watch error itself.  A refusal of one of these ends the
whole process.  `Exposed` says where this happens.  Everywhere else a step leads where it leads
with a sink that takes every report, up to the store and the counts, so that what is known about
runs with such a sink holds here as well.
-/

namespace IdentityMap

open Relation (ReflTransGen)

/-! ## Refusals while an event is handled -/

namespace Handling

variable (sink : Sink)

theorem refused_perform (store : Store) (actions : List Action) :
    (perform sink store actions).refused.isSome = true ↔
      ∃ counter ∈ actions.filterMap counter?, sink.refuses counter = true := by
  induction actions generalizing store with
  | nil => simp [perform]
  | cons action rest ih =>
      cases action with
      | count counter =>
          have hcounter : counter? (.count counter) = some counter := rfl
          rw [List.filterMap_cons_some hcounter]
          cases hrefuses : sink.refuses counter with
          | true => simp [perform, hrefuses]
          | false =>
              have hrest := ih store
              simpa [perform, hrefuses, afterCount] using hrest
      | replace users roles accounts =>
          rw [perform, List.filterMap_cons_none rfl]
          exact ih _

theorem refused_contain (handling : Handling) :
    (handling.contain sink).refused =
      if handling.refused.isSome ∧ sink.refuses .watchErrors then some .watchErrors else none := by
  unfold contain
  cases hrefused : handling.refused with
  | none => simp [hrefused]
  | some counter => cases hrefuses : sink.refuses .watchErrors <;> simp

end Handling

theorem Event.refused_handle [Dialect] (event : Event) (sink : Sink) (tracked : String)
    (store : Store) :
    (event.handle sink tracked store).refused.isSome = true ↔
      ∃ counter ∈ event.reports tracked, sink.refuses counter = true := by
  have hreports : (event.actions tracked).filterMap Handling.counter? = event.reports tracked := by
    rw [← event.counted_handle tracked store, handle, Handling.perform_accepting]
  rw [handle, Handling.refused_perform, hreports]

/-! ## The end of the process -/

def Stage.isAborted : Stage → Bool
  | .aborted _ => true
  | _ => false

@[simp] theorem Stage.isAborted_closeStream (stage : Stage) :
    stage.closeStream.isAborted = stage.isAborted := by
  cases stage <;> rfl

namespace Loop

section Runs

variable {setup : Setup} {origin loop next : Loop} {worker : Worker} {seed : UInt32}

theorem crashed_iff_any :
    loop.crashed ↔ loop.worker.any (fun worker => worker.stage.isAborted) = true := by
  rw [Option.any_eq_true]
  constructor
  · rintro ⟨worker, cause, hworker, hstage⟩
    exact ⟨worker, hworker, by rw [hstage]; rfl⟩
  · rintro ⟨worker, hworker, haborted⟩
    cases hstage : worker.stage with
    | aborted cause => exact ⟨worker, cause, hworker, hstage⟩
    | _ => simp [hstage, Stage.isAborted] at haborted

instance : Decidable loop.crashed :=
  decidable_of_iff _ crashed_iff_any.symm

theorem crashed_of_worker (hworker : loop.worker = some worker) :
    loop.crashed ↔ worker.stage.isAborted = true := by
  simp [crashed_iff_any, hworker]

theorem crashed_callStop : loop.callStop.crashed ↔ loop.crashed := by
  cases hworker : loop.worker <;>
    simp [crashed_iff_any, callStop, record, requestStop, hworker]

theorem crashed_join : loop.join.crashed ↔ loop.crashed := by
  cases hworker : loop.worker with
  | none => simp [crashed_iff_any, join, hworker]
  | some worker =>
      cases hstage : worker.stage <;>
        simp [crashed_iff_any, join, hworker, hstage, Stage.isAborted]

/-- A call to start ends the process just in case a worker that was not joined would be
replaced. -/
theorem crashed_start :
    (loop.start setup seed).crashed ↔
      loop.crashed ∨ loop.running = false ∧ loop.worker.isSome = true := by
  rcases start_cases seed setup loop with
    ⟨hrunning, hstart⟩ | ⟨hrunning, hworker, hstart⟩ | ⟨hrunning, worker, hworker, hstart⟩
  · simp [hstart, crashed_iff_any, record, hrunning]
  · simp [hstart, crashed_iff_any, hworker, Stage.isAborted]
  · simp [hstart, crashed_iff_any, hrunning, hworker, Stage.isAborted]

theorem not_crashed_start (hidle : origin.Idle) : ¬ (origin.start setup seed).crashed := by
  rw [crashed_start, crashed_iff_any]
  simp [hidle.worker]

variable [Dialect]

theorem not_crashed_of_turn (h : Turn setup loop worker next) : ¬ next.crashed := by
  cases h <;> (rw [crashed_of_worker rfl]; exact Bool.false_ne_true)

theorem not_crashed_of_step (hsink : setup.sink = .accepting)
    (hstep : loop.step setup = some next) : ¬ next.crashed := by
  obtain ⟨worker, -, hturn⟩ := turn_of_step hsink hstep
  exact not_crashed_of_turn hturn

theorem not_crashed_of_proceeds (hsink : setup.sink = .accepting) (hsafe : ¬ loop.crashed)
    (h : Proceeds setup loop next) : ¬ next.crashed := by
  cases h with
  | work hstep => exact not_crashed_of_step hsink hstep
  | callStop => exact mt crashed_callStop.1 hsafe
  | join _ => exact mt crashed_join.1 hsafe

theorem done_or_step_or_waits (hcrashed : ¬ loop.crashed) :
    loop.done ∨ (∃ next, loop.step setup = some next) ∨
      ∃ stream ∈ loop.stream?, stream.channel = .empty := by
  cases hworker : loop.worker with
  | none =>
      left
      intro worker hsome
      rw [hworker] at hsome
      cases hsome
  | some worker =>
      cases hstage : worker.stage with
      | deciding =>
          right; left
          cases hrunning : loop.running <;> simp [step, hworker, hstage, hrunning]
      | asking stream delivered | pausing =>
          right; left
          simp [step, hworker, hstage]
      | waiting stream delivered =>
          right
          cases hqueue : stream.channel.queue with
          | cons event rest => exact .inl (by simp [step, hworker, hstage, Channel.next, hqueue])
          | nil =>
              cases hclosed : stream.channel.closed with
              | true => exact .inl (by simp [step, hworker, hstage, Channel.next, hqueue, hclosed])
              | false =>
                  right
                  refine ⟨stream, by simp [stream?, hworker, hstage, Stage.stream?], ?_⟩
                  rw [Channel.empty, ← hqueue, ← hclosed]
      | ended =>
          left
          rintro _ hsome
          obtain rfl := Option.some.inj (hworker.symm.trans hsome)
          exact hstage
      | aborted cause => exact absurd ⟨worker, cause, hworker, hstage⟩ hcrashed

/-! ## Reports that nothing contains -/

/-- Where a worker makes a report that the sink refuses and that nothing contains. -/
inductive Exposed [Dialect] (setup : Setup) (loop : Loop) : Prop
  /-- A watch is going to be opened. -/
  | opening {worker : Worker} {stream : Stream} (hworker : loop.worker = some worker)
      (hstage : worker.stage = .deciding) (hrunning : loop.running = true)
      (houtcome : (attemptAt loop.script 0).outcome = .opened stream)
      (hrefuses : setup.sink.refuses .watchOpens = true)
  /-- The handling of an event is going to be cut short, and this cannot be counted. -/
  | handling {worker : Worker} {stream : Stream} {delivered : Nat} {event : Event}
      {rest : List Event} {counter : Counter} (hworker : loop.worker = some worker)
      (hstage : worker.stage = .waiting stream delivered)
      (hqueue : stream.channel.queue = event :: rest)
      (hreported : counter ∈ event.reports setup.options.name)
      (hrefuses : setup.sink.refuses counter = true)
      (herrors : setup.sink.refuses .watchErrors = true)
  /-- The stream has ended and is going to be released. -/
  | releasing {worker : Worker} {stream : Stream} {delivered : Nat}
      (hworker : loop.worker = some worker) (hstage : worker.stage = .waiting stream delivered)
      (hqueue : stream.channel.queue = []) (hclosed : stream.channel.closed = true)
      (hrefuses : setup.sink.refuses .watchCloses = true)

theorem not_exposed_accepting : ¬ Exposed setup.accepting loop := by
  rintro (⟨-, -, -, -, hrefuses⟩ | ⟨-, -, -, -, hrefuses, -⟩ | ⟨-, -, -, -, hrefuses⟩) <;>
    cases hrefuses

/-- The reports that are made outside of the handling of an event. -/
def unguarded : List Counter :=
  [.watchOpens, .watchCloses, .watchErrors]

omit [Dialect] in
theorem worker_count_of_refused {counter : Counter} {go : Loop → Loop}
    (hrefuses : setup.sink.refuses counter = true) :
    (loop.count setup worker counter go).worker =
      some { worker with stage := .aborted (.uncaughtRefusal counter) } := by
  rw [count, if_pos hrefuses]
  rfl

/-- The next step of an exposed worker ends the process, by the refusal of a report that is made
outside of the handling of an event. -/
theorem Exposed.escapes (h : Exposed setup loop) :
    ∃ next worker counter, loop.step setup = some next ∧ next.worker = some worker ∧
      worker.stage = .aborted (.uncaughtRefusal counter) ∧ counter ∈ unguarded ∧
      setup.sink.refuses counter = true := by
  cases h with
  | @opening worker stream hworker hstage hrunning houtcome hrefuses =>
      have hstep : loop.step setup = some (loop.openWatch setup worker) := by
        simp [step, hworker, hstage, hrunning]
      rw [openWatch_eq hworker hstage hrunning, houtcome] at hstep
      exact ⟨_, _, .watchOpens, hstep, worker_count_of_refused hrefuses, rfl, by decide, hrefuses⟩
  | @handling worker stream delivered event rest counter hworker hstage hqueue hreported hrefuses
      herrors =>
      have hstep : loop.step setup = some (loop.receive setup worker
          { stream with channel := { stream.channel with queue := rest } } delivered event) := by
        simp [step, hworker, hstage, Channel.next, hqueue]
      have hrefused : ((event.handle setup.sink setup.options.name loop.store).contain
          setup.sink).refused = some .watchErrors := by
        rw [Handling.refused_contain, if_pos]
        exact ⟨(event.refused_handle _ _ _).2 ⟨counter, hreported, hrefuses⟩, herrors⟩
      simp only [receive, hrefused] at hstep
      exact ⟨_, _, .watchErrors, hstep, rfl, rfl, by decide, herrors⟩
  | @releasing worker stream delivered hworker hstage hqueue hclosed hrefuses =>
      have hstep : loop.step setup = some (loop.release setup worker delivered) := by
        simp [step, hworker, hstage, Channel.next, hqueue, hclosed]
      exact ⟨_, _, .watchCloses, hstep, worker_count_of_refused hrefuses, rfl, by decide, hrefuses⟩

/-- A step of a worker that is not exposed is one with a sink that takes every report. -/
theorem bare_step (h : ¬ Exposed setup loop) :
    (loop.step setup).map bare = (loop.bare.step setup.accepting).map bare := by
  cases hworker : loop.worker with
  | none => simp [step, hworker]
  | some worker =>
      cases hstage : worker.stage with
      | deciding =>
          cases hrunning : loop.running with
          | false => simp [step, hworker, hstage, hrunning]
          | true =>
              have htaken : ∀ stream, (attemptAt loop.script 0).outcome = .opened stream →
                  setup.sink.refuses .watchOpens = false := by
                intro stream houtcome
                rw [Bool.eq_false_iff]
                intro hrefuses
                exact h (.opening hworker hstage hrunning houtcome hrefuses)
              have hopened := bare_openWatch hworker hstage hrunning htaken
              simp [step, hworker, hstage, hrunning, hopened]
      | asking stream delivered => simp [step, hworker, hstage, bare_ask]
      | waiting stream delivered =>
          cases hqueue : stream.channel.queue with
          | cons event rest =>
              have hcontained : ((event.handle setup.sink setup.options.name loop.store).contain
                  setup.sink).refused = none := by
                rw [Handling.refused_contain, if_neg]
                rintro ⟨hrefused, herrors⟩
                obtain ⟨counter, hreported, hrefuses⟩ := (event.refused_handle _ _ _).1 hrefused
                exact h (.handling hworker hstage hqueue hreported hrefuses herrors)
              have haccepted : ((event.handle setup.accepting.sink setup.accepting.options.name
                  loop.bare.store).contain setup.accepting.sink).refused = none := by
                simp [Setup.accepting]
              simp [step, hworker, hstage, Channel.next, hqueue, bare_receive hcontained,
                bare_receive haccepted]
          | nil =>
              cases hclosed : stream.channel.closed with
              | false => simp [step, hworker, hstage, Channel.next, hqueue, hclosed]
              | true =>
                  have htaken : setup.sink.refuses .watchCloses = false := by
                    rw [Bool.eq_false_iff]
                    intro hrefuses
                    exact h (.releasing hworker hstage hqueue hclosed hrefuses)
                  simp [step, hworker, hstage, Channel.next, hqueue, hclosed, bare_release htaken]
      | pausing | ended | aborted cause => simp [step, hworker, hstage]

/-- Only a step of an exposed worker ends the process. -/
theorem crashed_iff_exposed (hstep : loop.step setup = some next) :
    next.crashed ↔ Exposed setup loop := by
  constructor
  · intro hcrashed
    apply Classical.byContradiction
    intro hsafe
    have hbare := bare_step hsafe
    rw [hstep, Option.map_some] at hbare
    obtain ⟨taken, htaken, hsame⟩ := Option.map_eq_some_iff.1 hbare.symm
    obtain ⟨worker, -, hturn⟩ := turn_of_step rfl htaken
    refine not_crashed_of_turn hturn ?_
    rw [crashed_iff_any, ← worker_bare, hsame, worker_bare, ← crashed_iff_any]
    exact hcrashed
  · intro hexposed
    obtain ⟨escaped, worker, counter, hescaped, hworker, hstage, -⟩ := hexposed.escapes
    obtain rfl := Option.some.inj (hstep.symm.trans hescaped)
    exact ⟨worker, _, hworker, hstage⟩

/-! ## Runs -/

/-- A move that does not end the process can be made with a sink that takes every report, too. -/
theorem crashed_or_bare_of_proceeds {shadow : Loop} (hsame : shadow.bare = loop.bare)
    (h : Proceeds setup loop next) :
    next.crashed ∨ ∃ mirrored, Proceeds setup.accepting shadow mirrored ∧
      mirrored.bare = next.bare := by
  cases h with
  | work hstep =>
      by_cases hexposed : Exposed setup loop
      · exact .inl ((crashed_iff_exposed hstep).2 hexposed)
      -- Both take a step, and both steps are one step of the loop without its counts.
      have hbare := bare_step hexposed
      have hmirrored : (shadow.step setup.accepting).map bare =
          (shadow.bare.step setup.accepting).map bare := bare_step not_exposed_accepting
      rw [← hsame, ← hmirrored, hstep, Option.map_some] at hbare
      obtain ⟨mirrored, hnext, hreached⟩ := Option.map_eq_some_iff.1 hbare.symm
      exact .inr ⟨mirrored, .work hnext, hreached⟩
  | callStop => exact .inr ⟨_, .callStop, by rw [bare_callStop, hsame, bare_callStop]⟩
  | join hrunning =>
      have hnot : shadow.running = false := by
        rw [← running_bare, hsame]
        exact hrunning
      exact .inr ⟨_, .join hnot, by rw [bare_join, hsame, bare_join]⟩

theorem crashed_or_bare_of_run (hrun : ReflTransGen (Proceeds setup) origin loop) :
    loop.crashed ∨ ∃ shadow, ReflTransGen (Proceeds setup.accepting) origin shadow ∧
      shadow.bare = loop.bare := by
  induction hrun with
  | refl => exact .inr ⟨origin, .refl, rfl⟩
  | tail _ hproceeds ih =>
      rcases ih with hcrashed | ⟨shadow, hshadow, hsame⟩
      · exact .inl (crashed_of_proceeds hcrashed hproceeds)
      rcases crashed_or_bare_of_proceeds hsame hproceeds with hcrashed | ⟨mirrored, hnext, hreached⟩
      · exact .inl hcrashed
      · exact .inr ⟨mirrored, hshadow.tail hnext, hreached⟩

theorem crashed_or_bare_of_reaches (hreaches : Reaches setup origin loop) :
    loop.crashed ∨ ∃ shadow, Reaches setup.accepting origin shadow ∧
      shadow.bare = loop.bare := by
  induction hreaches with
  | refl => exact .inr ⟨origin, .refl, rfl⟩
  | tail _ hmove ih =>
      cases hmove with
      | proceed hproceeds =>
          rcases ih with hcrashed | ⟨shadow, hshadow, hsame⟩
          · exact .inl (crashed_of_proceeds hcrashed hproceeds)
          rcases crashed_or_bare_of_proceeds hsame hproceeds with
            hcrashed | ⟨mirrored, hnext, hreached⟩
          · exact .inl hcrashed
          · exact .inr ⟨mirrored, hshadow.tail (.proceed hnext), hreached⟩
      | start seed =>
          rcases ih with hcrashed | ⟨shadow, hshadow, hsame⟩
          · exact .inl (crashed_start.2 (.inl hcrashed))
          · exact .inr ⟨_, hshadow.tail (.start seed), by rw [bare_start, hsame, bare_start]; rfl⟩

/-- A run ends the process only by the step of an exposed worker. -/
theorem exposed_of_crashed (hidle : origin.Idle)
    (hrun : ReflTransGen (Proceeds setup) (origin.start setup seed) loop)
    (hcrashed : loop.crashed) :
    ∃ before, ReflTransGen (Proceeds setup) (origin.start setup seed) before ∧
      Exposed setup before := by
  induction hrun with
  | refl => exact absurd hcrashed (not_crashed_start hidle)
  | @tail middle loop hmiddle hproceeds ih =>
      cases hproceeds with
      | work hstep => exact ⟨middle, hmiddle, (crashed_iff_exposed hstep).1 hcrashed⟩
      | callStop => exact ih (crashed_callStop.1 hcrashed)
      | join _ => exact ih (crashed_join.1 hcrashed)

/-- With a sink that takes every report, a run handles the events of the streams that it opens,
in order, up to those at hand. -/
theorem delivery_of_run (hsink : setup.sink = .accepting) (hidle : origin.Idle)
    (hrun : ReflTransGen (Proceeds setup) (origin.start setup seed) loop) :
    ∃ made, loop.script = origin.script.drop made ∧
      openings loop.trace = openings origin.trace + made ∧
      handled loop.trace ++ loop.queued =
        handled origin.trace ++ offered (origin.script.take made) := by
  induction hrun with
  | refl =>
      rw [start_of_idle seed hidle.running hidle.worker]
      exact ⟨0, by simp, by simp, by simp [queued, stream?, Stage.stream?, offered]⟩
  | @tail middle loop _ hproceeds ih =>
      obtain ⟨made, hscript, hopenings, hdelivery⟩ := ih
      rcases hproceeds.continues_or_opens hsink with hcontinues | hopens
      · exact ⟨made, hcontinues.script.trans hscript, hcontinues.openings.trans hopenings,
          hcontinues.delivery.trans hdelivery⟩
      · have hnothing : middle.queued = [] := by simp [queued, hopens.stream?_eq_none]
        rw [hnothing, List.append_nil] at hdelivery
        refine ⟨made + 1, ?_, ?_, ?_⟩
        · rw [hopens.script, hscript, List.tail_drop]
        · rw [hopens.openings, hopenings, Nat.add_assoc]
        · rw [hopens.handled, hopens.queued, hdelivery, hscript, attemptAt_drop,
            offered_take_succ, List.append_assoc]

structure Survives [Dialect] (setup : Setup) (origin : Loop) (seed : UInt32)
    (loop : Loop) : Prop where
  /-- It has come where it comes with a sink that takes every report. -/
  mirrored : ∃ shadow,
    ReflTransGen (Proceeds setup.accepting) (origin.start setup.accepting seed) shadow ∧
      shadow.bare = loop.bare
  /-- It has handled every event of the streams that were opened, up to those at hand. -/
  delivery : ∃ made, openings loop.trace = openings origin.trace + made ∧
    handled loop.trace ++ loop.queued = handled origin.trace ++ offered (origin.script.take made)
  /-- It goes on, unless it is over or waits for a stream. -/
  progress : loop.done ∨ (∃ next, loop.step setup = some next) ∨
    ∃ stream ∈ loop.stream?, stream.channel = .empty
  /-- It ends stopped or failed. -/
  verdict : loop.done → loop.state = .stopped ∨ loop.state = .failed

theorem survives_of_run (hidle : origin.Idle)
    (hrun : ReflTransGen (Proceeds setup) (origin.start setup seed) loop)
    (hsafe : ¬ loop.crashed) : Survives setup origin seed loop := by
  obtain ⟨shadow, hshadow, hsame⟩ := (crashed_or_bare_of_run hrun).resolve_left hsafe
  have hworker : shadow.worker = loop.worker := by rw [← worker_bare, hsame, worker_bare]
  have htrace : shadow.trace.filterMap Item.bare = loop.trace.filterMap Item.bare :=
    congrArg Loop.trace hsame
  have hqueued : shadow.queued = loop.queued := by rw [queued, stream?, hworker]; rfl
  have hhandled : handled shadow.trace = handled loop.trace := by
    rw [← handled_filterMap_bare, htrace, handled_filterMap_bare]
  have hopenings : openings shadow.trace = openings loop.trace := by
    rw [← openings_filterMap_bare, htrace, openings_filterMap_bare]
  refine ⟨⟨shadow, hshadow, hsame⟩, ?_, done_or_step_or_waits hsafe, ?_⟩
  · obtain ⟨made, -, hmade, hdelivery⟩ := delivery_of_run rfl hidle hshadow
    rw [hopenings] at hmade
    rw [hhandled, hqueued] at hdelivery
    exact ⟨made, hmade, hdelivery⟩
  · intro hdone
    have hended : shadow.done := by
      intro worker hsome
      exact hdone worker (hworker.symm.trans hsome)
    have hstate : shadow.state = loop.state := by rw [← state_bare, hsame, state_bare]
    obtain ⟨made, hstanding⟩ := exists_standing rfl hidle hshadow
    rw [← hstate]
    rcases hstanding.verdict hended with ⟨hfailed, -⟩ | ⟨hstopped, -⟩
    · exact .inr hfailed
    · exact .inl hstopped

/-! ## Sinks that let no refusal out -/

/-- A loop whose client opens one stream, which ends after some events. -/
def withStream (queue : List Event) : Loop where
  script := [{ outcome := .opened { channel := { queue := queue, closed := true } } }]

theorem exists_waiting (htaken : setup.sink.refuses .watchOpens = false) (queue : List Event) :
    ∃ loop worker, ReflTransGen (Proceeds setup) ((withStream queue).start setup 0) loop ∧
      loop.worker = some worker ∧
      worker.stage = .waiting { channel := { queue := queue, closed := true } } 0 := by
  let started := (withStream queue).start setup 0
  obtain ⟨opened, hopened, hasking⟩ : ∃ opened, started.step setup = some opened ∧
      ∃ worker, opened.worker = some worker ∧
        worker.stage = .asking { channel := { queue := queue, closed := true } } 0 := by
    refine ⟨_, rfl, ?_⟩
    simp [started, start, openWatch, afterOpening, count, htaken, withStream, record, goTo]
  obtain ⟨worker, hworker, hstage⟩ := hasking
  have hasked : opened.step setup = some (opened.ask worker
      { channel := { queue := queue, closed := true } } 0) := by
    simp [step, hworker, hstage]
  exact ⟨_, _, .head (.work hopened) (.single (.work hasked)), rfl, rfl⟩

theorem exists_exposed {counter : Counter} (hmem : counter ∈ unguarded)
    (hrefuses : setup.sink.refuses counter = true) :
    ∃ (origin : Loop) (seed : UInt32) (loop : Loop), origin.Idle ∧
      ReflTransGen (Proceeds setup) (origin.start setup seed) loop ∧ Exposed setup loop := by
  have hidle : ∀ queue, (withStream queue).Idle := fun _ => ⟨rfl, rfl⟩
  -- A sink that refuses openings ends every run that opens a stream, whatever else it refuses.
  cases hopens : setup.sink.refuses .watchOpens with
  | true => exact ⟨withStream [], 0, _, hidle [], .refl, .opening rfl rfl rfl rfl hopens⟩
  | false =>
      cases counter with
      | watchOpens =>
          rw [hopens] at hrefuses
          cases hrefuses
      | watchCloses =>
          obtain ⟨loop, worker, hrun, hworker, hstage⟩ := exists_waiting hopens []
          exact ⟨_, _, loop, hidle _, hrun, .releasing hworker hstage rfl rfl hrefuses⟩
      | watchErrors =>
          obtain ⟨loop, worker, hrun, hworker, hstage⟩ := exists_waiting hopens [{ kind := .error }]
          have hreported : Counter.watchErrors ∈
              ({ kind := .error } : Event).reports setup.options.name := by
            simp [Event.reports]
          exact ⟨_, _, loop, hidle _, hrun,
            .handling hworker hstage rfl hreported hrefuses hrefuses⟩
      | parseErrors | replaces => simp [unguarded] at hmem

/-- A sink lets a refusal end the process in some run just in case it refuses one of the reports
that are made outside of the handling of an event.  A run ends the process exactly where such a
report is due; until then it goes on with all events and streams, and it ends stopped or
failed. -/
theorem refusals_escape_iff (setup : Setup) :
    ((∃ (origin : Loop) (seed : UInt32) (loop : Loop), origin.Idle ∧
        ReflTransGen (Proceeds setup) (origin.start setup seed) loop ∧ loop.crashed) ↔
      ∃ counter ∈ unguarded, setup.sink.refuses counter = true) ∧
    ∀ (origin : Loop) (seed : UInt32) (loop : Loop), origin.Idle →
      ReflTransGen (Proceeds setup) (origin.start setup seed) loop →
        (∀ next, loop.step setup = some next → (next.crashed ↔ Exposed setup loop)) ∧
        (¬ loop.crashed → Survives setup origin seed loop) := by
  refine ⟨⟨?_, ?_⟩, ?_⟩
  · rintro ⟨origin, seed, loop, hidle, hrun, hcrashed⟩
    obtain ⟨before, -, hexposed⟩ := exposed_of_crashed hidle hrun hcrashed
    obtain ⟨-, -, counter, -, -, -, hmem, hrefuses⟩ := hexposed.escapes
    exact ⟨counter, hmem, hrefuses⟩
  · rintro ⟨counter, hmem, hrefuses⟩
    obtain ⟨origin, seed, loop, hidle, hrun, hexposed⟩ := exists_exposed hmem hrefuses
    obtain ⟨next, worker, counter, hstep, hworker, hstage, -⟩ := hexposed.escapes
    exact ⟨origin, seed, next, hidle, hrun.tail (.work hstep), worker, _, hworker, hstage⟩
  · intro origin seed loop hidle hrun
    exact ⟨fun next => crashed_iff_exposed, survives_of_run hidle hrun⟩

end Runs

/-- A sink refuses to count a replacement, and the resource is removed.  The run goes on. -/
theorem refused_replace_is_contained :
    let setup : Setup := { sink := ⟨fun counter => counter = .replaces⟩ }
    let origin := withStream [{ kind := .deleted }]
    let final := ((origin.start setup 1).settle setup).callStop.settle setup
    ¬ final.crashed ∧ final.state = .stopped ∧ handled final.trace = offered origin.script := by
  intro setup origin final
  have hsettled : ReflTransGen (Proceeds setup) (origin.start setup 1)
      ((origin.start setup 1).settle setup) := proceeds_of_works (works_settle setup _)
  have hrun : ReflTransGen (Proceeds setup) (origin.start setup 1) final :=
    (hsettled.tail .callStop).trans (proceeds_of_works (works_settle setup _))
  have hsafe : ¬ final.crashed := by decide +kernel
  obtain ⟨-, hruns⟩ := refusals_escape_iff setup
  obtain ⟨-, hsurvives⟩ := hruns origin 1 final ⟨rfl, rfl⟩ hrun
  obtain ⟨made, hmade, hdelivery⟩ := (hsurvives hsafe).delivery
  have hopenings : openings final.trace = 2 := by decide +kernel
  have hnothing : final.queued.isEmpty = true := by decide +kernel
  obtain rfl : made = 2 := by
    rw [hopenings] at hmade
    simpa [origin, withStream] using hmade.symm
  rw [List.isEmpty_iff.1 hnothing, List.append_nil] at hdelivery
  exact ⟨hsafe, by decide +kernel, hdelivery⟩

/-- A sink refuses to count that a stream was released.  The loop should end stopped, as it does
with a sink that takes every report. -/
theorem refused_watch_close_escapes :
    let setup : Setup := { sink := ⟨fun counter => counter = .watchCloses⟩ }
    let stopped (setup : Setup) : Loop := ((({} : Loop).start setup 1).settle setup).stop setup
    (stopped setup).crashed ∧ (stopped setup).state = .watching ∧
      ¬ (stopped setup.accepting).crashed ∧ (stopped setup.accepting).state = .stopped := by
  decide +kernel

end Loop

end IdentityMap
