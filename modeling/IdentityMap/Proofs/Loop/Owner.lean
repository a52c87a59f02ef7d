import IdentityMap.Document.Text
import IdentityMap.Proofs.Loop.GivingUp
import IdentityMap.Proofs.Loop.Refusal

/-!
# Calls of the owner

The owner of a loop starts and stops it, and in between its worker goes on.  A call to stop comes
back when the worker has ended and was joined, so the next call to start finds no worker.  Only a
loop that was asked to stop on its own thread, by its client or its fatal handler, is left with a
worker that does not run and was not joined, and the next call to start replaces that worker.
-/

namespace IdentityMap

def Attempt.Quiet (attempt : Attempt) : Prop :=
  attempt.stops = false ∧ ∀ stream ∈ attempt.outcome.stream?, stream.stopAfter = none

instance : DecidablePred Attempt.Quiet := fun attempt =>
  inferInstanceAs (Decidable (_ ∧ ∀ stream ∈ attempt.outcome.stream?, stream.stopAfter = none))

namespace Loop

/-! ## Sequences of calls -/

inductive Call where
  | work
  | start (seed : UInt32)
  | stop

def perform [Dialect] (setup : Setup) (loop : Loop) : Call → Loop
  | .work => (loop.step setup).getD loop
  | .start seed => loop.start setup seed
  | .stop => loop.stop setup

def run [Dialect] (setup : Setup) (loop : Loop) (calls : List Call) : Loop :=
  calls.foldl (perform setup) loop

section Runs

variable [Dialect] {setup : Setup} {loop next : Loop} {calls : List Call}

@[simp] theorem run_nil : loop.run setup [] = loop :=
  rfl

@[simp] theorem run_cons (call : Call) :
    loop.run setup (call :: calls) = (loop.perform setup call).run setup calls :=
  rfl

theorem perform_work (setup : Setup) (loop : Loop) :
    loop.step setup = some (loop.perform setup .work) ∨ loop.perform setup .work = loop := by
  rw [perform]
  cases loop.step setup with
  | none => exact .inr rfl
  | some next => exact .inl rfl

/-! ## Steps with any sink -/

/-- A step that does not end the process is one with a sink that takes every report, up to the
store and the counts. -/
theorem exists_taken_of_step (hstep : loop.step setup = some next) (hsafe : ¬ next.crashed) :
    ∃ taken, loop.bare.step setup.accepting = some taken ∧ next.worker = taken.worker ∧
      next.running = taken.running ∧ next.script = taken.script := by
  have hexposed : ¬ Exposed setup loop := fun h => hsafe ((crashed_iff_exposed hstep).2 h)
  have hbare := bare_step hexposed
  rw [hstep, Option.map_some] at hbare
  obtain ⟨taken, htaken, hsame⟩ := Option.map_eq_some_iff.1 hbare.symm
  have hworker : next.worker = taken.worker := (congrArg Loop.worker hsame).symm
  have hrunning : next.running = taken.running := (congrArg Loop.running hsame).symm
  have hscript : next.script = taken.script := (congrArg Loop.script hsame).symm
  exact ⟨taken, htaken, hworker, hrunning, hscript⟩

theorem cost_pos_of_step (hstep : loop.step setup = some next) : 0 < loop.cost := by
  cases hworker : loop.worker with
  | none => simp [step, hworker] at hstep
  | some worker =>
      cases hstage : worker.stage with
      | ended | aborted cause => simp [step, hworker, hstage] at hstep
      | deciding | asking _ _ | waiting _ _ | pausing => simp [cost, hworker, hstage, stageCost]

omit [Dialect] in
theorem cost_eq_zero_of_crashed (hcrashed : loop.crashed) : loop.cost = 0 := by
  obtain ⟨worker, cause, hworker, hstage⟩ := hcrashed
  simp [cost, hworker, hstage, stageCost]

theorem cost_lt_of_step (hrunning : loop.running = false) (hstep : loop.step setup = some next) :
    next.cost < loop.cost := by
  by_cases hcrashed : next.crashed
  · rw [cost_eq_zero_of_crashed hcrashed]
    exact cost_pos_of_step hstep
  · obtain ⟨taken, htaken, hafter, -, -⟩ := exists_taken_of_step hstep hcrashed
    obtain ⟨worker, hworker, hturn⟩ := turn_of_step rfl htaken
    have hlt : taken.cost < loop.bare.cost := cost_lt_of_turn hworker (fun _ => hrunning) hturn
    rwa [cost, ← hafter] at hlt

/-- Whatever the sink refuses, a loop that was asked to stop goes on with that. -/
theorem draining_of_step (h : Draining loop) (hstep : loop.step setup = some next)
    (hsafe : ¬ next.crashed) : Draining next := by
  obtain ⟨taken, htaken, hworker, hrunning, -⟩ := exists_taken_of_step hstep hsafe
  have hbare : Draining loop.bare := ⟨h.running, h.closed⟩
  have hdraining : Draining taken := hbare.proceeds rfl (.work htaken)
  refine ⟨hrunning.trans hdraining.running, ?_⟩
  rw [stream?, hworker]
  exact hdraining.closed

/-! ## Calls to stop -/

theorem settle_of_stuck (hstuck : loop.step setup = none) : loop.settle setup = loop := by
  rw [settle, settleUntil]
  cases loop.budget with
  | zero => rfl
  | succ steps => simp [advance, hstuck]

theorem step_eq_none_of_crashed (hcrashed : loop.crashed) : loop.step setup = none := by
  obtain ⟨worker, cause, hworker, hstage⟩ := hcrashed
  simp [step, hworker, hstage]

/-- A loop that was asked to stop comes to its end, or the process does. -/
theorem settle_of_draining (h : Draining loop) :
    (loop.settle setup).crashed ∨
      (loop.settle setup).running = false ∧ (loop.settle setup).done := by
  have hkept : ∀ loop next, (loop.crashed ∨ Draining loop) → loop.step setup = some next →
      (next.crashed ∨ Draining next) ∧ next.cost < loop.cost := by
    rintro loop next (hcrashed | hdraining) hstep
    · rw [step_eq_none_of_crashed hcrashed] at hstep
      cases hstep
    · refine ⟨?_, cost_lt_of_step hdraining.running hstep⟩
      by_cases hcrashed : next.crashed
      · exact .inl hcrashed
      · exact .inr (draining_of_step hdraining hstep hcrashed)
  obtain ⟨hends, hnone⟩ := settle_of_invariant _ hkept (.inr h)
  rcases hends with hcrashed | hdraining
  · exact .inl hcrashed
  by_cases hcrashed : (loop.settle setup).crashed
  · exact .inl hcrashed
  refine .inr ⟨hdraining.running, ?_⟩
  rcases done_or_step_or_waits hcrashed with hdone | ⟨next, hstep⟩ | ⟨stream, hstream, hempty⟩
  · exact hdone
  · rw [hnone] at hstep
    cases hstep
  · have hclosed := hdraining.closed stream hstream
    rw [hempty] at hclosed
    cases hclosed

omit [Dialect] in
theorem worker_join_of_done (hdone : loop.done) : loop.join.worker = none := by
  cases hworker : loop.worker with
  | none => simp [join, hworker]
  | some worker => simp [join, hworker, hdone worker hworker]

theorem idle_of_stop (hsafe : ¬ (loop.stop setup).crashed) : (loop.stop setup).Idle := by
  have hsettled : ¬ (loop.callStop.settle setup).crashed := fun h => hsafe (crashed_join.2 h)
  have hdraining : Draining loop.callStop := ⟨rfl, closed_callStop⟩
  obtain ⟨hrunning, hdone⟩ := (settle_of_draining hdraining).resolve_left hsettled
  exact ⟨running_join.trans hrunning, worker_join_of_done hdone⟩

/-! ## Crashes last -/

theorem crashed_perform (hcrashed : loop.crashed) (call : Call) :
    (loop.perform setup call).crashed := by
  cases call with
  | work =>
      rw [perform, step_eq_none_of_crashed hcrashed]
      exact hcrashed
  | start seed => exact crashed_start.2 (.inl hcrashed)
  | stop =>
      have hcalled : loop.callStop.crashed := crashed_callStop.2 hcrashed
      have hsettled : loop.callStop.settle setup = loop.callStop :=
        settle_of_stuck (step_eq_none_of_crashed hcalled)
      exact crashed_join.2 (hsettled ▸ hcalled)

theorem crashed_run (hcrashed : loop.crashed) (calls : List Call) :
    (loop.run setup calls).crashed := by
  induction calls generalizing loop with
  | nil => exact hcrashed
  | cons call calls ih => exact ih (crashed_perform hcrashed call)

/-! ## Requests from the worker's own thread -/

/-- Whether the loop was asked to stop in the course of a step of its worker, and the owner has
made no call since.  The flag tells whether this holds at first. -/
def selfStopped (setup : Setup) (loop : Loop) (pending : Bool) : List Call → Bool
  | [] => pending
  | .work :: calls =>
    let next := loop.perform setup .work
    next.selfStopped setup (pending || loop.running && !next.running) calls
  | call :: calls => (loop.perform setup call).selfStopped setup false calls

/-- There is a worker just in case the loop runs or the flag is up, and these exclude each other. -/
structure Attended (loop : Loop) (pending : Bool) : Prop where
  worker : loop.worker.isSome = true ↔ loop.running = true ∨ pending = true
  running : pending = true → loop.running = false

theorem Attended.work {pending : Bool} (h : Attended loop pending)
    (hsafe : ¬ (loop.perform setup .work).crashed) :
    Attended (loop.perform setup .work)
      (pending || loop.running && !(loop.perform setup .work).running) := by
  rcases perform_work setup loop with hstep | hsame
  · obtain ⟨taken, htaken, hafter, hrunning, -⟩ := exists_taken_of_step hstep hsafe
    obtain ⟨worker, hworker, hturn⟩ := turn_of_step rfl htaken
    have hbusy : loop.running = true ∨ pending = true :=
      h.worker.1 (Option.isSome_iff_exists.2 ⟨worker, hworker⟩)
    have hkept : loop.running = false → (loop.perform setup .work).running = false := by
      intro hstopped
      rw [hrunning]
      exact Proceeds.running_eq_false rfl (.work htaken) hstopped
    constructor
    · have hsome : (loop.perform setup .work).worker.isSome = true := by
        rw [hafter]
        cases hturn <;> rfl
      simp only [hsome, true_iff]
      rcases hbusy with hruns | hpending
      · cases hgoes : (loop.perform setup .work).running <;> simp [hruns]
      · simp [hpending]
    · intro hflag
      rw [Bool.or_eq_true, Bool.and_eq_true, Bool.not_eq_true'] at hflag
      rcases hflag with hpending | ⟨-, hstopped⟩
      · exact hkept (h.running hpending)
      · exact hstopped
  · rw [hsame]
    simpa using h

omit [Dialect] in
theorem Attended.start {pending : Bool} (h : Attended loop pending) {seed : UInt32}
    (hsafe : ¬ (loop.start setup seed).crashed) : Attended (loop.start setup seed) false := by
  rcases start_cases seed setup loop with
    ⟨hrunning, hstart⟩ | ⟨-, -, hstart⟩ | ⟨hrunning, worker, hworker, -⟩
  · have hsome : loop.worker.isSome = true := h.worker.2 (.inl hrunning)
    rw [hstart]
    exact ⟨by simp [record, hsome, hrunning], nofun⟩
  · rw [hstart]
    exact ⟨by simp, nofun⟩
  · exact absurd (crashed_start.2 (.inr ⟨hrunning, by simp [hworker]⟩)) hsafe

omit [Dialect] in
theorem Idle.attended (h : loop.Idle) : Attended loop false :=
  ⟨by simp [h.worker, h.running], nofun⟩

theorem attended_run {pending : Bool} (h : Attended loop pending) {calls : List Call}
    (hsafe : ¬ (loop.run setup calls).crashed) :
    Attended (loop.run setup calls) (loop.selfStopped setup pending calls) := by
  induction calls generalizing loop pending with
  | nil => exact h
  | cons call calls ih =>
      have hnext : ¬ (loop.perform setup call).crashed :=
        fun hcrashed => hsafe (crashed_run hcrashed calls)
      cases call with
      | work => exact ih (h.work hnext) hsafe
      | start seed => exact ih (h.start hnext) hsafe
      | stop => exact ih (idle_of_stop hnext).attended hsafe

/-! ## Quiet clients and handlers -/

/-- Neither the fatal handler nor the client, now or later, asks the loop to stop. -/
structure Quiet (setup : Setup) (loop : Loop) : Prop where
  handler : setup.handler ≠ .stopping
  script : ∀ attempt ∈ loop.script, attempt.Quiet
  stream : ∀ stream ∈ loop.stream?, stream.stopAfter = none

omit [Dialect] in
theorem Quiet.attempt (h : Quiet setup loop) : (attemptAt loop.script 0).Quiet := by
  cases hscript : loop.script with
  | nil => exact ⟨rfl, by rintro _ ⟨⟩; rfl⟩
  | cons attempt rest => exact h.script attempt (by simp [hscript])

theorem Quiet.turn {worker : Worker} (h : Quiet setup loop) (hworker : loop.worker = some worker)
    (hturn : Turn setup loop worker next) :
    Quiet setup next ∧ next.running = loop.running := by
  obtain ⟨hstops, hopened⟩ := h.attempt
  have hrest : ∀ attempt ∈ loop.script.tail, attempt.Quiet :=
    fun attempt hmem => h.script attempt (List.mem_of_mem_tail hmem)
  have hheld : ∀ stream ∈ worker.stage.stream?, stream.stopAfter = none := by
    simpa [stream?, hworker] using h.stream
  cases hturn with
  | halt _ _ | leave _ _ _ _ | reopen _ _ _ _ _ | wake _ =>
      refine ⟨⟨h.handler, h.script, ?_⟩, rfl⟩
      rintro _ ⟨⟩
  | giveUp _ hrunning _ _ =>
      refine ⟨⟨h.handler, hrest, ?_⟩, by simp [hstops, hrunning, h.handler]⟩
      rintro _ ⟨⟩
  | retry _ hrunning _ _ _ =>
      refine ⟨⟨h.handler, hrest, ?_⟩, by simp [hstops, hrunning]⟩
      rintro _ ⟨⟩
  | @opened stream _ hrunning houtcome =>
      refine ⟨⟨h.handler, hrest, ?_⟩, by simp [hstops, hrunning]⟩
      have hquiet : stream.stopAfter = none := hopened stream (by rw [houtcome]; rfl)
      simpa [stream?, Stage.stream?, hstops] using hquiet
  | @ask stream _ hstage =>
      have hquiet : stream.stopAfter = none := hheld stream (by rw [hstage]; rfl)
      refine ⟨⟨h.handler, h.script, ?_⟩, by simp [hquiet]⟩
      simp [stream?, Stage.stream?, Stream.countDown, hquiet]
  | @receive stream _ _ _ hstage _ =>
      have hquiet : stream.stopAfter = none := hheld stream (by rw [hstage]; rfl)
      refine ⟨⟨h.handler, h.script, ?_⟩, rfl⟩
      simpa [stream?, Stage.stream?] using hquiet

theorem Quiet.step (h : Quiet setup loop) (hstep : loop.step setup = some next)
    (hsafe : ¬ next.crashed) : Quiet setup next ∧ next.running = loop.running := by
  obtain ⟨taken, htaken, hafter, hrunning, hscript⟩ := exists_taken_of_step hstep hsafe
  obtain ⟨worker, hworker, hturn⟩ := turn_of_step rfl htaken
  have hbare : Quiet setup.accepting loop.bare := ⟨h.handler, h.script, h.stream⟩
  obtain ⟨hquiet, hsame⟩ := hbare.turn hworker hturn
  refine ⟨⟨h.handler, ?_, ?_⟩, hrunning.trans hsame⟩
  · rw [hscript]
    exact hquiet.script
  · rw [stream?, hafter]
    exact hquiet.stream

theorem Quiet.works (h : Quiet setup loop) (hworks : Works setup loop next)
    (hsafe : ¬ next.crashed) : Quiet setup next := by
  induction hworks with
  | refl => exact h
  | tail _ hstep ih =>
      -- A loop that takes a step has not ended the process before.
      have hbefore := ih fun hcrashed => by
        rw [step_eq_none_of_crashed hcrashed] at hstep
        cases hstep
      exact (hbefore.step hstep hsafe).1

theorem Quiet.stop (h : Quiet setup loop) (hsafe : ¬ (loop.stop setup).crashed) :
    Quiet setup (loop.stop setup) := by
  have hcalled : Quiet setup loop.callStop := by
    refine ⟨h.handler, h.script, ?_⟩
    rw [stream?_callStop]
    intro stream hstream
    obtain ⟨held, hheld, rfl⟩ := Option.map_eq_some_iff.1 hstream
    exact h.stream held hheld
  have hsettled : ¬ (loop.callStop.settle setup).crashed := fun h => hsafe (crashed_join.2 h)
  have hquiet := hcalled.works (works_settle setup _) hsettled
  have hstop : loop.stop setup = (loop.callStop.settle setup).join := rfl
  refine ⟨h.handler, ?_, ?_⟩
  · rw [hstop, script_join]
    exact hquiet.script
  · rw [hstop, stream?_join]
    exact hquiet.stream

omit [Dialect] in
theorem Quiet.start (h : Quiet setup loop) (seed : UInt32) :
    Quiet setup (loop.start setup seed) := by
  refine ⟨h.handler, ?_, ?_⟩
  · rw [script_start]
    exact h.script
  · rcases start_cases seed setup loop with ⟨-, hstart⟩ | ⟨-, -, hstart⟩ | ⟨-, _, -, hstart⟩
    · rw [hstart]
      exact h.stream
    all_goals
      rw [hstart]
      rintro _ ⟨⟩

theorem selfStopped_of_quiet (h : Quiet setup loop) (hsafe : ¬ (loop.run setup calls).crashed) :
    loop.selfStopped setup false calls = false := by
  induction calls generalizing loop with
  | nil => rfl
  | cons call calls ih =>
      have hnext : ¬ (loop.perform setup call).crashed :=
        fun hcrashed => hsafe (crashed_run hcrashed calls)
      cases call with
      | work =>
          rcases perform_work setup loop with hstep | hsame
          · obtain ⟨hquiet, hrunning⟩ := h.step hstep hnext
            simpa [selfStopped, hrunning] using ih hquiet hsafe
          · rw [run_cons, hsame] at hsafe
            simpa [selfStopped, hsame] using ih h hsafe
      | start seed => exact ih (h.start seed) hsafe
      | stop => exact ih (h.stop hnext) hsafe

/-! ## Calls to start -/

/-- A call to start replaces a worker that was not joined if the loop was asked to stop on the
worker's own thread and its owner has not called since, and in no other case. -/
theorem start_replaces_worker_iff {origin : Loop} (hidle : origin.Idle) (calls : List Call)
    (hsafe : ¬ (origin.run setup calls).crashed) :
    let loop := origin.run setup calls
    let pending := origin.selfStopped setup false calls
    -- This is what ends the process.
    (∀ seed, (loop.start setup seed).crashed ↔ pending = true) ∧
    -- Otherwise a worker runs, which is left alone, or there is none.
    (pending = false →
      (loop.running = true ∧ ∀ seed, loop.start setup seed = loop.record [.start loop.state]) ∨
        loop.Idle) ∧
    -- A call to stop joins the worker, whoever asked before.
    (¬ (loop.stop setup).crashed → (loop.stop setup).Idle) ∧
    -- Where neither the client nor the fatal handler asks, no worker is ever replaced.
    (setup.handler ≠ .stopping → (∀ attempt ∈ origin.script, attempt.Quiet) →
      pending = false) := by
  intro loop pending
  have hattended : Attended loop pending := attended_run hidle.attended hsafe
  refine ⟨?_, ?_, idle_of_stop, ?_⟩
  · intro seed
    rw [crashed_start, or_iff_right hsafe, hattended.worker]
    constructor
    · rintro ⟨hstopped, hruns | hpending⟩
      · rw [hstopped] at hruns
        cases hruns
      · exact hpending
    · intro hpending
      exact ⟨hattended.running hpending, .inr hpending⟩
  · intro hnone
    cases hrunning : loop.running with
    | true => exact .inl ⟨rfl, fun seed => start_of_running seed hrunning⟩
    | false =>
        refine .inr ⟨hrunning, ?_⟩
        rw [← Option.not_isSome_iff_eq_none, hattended.worker, hrunning, hnone]
        simp
  · intro hhandler hscript
    refine selfStopped_of_quiet ⟨hhandler, hscript, ?_⟩ hsafe
    rw [stream?, hidle.worker]
    rintro _ ⟨⟩

end Runs

/-- The handler asks the loop to stop when the first attempt is refused, and the owner calls to
stop before it starts the loop again. -/
theorem start_after_join_is_safe :
    let setup : Setup := { handler := .stopping }
    let origin : Loop := { script := [{ outcome := .refused "x" }] }
    let calls : List Call := [.start 1, .work, .stop]
    origin.Idle ∧ ¬ (origin.run setup calls).crashed ∧
      ∀ seed, ¬ ((origin.run setup calls).start setup seed).crashed := by
  intro setup origin calls
  have hidle : origin.Idle := ⟨rfl, rfl⟩
  have hsafe : ¬ (origin.run setup calls).crashed := by decide +kernel
  obtain ⟨hreplaces, -⟩ := start_replaces_worker_iff hidle calls hsafe
  have hjoined : origin.selfStopped setup false calls = false := by decide +kernel
  refine ⟨hidle, hsafe, ?_⟩
  intro seed
  rw [hreplaces seed, hjoined]
  simp

/-- Without that call, starting the loop again ends the process. -/
theorem start_after_own_stop_replaces_worker :
    let setup : Setup := { handler := .stopping }
    let loop := ({ script := [{ outcome := .refused "x" }] } : Loop).run setup [.start 1, .work]
    ¬ loop.crashed ∧ loop.running = false ∧ loop.worker.isSome = true ∧
      (loop.start setup 2).worker.map Worker.stage = some (.aborted .workerReplaced) := by
  refine ⟨by decide +kernel, by decide +kernel, by decide +kernel, ?_⟩
  rfl

end Loop

end IdentityMap
