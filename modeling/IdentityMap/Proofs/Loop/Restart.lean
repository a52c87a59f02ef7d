import IdentityMap.Proofs.Loop.Past

/-!
# Restarts

A loop that was stopped can be started again.  The new run is that of a newly made loop with the
same store and with what is left of the script: the worker and its variables are new, and all
that the loop still has of earlier runs is its past, on which nothing depends, and its state, which
the worker sets before it does anything else.
-/

namespace IdentityMap

/-- What can be seen, except for the state that a call of the owner finds. -/
def Item.masked : Item → Item
  | .start _ => .start .disconnected
  | .stop _ => .stop .disconnected
  | item => item

namespace Loop

section Runs

variable {setup : Setup} {origin fresh loop next : Loop} {worker : Worker} {seed : UInt32}

/-! ## The state before the first step -/

def withState (state : State) (loop : Loop) : Loop :=
  { loop with state := state }

@[simp] theorem worker_withState (state : State) : (loop.withState state).worker = loop.worker :=
  rfl

@[simp] theorem running_withState (state : State) :
    (loop.withState state).running = loop.running :=
  rfl

/-- There is no stream to close. -/
theorem worker_requestStop_of_deciding (hworker : loop.worker = some worker)
    (hstage : worker.stage = .deciding) : loop.requestStop.worker = some worker := by
  have hkept : { worker with stage := worker.stage.closeStream } = worker := by
    rw [hstage, Stage.closeStream, ← hstage] <;> simp
  rw [requestStop, hworker, Option.map_some, hkept]

variable [Dialect]

theorem step_of_deciding (hworker : loop.worker = some worker) (hstage : worker.stage = .deciding) :
    loop.step setup =
      if loop.running then some (loop.openWatch setup worker) else some (loop.halt worker) := by
  simp [step, hworker, hstage]

theorem exists_step_of_deciding (setup : Setup) (hworker : loop.worker = some worker)
    (hstage : worker.stage = .deciding) : ∃ next, loop.step setup = some next := by
  rw [step_of_deciding hworker hstage]
  split <;> exact ⟨_, rfl⟩

/-- A worker that is about to open a watch sets the state before it does anything else. -/
theorem step_withState (state : State) (hworker : loop.worker = some worker)
    (hstage : worker.stage = .deciding) : (loop.withState state).step setup = loop.step setup := by
  rw [step_of_deciding hworker hstage, step_of_deciding (worker_withState state ▸ hworker) hstage]
  rfl

theorem settle_withState (state : State) (hworker : loop.worker = some worker)
    (hstage : worker.stage = .deciding) :
    (loop.withState state).settle setup = loop.settle setup := by
  obtain ⟨steps, hbudget⟩ : ∃ steps, loop.budget = steps + 1 := by
    refine Nat.exists_eq_succ_of_ne_zero ?_
    simp [budget, attemptCost, Attempt.silent]
  have hsame : (loop.withState state).budget = loop.budget := rfl
  obtain ⟨next, hstep⟩ := exists_step_of_deciding setup hworker hstage
  simp [settle, settleUntil, hsame, hbudget, advance, step_withState state hworker hstage, hstep]

/-! ## Loops that go on alike -/

omit [Dialect] in
/-- Without anything in its trace, a loop that records something has only that in its past. -/
theorem record_eq_withPast (htrace : loop.trace = []) (items : List Item) :
    loop.record items = loop.withPast items "" := by
  have herror : (if loop.fatalError = "" then "" else loop.fatalError) = loop.fatalError := by
    split
    · rename_i hnone
      exact hnone.symm
    · rfl
  rw [record, withPast, herror, htrace, List.append_nil, List.nil_append]

omit [Dialect] in
theorem start_eq_withPast (htrace : loop.trace = []) (hrunning : loop.running = true)
    (seed : UInt32) : loop.start setup seed = loop.withPast [.start loop.state] "" := by
  rw [start_of_running seed hrunning, record_eq_withPast htrace]

theorem stop_eq_withPast (htrace : loop.trace = []) :
    loop.stop setup =
      (loop.requestStop.settle setup).join.withPast [.stop loop.state] "" := by
  rw [stop, record_eq_withPast htrace, requestStop_withPast, settle_withPast, join_withPast]

/-- Two loops that differ at most in their pasts, apart from what the calls of their owners found,
or also in their states while the worker is about to open its first watch. -/
inductive Alike : Loop → Loop → Prop
  | same {core : Loop} {past past' : List Item}
      (hpast : past.map Item.masked = past'.map Item.masked) :
      Alike (core.withPast past "") (core.withPast past' "")
  | waiting {core : Loop} {worker : Worker} {past past' : List Item} (state : State)
      (htrace : core.trace = []) (hrunning : core.running = true)
      (hworker : core.worker = some worker) (hstage : worker.stage = .deciding)
      (hpast : past.map Item.masked = past'.map Item.masked) (hopenings : openings past' = 0) :
      Alike ((core.withState state).withPast past "") (core.withPast past' "")

theorem Alike.perform (h : Alike loop fresh) (call : Call) :
    Alike (loop.perform setup call) (fresh.perform setup call) := by
  cases h with
  | same hpast =>
      rw [perform_withPast, perform_withPast]
      exact .same hpast
  | @waiting core worker past past' state htrace hrunning hworker hstage hpast hopenings =>
      rw [perform_withPast, perform_withPast]
      have hmasked : ∀ item item' : Item, item.masked = item'.masked →
          (past ++ [item]).map Item.masked = (past' ++ [item']).map Item.masked := by
        intro item item' hitem
        simp [hpast, hitem]
      have hempty : (core.withState state).trace = [] := htrace
      cases call with
      | work =>
          have hsame : (core.withState state).perform setup .work = core.perform setup .work := by
            obtain ⟨next, hstep⟩ := exists_step_of_deciding setup hworker hstage
            rw [Loop.perform, Loop.perform, step_withState state hworker hstage, hstep]
            rfl
          rw [hsame]
          exact .same hpast
      | start seed =>
          have hleft : (core.withState state).perform setup (.start seed) =
              (core.withState state).withPast [.start state] "" :=
            start_eq_withPast hempty hrunning seed
          have hright : core.perform setup (.start seed) = core.withPast [.start core.state] "" :=
            start_eq_withPast htrace hrunning seed
          rw [hleft, hright, withPast_withPast, withPast_withPast]
          exact .waiting state htrace hrunning hworker hstage (hmasked _ _ rfl)
            (by simp [hopenings])
      | stop =>
          have hsettled : (core.withState state).requestStop.settle setup =
              core.requestStop.settle setup :=
            settle_withState state (worker_requestStop_of_deciding hworker hstage) hstage
          have hleft : (core.withState state).perform setup .stop =
              (core.requestStop.settle setup).join.withPast [.stop state] "" := by
            rw [← hsettled]
            exact stop_eq_withPast hempty
          have hright : core.perform setup .stop =
              (core.requestStop.settle setup).join.withPast [.stop core.state] "" :=
            stop_eq_withPast htrace
          rw [hleft, hright, withPast_withPast, withPast_withPast]
          exact .same (hmasked _ _ rfl)

theorem Alike.run (h : Alike loop fresh) (calls : List Call) :
    Alike (loop.run setup calls) (fresh.run setup calls) := by
  induction calls generalizing loop fresh with
  | nil => exact h
  | cons call calls ih => exact ih (h.perform call)

/-! ## Restarts -/

/-- A newly made loop with the store of a loop and with what is left of its script. -/
def renewed (loop : Loop) : Loop :=
  { store := loop.store, script := loop.script }

/-- What a loop that was started again has in common with a newly made one after the same calls. -/
structure Resumes (origin fresh loop : Loop) : Prop where
  store : loop.store = fresh.store
  script : loop.script = fresh.script
  running : loop.running = fresh.running
  worker : loop.worker = fresh.worker
  /-- The same was seen since, except for the states that the calls found. -/
  trace : ∃ items, loop.trace = origin.trace ++ items ∧
    items.map Item.masked = fresh.trace.map Item.masked
  /-- The state is the same once a watch was asked for or the loop does not run. -/
  state : loop.state = fresh.state ∨ fresh.running = true ∧ openings fresh.trace = 0
  /-- The text of an earlier failure stays until there is another one. -/
  fatalError : loop.fatalError = if fresh.fatalError = "" then origin.fatalError
    else fresh.fatalError

omit [Dialect] in
theorem Idle.eq_withPast (h : origin.Idle) :
    origin =
      (origin.renewed.withState origin.state).withPast origin.trace origin.fatalError := by
  obtain ⟨hrunning, hworker⟩ := h
  cases origin
  obtain rfl : _ = false := hrunning
  obtain rfl : _ = none := hworker
  simp [renewed, withState, withPast]

omit [Dialect] in
theorem alike_start (state : State) (seed : UInt32) :
    Alike ((origin.renewed.withState state).start setup seed)
      (origin.renewed.start setup seed) := by
  let worker : Worker := { backoff := .ofPolicy setup.options.backoff seed }
  let core : Loop := { origin.renewed with running := true, worker := some worker }
  have hleft : (origin.renewed.withState state).start setup seed =
      (core.withState state).withPast [.start state] "" :=
    start_of_idle seed rfl rfl
  have hright : origin.renewed.start setup seed = core.withPast [.start .disconnected] "" :=
    start_of_idle seed rfl rfl
  rw [hleft, hright]
  exact .waiting state rfl rfl rfl rfl rfl rfl

omit [Dialect] in
theorem Alike.resumes (h : Alike loop fresh) (origin : Loop) :
    Resumes origin fresh (loop.withPast origin.trace origin.fatalError) := by
  cases h with
  | same hpast =>
      refine ⟨rfl, rfl, rfl, rfl, ⟨_, rfl, ?_⟩, .inl rfl, rfl⟩
      simp [withPast, hpast]
  | waiting state htrace hrunning hworker hstage hpast hopenings =>
      refine ⟨rfl, rfl, rfl, rfl, ⟨_, rfl, ?_⟩, .inr ⟨hrunning, ?_⟩, rfl⟩
      · simp [withPast, withState, hpast]
      · simp [withPast, htrace, hopenings]

theorem resumes_of_idle (hidle : origin.Idle) (seed : UInt32) (calls : List Call) :
    Resumes origin (origin.renewed.run setup (.start seed :: calls))
      (origin.run setup (.start seed :: calls)) := by
  have halike : Alike ((origin.renewed.withState origin.state).run setup (.start seed :: calls))
      (origin.renewed.run setup (.start seed :: calls)) :=
    (alike_start origin.state seed).run calls
  have hresumes := halike.resumes origin
  rw [← run_withPast, ← hidle.eq_withPast] at hresumes
  exact hresumes

/-! ## Loops that only their owner stops -/

def Call.begins (begun : Bool) : Call → Bool
  | .work => begun
  | .start _ => true
  | .stop => false

def begun (calls : List Call) : Bool :=
  calls.foldl Call.begins false

structure Steady (setup : Setup) (loop : Loop) (begun : Bool) : Prop where
  quiet : Quiet setup loop
  attended : Attended loop false
  safe : ¬ loop.crashed
  running : loop.running = begun

theorem not_crashed_stop (hsink : setup.sink = .accepting) (hsafe : ¬ loop.crashed) :
    ¬ (loop.stop setup).crashed := by
  have hrun := proceeds_stop hsink loop
  generalize loop.stop setup = stopped at hrun ⊢
  induction hrun with
  | refl => exact hsafe
  | tail _ hproceeds ih => exact not_crashed_of_proceeds hsink ih hproceeds

theorem Steady.perform (hsink : setup.sink = .accepting) {begun : Bool}
    (h : Steady setup loop begun) (call : Call) :
    Steady setup (loop.perform setup call) (call.begins begun) := by
  cases call with
  | work =>
      rcases perform_work setup loop with hstep | hsame
      · have hsafe := not_crashed_of_step hsink hstep
        obtain ⟨hquiet, hrunning⟩ := h.quiet.step hstep hsafe
        have hattended := h.attended.work hsafe
        exact ⟨hquiet, by simpa [hrunning] using hattended, hsafe, hrunning.trans h.running⟩
      · rw [hsame]
        exact h
  | start seed =>
      have hsafe : ¬ (loop.start setup seed).crashed := by
        rw [crashed_start]
        rintro (hcrashed | ⟨hstopped, hsome⟩)
        · exact h.safe hcrashed
        · have hruns := h.attended.worker.1 hsome
          simp [hstopped] at hruns
      exact ⟨h.quiet.start seed, h.attended.start hsafe, hsafe, running_start seed⟩
  | stop =>
      have hsafe := not_crashed_stop hsink h.safe
      have hidle := idle_of_stop hsafe
      exact ⟨h.quiet.stop hsafe, hidle.attended, hsafe, hidle.running⟩

theorem Steady.run (hsink : setup.sink = .accepting) {begun : Bool} (h : Steady setup loop begun)
    (calls : List Call) :
    Steady setup (loop.run setup calls) (calls.foldl Call.begins begun) := by
  induction calls generalizing loop begun with
  | nil => exact h
  | cons call calls ih => exact ih (h.perform hsink call)

omit [Dialect] in
theorem Steady.idle (h : Steady setup loop false) : loop.Idle := by
  refine ⟨h.running, ?_⟩
  rw [← Option.not_isSome_iff_eq_none, h.attended.worker, h.running]
  simp

theorem stop_of_idle (hidle : loop.Idle) : loop.stop setup = loop.record [.stop loop.state] := by
  have hasked : (loop.record [.stop loop.state]).requestStop = loop.record [.stop loop.state] := by
    simp [record, requestStop, hidle.worker, hidle.running]
  have hnone : (loop.record [.stop loop.state]).worker = none := hidle.worker
  have hstuck : (loop.record [.stop loop.state]).step setup = none := by simp [step, hnone]
  rw [stop, hasked, settle_of_stuck hstuck]
  simp [join, hnone]

/-- The first attempt of a run must not be refused, whatever happened before the run. -/
theorem failed_of_first_refusal (hsink : setup.sink = .accepting) (hidle : origin.Idle)
    (seed : UInt32) {reason : String}
    (hrefused : (attemptAt origin.script 0).outcome = .refused reason) :
    let next := origin.run setup [.start seed, .work]
    next.state = .failed ∧ next.fatalError = "initial watch failed: " ++ upToNul reason := by
  have hworker : (origin.start setup seed).worker =
      some { backoff := .ofPolicy setup.options.backoff seed } := by
    rw [start_of_idle seed hidle.running hidle.worker]
  obtain ⟨next, hstep⟩ := exists_step_of_deciding setup hworker rfl
  have hnext : origin.run setup [.start seed, .work] = next := by
    simp [perform, hstep]
  obtain ⟨worker, hsome, hturn⟩ := turn_of_step hsink hstep
  obtain rfl := Option.some.inj (hworker.symm.trans hsome)
  have hscript : (origin.start setup seed).script = origin.script := script_start seed
  rw [hnext]
  rw [← hscript] at hrefused
  cases hturn with
  | halt _ hstopped => simp at hstopped
  | giveUp _ _ houtcome hgivesUp =>
      rw [hrefused] at houtcome
      cases houtcome
      cases hgivesUp with
      | first _ => exact ⟨rfl, rfl⟩
      | reopening hconnected _ _ => cases hconnected
  | retry _ _ _ hconnected _ => cases hconnected
  | opened _ _ houtcome =>
      rw [hrefused] at houtcome
      cases houtcome
  | ask hstage | receive hstage _ | leave hstage _ _ _ | reopen hstage _ _ _ _ | wake hstage =>
      cases hstage

/-- A loop that only its owner stops can be started and stopped any number of times.  Each run
goes as that of a newly made loop with the store and the script that it finds; of earlier runs only
their last failure can still be read, until there is another one. -/
theorem restart_equals_fresh_start (hsink : setup.sink = .accepting)
    (hhandler : setup.handler ≠ .stopping) {script : List Attempt}
    (hquiet : ∀ attempt ∈ script, attempt.Quiet) (store : Store) (calls : List Call) :
    let loop := ({ store := store, script := script } : Loop).run setup calls
    -- A loop that was started and not stopped since is not started again.
    (begun calls = true → ∀ seed, loop.start setup seed = loop.record [.start loop.state]) ∧
    (begun calls = false →
      -- A loop that was never started, or was stopped, is not stopped again.
      loop.stop setup = loop.record [.stop loop.state] ∧
      -- When it is started, it goes on like a new one.
      (∀ seed later,
        Resumes loop (loop.renewed.run setup (.start seed :: later))
          (loop.run setup (.start seed :: later))) ∧
      -- So its first attempt must not be refused, even if an earlier run has opened a watch.
      ∀ seed reason, (attemptAt loop.script 0).outcome = .refused reason →
        let next := loop.run setup [.start seed, .work]
        next.state = .failed ∧ next.fatalError = "initial watch failed: " ++ upToNul reason) := by
  intro loop
  have hnew : Steady setup ({ store := store, script := script } : Loop) false := by
    refine ⟨⟨hhandler, hquiet, ?_⟩, Idle.attended ⟨rfl, rfl⟩, ?_, rfl⟩
    · rintro _ ⟨⟩
    · rintro ⟨_, _, ⟨⟩, _⟩
  have hsteady : Steady setup loop (begun calls) := hnew.run hsink calls
  constructor
  · intro hbegun seed
    exact start_of_running seed (hsteady.running.trans hbegun)
  · intro hstopped
    rw [hstopped] at hsteady
    have hidle := hsteady.idle
    exact ⟨stop_of_idle hidle, resumes_of_idle hidle, fun seed _ =>
      failed_of_first_refusal hsink hidle seed⟩

end Runs

/-- After a run that opened a watch, the next one fails at the refusal that the first would have
borne. -/
theorem restart_forgets_opened_watch :
    let setup : Setup := { handler := .observing }
    let loop := ({ script := unsteady } : Loop).run setup [.start 1, .work, .work, .work, .stop]
    let next := loop.run setup [.start 2, .work]
    openings loop.trace = 1 ∧ loop.state = .stopped ∧
      next.state = .failed ∧ next.fatalError = "initial watch failed: gone" ∧
      Resumes loop (loop.renewed.run setup [.start 2, .work]) next := by
  intro setup loop next
  have hsink : setup.sink = .accepting := rfl
  have hquiet : ∀ attempt ∈ unsteady, attempt.Quiet := by decide
  obtain ⟨-, hrestart⟩ := restart_equals_fresh_start hsink (by decide) hquiet .empty
    [.start 1, .work, .work, .work, .stop]
  obtain ⟨-, hresumes, hfails⟩ := hrestart rfl
  obtain ⟨hfailed, herror⟩ := hfails 2 "gone" rfl
  exact ⟨by decide +kernel, by decide +kernel, hfailed, herror, hresumes 2 [.work]⟩

end Loop

end IdentityMap
