import IdentityMap.Proofs.Loop.Owner

/-!
# The past of a loop

What a loop has seen stands in its trace, and the text of its last failure is kept.  A loop looks
at neither.  With another past in front it does what it would have done without: every step and
every call adds the same to the trace, and a failure leaves the same text.  Only as long as there
is no text the one from the past can be seen.
-/

namespace IdentityMap.Loop

variable {setup : Setup} {loop : Loop} {worker : Worker} {past : List Item} {error : String}

def withPast (past : List Item) (error : String) (loop : Loop) : Loop :=
  { loop with
    trace := past ++ loop.trace
    fatalError := if loop.fatalError = "" then error else loop.fatalError }

@[simp] theorem store_withPast : (loop.withPast past error).store = loop.store :=
  rfl

@[simp] theorem script_withPast : (loop.withPast past error).script = loop.script :=
  rfl

@[simp] theorem state_withPast : (loop.withPast past error).state = loop.state :=
  rfl

@[simp] theorem running_withPast : (loop.withPast past error).running = loop.running :=
  rfl

@[simp] theorem worker_withPast : (loop.withPast past error).worker = loop.worker :=
  rfl

theorem withPast_withPast (earlier : List Item) :
    (loop.withPast past "").withPast earlier "" = loop.withPast (earlier ++ past) "" := by
  simp [withPast]

/-! ## Small changes -/

@[simp] theorem record_withPast (items : List Item) :
    (loop.withPast past error).record items = (loop.record items).withPast past error := by
  rw [record, withPast, List.append_assoc]
  rfl

@[simp] theorem goTo_withPast (stage : Stage) :
    (loop.withPast past error).goTo worker stage = (loop.goTo worker stage).withPast past error :=
  rfl

@[simp] theorem requestStop_withPast :
    (loop.withPast past error).requestStop = loop.requestStop.withPast past error :=
  rfl

@[simp] theorem halt_withPast :
    (loop.withPast past error).halt worker = (loop.halt worker).withPast past error :=
  rfl

@[simp] theorem pause_withPast :
    (loop.withPast past error).pause worker = (loop.pause worker).withPast past error := by
  simp [pause]

theorem fail_withPast {reason : String} (hreason : reason ≠ "") :
    (loop.withPast past error).fail setup worker reason =
      (loop.fail setup worker reason).withPast past error := by
  simp [fail_eq, withPast, hreason]

theorem count_withPast {counter : Counter} {go : Loop → Loop}
    (hgo : ∀ loop, go (loop.withPast past error) = (go loop).withPast past error) :
    (loop.withPast past error).count setup worker counter go =
      (loop.count setup worker counter go).withPast past error := by
  cases hrefuses : setup.sink.refuses counter <;> simp [count, hrefuses, hgo]

/-! ## Steps -/

theorem afterRefusal_withPast (reason : String) :
    (loop.withPast past error).afterRefusal setup worker reason =
      (loop.afterRefusal setup worker reason).withPast past error := by
  cases hconnected : worker.connected with
  | false => simp [afterRefusal, hconnected, fail_withPast]
  | true =>
      by_cases hspent : 0 < setup.options.maxReopenAttempts ∧
          setup.options.maxReopenAttempts ≤ worker.failures + 1 <;>
        simp [afterRefusal, hconnected, hspent, fail_withPast]

theorem afterOpening_withPast (stream : Stream) :
    (loop.withPast past error).afterOpening setup worker stream =
      (loop.afterOpening setup worker stream).withPast past error := by
  rw [afterOpening, record_withPast, count_withPast]
  · rfl
  · intro loop
    rfl

theorem openWatch_withPast :
    (loop.withPast past error).openWatch setup worker =
      (loop.openWatch setup worker).withPast past error := by
  have hopening : ({ loop.withPast past error with
      state := .disconnected
      script := loop.script.tail } : Loop) =
        ({ loop with state := .disconnected, script := loop.script.tail } : Loop).withPast
          past error :=
    rfl
  simp only [openWatch, script_withPast, hopening, record_withPast]
  cases hstops : (loop.script.head?.getD .silent).stops <;>
    cases (loop.script.head?.getD .silent).outcome <;>
    simp [afterRefusal_withPast, afterOpening_withPast]

theorem ask_withPast (stream : Stream) (delivered : Nat) :
    (loop.withPast past error).ask worker stream delivered =
      (loop.ask worker stream delivered).withPast past error := by
  simp only [ask, state_withPast, store_withPast, record_withPast, goTo_withPast]
  split <;> rfl

theorem release_withPast (delivered : Nat) :
    (loop.withPast past error).release setup worker delivered =
      (loop.release setup worker delivered).withPast past error := by
  rw [release, record_withPast, count_withPast]
  · rfl
  · intro loop
    simp only [running_withPast, halt_withPast, pause_withPast]
    split
    · rfl
    · split <;> rfl

theorem join_withPast : (loop.withPast past error).join = loop.join.withPast past error := by
  rw [join, join, worker_withPast]
  split <;> rfl

theorem start_withPast (seed : UInt32) :
    (loop.withPast past error).start setup seed = (loop.start setup seed).withPast past error := by
  rw [start, state_withPast, record_withPast]
  cases hrunning : loop.running with
  | true => simp [start, record, hrunning]
  | false =>
      cases hworker : loop.worker <;> simp [start, record, hrunning, hworker] <;> rfl

variable [Dialect]

theorem receive_withPast (stream : Stream) (delivered : Nat) (event : Event) :
    (loop.withPast past error).receive setup worker stream delivered event =
      (loop.receive setup worker stream delivered event).withPast past error := by
  have hstored : ∀ store : Store, ({ loop.withPast past error with store := store } : Loop) =
      ({ loop with store := store } : Loop).withPast past error :=
    fun _ => rfl
  simp only [receive, hstored, store_withPast, record_withPast, goTo_withPast]
  split <;> rfl

theorem step_withPast :
    (loop.withPast past error).step setup = (loop.step setup).map (withPast past error) := by
  cases hworker : loop.worker with
  | none => simp [step, hworker]
  | some worker =>
      cases hstage : worker.stage with
      | deciding =>
          cases hrunning : loop.running <;>
            simp [step, hworker, hstage, hrunning, openWatch_withPast]
      | asking stream delivered => simp [step, hworker, hstage, ask_withPast]
      | waiting stream delivered =>
          cases hqueue : stream.channel.queue with
          | cons event rest =>
              simp [step, hworker, hstage, Channel.next, hqueue, receive_withPast]
          | nil =>
              cases hclosed : stream.channel.closed <;>
                simp [step, hworker, hstage, Channel.next, hqueue, hclosed, release_withPast]
      | pausing | ended | aborted cause => simp [step, hworker, hstage]

/-! ## Calls of the owner -/

theorem advance_withPast (steps : Nat) :
    (loop.withPast past error).advance setup (fun _ => false) steps =
      (loop.advance setup (fun _ => false) steps).withPast past error := by
  induction steps generalizing loop with
  | zero => rfl
  | succ steps ih =>
      rw [advance, advance, step_withPast]
      cases hstep : loop.step setup with
      | none => rfl
      | some next => exact ih

theorem settle_withPast :
    (loop.withPast past error).settle setup = (loop.settle setup).withPast past error :=
  advance_withPast loop.budget

theorem stop_withPast :
    (loop.withPast past error).stop setup = (loop.stop setup).withPast past error := by
  rw [stop, state_withPast, record_withPast, requestStop_withPast, settle_withPast, join_withPast]
  rfl

theorem perform_withPast (call : Call) :
    (loop.withPast past error).perform setup call =
      (loop.perform setup call).withPast past error := by
  cases call with
  | work =>
      rw [perform, step_withPast, perform]
      cases loop.step setup <;> rfl
  | start seed => exact start_withPast seed
  | stop => exact stop_withPast

/-- Whatever happens to a loop does not depend on its past. -/
theorem run_withPast (calls : List Call) :
    (loop.withPast past error).run setup calls = (loop.run setup calls).withPast past error := by
  induction calls generalizing loop with
  | nil => rfl
  | cons call calls ih => rw [run_cons, perform_withPast, ih, run_cons]

/-! ## What is added -/

theorem prefix_of_step {next : Loop} (hstep : loop.step setup = some next) :
    loop.trace <+: next.trace := by
  have hsame : ({ loop with trace := [], fatalError := "" } : Loop).withPast loop.trace
      loop.fatalError = loop := by
    simp [withPast]
  rw [← hsame, step_withPast] at hstep
  obtain ⟨taken, -, rfl⟩ := Option.map_eq_some_iff.1 hstep
  exact List.prefix_append _ _

theorem prefix_of_proceeds {next : Loop} (h : Proceeds setup loop next) :
    loop.trace <+: next.trace := by
  cases h with
  | work hstep => exact prefix_of_step hstep
  | callStop => exact List.prefix_append _ _
  | join _ => exact trace_join.symm ▸ List.prefix_refl _

end IdentityMap.Loop
