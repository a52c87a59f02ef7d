import IdentityMap.Document.Text
import IdentityMap.Proofs.Loop.Progress

/-!
# Stopping

A request to stop may come from the owner at any time, from the client while a watch is opened
or an event is awaited, or from the fatal handler.  It leaves the loop not running and the stream
at hand closed, and both last.  From then on every move continues what is there, and the worker
can always go on until it has ended.
-/

namespace IdentityMap.Loop

open Relation (ReflTransGen)

section Runs

variable {setup : Setup} {origin loop next before after later : Loop} {made : Nat}

/-! ## After a request -/

/-- A loop that was asked to stop: it does not run, and the stream at hand is closed. -/
structure Draining (loop : Loop) : Prop where
  running : loop.running = false
  closed : ∀ stream ∈ loop.stream?, stream.channel.closed = true

theorem closed_callStop : ∀ stream ∈ loop.callStop.stream?, stream.channel.closed = true := by
  intro stream hstream
  rw [stream?_callStop] at hstream
  obtain ⟨held, -, rfl⟩ := Option.map_eq_some_iff.1 hstream
  exact Channel.closed_close _

theorem closed_close_of_request {stream : Stream} {asked : Prop} [Decidable asked]
    (h : ¬ asked → stream.channel.closed = true) :
    (if asked then stream.close else stream).channel.closed = true := by
  split
  · exact Channel.closed_close _
  · exact h ‹_›

variable [Dialect]

/-- Somebody asks the loop to stop in the course of a move: the client when it is asked for a watch
or for an event, the fatal handler when it is called, or the owner. -/
inductive Requests (setup : Setup) (before : Loop) : Loop → Prop
  | opening {worker : Worker} {after : Loop} (hstep : before.step setup = some after)
      (hworker : before.worker = some worker) (hstage : worker.stage = .deciding)
      (hrunning : before.running = true) (hstops : (attemptAt before.script 0).stops = true) :
      Requests setup before after
  | asking {worker : Worker} {stream : Stream} {delivered : Nat} {after : Loop}
      (hstep : before.step setup = some after) (hworker : before.worker = some worker)
      (hstage : worker.stage = .asking stream delivered) (hstops : stream.stopAfter = some 0) :
      Requests setup before after
  | handler {after : Loop} (hstep : before.step setup = some after)
      (hhandler : setup.handler = .stopping) (hcalled : fatals after.trace ≠ fatals before.trace) :
      Requests setup before after
  | owner : Requests setup before before.callStop

theorem Requests.proceeds (h : Requests setup before after) : Proceeds setup before after := by
  cases h with
  | opening hstep _ _ _ _ | asking hstep _ _ _ | handler hstep _ _ => exact .work hstep
  | owner => exact .callStop

/-- Wherever a request comes from, it closes the stream at hand. -/
theorem Requests.draining (hsink : setup.sink = .accepting) (h : Requests setup before after) :
    Draining after := by
  cases h with
  | @opening worker _ hstep hworker hstage hrunning hstops =>
      obtain ⟨other, hother, hturn⟩ := turn_of_step hsink hstep
      obtain rfl := Option.some.inj (hworker.symm.trans hother)
      cases hturn with
      | halt _ hnot =>
          rw [hrunning] at hnot
          cases hnot
      | giveUp _ _ _ _ | retry _ _ _ _ _ => exact ⟨by simp [hstops], by rintro stream ⟨⟩⟩
      | opened _ _ _ =>
          refine ⟨by simp [hstops], ?_⟩
          rintro stream hstream
          obtain rfl := Option.some.inj hstream
          exact closed_close_of_request fun hnot => absurd hstops hnot
      | ask hother | receive hother _ | leave hother _ _ _ | reopen hother _ _ _ _ | wake hother =>
          rw [hstage] at hother
          cases hother
  | @asking worker asked delivered _ hstep hworker hstage hstops =>
      obtain ⟨other, hother, hturn⟩ := turn_of_step hsink hstep
      obtain rfl := Option.some.inj (hworker.symm.trans hother)
      cases hturn with
      | ask hasked =>
          rw [hstage] at hasked
          cases hasked
          refine ⟨by simp [hstops], ?_⟩
          rintro stream hstream
          obtain rfl := Option.some.inj hstream
          exact closed_close_of_request fun hnot => absurd hstops hnot
      | halt hother _ | giveUp hother _ _ _ | retry hother _ _ _ _ | opened hother _ _
      | receive hother _ | leave hother _ _ _ | reopen hother _ _ _ _ | wake hother =>
          rw [hstage] at hother
          cases hother
  | handler hstep hhandler hcalled =>
      obtain ⟨worker, -, hturn⟩ := turn_of_step hsink hstep
      cases hturn with
      | giveUp _ _ _ _ => exact ⟨by simp [hhandler], by rintro stream ⟨⟩⟩
      | halt _ _ | retry _ _ _ _ _ | opened _ _ _ | ask _ | receive _ _ | leave _ _ _ _
      | reopen _ _ _ _ _ | wake _ => simp at hcalled
  | owner => exact ⟨rfl, closed_callStop⟩

/-- Nothing but a request stops a loop that runs. -/
theorem requests_of_proceeds (hsink : setup.sink = .accepting) (hmove : Proceeds setup before after)
    (hrunning : before.running = true) (hstopped : after.running = false) :
    Requests setup before after := by
  cases hmove with
  | work hstep =>
      obtain ⟨worker, hworker, hturn⟩ := turn_of_step hsink hstep
      cases hturn with
      | giveUp hstage _ _ _ =>
          by_cases hstops : (attemptAt before.script 0).stops = true
          · exact .opening hstep hworker hstage hrunning hstops
          · have hhandler : setup.handler = .stopping := by simpa [hstops] using hstopped
            exact .handler hstep hhandler (by simp [hhandler, FatalHandler.items])
      | retry hstage _ _ _ _ | opened hstage _ _ =>
          exact .opening hstep hworker hstage hrunning (by simpa using hstopped)
      | ask hstage => exact .asking hstep hworker hstage (by simpa [hrunning] using hstopped)
      | halt _ _ | receive _ _ | leave _ _ _ _ | reopen _ _ _ _ _ | wake _ =>
          have hsame : before.running = false := hstopped
          rw [hrunning] at hsame
          cases hsame
  | callStop => exact .owner
  | join hnot =>
      rw [hrunning] at hnot
      cases hnot

theorem Draining.proceeds (hsink : setup.sink = .accepting) (h : Draining loop)
    (hmove : Proceeds setup loop next) : Draining next := by
  refine ⟨hmove.running_eq_false hsink h.running, ?_⟩
  cases hmove with
  | work hstep =>
      obtain ⟨worker, hworker, hturn⟩ := turn_of_step hsink hstep
      have hheld : ∀ stream ∈ worker.stage.stream?, stream.channel.closed = true := by
        simpa [stream?, hworker] using h.closed
      cases hturn with
      | halt _ _ | leave _ _ _ _ | reopen _ _ _ _ _ | wake _ | giveUp _ _ _ _ | retry _ _ _ _ _ =>
          rintro stream ⟨⟩
      | opened _ hrunning _ =>
          rw [h.running] at hrunning
          cases hrunning
      | @ask asked _ hstage =>
          have hclosed : asked.channel.closed = true := hheld asked (by rw [hstage]; rfl)
          rintro stream hstream
          obtain rfl := Option.some.inj hstream
          exact closed_close_of_request fun _ => hclosed
      | @receive read _ _ _ hstage _ =>
          have hclosed : read.channel.closed = true := hheld read (by rw [hstage]; rfl)
          rintro stream hstream
          obtain rfl := Option.some.inj hstream
          exact hclosed
  | callStop => exact closed_callStop
  | join _ =>
      rw [stream?_join]
      exact h.closed

theorem Draining.of_proceeds (hsink : setup.sink = .accepting) (h : Draining loop)
    (hrun : ReflTransGen (Proceeds setup) loop later) : Draining later := by
  induction hrun with
  | refl => exact h
  | tail _ hmove ih => exact ih.proceeds hsink hmove

/-- A loop that does not run opens nothing more. -/
theorem continues_of_proceeds (hsink : setup.sink = .accepting) (hstopped : loop.running = false)
    (hrun : ReflTransGen (Proceeds setup) loop later) : Continues loop later := by
  induction hrun with
  | refl => exact ⟨rfl, rfl, rfl, rfl⟩
  | @tail middle _ hmiddle hmove ih =>
      have hnot := running_eq_false_of_proceeds hsink hmiddle hstopped
      rcases hmove.continues_or_opens hsink with hcontinues | hopens
      · exact ⟨hcontinues.script.trans ih.script, hcontinues.openings.trans ih.openings,
          hcontinues.delivery.trans ih.delivery, hcontinues.release.trans ih.release⟩
      · rw [hopens.running] at hnot
        cases hnot

/-! ## The end -/

omit [Dialect] in
theorem stream?_of_done (hdone : loop.done) : loop.stream? = none := by
  cases hworker : loop.worker with
  | none => simp [stream?, hworker]
  | some worker => simp [stream?, hworker, hdone worker hworker, Stage.stream?]

theorem done_settle (hsink : setup.sink = .accepting) (hstanding : Standing setup origin made loop)
    (hdraining : Draining loop) : (loop.settle setup).done := by
  have hkept : ∀ loop next, (Draining loop ∧ ∃ made, Standing setup origin made loop) →
      loop.step setup = some next →
        (Draining next ∧ ∃ made, Standing setup origin made next) ∧ next.cost < loop.cost := by
    rintro loop next ⟨hdraining, made, hstanding⟩ hstep
    obtain ⟨worker, hworker, hturn⟩ := turn_of_step hsink hstep
    exact ⟨⟨hdraining.proceeds hsink (.work hstep), hstanding.proceeds hsink (.work hstep)⟩,
      cost_lt_of_turn hworker (fun _ => hdraining.running) hturn⟩
  obtain ⟨⟨hclosed, _, hstands⟩, hnone⟩ :=
    settle_of_invariant _ hkept ⟨hdraining, made, hstanding⟩
  cases hstands.phase with
  | underway hworker hlive _ _ _ =>
      obtain ⟨next, hstep⟩ : ∃ next, (loop.settle setup).step setup = some next :=
        exists_step hworker hlive hclosed.closed
      rw [hnone] at hstep
      cases hstep
  | stopped hdone _ _ _ | failed hdone _ _ _ _ _ _ => exact hdone

omit [Dialect] in
/-- The attempts that a run has made decide how it ends. -/
theorem Standing.verdict (h : Standing setup origin made loop) (hdone : loop.done) :
    loop.state = .failed ∧ (∃ position, made = position + 1 ∧
        FirstFatal setup.options.maxReopenAttempts (outcomes origin.script) position) ∨
      loop.state = .stopped ∧ ∀ position < made,
        ¬ FatalAt setup.options.maxReopenAttempts (outcomes origin.script) position := by
  cases h.phase with
  | underway hworker hlive _ _ _ =>
      rw [hdone _ hworker] at hlive
      cases hlive
  | stopped _ hstate hharmless _ => exact .inr ⟨hstate, hharmless⟩
  | failed _ hstate hmade hfirst _ _ _ => exact .inl ⟨hstate, _, hmade, hfirst⟩

/-- A request finds the run failed, or comes in the course of a fatal attempt, or stops it. -/
theorem verdict_of_request (hsink : setup.sink = .accepting) (hidle : origin.Idle) {seed : UInt32}
    (hrun : ReflTransGen (Proceeds setup) (origin.start setup seed) before)
    (hrequest : Requests setup before after)
    (hlater : ReflTransGen (Proceeds setup) after later) (hdone : later.done) :
    (later.state = .failed ∨ later.state = .stopped) ∧
      (later.state = .failed ↔ before.done ∧ before.state = .failed ∨
        openings after.trace = openings before.trace + 1 ∧
          ∃ position, openings before.trace = openings origin.trace + position ∧
            FatalAt setup.options.maxReopenAttempts (outcomes origin.script) position) := by
  have hmove := hrequest.proceeds
  have hstopped := (hrequest.draining hsink).running
  obtain ⟨made, hbefore⟩ := exists_standing hsink hidle hrun
  cases hbefore.phase with
  | stopped hended hstate _ _ | failed hended hstate _ _ _ _ _ =>
      -- The run was over before the request, which leaves its outcome alone.
      have hsame : later.state = before.state :=
        (rests_of_proceeds hended (hlater.head hmove)).state
      have hopenings := (rests_of_done hended hmove).openings
      simp [hsame, hstate, hopenings, hended]
  | underway hworker hlive hcounts _ _ =>
      have hbusy : ¬ before.done := by
        intro hended
        rw [hended _ hworker] at hlive
        cases hlive
      have hopenings := (continues_of_proceeds hsink hstopped hlater).openings
      obtain ⟨made', hstanding⟩ := exists_standing hsink hidle ((hrun.tail hmove).trans hlater)
      rcases hmove.continues_or_opens hsink with hcontinues | hopens
      · -- Between two attempts: none of those made so far was fatal.
        have hsame := hcontinues.openings
        obtain rfl : made' = made := by
          apply made_eq_of_openings hstanding
          calc openings later.trace = openings after.trace := hopenings
            _ = openings before.trace := hsame
            _ = openings origin.trace + made := hbefore.openings
        rcases hstanding.verdict hdone with ⟨-, position, hmade, hfirst⟩ | ⟨hstate, -⟩
        · exact (hcounts.harmless position (by omega) hfirst.1).elim
        · simp [hstate, hbusy, hsame]
      · -- In the course of an attempt, which is the last one and decides.
        have hnext := hopens.openings
        obtain rfl : made' = made + 1 := by
          apply made_eq_of_openings hstanding
          calc openings later.trace = openings after.trace := hopenings
            _ = openings before.trace + 1 := hnext
            _ = openings origin.trace + (made + 1) := by rw [hbefore.openings, Nat.add_assoc]
        rcases hstanding.verdict hdone with
          ⟨hstate, position, hmade, hfirst⟩ | ⟨hstate, hharmless⟩
        · obtain rfl := Nat.succ.inj hmade
          simp [hstate, hnext, hbefore.openings, hfirst.1]
        · have hnot := hharmless made (by omega)
          simp [hstate, hbusy, hbefore.openings, hnot]

/-! ## Requests are never lost -/

/-- From whatever point of a run and from whatever side a request to stop comes, the loop does not
run any more, no further watch is opened, the stream at hand is closed, drained and released, and
the worker ends.  Nothing but a request has this effect. -/
theorem stop_request_is_never_lost (hsink : setup.sink = .accepting) (hidle : origin.Idle)
    {seed : UInt32} (hrun : ReflTransGen (Proceeds setup) (origin.start setup seed) before)
    (hrequest : Requests setup before after) :
    after.running = false ∧
    (∀ stream ∈ after.stream?, stream.channel.closed = true) ∧
    -- Whatever else happens, no watch is opened and the worker, left alone, comes to its end.
    (∀ later, ReflTransGen (Proceeds setup) after later →
      openings later.trace = openings after.trace ∧
      (later.settle setup).done ∧
      -- By then it has handled what the stream had left, and only a fatal attempt has failed it.
      (later.done →
        handled later.trace = handled after.trace ++ after.queued ∧
        closings later.trace = closings after.trace + after.held ∧
        (later.state = .failed ∨ later.state = .stopped) ∧
        (later.state = .failed ↔ before.done ∧ before.state = .failed ∨
          openings after.trace = openings before.trace + 1 ∧
            ∃ position, openings before.trace = openings origin.trace + position ∧
              FatalAt setup.options.maxReopenAttempts (outcomes origin.script) position))) ∧
    -- A run that has failed stays failed.
    (∀ failed, ReflTransGen (Proceeds setup) (origin.start setup seed) failed →
      openings origin.trace < openings failed.trace → failed.state = .failed →
        (failed.stop setup).state = .failed ∧
        ∀ later, ReflTransGen (Proceeds setup) failed later → later.state = .failed) ∧
    -- A loop that runs goes on running in every other move.
    ∀ next, Proceeds setup before next → before.running = true →
      (next.running = false ↔ Requests setup before next) := by
  have hdraining := hrequest.draining hsink
  refine ⟨hdraining.running, hdraining.closed, ?_, ?_, ?_⟩
  · intro later hlater
    have hcontinues := continues_of_proceeds hsink hdraining.running hlater
    obtain ⟨made, hstanding⟩ :=
      exists_standing hsink hidle ((hrun.tail hrequest.proceeds).trans hlater)
    have hends := done_settle hsink hstanding (hdraining.of_proceeds hsink hlater)
    refine ⟨hcontinues.openings, hends, ?_⟩
    intro hdone
    have hnone : later.stream? = none := stream?_of_done hdone
    refine ⟨?_, ?_, verdict_of_request hsink hidle hrun hrequest hlater hdone⟩
    · have hdelivery := hcontinues.delivery
      simpa [queued, hnone] using hdelivery
    · have hrelease := hcontinues.release
      simpa [held, hnone] using hrelease
  · intro failed hreached hattempts hfailed
    obtain ⟨hdone, -⟩ := failure_of_run hsink hidle hreached hattempts hfailed
    have hkept : ∀ later, ReflTransGen (Proceeds setup) failed later → later.state = .failed := by
      intro later hlater
      exact (rests_of_proceeds hdone hlater).state.trans hfailed
    exact ⟨hkept _ (proceeds_stop hsink failed), hkept⟩
  · intro next hmove hrunning
    exact ⟨requests_of_proceeds hsink hmove hrunning, fun h => (h.draining hsink).running⟩

end Runs

/-- A client that opens one stream, which stays open after two events.  It may ask the loop to stop
when it is asked for an event, after so many earlier requests. -/
def lingering (stopAfter : Option Nat) : List Attempt :=
  let update (account : String) : Event :=
    { kind := .added
      object := some { name := "aws-auth", data := .ofList [("mapAccounts", account)] } }
  [{ outcome := .opened
      { channel := { queue := [update "[\"1\"]", update "[\"2\"]"] }, stopAfter := stopAfter } }]

/-- The loop is stopped when one of the two events was handled, first by its owner, and then by its
client on the thread of the worker. -/
theorem stop_request_drains_lingering :
    let started (stopAfter : Option Nat) : Loop :=
      (({ script := lingering stopAfter } : Loop).start {} 1).advance {} (fun _ => false) 3
    let drained (before final : Loop) : Prop :=
      (handled before.trace).length = 1 ∧ before.queued.length = 1 ∧
        handled final.trace = handled before.trace ++ before.queued ∧
        closings final.trace = 1 ∧ openings final.trace = 1 ∧ final.state = .stopped
    drained (started none) ((started none).callStop.settle {}) ∧
      ∃ after, (started (some 1)).step {} = some after ∧ after.running = false ∧
        drained (started (some 1)) (after.settle {}) := by
  intro started drained
  have hdrained (stopAfter : Option Nat) (after : Loop)
      (hrequest : Requests {} (started stopAfter) after)
      (hcontinues : Continues (started stopAfter) after)
      (hbefore : let before := started stopAfter
        (handled before.trace).length = 1 ∧ before.queued.length = 1 ∧
          closings before.trace + before.held = 1 ∧ openings before.trace = 1 ∧
          before.state = .watching) :
      after.running = false ∧ drained (started stopAfter) (after.settle {}) := by
    have hidle : ({ script := lingering stopAfter } : Loop).Idle := ⟨rfl, rfl⟩
    have hrun : ReflTransGen (Proceeds {})
        (({ script := lingering stopAfter } : Loop).start {} 1) (started stopAfter) :=
      proceeds_of_works (works_advance {} _ _ _)
    obtain ⟨hstopped, -, hdrains, -⟩ := stop_request_is_never_lost rfl hidle hrun hrequest
    obtain ⟨-, hdone, -⟩ := hdrains after .refl
    obtain ⟨hopenings, -, hend⟩ := hdrains _ (proceeds_of_works (works_settle {} after))
    obtain ⟨hhandled, hclosings, hstate, hverdict⟩ := hend hdone
    obtain ⟨hone, hleft, hheld, hopened, hwatching⟩ := hbefore
    have hnotFailed : (after.settle {}).state ≠ .failed := by
      rw [Ne, hverdict, hwatching, hcontinues.openings]
      simp
    exact ⟨hstopped, hone, hleft, hhandled.trans hcontinues.delivery,
      hclosings.trans (hcontinues.release.trans hheld),
      hopenings.trans (hcontinues.openings.trans hopened), hstate.resolve_left hnotFailed⟩
  refine ⟨(hdrained none _ .owner continues_callStop (by decide +kernel)).2, ?_⟩
  -- The worker is about to ask for the event before which the client wants the loop to stop.
  obtain ⟨worker, hworker, hasks⟩ := (Option.any_eq_true (fun worker : Worker =>
    match worker.stage with
    | .asking stream _ => stream.stopAfter = some 0
    | _ => false) (started (some 1)).worker).1 (by decide +kernel)
  obtain ⟨after, hstep⟩ : ∃ after, (started (some 1)).step {} = some after :=
    Option.isSome_iff_exists.1 (by decide +kernel)
  have hrequest : Requests {} (started (some 1)) after := by
    cases hstage : worker.stage with
    | asking stream delivered =>
        exact .asking hstep hworker hstage (by simpa [hstage] using hasks)
    | _ => simp [hstage] at hasks
  have hcontinues : Continues (started (some 1)) after := by
    refine (hrequest.proceeds.continues_or_opens rfl).resolve_right fun hopens => ?_
    have hheld : (started (some 1)).stream?.isSome = true := by decide +kernel
    simp [hopens.stream?_eq_none] at hheld
  exact ⟨after, hstep, hdrained _ after hrequest hcontinues (by decide +kernel)⟩

end IdentityMap.Loop
