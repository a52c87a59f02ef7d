import IdentityMap.Document.Text
import IdentityMap.Proofs.Loop.Progress

/-!
# Giving up

A run fails at the first attempt that is fatal by the rule, and nowhere else.  That it fails only
there is a matter of its standing.  That it comes there at all needs the attempts before it to
pass: their streams end, and nobody asks the loop to stop in their course.
-/

namespace IdentityMap

open Relation (ReflTransGen)

/-! ## Attempts that pass -/

def Stream.Passes (stream : Stream) : Prop :=
  stream.channel.closed = true ∧
    ∀ count ∈ stream.stopAfter, stream.channel.queue.length < count

instance : DecidablePred Stream.Passes := fun stream =>
  inferInstanceAs (Decidable (_ ∧ ∀ count ∈ stream.stopAfter, _))

def Outcome.stream? : Outcome → Option Stream
  | .refused _ => none
  | .opened stream => some stream

/-- An attempt after which the loop either gives up or comes to the next one. -/
def Attempt.Passes (attempt : Attempt) : Prop :=
  attempt.stops = false ∧ ∀ stream ∈ attempt.outcome.stream?, stream.Passes

instance : DecidablePred Attempt.Passes := fun attempt =>
  inferInstanceAs (Decidable (_ ∧ ∀ stream ∈ attempt.outcome.stream?, stream.Passes))

def Stage.Passes : Stage → Prop
  | .asking stream _ => stream.Passes
  | .waiting stream _ => stream.channel.closed = true ∧
      ∀ count ∈ stream.stopAfter, stream.channel.queue.length ≤ count
  | .deciding | .pausing => True
  | .ended | .aborted _ => False

theorem Stream.Passes.waiting {stream : Stream} (h : stream.Passes) (delivered : Nat) :
    (Stage.waiting stream.countDown delivered).Passes := by
  refine ⟨h.1, ?_⟩
  intro count hcount
  cases hstop : stream.stopAfter with
  | none => simp [Stream.countDown, hstop] at hcount
  | some left =>
      cases left with
      | zero => simp [Stream.countDown, hstop] at hcount
      | succ left =>
          obtain rfl : left = count := by simpa [Stream.countDown, hstop] using hcount
          exact Nat.lt_succ_iff.1 (h.2 (left + 1) hstop)

theorem Stage.Passes.isLive {stage : Stage} (h : stage.Passes) : stage.isLive = true := by
  cases stage with
  | ended | aborted _ => exact h.elim
  | _ => rfl

theorem Stage.Passes.closed {stage : Stage} (h : stage.Passes) {stream : Stream}
    (hstream : stage.stream? = some stream) : stream.channel.closed = true := by
  cases stage with
  | asking _ _ | waiting _ _ =>
      obtain rfl := Option.some.inj hstream
      exact h.1
  | _ => cases hstream

namespace Loop

section Runs

variable {setup : Setup} {origin loop next : Loop} {made : Nat}

def isDeciding (loop : Loop) : Bool :=
  loop.worker.any fun worker => worker.stage matches .deciding

theorem isDeciding_iff {worker : Worker} (hworker : loop.worker = some worker) :
    loop.isDeciding = true ↔ worker.stage = .deciding := by
  rw [isDeciding, hworker, Option.any_some]
  cases worker.stage <;> simp

variable [Dialect]

/-- A run after so many attempts, which comes to the next one by itself. -/
structure Passing (setup : Setup) (origin : Loop) (made : Nat) (loop : Loop) : Prop where
  standing : Standing setup origin made loop
  running : loop.running = true
  stage : ∃ worker, loop.worker = some worker ∧ worker.stage.Passes

theorem Passing.exists_step (h : Passing setup origin made loop) :
    ∃ next, loop.step setup = some next := by
  obtain ⟨worker, hworker, hpasses⟩ := h.stage
  refine Loop.exists_step hworker hpasses.isLive ?_
  intro stream hstream
  exact hpasses.closed (by simpa [stream?, hworker] using hstream)

theorem passes_of_turn {worker : Worker} (hpasses : worker.stage.Passes)
    (hstage : worker.stage ≠ .deciding) (hrunning : loop.running = true)
    (h : Turn setup loop worker next) :
    openings next.trace = openings loop.trace ∧ next.running = true ∧
      ∃ worker, next.worker = some worker ∧ worker.stage.Passes := by
  cases h with
  | halt hdeciding _ | giveUp hdeciding _ _ _ | retry hdeciding _ _ _ _ | opened hdeciding _ _ =>
      exact (hstage hdeciding).elim
  | @ask stream delivered hasking =>
      -- More requests are left than events, so this one does not stop the loop.
      rw [hasking] at hpasses
      have hgoes : stream.stopAfter ≠ some 0 := by
        intro hstop
        exact Nat.not_lt_zero _ (hpasses.2 0 hstop)
      refine ⟨by simp, by simp [hrunning, hgoes], _, rfl, ?_⟩
      simpa [hgoes] using hpasses.waiting delivered
  | receive hwaiting hqueue =>
      rw [hwaiting] at hpasses
      refine ⟨by simp, hrunning, _, rfl, hpasses.1, ?_⟩
      intro count hcount
      have hle := hpasses.2 count hcount
      rw [hqueue, List.length_cons] at hle
      exact hle
  | leave _ _ _ hstopped =>
      rw [hrunning] at hstopped
      cases hstopped
  | reopen _ _ _ _ _ => exact ⟨by simp, hrunning, _, rfl, trivial⟩
  | wake _ => exact ⟨rfl, hrunning, _, rfl, trivial⟩

theorem passes_of_attempt {worker : Worker} (hstage : worker.stage = .deciding)
    (hrunning : loop.running = true) (hpasses : (attemptAt loop.script 0).Passes)
    (hgoes : next.state ≠ .failed) (h : Turn setup loop worker next) :
    openings next.trace = openings loop.trace + 1 ∧ next.running = true ∧
      ∃ worker, next.worker = some worker ∧ worker.stage.Passes := by
  obtain ⟨hstops, hstream⟩ := hpasses
  cases h with
  | halt _ hstopped =>
      rw [hrunning] at hstopped
      cases hstopped
  | giveUp _ _ _ _ => exact (hgoes rfl).elim
  | retry _ _ _ _ _ => exact ⟨by simp, by simp [hstops], _, rfl, trivial⟩
  | @opened stream _ _ houtcome =>
      refine ⟨by simp, by simp [hstops], _, rfl, ?_⟩
      have hpasses : stream.Passes := hstream stream (by rw [houtcome]; rfl)
      simpa [hstops, Stage.Passes] using hpasses
  | ask hother | receive hother _ | leave hother _ _ _ | reopen hother _ _ _ _ | wake hother =>
      rw [hstage] at hother
      cases hother

theorem Passing.of_step (hsink : setup.sink = .accepting) (h : Passing setup origin made loop)
    (hdeciding : loop.isDeciding = false) (hstep : loop.step setup = some next) :
    Passing setup origin made next ∧ next.cost < loop.cost := by
  obtain ⟨worker, hworker, hpasses⟩ := h.stage
  obtain ⟨_, hsome, hturn⟩ := turn_of_step hsink hstep
  obtain rfl := Option.some.inj (hworker.symm.trans hsome)
  have hstage : worker.stage ≠ .deciding := by
    rw [Ne, ← isDeciding_iff hworker, hdeciding]
    simp
  obtain ⟨hopenings, hrunning, hnext⟩ := passes_of_turn hpasses hstage h.running hturn
  obtain ⟨made', hstanding⟩ := h.standing.proceeds hsink (.work hstep)
  obtain rfl := made_eq_of_openings hstanding (hopenings.trans h.standing.openings)
  exact ⟨⟨hstanding, hrunning, hnext⟩,
    cost_lt_of_turn hworker (fun hnot => (hstage hnot).elim) hturn⟩

theorem Passing.exists_deciding (hsink : setup.sink = .accepting)
    (h : Passing setup origin made loop) :
    ∃ next, Works setup loop next ∧ Passing setup origin made next ∧ next.isDeciding = true := by
  obtain ⟨hpassing, hend⟩ := advance_of_invariant (Passing setup origin made) isDeciding
    (fun _ _ hpassing => hpassing.of_step hsink) h (Nat.le_refl loop.cost)
  refine ⟨_, works_advance setup isDeciding loop.cost loop, hpassing, hend.resolve_right ?_⟩
  intro hnone
  obtain ⟨next, hstep⟩ := hpassing.exists_step
  rw [hnone] at hstep
  cases hstep

theorem Passing.attempt (hsink : setup.sink = .accepting) (h : Passing setup origin made loop)
    (hdeciding : loop.isDeciding = true) :
    ∃ next, loop.step setup = some next ∧ Standing setup origin (made + 1) next ∧
      ((attemptAt origin.script made).Passes → next.state ≠ .failed →
        Passing setup origin (made + 1) next) := by
  obtain ⟨next, hstep⟩ := h.exists_step
  obtain ⟨worker, hworker, hturn⟩ := turn_of_step hsink hstep
  obtain ⟨made', hstanding⟩ := h.standing.proceeds hsink (.work hstep)
  have hstage : worker.stage = .deciding := (isDeciding_iff hworker).1 hdeciding
  have hopenings : openings next.trace = openings loop.trace + 1 := by
    have hrunning := h.running
    cases hturn <;> simp_all
  obtain rfl : made' = made + 1 := by
    apply made_eq_of_openings hstanding
    calc openings next.trace = openings loop.trace + 1 := hopenings
      _ = openings origin.trace + (made + 1) := by rw [h.standing.openings, Nat.add_assoc]
  refine ⟨next, hstep, hstanding, ?_⟩
  intro hpasses hgoes
  rw [← attemptAt_drop, ← h.standing.script] at hpasses
  obtain ⟨-, hrunning, hnext⟩ := passes_of_attempt hstage h.running hpasses hgoes hturn
  exact ⟨hstanding, hrunning, hnext⟩

theorem exists_passing (hsink : setup.sink = .accepting) (hidle : origin.Idle) (seed : UInt32)
    {count : Nat} (hpasses : ∀ position < count, (attemptAt origin.script position).Passes)
    (hharmless : ∀ position < count,
      ¬ FatalAt setup.options.maxReopenAttempts (outcomes origin.script) position) :
    ∃ loop, Works setup (origin.start setup seed) loop ∧ Passing setup origin count loop ∧
      loop.isDeciding = true := by
  induction count with
  | zero =>
      refine ⟨_, .refl, ⟨standing_start hidle seed, ?_, ?_⟩, ?_⟩ <;>
        simp [start_of_idle seed hidle.running hidle.worker, isDeciding, Stage.Passes]
  | succ count ih =>
      obtain ⟨hpasses, hpasses'⟩ := Nat.forall_lt_succ_right.1 hpasses
      obtain ⟨hharmless, hharmless'⟩ := Nat.forall_lt_succ_right.1 hharmless
      obtain ⟨loop, hworks, hpassing, hdeciding⟩ := ih hpasses hharmless
      obtain ⟨next, hstep, hstanding, hnext⟩ := hpassing.attempt hsink hdeciding
      have hgoes : next.state ≠ .failed := by
        intro hfailed
        exact hharmless' (hstanding.failed_iff.1 hfailed).1
      obtain ⟨later, hlater, hpassing', hdeciding'⟩ :=
        (hnext hpasses' hgoes).exists_deciding hsink
      exact ⟨later, (hworks.tail hstep).trans hlater, hpassing', hdeciding'⟩

/-! ## The rule, exactly -/

omit [Dialect] in
theorem not_fatalAt_of_unlimited {outcomes : Nat → Outcome}
    (hfirst : (outcomes 0).isRefused = false) (position : Nat) :
    ¬ FatalAt 0 outcomes position := by
  rintro ⟨hrefused, hall | ⟨hlimit, -⟩⟩
  · cases position with
    | zero =>
        rw [hfirst] at hrefused
        cases hrefused
    | succ position =>
        have hearlier := hall 0 (by omega)
        rw [hfirst] at hearlier
        cases hearlier
  · exact UInt32.lt_irrefl 0 hlimit

/-- A run fails exactly at the first fatal attempt, if it comes to it. -/
theorem failed_iff_firstFatal (hsink : setup.sink = .accepting) (hidle : origin.Idle)
    (seed : UInt32) {position : Nat}
    (hpasses : ∀ earlier < position, (attemptAt origin.script earlier).Passes) :
    (∃ next, Works setup (origin.start setup seed) next ∧ next.state = .failed ∧
        openings next.trace = openings origin.trace + (position + 1)) ↔
      FirstFatal setup.options.maxReopenAttempts (outcomes origin.script) position := by
  constructor
  · rintro ⟨next, hworks, hfailed, hopenings⟩
    obtain ⟨made, hstanding⟩ := exists_standing hsink hidle (proceeds_of_works hworks)
    obtain rfl := made_eq_of_openings hstanding hopenings
    exact hstanding.failed_iff.1 hfailed
  · intro hfirst
    obtain ⟨loop, hworks, hpassing, hdeciding⟩ := exists_passing hsink hidle seed hpasses hfirst.2
    obtain ⟨next, hstep, hstanding, -⟩ := hpassing.attempt hsink hdeciding
    exact ⟨next, hworks.tail hstep, hstanding.failed_iff.2 hfirst, hstanding.openings⟩

/-- Every attempt of a run is decided by the rule, whatever the owner does in its course. -/
theorem failed_iff_of_opening (hsink : setup.sink = .accepting) (hidle : origin.Idle)
    {seed : UInt32} (hrun : ReflTransGen (Proceeds setup) (origin.start setup seed) loop)
    (hmove : Proceeds setup loop next)
    (hopening : openings next.trace = openings loop.trace + 1) :
    ∃ position, openings loop.trace = openings origin.trace + position ∧
      (next.state = .failed ↔
        FirstFatal setup.options.maxReopenAttempts (outcomes origin.script) position) := by
  obtain ⟨made, hbefore⟩ := exists_standing hsink hidle hrun
  obtain ⟨made', hafter⟩ := hbefore.proceeds hsink hmove
  obtain rfl : made' = made + 1 := by
    apply made_eq_of_openings hafter
    calc openings next.trace = openings loop.trace + 1 := hopening
      _ = openings origin.trace + (made + 1) := by rw [hbefore.openings, Nat.add_assoc]
  exact ⟨made, hbefore.openings, hafter.failed_iff⟩

theorem failed_of_move (hsink : setup.sink = .accepting) (hmove : Proceeds setup loop next)
    (hfailed : next.state = .failed) :
    loop.state = .failed ∨ openings next.trace = openings loop.trace + 1 := by
  cases hmove with
  | work hstep =>
      obtain ⟨worker, -, hturn⟩ := turn_of_step hsink hstep
      cases hturn with
      | giveUp _ _ _ _ => exact .inr (by simp)
      | halt _ _ | retry _ _ _ _ _ | opened _ _ _ | leave _ _ _ _ => cases hfailed
      | ask _ | receive _ _ | reopen _ _ _ _ _ | wake _ => exact .inl hfailed
  | callStop => exact .inl hfailed
  | join _ => exact .inl (state_join.symm.trans hfailed)

/-- A run fails at an attempt if and only if that is the first fatal one.  It leaves the reason
behind and tells the handler once, and nothing follows; in all other cases it goes on. -/
theorem fails_exactly_at_first_fatal (hsink : setup.sink = .accepting) (hidle : origin.Idle)
    (seed : UInt32) :
    -- Every attempt of every run is decided by the rule, and nothing else makes a run fail.
    (∀ loop next, ReflTransGen (Proceeds setup) (origin.start setup seed) loop →
      Proceeds setup loop next →
        (openings next.trace = openings loop.trace + 1 →
          ∃ position, openings loop.trace = openings origin.trace + position ∧
            (next.state = .failed ↔
              FirstFatal setup.options.maxReopenAttempts (outcomes origin.script) position)) ∧
        (next.state = .failed →
          loop.state = .failed ∨ openings next.trace = openings loop.trace + 1)) ∧
    -- A run that nobody stops comes to its first fatal attempt and fails there.
    (∀ position, (∀ earlier < position, (attemptAt origin.script earlier).Passes) →
      ((∃ next, Works setup (origin.start setup seed) next ∧ next.state = .failed ∧
          openings next.trace = openings origin.trace + (position + 1)) ↔
        FirstFatal setup.options.maxReopenAttempts (outcomes origin.script) position)) ∧
    -- What a failed run leaves behind stays as it is.
    (∀ next, ReflTransGen (Proceeds setup) (origin.start setup seed) next →
      openings origin.trace < openings next.trace → next.state = .failed →
        (∃ position reason,
          openings next.trace = openings origin.trace + (position + 1) ∧
          FirstFatal setup.options.maxReopenAttempts (outcomes origin.script) position ∧
          outcomes origin.script position = .refused reason ∧
          next.fatalError = complaint (outcomes origin.script) position reason ∧
          fatals next.trace = fatals origin.trace ++ setup.handler.calls next.fatalError) ∧
        ∀ later, ReflTransGen (Proceeds setup) next later → Rests next later) ∧
    -- A run without a fatal attempt comes to every one of its attempts.
    (∀ count, (∀ position < count, (attemptAt origin.script position).Passes) →
      (∀ position < count,
        ¬ FatalAt setup.options.maxReopenAttempts (outcomes origin.script) position) →
        ∃ next, Works setup (origin.start setup seed) next ∧
          openings next.trace = openings origin.trace + (count + 1)) ∧
    -- Without a limit no attempt is fatal once the first has succeeded.
    (setup.options.maxReopenAttempts = 0 → (outcomes origin.script 0).isRefused = false →
      ∀ next, ReflTransGen (Proceeds setup) (origin.start setup seed) next →
        openings origin.trace < openings next.trace → next.state ≠ .failed) := by
  refine ⟨?_, ?_, ?_, ?_, ?_⟩
  · intro loop next hrun hmove
    exact ⟨failed_iff_of_opening hsink hidle hrun hmove, failed_of_move hsink hmove⟩
  · intro position hpasses
    exact failed_iff_firstFatal hsink hidle seed hpasses
  · intro next hrun hattempts hfailed
    obtain ⟨hdone, hfailure⟩ := failure_of_run hsink hidle hrun hattempts hfailed
    exact ⟨hfailure, fun later => rests_of_proceeds hdone⟩
  · intro count hpasses hharmless
    obtain ⟨loop, hworks, hpassing, hdeciding⟩ :=
      exists_passing hsink hidle seed hpasses hharmless
    obtain ⟨next, hstep, hstanding, -⟩ := hpassing.attempt hsink hdeciding
    exact ⟨next, hworks.tail hstep, hstanding.openings⟩
  · intro hunlimited hfirst next hrun hattempts hfailed
    obtain ⟨-, position, reason, -, hfatal, -⟩ := failure_of_run hsink hidle hrun hattempts hfailed
    rw [hunlimited] at hfatal
    exact not_fatalAt_of_unlimited hfirst position hfatal.1

end Runs

/-- A client that is refused once, and later twice in a row. -/
def unsteady : List Attempt :=
  let short : Attempt := { outcome := .opened { channel := { closed := true } } }
  let gone : Attempt := { outcome := .refused "gone" }
  [short, gone, short, gone, gone]

theorem fails_at_second_refusal_in_a_row :
    let setup : Setup := { options := { maxReopenAttempts := 2 }, handler := .observing }
    let reason := "watch could not be re-established after 2 attempts: gone"
    ∃ next, Works setup (({ script := unsteady } : Loop).start setup 1) next ∧
      next.state = .failed ∧ openings next.trace = 5 ∧ next.fatalError = reason ∧
      fatals next.trace = [(reason, .failed)] := by
  intro setup reason
  have hidle : ({ script := unsteady } : Loop).Idle := ⟨rfl, rfl⟩
  have hsink : setup.sink = .accepting := rfl
  obtain ⟨-, hfails, hleaves, -, -⟩ := fails_exactly_at_first_fatal hsink hidle 1
  have hfirst : FirstFatal 2 (outcomes unsteady) 4 := by decide +kernel
  obtain ⟨next, hworks, hfailed, hopenings⟩ := (hfails 4 (by decide +kernel)).2 hfirst
  have hfive : openings next.trace = 5 := by simpa using hopenings
  obtain ⟨⟨position, message, hposition, -, houtcome, herror, hfatals⟩, -⟩ :=
    hleaves next (proceeds_of_works hworks) (by simp [hfive]) hfailed
  obtain rfl : position = 4 := by
    rw [hfive] at hposition
    simpa using hposition.symm
  obtain rfl : message = "gone" := by
    simpa [outcomes, attemptAt, unsteady] using houtcome.symm
  have hreason : next.fatalError = reason := by
    rw [herror]
    decide +kernel
  refine ⟨next, hworks, hfailed, hfive, hreason, ?_⟩
  rw [hfatals, hreason]
  rfl

end Loop

end IdentityMap
