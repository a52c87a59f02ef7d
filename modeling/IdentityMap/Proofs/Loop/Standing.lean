import IdentityMap.Proofs.Loop.Moves

/-!
# Where a run stands

A worker decides whether to give up by two variables, which it sets and resets on the way.  The
rule behind them speaks about the whole history of a run: an attempt is fatal if it is refused and
no earlier one of the run succeeded, or if it completes a streak of refusals of a given length.
`Standing` says how far a run has come in terms of that history, and every move keeps it.
-/

namespace IdentityMap

open Relation (ReflTransGen)

/-! ## The rule -/

def Outcome.isRefused : Outcome → Bool
  | .refused _ => true
  | .opened _ => false

def outcomes (script : List Attempt) (position : Nat) : Outcome :=
  (attemptAt script position).outcome

/-- The number of refusals at the end of the first so many attempts. -/
def streak (outcomes : Nat → Outcome) : Nat → Nat
  | 0 => 0
  | count + 1 => if (outcomes count).isRefused then streak outcomes count + 1 else 0

/-- Whether a loop gives up at an attempt, if it comes to it. -/
def FatalAt (limit : UInt32) (outcomes : Nat → Outcome) (position : Nat) : Prop :=
  (outcomes position).isRefused = true ∧
    ((∀ earlier < position, (outcomes earlier).isRefused = true) ∨
      0 < limit ∧ limit.toNat ≤ streak outcomes (position + 1))

def FirstFatal (limit : UInt32) (outcomes : Nat → Outcome) (position : Nat) : Prop :=
  FatalAt limit outcomes position ∧ ∀ earlier < position, ¬ FatalAt limit outcomes earlier

instance (limit : UInt32) (outcomes : Nat → Outcome) :
    DecidablePred (FatalAt limit outcomes) := fun position =>
  inferInstanceAs (Decidable (_ ∧ ((∀ earlier < position, _) ∨ _)))

instance (limit : UInt32) (outcomes : Nat → Outcome) :
    DecidablePred (FirstFatal limit outcomes) := fun position =>
  inferInstanceAs (Decidable (_ ∧ ∀ earlier < position, ¬ FatalAt limit outcomes earlier))

def complaint (outcomes : Nat → Outcome) (position : Nat) (reason : String) : String :=
  if ∀ earlier < position, (outcomes earlier).isRefused = true then
    "initial watch failed: " ++ upToNul reason
  else
    "watch could not be re-established after " ++ toString (streak outcomes (position + 1)) ++
      " attempts: " ++ upToNul reason

def FatalHandler.calls (reason : String) : FatalHandler → List (String × State)
  | .absent => []
  | .observing | .stopping => [(reason, .failed)]

@[simp] theorem fatals_handler (reason : String) (handler : FatalHandler) :
    fatals (handler.items reason) = handler.calls reason := by
  cases handler <;> rfl

/-! ## The variables of a worker -/

/-- The variables of a worker after so many attempts of a run, none of which was fatal. -/
structure Counts (limit : UInt32) (outcomes : Nat → Outcome) (made : Nat) (worker : Worker) :
    Prop where
  harmless : ∀ position < made, ¬ FatalAt limit outcomes position
  connected : worker.connected = true ↔ ∃ position < made, (outcomes position).isRefused = false
  failures : worker.failures = UInt32.ofNat (streak outcomes made)

namespace Counts

variable {limit : UInt32} {outcomes : Nat → Outcome} {made : Nat} {worker : Worker}
  {reason message : String} {failures : UInt32} {stream : Stream}

theorem streak_lt (h : Counts limit outcomes made worker) (hlimit : 0 < limit) :
    streak outcomes made < limit.toNat := by
  cases made with
  | zero => simpa [streak] using UInt32.lt_iff_toNat_lt.1 hlimit
  | succ made =>
      cases hrefused : (outcomes made).isRefused with
      | false => simpa [streak, hrefused] using UInt32.lt_iff_toNat_lt.1 hlimit
      | true =>
          apply Nat.lt_of_not_le
          intro hreached
          exact h.harmless made (by omega) ⟨hrefused, .inr ⟨hlimit, hreached⟩⟩

/-- The variable that counts failures does not overflow while it matters. -/
theorem toNat_failures_add_one (h : Counts limit outcomes made worker) (hlimit : 0 < limit) :
    (worker.failures + 1).toNat = streak outcomes made + 1 := by
  have hlt := h.streak_lt hlimit
  have hbound := limit.toNat_lt
  rw [h.failures, UInt32.toNat_add, UInt32.toNat_ofNat']
  simp only [UInt32.toNat_one]
  omega

theorem all_refused_iff (h : Counts limit outcomes made worker) :
    (∀ earlier < made, (outcomes earlier).isRefused = true) ↔ worker.connected = false := by
  rw [← Bool.not_eq_true, h.connected]
  simp

theorem of_same {next : Worker} (h : Counts limit outcomes made worker)
    (hconnected : next.connected = worker.connected) (hfailures : next.failures = worker.failures) :
    Counts limit outcomes made next := by
  refine ⟨h.harmless, ?_, ?_⟩
  · rw [hconnected]
    exact h.connected
  · rw [hfailures]
    exact h.failures

theorem of_refused_of_harmless (h : Counts limit outcomes made worker) {backoff : Backoff Float}
    {stage : Stage} (houtcome : outcomes made = .refused reason)
    (hharmless : ¬ FatalAt limit outcomes made) :
    Counts limit outcomes (made + 1)
      { worker with failures := worker.failures + 1, backoff := backoff, stage := stage } := by
  have hrefused : (outcomes made).isRefused = true := by rw [houtcome]; rfl
  refine ⟨?_, ?_, ?_⟩
  · exact Nat.forall_lt_succ_right.2 ⟨h.harmless, hharmless⟩
  · rw [Nat.exists_lt_succ_right, hrefused, ← h.connected]
    simp
  · simp [streak, hrefused, h.failures, UInt32.ofNat_add]

theorem of_opened (h : Counts limit outcomes made worker) {stage : Stage}
    (houtcome : outcomes made = .opened stream) :
    Counts limit outcomes (made + 1)
      { worker with connected := true, failures := 0, stage := stage } := by
  have hopened : (outcomes made).isRefused = false := by rw [houtcome]; rfl
  refine ⟨?_, ?_, ?_⟩
  · exact Nat.forall_lt_succ_right.2 ⟨h.harmless, by simp [FatalAt, hopened]⟩
  · exact ⟨fun _ => ⟨made, by omega, hopened⟩, fun _ => rfl⟩
  · simp [streak, hopened]

/-- The worker follows the rule when it gives up, and finds the words for it. -/
theorem fatalAt_of_givesUp (h : Counts limit outcomes made worker)
    (houtcome : outcomes made = .refused reason)
    (hgivesUp : GivesUp limit worker reason failures message) :
    FatalAt limit outcomes made ∧ message = complaint outcomes made reason := by
  have hrefused : (outcomes made).isRefused = true := by rw [houtcome]; rfl
  cases hgivesUp with
  | first hconnected =>
      have hall := h.all_refused_iff.2 hconnected
      exact ⟨⟨hrefused, .inl hall⟩, by rw [complaint, if_pos hall]⟩
  | reopening hconnected hlimit hreached =>
      -- The limit bounds the streak, so the 32-bit count is exact.
      have hcount := h.toNat_failures_add_one hlimit
      have hstreak : streak outcomes (made + 1) = streak outcomes made + 1 := by
        simp [streak, hrefused]
      have hsome : ¬ ∀ earlier < made, (outcomes earlier).isRefused = true := by
        rw [h.all_refused_iff, hconnected]
        simp
      refine ⟨⟨hrefused, .inr ⟨hlimit, ?_⟩⟩, ?_⟩
      · rw [hstreak, ← hcount]
        exact UInt32.le_iff_toNat_le.1 hreached
      · rw [complaint, if_neg hsome, hstreak, ← hcount]

theorem not_fatalAt (h : Counts limit outcomes made worker) (hconnected : worker.connected = true)
    (hallowed : 0 < limit → worker.failures + 1 < limit) : ¬ FatalAt limit outcomes made := by
  rintro ⟨hrefused, hall | ⟨hlimit, hreached⟩⟩
  · rw [h.all_refused_iff, hconnected] at hall
    cases hall
  · have hlt := UInt32.lt_iff_toNat_lt.1 (hallowed hlimit)
    rw [h.toNat_failures_add_one hlimit] at hlt
    simp only [streak, hrefused, if_true] at hreached
    omega

end Counts

/-! ## Workers that have ended -/

def Stage.isLive : Stage → Bool
  | .ended | .aborted _ => false
  | _ => true

@[simp] theorem Stage.isLive_closeStream (stage : Stage) :
    stage.closeStream.isLive = stage.isLive := by
  cases stage <;> rfl

namespace Loop

def done (loop : Loop) : Prop :=
  ∀ worker, loop.worker = some worker → worker.stage = .ended

structure Idle (loop : Loop) : Prop where
  running : loop.running = false
  worker : loop.worker = none

structure Rests (loop next : Loop) : Prop where
  done : next.done
  script : next.script = loop.script
  state : next.state = loop.state
  fatalError : next.fatalError = loop.fatalError
  openings : openings next.trace = openings loop.trace
  fatals : fatals next.trace = fatals loop.trace

variable {setup : Setup} {origin loop next : Loop} {made : Nat}

theorem step_eq_none_of_done [Dialect] (hdone : loop.done) : loop.step setup = none := by
  cases hworker : loop.worker with
  | none => simp [step, hworker]
  | some worker => simp [step, hworker, hdone worker hworker]

theorem done_join (hdone : loop.done) : loop.join.done := by
  intro worker hworker
  cases hkept : loop.worker with
  | none => simp [join, hkept] at hworker
  | some ended => simp [join, hkept, hdone ended hkept] at hworker

theorem join_of_isLive {worker : Worker} (hworker : loop.worker = some worker)
    (hlive : worker.stage.isLive = true) : loop.join = loop := by
  cases hstage : worker.stage with
  | ended => simp [hstage, Stage.isLive] at hlive
  | _ => simp [join, hworker, hstage]

theorem rests_of_done [Dialect] (hdone : loop.done) (h : Proceeds setup loop next) :
    Rests loop next := by
  cases h with
  | work hstep =>
      rw [step_eq_none_of_done hdone] at hstep
      cases hstep
  | callStop =>
      refine ⟨?_, rfl, rfl, rfl, by simp, by simp⟩
      intro worker hworker
      obtain ⟨worker, hsome, rfl⟩ := Option.map_eq_some_iff.1 hworker
      have hstage : worker.stage = .ended := hdone worker hsome
      simp [hstage, Stage.closeStream]
  | join _ => exact ⟨done_join hdone, by simp, by simp, by simp, by simp, by simp⟩

theorem Rests.trans {later : Loop} (h : Rests loop next) (h' : Rests next later) :
    Rests loop later where
  done := h'.done
  script := h'.script.trans h.script
  state := h'.state.trans h.state
  fatalError := h'.fatalError.trans h.fatalError
  openings := h'.openings.trans h.openings
  fatals := h'.fatals.trans h.fatals

theorem rests_of_proceeds [Dialect] (hdone : loop.done)
    (h : ReflTransGen (Proceeds setup) loop next) :
    Rests loop next := by
  induction h with
  | refl => exact ⟨hdone, rfl, rfl, rfl, rfl, rfl⟩
  | tail _ hproceeds ih => exact ih.trans (rests_of_done ih.done hproceeds)

/-! ## Standings -/

inductive Phase (setup : Setup) (origin : Loop) (made : Nat) (loop : Loop) : Prop
  | underway {worker : Worker} (hworker : loop.worker = some worker)
      (hlive : worker.stage.isLive = true)
      (hcounts : Counts setup.options.maxReopenAttempts (outcomes origin.script) made worker)
      (hstate : 0 < made → loop.state ≠ .failed) (hfatals : fatals loop.trace = fatals origin.trace)
  | stopped (hdone : loop.done) (hstate : loop.state = .stopped)
      (hharmless : ∀ position < made,
        ¬ FatalAt setup.options.maxReopenAttempts (outcomes origin.script) position)
      (hfatals : fatals loop.trace = fatals origin.trace)
  | failed {position : Nat} {reason : String} (hdone : loop.done) (hstate : loop.state = .failed)
      (hmade : made = position + 1)
      (hfirst : FirstFatal setup.options.maxReopenAttempts (outcomes origin.script) position)
      (houtcome : outcomes origin.script position = .refused reason)
      (herror : loop.fatalError = complaint (outcomes origin.script) position reason)
      (hfatals : fatals loop.trace = fatals origin.trace ++ setup.handler.calls loop.fatalError)

/-- Where a run stands that was started from `origin`. -/
structure Standing (setup : Setup) (origin : Loop) (made : Nat) (loop : Loop) : Prop where
  script : loop.script = origin.script.drop made
  openings : openings loop.trace = openings origin.trace + made
  phase : Phase setup origin made loop

theorem standing_start (hidle : origin.Idle) (seed : UInt32) :
    Standing setup origin 0 (origin.start setup seed) := by
  rw [start_of_idle seed hidle.running hidle.worker]
  refine ⟨by simp, by simp, .underway rfl rfl ⟨?_, ?_, rfl⟩ ?_ (by simp)⟩
  · intro position hlt
    cases hlt
  · simp
  · intro hlt
    cases hlt

theorem Standing.of_rests (h : Standing setup origin made loop) (hdone : loop.done)
    (hrests : Rests loop next) : Standing setup origin made next := by
  refine ⟨hrests.script.trans h.script, hrests.openings.trans h.openings, ?_⟩
  cases h.phase with
  | underway hworker hlive _ _ _ =>
      rw [hdone _ hworker] at hlive
      cases hlive
  | stopped _ hstate hharmless hfatals =>
      exact .stopped hrests.done (hrests.state.trans hstate) hharmless (hrests.fatals.trans hfatals)
  | failed _ hstate hmade hfirst houtcome herror hfatals =>
      refine .failed hrests.done (hrests.state.trans hstate) hmade hfirst houtcome
        (hrests.fatalError.trans herror) ?_
      rw [hrests.fatals, hrests.fatalError]
      exact hfatals

theorem made_eq_of_openings {made' : Nat} (h : Standing setup origin made loop)
    (hopenings : openings loop.trace = openings origin.trace + made') : made = made' := by
  have hmade := h.openings
  omega

theorem Standing.failed_iff (h : Standing setup origin (made + 1) loop) :
    loop.state = .failed ↔
      FirstFatal setup.options.maxReopenAttempts (outcomes origin.script) made := by
  cases h.phase with
  | underway _ _ hcounts hstate _ =>
      constructor
      · intro hfailed
        exact (hstate (by omega) hfailed).elim
      · intro hfirst
        exact (hcounts.harmless made (by omega) hfirst.1).elim
  | stopped _ hstate hharmless _ =>
      rw [hstate]
      constructor
      · rintro ⟨⟩
      · intro hfirst
        exact (hharmless made (by omega) hfirst.1).elim
  | failed _ hstate hmade hfirst _ _ _ =>
      obtain rfl := Nat.succ.inj hmade
      exact ⟨fun _ => hfirst, fun _ => hstate⟩

theorem Standing.failure (h : Standing setup origin made loop) (hattempts : 0 < made)
    (hfailed : loop.state = .failed) :
    loop.done ∧ ∃ position reason, made = position + 1 ∧
      FirstFatal setup.options.maxReopenAttempts (outcomes origin.script) position ∧
      outcomes origin.script position = .refused reason ∧
      loop.fatalError = complaint (outcomes origin.script) position reason ∧
      fatals loop.trace = fatals origin.trace ++ setup.handler.calls loop.fatalError := by
  cases h.phase with
  | underway _ _ _ hstate _ => exact (hstate hattempts hfailed).elim
  | stopped _ hstate _ _ =>
      rw [hstate] at hfailed
      cases hfailed
  | failed hdone _ hmade hfirst houtcome herror hfatals =>
      exact ⟨hdone, _, _, hmade, hfirst, houtcome, herror, hfatals⟩

variable [Dialect]

/-- A turn that asks for a watch decides the attempt that is next; the others keep the count. -/
theorem standing_of_turn {worker : Worker} (hscript : loop.script = origin.script.drop made)
    (hopenings : openings loop.trace = openings origin.trace + made)
    (hcounts : Counts setup.options.maxReopenAttempts (outcomes origin.script) made worker)
    (hstate : 0 < made → loop.state ≠ .failed) (hfatals : fatals loop.trace = fatals origin.trace)
    (h : Turn setup loop worker next) : ∃ made, Standing setup origin made next := by
  have hattempt : attemptAt loop.script 0 = attemptAt origin.script made := by
    rw [hscript, attemptAt_drop]
  have htail : loop.script.tail = origin.script.drop (made + 1) := by
    rw [hscript, List.tail_drop]
  cases h with
  | halt hstage hrunning =>
      refine ⟨made, hscript, hopenings, .stopped ?_ rfl hcounts.harmless hfatals⟩
      rintro _ ⟨⟩
      rfl
  | @giveUp reason message failures hstage hrunning houtcome hfatal =>
      rw [hattempt] at houtcome
      obtain ⟨hfatalAt, hmessage⟩ := hcounts.fatalAt_of_givesUp houtcome hfatal
      refine ⟨made + 1, htail, by simp [hopenings, Nat.add_assoc],
        .failed ?_ rfl rfl ⟨hfatalAt, hcounts.harmless⟩ houtcome hmessage ?_⟩
      · rintro _ ⟨⟩
        rfl
      · simp [hfatals]
  | retry hstage hrunning houtcome hconnected hallowed =>
      rw [hattempt] at houtcome
      have hharmless := hcounts.not_fatalAt hconnected hallowed
      exact ⟨made + 1, htail, by simp [hopenings, Nat.add_assoc],
        .underway rfl rfl (hcounts.of_refused_of_harmless houtcome hharmless) (by simp)
          (by simp [hfatals])⟩
  | opened hstage hrunning houtcome =>
      rw [hattempt] at houtcome
      exact ⟨made + 1, htail, by simp [hopenings, Nat.add_assoc],
        .underway rfl rfl (hcounts.of_opened houtcome) (by simp) (by simp [hfatals])⟩
  | ask hstage | receive hstage _ | reopen hstage _ _ _ _ | wake hstage =>
      exact ⟨made, hscript, by simp [hopenings],
        .underway rfl rfl (hcounts.of_same rfl rfl) hstate (by simp [hfatals])⟩
  | leave hstage hqueue hclosed hrunning =>
      refine ⟨made, hscript, by simp [hopenings],
        .stopped ?_ rfl hcounts.harmless (by simp [hfatals])⟩
      rintro _ ⟨⟩
      rfl

theorem Standing.proceeds (hsink : setup.sink = .accepting) (h : Standing setup origin made loop)
    (hproceeds : Proceeds setup loop next) : ∃ made, Standing setup origin made next := by
  cases h.phase with
  | stopped hdone _ _ _ | failed hdone _ _ _ _ _ _ =>
      exact ⟨made, h.of_rests hdone (rests_of_done hdone hproceeds)⟩
  | @underway worker hworker hlive hcounts hstate hfatals =>
      cases hproceeds with
      | work hstep =>
          obtain ⟨_, hsome, hturn⟩ := turn_of_step hsink hstep
          obtain rfl := Option.some.inj (hworker.symm.trans hsome)
          exact standing_of_turn h.script h.openings hcounts hstate hfatals hturn
      | callStop =>
          refine ⟨made, h.script, by simp [h.openings], ?_⟩
          have hkept : loop.callStop.worker =
              some { worker with stage := worker.stage.closeStream } := by
            simp [callStop, record, requestStop, hworker]
          exact .underway hkept (by simp [hlive]) (hcounts.of_same rfl rfl) hstate
            (by simp [hfatals])
      | join _ =>
          rw [join_of_isLive hworker hlive]
          exact ⟨made, h⟩

theorem exists_standing (hsink : setup.sink = .accepting) (hidle : origin.Idle) {seed : UInt32}
    (hrun : ReflTransGen (Proceeds setup) (origin.start setup seed) loop) :
    ∃ made, Standing setup origin made loop := by
  induction hrun with
  | refl => exact ⟨0, standing_start hidle seed⟩
  | tail _ hproceeds ih =>
      obtain ⟨made, hstanding⟩ := ih
      exact hstanding.proceeds hsink hproceeds

/-! ## What a standing tells -/

theorem failure_of_run (hsink : setup.sink = .accepting) (hidle : origin.Idle) {seed : UInt32}
    (hrun : ReflTransGen (Proceeds setup) (origin.start setup seed) loop)
    (hattempts : openings origin.trace < openings loop.trace) (hfailed : loop.state = .failed) :
    loop.done ∧ ∃ position reason,
      openings loop.trace = openings origin.trace + (position + 1) ∧
      FirstFatal setup.options.maxReopenAttempts (outcomes origin.script) position ∧
      outcomes origin.script position = .refused reason ∧
      loop.fatalError = complaint (outcomes origin.script) position reason ∧
      fatals loop.trace = fatals origin.trace ++ setup.handler.calls loop.fatalError := by
  obtain ⟨made, hstanding⟩ := exists_standing hsink hidle hrun
  have hopenings := hstanding.openings
  obtain ⟨hdone, position, reason, rfl, hfailure⟩ := hstanding.failure (by omega) hfailed
  exact ⟨hdone, position, reason, hopenings, hfailure⟩

end Loop

end IdentityMap
