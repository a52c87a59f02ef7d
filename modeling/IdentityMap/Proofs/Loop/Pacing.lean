import Mathlib.Data.List.Basic
import IdentityMap.Proofs.Backoff.Schedule
import IdentityMap.Proofs.Loop.Past
import IdentityMap.Proofs.Loop.Refusal

/-!
# Which delay a loop waits

A run that goes on after an attempt asks its schedule for a delay, however the attempt ended, and
it never asks otherwise.  Only an attempt whose stream has delivered an event makes the schedule
start over; a stream that ends without one is no better here than a refusal.  So the trace of a run
tells which delays its pauses must have.
-/

namespace IdentityMap

open Relation (ReflTransGen)

/-! ## Views of a trace -/

@[simp] def Item.isPause : Item → Bool
  | paused _ => true
  | _ => false

def pauses (trace : List Item) : Nat :=
  trace.countP Item.isPause

/-- Where a run stands with its delays: the place of its last pause in the schedule, counted from
one and zero before the first pause, and whether the attempt at hand has delivered an event. -/
structure Pace where
  place : Nat := 0
  fruitful : Bool := false
  deriving DecidableEq

namespace Pace

def earlier (pace : Pace) : Nat :=
  if pace.fruitful then 0 else pace.place

@[simp] def after (pace : Pace) : Item → Pace
  | .opening _ _ _ => { pace with fruitful := false }
  | .received (some _) => { pace with fruitful := true }
  | .paused _ => { place := pace.earlier + 1 }
  | _ => pace

end Pace

def paceOf (items : List Item) : Pace :=
  items.foldl Pace.after {}

section Views

variable (trace items : List Item) (item : Item)

@[simp] theorem pauses_nil : pauses [] = 0 :=
  rfl

@[simp] theorem pauses_cons :
    pauses (item :: items) = pauses items + if item.isPause then 1 else 0 :=
  List.countP_cons

@[simp] theorem pauses_append : pauses (trace ++ items) = pauses trace + pauses items :=
  List.countP_append

@[simp] theorem pauses_filterMap_bare : pauses (trace.filterMap Item.bare) = pauses trace := by
  rw [pauses, List.countP_filterMap, pauses]
  congr 1
  funext item
  cases item <;> rfl

@[simp] theorem paceOf_nil : paceOf [] = {} :=
  rfl

@[simp] theorem paceOf_append :
    paceOf (trace ++ items) = items.foldl Pace.after (paceOf trace) :=
  List.foldl_append

@[simp] theorem paceOf_filterMap_bare : paceOf (trace.filterMap Item.bare) = paceOf trace := by
  induction trace using List.reverseRecOn with
  | nil => rfl
  | append_singleton trace item ih =>
      rw [List.filterMap_append, paceOf_append, paceOf_append, ← ih]
      cases item <;> simp [Item.bare, List.filterMap_cons]

@[simp] theorem pauses_items [Dialect] (event : Event) (tracked : String) (store : Store) :
    pauses (event.items tracked store) = 0 := by
  simp [pauses, Event.items]

@[simp] theorem pauses_handler (reason : String) (handler : FatalHandler) :
    pauses (handler.items reason) = 0 := by
  cases handler <;> rfl

@[simp] theorem after_items [Dialect] (event : Event) (tracked : String) (store : Store)
    (pace : Pace) :
    (event.items tracked store).foldl Pace.after pace = pace := by
  rw [Event.items, List.foldl_map]
  exact List.foldl_fixed _

end Views

/-! ## Traces that keep to a schedule -/

section Paced

variable {policy : Policy Float} {seed : UInt32} {items : List Item} {item : Item}

/-- What holds of an item that comes after others in the trace of a run.  A watch is opened when
there was a pause after every watch before it, and a pause is as long as the schedule says. -/
@[simp] def Timely (policy : Policy Float) (seed : UInt32) (before : List Item) : Item → Prop
  | .opening _ _ _ => pauses before = openings before
  | .paused delay =>
      delay = (policy.scheduleAt seed (pauses before) (paceOf before).earlier).next.1
  | _ => True

inductive Paced (policy : Policy Float) (seed : UInt32) : List Item → Prop
  | nil : Paced policy seed []
  | snoc {items : List Item} (h : Paced policy seed items) (item : Item)
      (htimely : Timely policy seed items item) : Paced policy seed (items ++ [item])

theorem paced_concat :
    Paced policy seed (items ++ [item]) ↔
      Paced policy seed items ∧ Timely policy seed items item := by
  constructor
  · intro h
    generalize hitems : items ++ [item] = whole at h
    cases h with
    | nil => simp at hitems
    | snoc h _ htimely =>
        obtain ⟨rfl, ⟨⟩⟩ := List.append_inj' hitems rfl
        exact ⟨h, htimely⟩
  · rintro ⟨h, htimely⟩
    exact h.snoc item htimely

theorem Paced.timely (h : Paced policy seed items) {before after : List Item}
    (hitems : items = before ++ item :: after) : Timely policy seed before item := by
  induction h generalizing after with
  | nil => simp at hitems
  | @snoc items h last htimely ih =>
      cases after using List.reverseRecOn with
      | nil =>
          obtain ⟨rfl, ⟨⟩⟩ := List.append_inj' hitems rfl
          exact htimely
      | append_singleton between final =>
          rw [← List.cons_append, ← List.append_assoc] at hitems
          exact ih (List.append_inj' hitems rfl).1

theorem Paced.pauses_between (h : Paced policy seed items) {before between after : List Item}
    {first second : Item} (hitems : items = before ++ first :: (between ++ second :: after))
    (hfirst : first.isOpening = true) (hsecond : second.isOpening = true)
    (hbetween : openings between = 0) : pauses between = 1 := by
  have hturns : ∀ before item, Timely policy seed before item → item.isOpening = true →
      pauses before = openings before ∧ item.isPause = false := by
    intro before item htimely hopening
    cases item with
    | opening => exact ⟨htimely, rfl⟩
    | _ => cases hopening
  obtain ⟨hbefore, hnone⟩ := hturns _ _ (h.timely hitems) hfirst
  rw [← List.cons_append, ← List.append_assoc] at hitems
  obtain ⟨hnext, -⟩ := hturns _ _ (h.timely hitems) hsecond
  simp only [pauses_append, pauses_cons, openings_append, openings_cons, hfirst, hnone, if_true,
    Bool.false_eq_true, if_false] at hnext
  omega

theorem Paced.append_quiet (h : Paced policy seed items) (more : List Item)
    (hopenings : openings more = 0) (hpauses : pauses more = 0) :
    Paced policy seed (items ++ more) := by
  induction more using List.reverseRecOn with
  | nil => simpa using h
  | append_singleton more item ih =>
      simp only [openings_append, pauses_append, Nat.add_eq_zero_iff] at hopenings hpauses
      rw [← List.append_assoc]
      refine (ih hopenings.1 hpauses.1).snoc item ?_
      cases item <;> simp_all

theorem paced_filterMap_bare :
    Paced policy seed (items.filterMap Item.bare) ↔ Paced policy seed items := by
  induction items using List.reverseRecOn with
  | nil => rfl
  | append_singleton items item ih =>
      rw [List.filterMap_append, paced_concat, ← ih]
      cases item <;> simp [Item.bare, List.filterMap_cons, paced_concat]

end Paced

/-! ## Turns -/

def Stage.delivered? : Stage → Option Nat
  | .asking _ delivered | .waiting _ delivered => some delivered
  | _ => none

@[simp] theorem Stage.delivered?_closeStream (stage : Stage) :
    stage.closeStream.delivered? = stage.delivered? := by
  cases stage <;> rfl

namespace Loop

section Runs

variable [Dialect] {policy : Policy Float} {setup : Setup} {seed : UInt32} {origin loop next : Loop}
  {worker : Worker} {past items : List Item}

structure OnTime (policy : Policy Float) (seed : UInt32) (items : List Item) (worker : Worker) :
    Prop where
  /-- There was a pause after every watch, except for the one at hand. -/
  openings : openings items = pauses items + if worker.stage.delivered?.isSome then 1 else 0
  fruitful : (paceOf items).fruitful = worker.stage.delivered?.any (0 < ·)
  backoff : worker.backoff = policy.scheduleAt seed (pauses items) (paceOf items).place

theorem onTime_of_turn (hpaced : Paced setup.options.backoff seed items)
    (htime : worker.stage.isLive = true → OnTime setup.options.backoff seed items worker)
    (hturn : Turn setup loop worker next) :
    ∃ more after, next.trace = loop.trace ++ more ∧ next.worker = some after ∧
      Paced setup.options.backoff seed (items ++ more) ∧
      (after.stage.isLive = true → OnTime setup.options.backoff seed (items ++ more) after) := by
  have hlive : worker.stage.isLive = true := by cases hturn <;> simp [*, Stage.isLive]
  obtain ⟨hopenings, hfruitful, hbackoff⟩ := htime hlive
  have hattempt : ∀ health, worker.stage = .deciding → Paced setup.options.backoff seed
      (items ++ [.opening setup.options.ns setup.options.name .disconnected, .health health]) := by
    intro health hstage
    rw [hstage] at hopenings
    simpa using (hpaced.snoc (.opening setup.options.ns setup.options.name .disconnected)
      hopenings.symm).snoc (.health health) trivial
  cases hturn with
  | halt _ _ =>
      exact ⟨[], _, by simp, rfl, by simpa using hpaced,
        fun hlive => absurd hlive Bool.false_ne_true⟩
  | @giveUp _ message _ hstage _ _ _ =>
      have hmore := (hattempt .fail hstage).append_quiet (setup.handler.items message) (by simp)
        (by simp)
      exact ⟨_, _, rfl, rfl, by simpa using hmore,
        fun hlive => absurd hlive Bool.false_ne_true⟩
  | retry hstage _ _ _ _ =>
      rw [hstage] at hopenings hfruitful
      have hmore := (hattempt .fail hstage).snoc (.paused worker.backoff.next.1)
        (by simp [hbackoff, Pace.earlier])
      refine ⟨_, _, rfl, rfl, by simpa using hmore, fun _ => ⟨?_, ?_, ?_⟩⟩
      · simp [hopenings, Stage.delivered?]
      · simp [Stage.delivered?]
      · simp [hbackoff, Pace.earlier]
  | opened hstage _ _ =>
      rw [hstage] at hopenings hfruitful
      have hmore := (hattempt .success hstage).append_quiet [.counted .watchOpens] (by simp)
        (by simp)
      refine ⟨_, _, rfl, rfl, by simpa using hmore, fun _ => ⟨?_, ?_, ?_⟩⟩
      · simp [hopenings, Stage.delivered?]
      · simp [Stage.delivered?]
      · simp [hbackoff]
  | ask hstage =>
      rw [hstage] at hopenings hfruitful
      refine ⟨_, _, rfl, rfl, hpaced.append_quiet _ (by simp) (by simp), fun _ => ⟨?_, ?_, ?_⟩⟩
      · simp [hopenings, Stage.delivered?]
      · simp [hfruitful, Stage.delivered?]
      · simp [hbackoff]
  | receive hstage _ =>
      rw [hstage] at hopenings hfruitful
      refine ⟨_, _, rfl, rfl, hpaced.append_quiet _ (by simp) (by simp), fun _ => ⟨?_, ?_, ?_⟩⟩
      · simp [hopenings, Stage.delivered?]
      · simp [Stage.delivered?]
      · simp [hbackoff]
  | leave _ _ _ _ =>
      exact ⟨_, _, rfl, rfl, hpaced.append_quiet _ (by simp) (by simp),
        fun hlive => absurd hlive Bool.false_ne_true⟩
  | @reopen _ delivered hstage _ _ _ backoff hreset =>
      rw [hstage] at hopenings hfruitful
      have hnext : backoff = setup.options.backoff.scheduleAt seed (pauses items)
          (paceOf items).earlier := by
        rw [hreset, hbackoff, Pace.earlier, hfruitful]
        by_cases hdelivered : 0 < delivered <;> simp [hdelivered, Stage.delivered?]
      have hmore := (hpaced.append_quiet [.received none, .counted .watchCloses] (by simp)
        (by simp)).snoc (.paused backoff.next.1) (by simp [hnext])
      refine ⟨_, _, rfl, rfl, by simpa using hmore, fun _ => ⟨?_, ?_, ?_⟩⟩
      · simp [hopenings, Stage.delivered?]
      · simp [Stage.delivered?]
      · simp [hnext]
  | wake hstage =>
      rw [hstage] at hopenings hfruitful
      exact ⟨[], _, by simp, rfl, by simpa using hpaced,
        fun _ => ⟨by simpa [Stage.delivered?] using hopenings,
          by simpa [Stage.delivered?] using hfruitful, by simpa using hbackoff⟩⟩

/-! ## Runs -/

/-- What happens to a loop in the course of one run.  A loop that runs is not started again. -/
inductive Runs (setup : Setup) (loop : Loop) : Loop → Prop
  | proceed {next : Loop} (hproceeds : Proceeds setup loop next) : Runs setup loop next
  | start (hrunning : loop.running = true) (seed : UInt32) :
      Runs setup loop (loop.start setup seed)

def Keeps (policy : Policy Float) (seed : UInt32) (past : List Item) (loop : Loop) : Prop :=
  ∃ items, loop.trace = past ++ items ∧ Paced policy seed items ∧
    ∀ worker, loop.worker = some worker → worker.stage.isLive = true →
      OnTime policy seed items worker

omit [Dialect] in
theorem Keeps.of_bare {shadow : Loop} (h : Keeps policy seed past shadow)
    (hsame : shadow.bare = loop.bare) (hgrown : past <+: loop.trace) :
    Keeps policy seed past loop := by
  obtain ⟨items, htrace, hpaced, htime⟩ := h
  obtain ⟨more, hmore⟩ := hgrown
  have hbare : items.filterMap Item.bare = more.filterMap Item.bare := by
    have hwhole : shadow.trace.filterMap Item.bare = loop.trace.filterMap Item.bare :=
      congrArg Loop.trace hsame
    rw [htrace, ← hmore, List.filterMap_append, List.filterMap_append] at hwhole
    exact List.append_cancel_left hwhole
  have hpauses : pauses more = pauses items := by
    rw [← pauses_filterMap_bare, ← hbare, pauses_filterMap_bare]
  have hopenings : openings more = openings items := by
    rw [← openings_filterMap_bare, ← hbare, openings_filterMap_bare]
  have hpace : paceOf more = paceOf items := by
    rw [← paceOf_filterMap_bare, ← hbare, paceOf_filterMap_bare]
  refine ⟨more, hmore.symm, ?_, ?_⟩
  · rw [← paced_filterMap_bare, ← hbare, paced_filterMap_bare]
    exact hpaced
  · intro worker hworker hlive
    have hkept : shadow.worker = some worker := by
      rw [← worker_bare, hsame]
      exact hworker
    obtain ⟨hturns, hfruitful, hbackoff⟩ := htime worker hkept hlive
    constructor
    · rw [hopenings, hpauses, hturns]
    · rw [hpace, hfruitful]
    · rw [hpauses, hpace, hbackoff]

theorem Keeps.proceeds_of_accepting (hsink : setup.sink = .accepting)
    (hproceeds : Proceeds setup loop next) (h : Keeps setup.options.backoff seed past loop) :
    Keeps setup.options.backoff seed past next := by
  obtain ⟨items, htrace, hpaced, htime⟩ := h
  cases hproceeds with
  | work hstep =>
      obtain ⟨worker, hworker, hturn⟩ := turn_of_step hsink hstep
      obtain ⟨more, after, hadded, hafter, hmore, hnext⟩ :=
        onTime_of_turn hpaced (htime worker hworker) hturn
      refine ⟨items ++ more, by rw [hadded, htrace, List.append_assoc], hmore, ?_⟩
      intro other hother
      obtain rfl := Option.some.inj (hafter.symm.trans hother)
      exact hnext
  | callStop =>
      refine ⟨items ++ [.stop loop.state], by simp [htrace],
        hpaced.append_quiet _ (by simp) (by simp), ?_⟩
      intro closed hclosed hlive
      obtain ⟨worker, hworker, rfl⟩ := Option.map_eq_some_iff.1 hclosed
      obtain ⟨hopenings, hfruitful, hbackoff⟩ := htime worker hworker (by simpa using hlive)
      exact ⟨by simpa using hopenings, by simpa using hfruitful, by simpa using hbackoff⟩
  | join _ =>
      refine ⟨items, by rw [trace_join, htrace], hpaced, ?_⟩
      intro worker hworker
      rcases loop.worker_join with hsame | ⟨hnone, -⟩
      · exact htime worker (hsame ▸ hworker)
      · rw [hnone] at hworker
        cases hworker

/-- Whatever the sink takes, only the end of the process keeps a run from keeping to its
schedule. -/
theorem Keeps.runs (h : Keeps setup.options.backoff seed past loop) (hmove : Runs setup loop next) :
    next.crashed ∨ Keeps setup.options.backoff seed past next := by
  cases hmove with
  | proceed hproceeds =>
      rcases crashed_or_bare_of_proceeds rfl hproceeds with hcrashed | ⟨taken, htaken, hsame⟩
      · exact .inl hcrashed
      have hsink : setup.accepting.sink = .accepting := rfl
      have hkept := Keeps.proceeds_of_accepting hsink htaken h
      obtain ⟨items, htrace, -⟩ := h
      have hgrown : past <+: loop.trace := ⟨items, htrace.symm⟩
      exact .inr (hkept.of_bare hsame (hgrown.trans (prefix_of_proceeds hproceeds)))
  | start hrunning other =>
      obtain ⟨items, htrace, hpaced, htime⟩ := h
      right
      rw [start_of_running other hrunning]
      refine ⟨items ++ [.start loop.state], by simp [record, htrace],
        hpaced.append_quiet _ (by simp) (by simp), ?_⟩
      intro worker hworker hlive
      obtain ⟨hopenings, hfruitful, hbackoff⟩ := htime worker hworker hlive
      exact ⟨by simpa using hopenings, by simpa using hfruitful, by simpa using hbackoff⟩

theorem crashed_of_runs (hcrashed : loop.crashed) (hmove : Runs setup loop next) :
    next.crashed := by
  cases hmove with
  | proceed hproceeds => exact crashed_of_proceeds hcrashed hproceeds
  | start _ other => exact crashed_start.2 (.inl hcrashed)

theorem keeps_of_run (hidle : origin.Idle)
    (hrun : ReflTransGen (Runs setup) (origin.start setup seed) loop) :
    loop.crashed ∨ Keeps setup.options.backoff seed origin.trace loop := by
  induction hrun with
  | refl =>
      right
      rw [start_of_idle seed hidle.running hidle.worker]
      refine ⟨[.start origin.state], rfl, Paced.nil.append_quiet _ (by simp) (by simp), ?_⟩
      rintro _ ⟨⟩ -
      exact ⟨rfl, rfl, rfl⟩
  | tail _ hmove ih =>
      rcases ih with hcrashed | hkeeps
      · exact .inl (crashed_of_runs hcrashed hmove)
      · exact hkeeps.runs hmove

theorem not_crashed_of_run (hsink : setup.sink = .accepting) (hidle : origin.Idle)
    (hrun : ReflTransGen (Runs setup) (origin.start setup seed) loop) : ¬ loop.crashed := by
  induction hrun with
  | refl => exact not_crashed_start hidle
  | tail _ hmove ih =>
      cases hmove with
      | proceed hproceeds => exact not_crashed_of_proceeds hsink ih hproceeds
      | start hrunning other =>
          rw [crashed_start, hrunning]
          simpa using ih

/-- In every run each pause is as long as the schedule says: after an attempt whose stream has
delivered an event it is the first delay of the schedule, whatever became of the event, and after
any other the one that follows the delay of the pause before.  Between a watch and the next one
there is one pause. -/
theorem waits_follow_schedule (hidle : origin.Idle)
    (hrun : ReflTransGen (Runs setup) (origin.start setup seed) loop) :
    (setup.sink = .accepting → ¬ loop.crashed) ∧
    (¬ loop.crashed → ∃ items, loop.trace = origin.trace ++ items ∧
      (∀ before delay after, items = before ++ .paused delay :: after →
        delay = (setup.options.backoff.scheduleAt seed (pauses before)
          (paceOf before).earlier).next.1) ∧
      ∀ before first between second after,
        items = before ++ first :: (between ++ second :: after) →
          first.isOpening = true → second.isOpening = true → openings between = 0 →
            pauses between = 1) := by
  refine ⟨fun hsink => not_crashed_of_run hsink hidle hrun, fun hsafe => ?_⟩
  obtain ⟨items, htrace, hpaced, -⟩ := (keeps_of_run hidle hrun).resolve_left hsafe
  refine ⟨items, htrace, ?_, ?_⟩
  · intro before delay after hitems
    exact hpaced.timely hitems
  · intro before first between second after hitems hfirst hsecond hbetween
    exact hpaced.pauses_between hitems hfirst hsecond hbetween

end Runs

/-- A client whose first stream ends at once, which then refuses once, and whose next stream ends
after an event for another resource. -/
def faltering : List Attempt :=
  let other : Event := { kind := .added, object := some { name := "other" } }
  [{ outcome := .opened { channel := { closed := true } } }, { outcome := .refused "gone" },
    { outcome := .opened { channel := { queue := [other], closed := true } } }]

/-- The stream that was empty does not make the delays start over, the one with an event does.
The pauses after the three attempts stand at the places 7, 10 and 19 of the trace. -/
theorem waits_while_faltering :
    let setup : Setup := {}
    let loop := (({ script := faltering } : Loop).start setup 1).settle setup
    let delay (given earlier : Nat) := (setup.options.backoff.scheduleAt 1 given earlier).next.1
    openings loop.trace = 4 ∧ pauses loop.trace = 3 ∧
      loop.trace[7]? = some (.paused (delay 0 0)) ∧
      loop.trace[10]? = some (.paused (delay 1 1)) ∧
      loop.trace[19]? = some (.paused (delay 2 0)) := by
  intro setup loop delay
  have hidle : ({ script := faltering } : Loop).Idle := ⟨rfl, rfl⟩
  have hrun : ReflTransGen (Runs setup) (({ script := faltering } : Loop).start setup 1) loop :=
    ReflTransGen.mono (fun _ _ => Runs.proceed) _ _ (proceeds_of_works (works_settle setup _))
  obtain ⟨hsafe, hkeeps⟩ := waits_follow_schedule hidle hrun
  obtain ⟨items, htrace, hdelays, -⟩ := hkeeps (hsafe rfl)
  obtain rfl : loop.trace = items := htrace
  have hpause : ∀ position given earlier, loop.trace[position]?.any Item.isPause = true →
      pauses (loop.trace.take position) = given →
        (paceOf (loop.trace.take position)).earlier = earlier →
          loop.trace[position]? = some (.paused (delay given earlier)) := by
    rintro position _ _ hany rfl rfl
    obtain ⟨item, hitem, hpause⟩ := (Option.any_eq_true _ _).1 hany
    obtain ⟨hbound, rfl⟩ := List.getElem?_eq_some_iff.1 hitem
    have hsplit := List.getElem_cons_drop hbound
    cases hlast : loop.trace[position] with
    | paused length =>
        rw [hlast] at hitem hsplit
        have hwhole := List.take_append_drop position loop.trace
        rw [← hsplit] at hwhole
        rw [hitem, hdelays _ _ _ hwhole.symm]
    | _ => simp [hlast] at hpause
  refine ⟨by decide +kernel, by decide +kernel, hpause 7 0 0 ?_ ?_ ?_, hpause 10 1 1 ?_ ?_ ?_,
    hpause 19 2 0 ?_ ?_ ?_⟩
  all_goals decide +kernel

end Loop

end IdentityMap
