import IdentityMap.Document.Text
import IdentityMap.Proofs.Loop.Moves

/-!
# The history of a loop

Over any number of runs, the events that were handled are the events of the streams that the
client has opened, in that order: none is lost, doubled or moved.  The store is a function of
these events alone.  It serves the last one that concerns the tracked resource, and its
generation counts them.
-/

namespace IdentityMap

def offered (script : List Attempt) : List Event :=
  script.flatMap Attempt.events

theorem offered_take_succ (script : List Attempt) (count : Nat) :
    offered (script.take (count + 1)) =
      offered (script.take count) ++ (attemptAt script count).events := by
  rw [List.take_add_one, offered, offered, List.flatMap_append]
  congr 1
  cases h : script[count]? with
  | none => simp [attemptAt, h, Attempt.silent, Attempt.events]
  | some attempt => simp [attemptAt, h]

namespace Loop

section Runs

variable [Dialect] {setup : Setup} {loop next : Loop}

/-! ## What the store is made of -/

structure Serves (tracked : String) (loop : Loop) : Prop where
  tables : loop.store.tables = served tracked (handled loop.trace)
  generation : loop.store.generation = UInt64.ofNat (updates tracked (handled loop.trace))

theorem store_of_proceeds (hsink : setup.sink = .accepting) (h : Proceeds setup loop next) :
    next.store = loop.store ∧ handled next.trace = handled loop.trace ∨
      ∃ event, next.store = (event.handle .accepting setup.options.name loop.store).store ∧
        handled next.trace = handled loop.trace ++ [event] := by
  cases h with
  | work hstep =>
      obtain ⟨worker, hworker, hturn⟩ := turn_of_step hsink hstep
      cases hturn with
      | @receive _ _ event => exact .inr ⟨event, rfl, by simp⟩
      | _ => exact .inl ⟨rfl, by simp⟩
  | callStop => exact .inl ⟨rfl, by simp⟩
  | join _ => exact .inl ⟨store_join, by simp⟩

theorem store_eq_of_moves (hsink : setup.sink = .accepting) (hmove : Moves setup loop next)
    (hupdates : updates setup.options.name (handled next.trace) =
      updates setup.options.name (handled loop.trace)) : next.store = loop.store := by
  cases hmove with
  | proceed hproceeds =>
      rcases store_of_proceeds hsink hproceeds with ⟨hstore, -⟩ | ⟨event, hstore, hhandled⟩
      · exact hstore
      · rw [hhandled, updates_concat] at hupdates
        have hother : event.concerns setup.options.name = false := by simpa using hupdates
        rw [hstore, event.store_handle_accepting, hother]
        rfl
  | start seed => exact store_start seed

theorem Serves.of_same {tracked : String} (h : Serves tracked loop)
    (hstore : next.store = loop.store) (hhandled : handled next.trace = handled loop.trace) :
    Serves tracked next := by
  constructor
  · rw [hstore, hhandled]
    exact h.tables
  · rw [hstore, hhandled]
    exact h.generation

theorem Serves.of_event {tracked : String} (h : Serves tracked loop) {event : Event}
    (hstore : next.store = (event.handle .accepting tracked loop.store).store)
    (hhandled : handled next.trace = handled loop.trace ++ [event]) : Serves tracked next := by
  rw [event.store_handle_accepting] at hstore
  constructor
  · rw [hstore, hhandled, served_concat, ← h.tables]
    split <;> rfl
  · rw [hstore, hhandled, updates_concat, UInt64.ofNat_add, ← h.generation]
    split
    · rfl
    · simp

theorem Serves.moves (hsink : setup.sink = .accepting) (h : Serves setup.options.name loop)
    (hmove : Moves setup loop next) : Serves setup.options.name next := by
  cases hmove with
  | proceed hproceeds =>
      rcases store_of_proceeds hsink hproceeds with
        ⟨hstore, hhandled⟩ | ⟨event, hstore, hhandled⟩
      · exact h.of_same hstore hhandled
      · exact h.of_event hstore hhandled
  | start seed => exact h.of_same (by simp) (by simp)

/-! ## Which events were handled -/

/-- A loop takes the attempts of a script in order, and what it handles are the events of their
streams.  Only the end of the whole process can lose some. -/
structure Delivers (script : List Attempt) (loop : Loop) : Prop where
  remaining : loop.script = script.drop (openings loop.trace)
  events : ∃ lost, handled loop.trace ++ (loop.queued ++ lost) =
    offered (script.take (openings loop.trace)) ∧ (lost = [] ∨ loop.crashed)

theorem crashed_of_proceeds (hcrashed : loop.crashed) (h : Proceeds setup loop next) :
    next.crashed := by
  obtain ⟨worker, cause, hworker, hstage⟩ := hcrashed
  cases h with
  | work hstep => simp [step, hworker, hstage] at hstep
  | callStop =>
      exact ⟨{ worker with stage := worker.stage.closeStream }, cause,
        by simp [callStop, record, requestStop, hworker], by simp [hstage, Stage.closeStream]⟩
  | join _ => exact ⟨worker, cause, by simp [join, hworker, hstage], hstage⟩

omit [Dialect] in
theorem Delivers.of_continues {script : List Attempt} (h : Delivers script loop)
    (hcrashed : loop.crashed → next.crashed) (hcontinues : Continues loop next) :
    Delivers script next := by
  obtain ⟨lost, hevents, hlost⟩ := h.events
  constructor
  · rw [hcontinues.script, hcontinues.openings]
    exact h.remaining
  · refine ⟨lost, ?_, hlost.imp_right hcrashed⟩
    rw [← List.append_assoc, hcontinues.delivery, hcontinues.openings, List.append_assoc]
    exact hevents

omit [Dialect] in
theorem Delivers.of_opens {script : List Attempt} (h : Delivers script loop)
    (hopens : Opens loop next) : Delivers script next := by
  obtain ⟨lost, hevents, hlost⟩ := h.events
  have hqueued : loop.queued = [] := by simp [queued, hopens.stream?_eq_none]
  have hnone : lost = [] := by
    apply hlost.resolve_right
    rintro ⟨worker, cause, hworker, hstage⟩
    obtain ⟨worker', hworker', hdeciding⟩ := hopens.deciding
    obtain rfl := Option.some.inj (hworker.symm.trans hworker')
    rw [hstage] at hdeciding
    cases hdeciding
  constructor
  · rw [hopens.script, hopens.openings, h.remaining, List.tail_drop]
  · refine ⟨[], ?_, .inl rfl⟩
    rw [hopens.handled, hopens.queued, hopens.openings, offered_take_succ, ← hevents, hqueued,
      hnone, h.remaining, attemptAt_drop]
    simp

omit [Dialect] in
theorem Delivers.start {script : List Attempt} (h : Delivers script loop) (seed : UInt32) :
    Delivers script (loop.start setup seed) := by
  obtain ⟨lost, hevents, hlost⟩ := h.events
  constructor
  · simpa using h.remaining
  rcases start_cases seed setup loop with
    ⟨-, hstart⟩ | ⟨-, hworker, hstart⟩ | ⟨-, worker, -, hstart⟩
  · have hkept : (loop.start setup seed).queued = loop.queued := by
      rw [hstart]
      rfl
    refine ⟨lost, ?_, hlost.imp_right fun hcrashed => ?_⟩
    · simpa [hkept] using hevents
    · rw [hstart]
      exact hcrashed
  · rw [hstart]
    have hqueued : loop.queued = [] := by simp [queued, stream?, hworker]
    have hnone : lost = [] := by
      apply hlost.resolve_right
      rintro ⟨worker, cause, hsome, -⟩
      rw [hworker] at hsome
      cases hsome
    rw [hqueued, hnone] at hevents
    refine ⟨[], ?_, .inl rfl⟩
    simpa [queued, stream?, Stage.stream?] using hevents
  · -- The stream of a worker that is replaced is lost with the process.
    rw [hstart]
    refine ⟨loop.queued ++ lost, ?_, .inr ⟨_, .workerReplaced, rfl, rfl⟩⟩
    simpa [queued, stream?, Stage.stream?] using hevents

theorem Delivers.moves (hsink : setup.sink = .accepting) {script : List Attempt}
    (h : Delivers script loop) (hmove : Moves setup loop next) : Delivers script next := by
  cases hmove with
  | proceed hproceeds =>
      rcases hproceeds.continues_or_opens hsink with hcontinues | hopens
      · exact h.of_continues (fun hcrashed => crashed_of_proceeds hcrashed hproceeds) hcontinues
      · exact h.of_opens hopens
  | start seed => exact h.start seed

/-! ## The whole history -/

theorem serves_and_delivers_of_reaches (hsink : setup.sink = .accepting) {script : List Attempt}
    (hreaches : Reaches setup { script := script } loop) :
    Serves setup.options.name loop ∧ Delivers script loop := by
  induction hreaches with
  | refl => exact ⟨⟨rfl, rfl⟩, ⟨rfl, [], rfl, .inl rfl⟩⟩
  | tail _ hmove ih => exact ⟨ih.1.moves hsink hmove, ih.2.moves hsink hmove⟩

/-- At every point of every history, the tables are those of the last handled event that
concerns the tracked resource, and the generation counts these events; nothing else changes the
store.  The handled events are those of the streams opened so far, in order, up to what is still
queued in the stream at hand. -/
theorem store_eq_served_of_reaches (hsink : setup.sink = .accepting) {script : List Attempt}
    (hreaches : Reaches setup { script := script } loop) :
    loop.store.tables = served setup.options.name (handled loop.trace) ∧
      loop.store.generation = UInt64.ofNat (updates setup.options.name (handled loop.trace)) ∧
      (∀ next, Moves setup loop next →
        updates setup.options.name (handled next.trace) =
          updates setup.options.name (handled loop.trace) → next.store = loop.store) ∧
      handled loop.trace <+: offered (script.take (openings loop.trace)) ∧
      (¬ loop.crashed →
        handled loop.trace ++ loop.queued = offered (script.take (openings loop.trace))) := by
  obtain ⟨hserves, hdelivers⟩ := serves_and_delivers_of_reaches hsink hreaches
  obtain ⟨lost, hevents, hlost⟩ := hdelivers.events
  refine ⟨hserves.tables, hserves.generation, fun next => store_eq_of_moves hsink,
    ⟨_, hevents⟩, fun hcrashed => ?_⟩
  rw [← hevents, hlost.resolve_right hcrashed, List.append_nil]

end Runs

/-- A client that opens one stream in the first run, with two events for the tracked resource
around one for another, and removes the resource in the second. -/
def twoRounds : List Attempt :=
  let update (name account : String) : Event :=
    { kind := .added, object := some { name, data := .ofList [("mapAccounts", account)] } }
  [{ outcome := .opened { channel := { queue :=
      [update "aws-auth" "[\"1\"]", update "other" "[]", update "aws-auth" "[\"2\"]"] } } },
    { outcome := .opened { channel := { queue := [{ kind := .deleted }] } } }]

theorem store_eq_served_after_two_rounds :
    let first := (({ script := twoRounds } : Loop).start {} 1).settle {}
    let second := ((first.stop {}).start {} 2).settle {}
    first.store.tables.hasAccount "2" = true ∧ first.store.generation = 2 ∧
      second.store.generation = 3 ∧
      second.store.tables = served "aws-auth" (handled second.trace) ∧
      handled second.trace ++ second.queued = offered twoRounds := by
  intro first second
  have hfirst : Reaches {} { script := twoRounds } first :=
    .head (.start 1) (reaches_of_proceeds (proceeds_of_works (works_settle {} _)))
  have hstopped : Reaches {} first (first.stop {}) :=
    reaches_of_proceeds (proceeds_stop rfl first)
  have hsecond : Reaches {} { script := twoRounds } second :=
    (hfirst.trans hstopped).trans
      (.head (.start 2) (reaches_of_proceeds (proceeds_of_works (works_settle {} _))))
  obtain ⟨htables, -, -, -, hevents⟩ := store_eq_served_of_reaches rfl hsecond
  refine ⟨by decide +kernel, by decide +kernel, by decide +kernel, htables, ?_⟩
  have hopenings : openings second.trace = 2 := by decide +kernel
  rw [hopenings] at hevents
  apply hevents
  rintro ⟨worker, cause, hworker, hstage⟩
  have hheld : second.stream?.isSome = true := by decide +kernel
  simp [stream?, hworker, hstage, Stage.stream?] at hheld

end Loop

end IdentityMap
