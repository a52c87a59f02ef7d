import IdentityMap.Proofs.Handling
import IdentityMap.Proofs.Loop.History
import IdentityMap.Proofs.Loop.Standing

/-!
# What a loop reports

Between the worker of a loop and its client, its streams and its sink a run is a sequence of
attempts.  An attempt is refused, or it opens a stream that is asked for events until it ends.
The grammar of such sequences is given first.  That the reports of a run balance follows from the
grammar alone; that the trace of every run belongs to it is shown move by move.
-/

namespace IdentityMap

open Relation (ReflTransGen)

/-! ## Views of a trace -/

namespace Item

/-- Whether something passes between the worker and its client, a stream or the sink.  The calls
of the owner and of the fatal handler and the pauses are left out. -/
@[simp] def isInteraction : Item → Bool
  | start _ | stop _ | paused _ | fatal _ _ => false
  | _ => true

@[simp] def isGauge : Item → Bool
  | health _ => true
  | _ => false

@[simp] def isReport (counter : Counter) : Item → Bool
  | counted other => other = counter
  | _ => false

end Item

def interactions (trace : List Item) : List Item :=
  trace.filter Item.isInteraction

def reported (counter : Counter) (trace : List Item) : Nat :=
  trace.countP (Item.isReport counter)

def gauges (trace : List Item) : Nat :=
  trace.countP Item.isGauge

def unanswered (trace : List Item) : Nat :=
  if (interactions trace).getLast?.any Item.isOpening then 1 else 0

section Views

variable (trace items : List Item) (item : Item) (counter : Counter)

@[simp] theorem interactions_nil : interactions [] = [] :=
  rfl

@[simp] theorem interactions_cons :
    interactions (item :: items) =
      if item.isInteraction then item :: interactions items else interactions items :=
  List.filter_cons

@[simp] theorem interactions_append :
    interactions (trace ++ items) = interactions trace ++ interactions items :=
  List.filter_append ..

@[simp] theorem reported_nil : reported counter [] = 0 :=
  rfl

@[simp] theorem reported_cons :
    reported counter (item :: items) =
      reported counter items + if item.isReport counter then 1 else 0 :=
  List.countP_cons

@[simp] theorem reported_append :
    reported counter (trace ++ items) = reported counter trace + reported counter items :=
  List.countP_append

@[simp] theorem gauges_nil : gauges [] = 0 :=
  rfl

@[simp] theorem gauges_cons :
    gauges (item :: items) = gauges items + if item.isGauge then 1 else 0 :=
  List.countP_cons

@[simp] theorem gauges_append : gauges (trace ++ items) = gauges trace + gauges items :=
  List.countP_append

theorem countP_interactions {p : Item → Bool}
    (h : ∀ item, p item = true → item.isInteraction = true) :
    (interactions trace).countP p = trace.countP p := by
  rw [interactions, List.countP_filter]
  apply List.countP_congr
  intro item _
  simpa using h item

@[simp] theorem reported_interactions :
    reported counter (interactions trace) = reported counter trace :=
  countP_interactions trace fun item h => by cases item <;> simp_all

@[simp] theorem gauges_interactions : gauges (interactions trace) = gauges trace :=
  countP_interactions trace fun item h => by cases item <;> simp_all

@[simp] theorem openings_interactions : openings (interactions trace) = openings trace :=
  countP_interactions trace fun item h => by cases item <;> simp_all

@[simp] theorem unanswered_interactions : unanswered (interactions trace) = unanswered trace := by
  rw [unanswered, unanswered, interactions, interactions, List.filter_filter]
  simp only [Bool.and_self]

@[simp] theorem handled_interactions : handled (interactions trace) = handled trace := by
  rw [handled, interactions, List.filterMap_filter, handled]
  congr 1
  funext item
  cases item <;> rfl

@[simp] theorem interactions_handler (reason : String) (handler : FatalHandler) :
    interactions (handler.items reason) = [] := by
  cases handler <;> rfl

/-! ### The reports of an event -/

variable (event : Event) (tracked : String) (store : Store) (counters : List Counter)

theorem items_eq [Dialect] : event.items tracked store = (event.reports tracked).map .counted := by
  rw [Event.items, Event.counted_handle]

@[simp] theorem reported_counted :
    reported counter (counters.map .counted) = counters.count counter := by
  rw [reported, List.countP_map, List.count]
  apply List.countP_congr
  intro other _
  simp

@[simp] theorem interactions_counted :
    interactions (counters.map .counted) = counters.map .counted := by
  simp [interactions]

@[simp] theorem gauges_counted : gauges (counters.map .counted) = 0 := by
  simp [gauges]

@[simp] theorem openings_counted : openings (counters.map .counted) = 0 := by
  simp [openings]

@[simp] theorem handled_counted : handled (counters.map .counted) = [] := by
  simp [handled]

end Views

/-! ## The grammar of attempts -/

/-- What can be seen of a stream while it gives events: it is asked for each of them by a loop
that is watching, and the reports of the event follow. -/
inductive Reading [Dialect] (tracked : String) : List Item → Prop
  | none : Reading tracked []
  | event {items : List Item} (h : Reading tracked items) (stats : Stats) (event : Event) :
      Reading tracked (items ++ (.asked .watching stats :: .received (some event) ::
        (event.reports tracked).map .counted))

def Options.opened (options : Options) : List Item :=
  [.opening options.ns options.name .disconnected, .health .success, .counted .watchOpens]

def Stats.ended (stats : Stats) : List Item :=
  [.asked .watching stats, .received none, .counted .watchCloses]

/-- What can be seen of an attempt: it is refused, or it opens a stream that is read to its end. -/
inductive IsAttempt [Dialect] (options : Options) : List Item → Prop
  | refused : IsAttempt options [.opening options.ns options.name .disconnected, .health .fail]
  | opened {items : List Item} (h : Reading options.name items) (stats : Stats) :
      IsAttempt options (options.opened ++ (items ++ stats.ended))

inductive IsBeginning [Dialect] (options : Options) : List Item → Prop
  | asking {items : List Item} (h : Reading options.name items) :
      IsBeginning options (options.opened ++ items)
  | waiting {items : List Item} (h : Reading options.name items) (stats : Stats) :
      IsBeginning options (options.opened ++ (items ++ [.asked .watching stats]))

/-! ## Balance -/

/-- The reports about watches match the requests for them.  A request that the client has not
answered has no gauge yet. -/
structure Balanced (trace : List Item) : Prop where
  released : reported .watchCloses trace ≤ reported .watchOpens trace
  held : reported .watchOpens trace ≤ reported .watchCloses trace + 1
  answered : gauges trace + unanswered trace = openings trace

structure Settled (trace : List Item) : Prop where
  released : reported .watchCloses trace = reported .watchOpens trace
  answered : gauges trace = openings trace
  complete : unanswered trace = 0

structure Tallied [Dialect] (tracked : String) (trace : List Item) : Prop where
  errors : reported .watchErrors trace = (handled trace).countP fun event => event.kind = .error
  faults : reported .parseErrors trace = (handled trace).countP (Event.isFaulty tracked)
  updates : reported .replaces trace = updates tracked (handled trace)

section Balance

variable {options : Options} {tracked : String} {trace items shown : List Item}

theorem Balanced.of_interactions (h : Balanced (interactions trace)) : Balanced trace := by
  constructor
  · simpa using h.released
  · simpa using h.held
  · simpa using h.answered

theorem Settled.of_interactions (h : Settled (interactions trace)) : Settled trace := by
  constructor
  · simpa using h.released
  · simpa using h.answered
  · simpa using h.complete

theorem unanswered_append :
    unanswered (trace ++ items) =
      if interactions items = [] then unanswered trace else unanswered items := by
  unfold unanswered
  rw [interactions_append, List.getLast?_append]
  by_cases hnil : interactions items = []
  · rw [if_pos hnil, hnil]
    rfl
  · rw [if_neg hnil, List.getLast?_eq_some_getLast hnil]
    rfl

theorem unanswered_eq_zero (h : openings trace = 0) : unanswered trace = 0 := by
  unfold unanswered
  apply if_neg
  intro hlast
  obtain ⟨item, hitem, hopening⟩ := (Option.any_eq_true _ _).1 hlast
  have hmem : item ∈ interactions trace := List.mem_of_getLast? hitem
  have hnone : ∀ item ∈ trace, ¬ item.isOpening = true := List.countP_eq_zero.1 h
  exact hnone item (List.mem_filter.1 hmem).1 hopening

theorem Settled.append (h : Settled trace) (hitems : Settled items) : Settled (trace ++ items) := by
  constructor
  · simp [h.released, hitems.released]
  · simp [h.answered, hitems.answered]
  · rw [unanswered_append]
    split
    · exact h.complete
    · exact hitems.complete

theorem Settled.append_balanced (h : Settled trace) (hitems : Balanced items) :
    Balanced (trace ++ items) := by
  have hlast : unanswered (trace ++ items) = unanswered items := by
    rw [unanswered_append]
    by_cases hnil : interactions items = []
    · rw [if_pos hnil, h.complete, unanswered, hnil]
      rfl
    · rw [if_neg hnil]
  constructor
  · simpa [h.released] using hitems.released
  · simpa [h.released, Nat.add_assoc] using hitems.held
  · simpa [hlast, h.answered, Nat.add_assoc] using hitems.answered

theorem prefix_append_cases {first second : List Item} (h : shown <+: first ++ second) :
    shown <+: first ∨ ∃ rest, shown = first ++ rest ∧ rest <+: second := by
  rcases List.prefix_or_prefix_of_prefix h (List.prefix_append first second) with hfirst | hmore
  · exact .inl hfirst
  · obtain ⟨rest, rfl⟩ := hmore
    exact .inr ⟨rest, rfl, (List.prefix_append_right_inj first).1 h⟩

variable [Dialect]

theorem Tallied.of_interactions (h : Tallied tracked (interactions trace)) :
    Tallied tracked trace := by
  constructor
  · simpa using h.errors
  · simpa using h.faults
  · simpa using h.updates

theorem Tallied.append (h : Tallied tracked trace) (hitems : Tallied tracked items) :
    Tallied tracked (trace ++ items) := by
  constructor
  · simp [h.errors, hitems.errors, List.countP_append]
  · simp [h.faults, hitems.faults, List.countP_append]
  · simp [h.updates, hitems.updates, IdentityMap.updates, List.countP_append]

/-! ### Reading a stream -/

theorem tallied_event (stats : Stats) (event : Event) :
    Tallied tracked (.asked .watching stats :: .received (some event) ::
      (event.reports tracked).map .counted) := by
  constructor <;> simp [Event.count_reports, updates]

theorem Reading.tallied (h : Reading tracked items) : Tallied tracked items := by
  induction h with
  | none => exact ⟨rfl, rfl, rfl⟩
  | event _ stats event ih => exact ih.append (tallied_event stats event)

theorem Reading.quiet (h : Reading tracked items) :
    reported .watchOpens items = 0 ∧ reported .watchCloses items = 0 ∧ gauges items = 0 ∧
      openings items = 0 := by
  induction h with
  | none => simp
  | event _ stats event ih => simp [ih, Event.count_reports]

/-- From the opening of a stream to its end there is nothing more about watches than the one
report of its end. -/
theorem Reading.quiet_of_prefix (h : Reading tracked items) {stats : Stats}
    (hshown : shown <+: items ++ stats.ended) :
    reported .watchOpens shown = 0 ∧ reported .watchCloses shown ≤ 1 ∧ gauges shown = 0 ∧
      openings shown = 0 := by
  obtain ⟨hopens, hcloses, hgauges, hopenings⟩ := h.quiet
  have hmade : reported .watchOpens shown ≤ reported .watchOpens (items ++ stats.ended) :=
    hshown.sublist.countP_le
  have hreleased : reported .watchCloses shown ≤ reported .watchCloses (items ++ stats.ended) :=
    hshown.sublist.countP_le
  have htold : gauges shown ≤ gauges (items ++ stats.ended) := hshown.sublist.countP_le
  have hasked : openings shown ≤ openings (items ++ stats.ended) := hshown.sublist.countP_le
  refine ⟨?_, ?_, ?_, ?_⟩
  · simpa [hopens, Stats.ended] using hmade
  · simpa [hcloses, Stats.ended] using hreleased
  · simpa [hgauges, Stats.ended] using htold
  · simpa [hopenings, Stats.ended] using hasked

/-! ### Attempts -/

theorem tallied_opened : Tallied options.name options.opened :=
  ⟨by simp [Options.opened], by simp [Options.opened], by simp [Options.opened, updates]⟩

theorem IsAttempt.settled (h : IsAttempt options items) : Settled items := by
  cases h with
  | refused => exact ⟨by simp, by simp, by simp [unanswered]⟩
  | opened hreading stats =>
      obtain ⟨hopens, hcloses, hgauges, hopenings⟩ := hreading.quiet
      refine ⟨?_, ?_, ?_⟩
      · simp [Options.opened, Stats.ended, hopens, hcloses]
      · simp [Options.opened, Stats.ended, hgauges, hopenings]
      · rw [← List.append_assoc, unanswered_append, if_neg (by simp [Stats.ended])]
        rfl

theorem IsAttempt.tallied (h : IsAttempt options items) : Tallied options.name items := by
  cases h with
  | refused => exact ⟨by simp, by simp, by simp [updates]⟩
  | opened hreading stats =>
      have hended : Tallied options.name stats.ended :=
        ⟨by simp [Stats.ended], by simp [Stats.ended], by simp [Stats.ended, updates]⟩
      exact tallied_opened.append (hreading.tallied.append hended)

theorem IsBeginning.tallied (h : IsBeginning options items) : Tallied options.name items := by
  cases h with
  | asking hreading => exact tallied_opened.append hreading.tallied
  | waiting hreading stats =>
      have hasked : Tallied options.name [.asked .watching stats] :=
        ⟨by simp, by simp, by simp [updates]⟩
      exact tallied_opened.append (hreading.tallied.append hasked)

theorem IsBeginning.answered (h : IsBeginning options items) : gauges items = openings items := by
  cases h with
  | asking hreading | waiting hreading stats =>
      obtain ⟨-, -, hgauges, hopenings⟩ := hreading.quiet
      simp [Options.opened, hgauges, hopenings]

theorem IsBeginning.exists_isAttempt (h : IsBeginning options items) :
    ∃ whole, IsAttempt options whole ∧ items <+: whole := by
  cases h with
  | asking hreading =>
      refine ⟨_, .opened hreading Store.empty.stats, ?_⟩
      simp
  | waiting hreading stats =>
      refine ⟨_, .opened hreading stats, ?_⟩
      simp [Stats.ended]

/-! ### Points within attempts -/

theorem IsAttempt.balanced_of_prefix (h : IsAttempt options items) (hshown : shown <+: items) :
    Balanced shown := by
  cases h with
  | refused =>
      simp only [List.prefix_cons_iff, List.prefix_nil] at hshown
      obtain rfl | ⟨_, rfl, rfl | ⟨_, rfl, rfl⟩⟩ := hshown <;> constructor <;> simp [unanswered]
  | opened hreading stats =>
      rcases prefix_append_cases hshown with hopened | ⟨rest, rfl, hrest⟩
      · simp only [Options.opened, List.prefix_cons_iff, List.prefix_nil] at hopened
        obtain rfl | ⟨_, rfl, rfl | ⟨_, rfl, rfl | ⟨_, rfl, rfl⟩⟩⟩ := hopened <;>
          constructor <;> simp [unanswered]
      · obtain ⟨hopens, hcloses, hgauges, hopenings⟩ := hreading.quiet_of_prefix hrest
        -- The gauge and the report of the opening come after the request.
        have hlast : unanswered (options.opened ++ rest) = 0 := by
          rw [unanswered_append]
          split
          · rfl
          · exact unanswered_eq_zero hopenings
        constructor
        · simpa [Options.opened, hopens] using hcloses
        · simp [Options.opened, hopens]
        · rw [hlast]
          simp [Options.opened, hgauges, hopenings]

/-- A sequence of attempts is balanced wherever it is cut off. -/
theorem balanced_of_prefix {attempts : List (List Item)} {rest whole : List Item}
    (hattempts : ∀ attempt ∈ attempts, IsAttempt options attempt)
    (hwhole : IsAttempt options whole) (hrest : rest <+: whole)
    (hshown : shown <+: attempts.flatten ++ rest) : Balanced shown := by
  induction attempts generalizing shown with
  | nil => exact hwhole.balanced_of_prefix (hshown.trans hrest)
  | cons attempt attempts ih =>
      obtain ⟨hattempt, hattempts⟩ := List.forall_mem_cons.1 hattempts
      rw [List.flatten_cons, List.append_assoc] at hshown
      -- Either the cut is within the first attempt, or that attempt leaves nothing open.
      rcases prefix_append_cases hshown with hfirst | ⟨later, rfl, hlater⟩
      · exact hattempt.balanced_of_prefix hfirst
      · exact hattempt.settled.append_balanced (ih hattempts hlater)

theorem settled_flatten {attempts : List (List Item)}
    (hattempts : ∀ attempt ∈ attempts, IsAttempt options attempt) : Settled attempts.flatten := by
  induction attempts with
  | nil => exact ⟨rfl, rfl, rfl⟩
  | cons attempt attempts ih =>
      obtain ⟨hattempt, hattempts⟩ := List.forall_mem_cons.1 hattempts
      exact hattempt.settled.append (ih hattempts)

theorem tallied_flatten {attempts : List (List Item)}
    (hattempts : ∀ attempt ∈ attempts, IsAttempt options attempt) :
    Tallied options.name attempts.flatten := by
  induction attempts with
  | nil => exact ⟨rfl, rfl, rfl⟩
  | cons attempt attempts ih =>
      obtain ⟨hattempt, hattempts⟩ := List.forall_mem_cons.1 hattempts
      exact hattempt.tallied.append (ih hattempts)

end Balance

end IdentityMap
