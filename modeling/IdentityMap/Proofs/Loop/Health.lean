import Mathlib.Data.List.Induction
import IdentityMap.Document.Text
import IdentityMap.Registry
import IdentityMap.Proofs.Loop.History
import IdentityMap.Proofs.Loop.Standing

/-!
# What the health gauges tell

Every attempt to open a watch reports its outcome under a label of its own.  A registry keeps the
gauges of both labels, and nothing takes a gauge back, so that they tell which outcomes there have
been but not which of them came last.
-/

namespace IdentityMap

/-! ## Outcomes -/

@[simp] def Item.health? : Item → Option Health
  | health told => some told
  | _ => none

def healths (trace : List Item) : List Health :=
  trace.filterMap Item.health?

def Outcome.health : Outcome → Health
  | .refused _ => .fail
  | .opened _ => .success

def attempted (script : List Attempt) (count : Nat) : List Health :=
  (List.range count).map fun position => (outcomes script position).health

theorem attempted_succ (script : List Attempt) (count : Nat) :
    attempted script (count + 1) =
      attempted script count ++ [(outcomes script count).health] := by
  simp [attempted, List.range_succ]

section Views

variable (trace items : List Item) (item : Item)

@[simp] theorem healths_nil : healths [] = [] :=
  rfl

@[simp] theorem healths_cons : healths (item :: items) = item.health?.toList ++ healths items := by
  rw [healths, List.filterMap_cons]
  cases item.health? <;> rfl

@[simp] theorem healths_append : healths (trace ++ items) = healths trace ++ healths items :=
  List.filterMap_append

@[simp] theorem healths_items [Dialect] (event : Event) (tracked : String) (store : Store) :
    healths (event.items tracked store) = [] := by
  simp [healths, Event.items]

@[simp] theorem healths_handler (reason : String) (handler : FatalHandler) :
    healths (handler.items reason) = [] := by
  cases handler <;> rfl

end Views

/-! ## Registries -/

namespace Registry

theorem gauge?_setHealth (registry : Registry) (health other : Health) :
    (registry.setHealth health).gauge? Health.gaugeName other.label =
      if health = other then some other.value
      else registry.gauge? Health.gaugeName other.label := by
  have hkeys : gaugeKey Health.gaugeName health.label = gaugeKey Health.gaugeName other.label ↔
      health = other := by
    cases health <;> cases other <;> decide
  rw [setHealth, setGauge, gauge?, Std.TreeMap.getElem?_insert]
  by_cases hsame : health = other
  · simp [hsame]
  · simp [hkeys, hsame, gauge?]

def take (registry : Registry) : Item → Registry
  | .health health => registry.setHealth health
  | .counted counter => registry.increment counter.name
  | _ => registry

def ofTrace (trace : List Item) : Registry :=
  trace.foldl take empty

theorem ofTrace_concat (trace : List Item) (item : Item) :
    ofTrace (trace ++ [item]) = (ofTrace trace).take item := by
  simp [ofTrace]

theorem gauge?_take (registry : Registry) (item : Item) (health : Health) :
    (registry.take item).gauge? Health.gaugeName health.label =
      if item.health? = some health then some health.value
      else registry.gauge? Health.gaugeName health.label := by
  cases item with
  | health other => simp [take, gauge?_setHealth]
  | _ => simp [take, increment, gauge?]

theorem gauge?_ofTrace (trace : List Item) (health : Health) :
    (ofTrace trace).gauge? Health.gaugeName health.label =
      if health ∈ healths trace then some health.value else none := by
  induction trace using List.reverseRecOn with
  | nil => rfl
  | append_singleton trace item ih =>
      have hmem : health ∈ healths (trace ++ [item]) ↔
          item.health? = some health ∨ health ∈ healths trace := by
        rw [healths_append, healths_cons]
        cases item.health? <;> simp [eq_comm, or_comm]
      rw [ofTrace_concat, gauge?_take, ih]
      simp only [hmem, ite_or]

end Registry

/-! ## Runs -/

namespace Loop

section Runs

variable [Dialect] {setup : Setup} {loop next : Loop} {script : List Attempt}

theorem healths_of_moves (hsink : setup.sink = .accepting) (h : Moves setup loop next) :
    openings next.trace = openings loop.trace ∧ healths next.trace = healths loop.trace ∨
      openings next.trace = openings loop.trace + 1 ∧
        healths next.trace =
          healths loop.trace ++ [(attemptAt loop.script 0).outcome.health] := by
  cases h with
  | proceed hproceeds =>
      cases hproceeds with
      | work hstep =>
          obtain ⟨worker, -, hturn⟩ := turn_of_step hsink hstep
          cases hturn with
          | giveUp _ _ houtcome _ | retry _ _ houtcome _ _ | opened _ _ houtcome =>
              exact .inr ⟨by simp, by simp [houtcome, Outcome.health]⟩
          | halt _ _ | ask _ | receive _ _ | leave _ _ _ _ | reopen _ _ _ _ _ | wake _ =>
              exact .inl ⟨by simp, by simp⟩
      | callStop => exact .inl ⟨by simp, by simp⟩
      | join _ => exact .inl ⟨by simp, by simp⟩
  | start seed => exact .inl ⟨by simp, by simp⟩

theorem healths_of_reaches (hsink : setup.sink = .accepting)
    (hreaches : Reaches setup { script := script } loop) :
    healths loop.trace = attempted script (openings loop.trace) := by
  induction hreaches with
  | refl => rfl
  | @tail middle _ hmiddle hmove ih =>
      have hremaining := (serves_and_delivers_of_reaches hsink hmiddle).2.remaining
      rcases healths_of_moves hsink hmove with ⟨hopenings, hhealths⟩ | ⟨hopenings, hhealths⟩
      · rw [hhealths, hopenings, ih]
      · rw [hhealths, hopenings, attempted_succ, ih, hremaining, attemptAt_drop]
        rfl

def gauge (loop : Loop) (health : Health) : Option Float :=
  (Registry.ofTrace loop.trace).gauge? Health.gaugeName health.label

omit [Dialect] in
theorem gauge_eq_iff {loop' : Loop} :
    (∀ health, loop.gauge health = loop'.gauge health) ↔
      ∀ health, health ∈ healths loop.trace ↔ health ∈ healths loop'.trace := by
  refine forall_congr' fun health => ?_
  rw [gauge, gauge, Registry.gauge?_ofTrace, Registry.gauge?_ofTrace]
  by_cases hseen : health ∈ healths loop.trace <;>
    by_cases hseen' : health ∈ healths loop'.trace <;> simp [hseen, hseen']

/-- The reports of a loop are the outcomes of its attempts, so the last report tells how the last
attempt came out.  The gauges tell which outcomes there have been.  They tell the last one apart
as long as all outcomes were alike; two histories that differ in the last outcome show the same
gauges just in case both have seen either outcome. -/
theorem gauges_tell_outcomes {setup' : Setup} {script' : List Attempt} {loop' : Loop}
    (hsink : setup.sink = .accepting) (hsink' : setup'.sink = .accepting)
    (hreaches : Reaches setup { script := script } loop)
    (hreaches' : Reaches setup' { script := script' } loop') :
    let seen := attempted script (openings loop.trace)
    let seen' := attempted script' (openings loop'.trace)
    healths loop.trace = seen ∧
      (∀ health, loop.gauge health = if health ∈ seen then some health.value else none) ∧
      ((∀ health, loop.gauge health = loop'.gauge health) ↔
        ∀ health, health ∈ seen ↔ health ∈ seen') ∧
      ∀ last ∈ seen.getLast?, ∀ last' ∈ seen'.getLast?, last ≠ last' →
        ((∀ health, loop.gauge health = loop'.gauge health) ↔
          ∀ health, health ∈ seen ∧ health ∈ seen') := by
  intro seen seen'
  have hseen : healths loop.trace = seen := healths_of_reaches hsink hreaches
  have hseen' : healths loop'.trace = seen' := healths_of_reaches hsink' hreaches'
  have hgauges : (∀ health, loop.gauge health = loop'.gauge health) ↔
      ∀ health, health ∈ seen ↔ health ∈ seen' := by
    rw [gauge_eq_iff, hseen, hseen']
  refine ⟨hseen, ?_, hgauges, ?_⟩
  · intro health
    rw [gauge, Registry.gauge?_ofTrace, hseen]
  · intro last hlast last' hlast' hdiffer
    have hmem : last ∈ seen := List.mem_of_getLast? hlast
    have hmem' : last' ∈ seen' := List.mem_of_getLast? hlast'
    rw [hgauges]
    constructor
    · -- There are but two outcomes, and each of them came last in one of the histories.
      intro hsame health
      have hcases : health = last ∨ health = last' := by
        revert hdiffer
        cases health <;> cases last <;> cases last' <;> decide
      rcases hcases with rfl | rfl
      · exact ⟨hmem, (hsame _).1 hmem⟩
      · exact ⟨(hsame _).2 hmem', hmem'⟩
    · intro hboth health
      exact ⟨fun _ => (hboth health).2, fun _ => (hboth health).1⟩

end Runs

/-- A client whose first stream ends at once, which then refuses once, and whose next stream
stays open. -/
def flapping : List Attempt :=
  [{ outcome := .opened { channel := { closed := true } } }, { outcome := .refused "gone" }]

def flappingAfter (steps : Nat) : Loop :=
  (({ script := flapping } : Loop).start {} 1).advance {} (fun _ => false) steps

theorem reaches_flappingAfter (steps : Nat) :
    Reaches {} { script := flapping } (flappingAfter steps) :=
  .head (.start 1) (reaches_of_proceeds (proceeds_of_works (works_advance {} _ _ _)))

/-- After the first refusal the gauges are not those of a loop that was never refused. -/
theorem gauges_tell_first_refusal :
    ¬ ∀ health, (flappingAfter 1).gauge health = (flappingAfter 5).gauge health := by
  have hbefore : openings (flappingAfter 1).trace = 1 := by decide +kernel
  have hafter : openings (flappingAfter 5).trace = 2 := by decide +kernel
  obtain ⟨-, -, -, hgauges⟩ := gauges_tell_outcomes rfl rfl (reaches_flappingAfter 1)
    (reaches_flappingAfter 5)
  rw [hbefore, hafter] at hgauges
  rw [hgauges .success (by decide) .fail (by decide) (by decide)]
  intro hboth
  exact absurd (hboth .fail).1 (by decide)

/-- The gauges do not tell whether a watch that was lost has been opened again: they are the same
after the second attempt, which is refused, and after the third, which succeeds. -/
theorem lost_and_recovered_show_same_gauges :
    let lost := flappingAfter 5
    let recovered := flappingAfter 7
    attempted flapping (openings lost.trace) = [.success, .fail] ∧
      attempted flapping (openings recovered.trace) = [.success, .fail, .success] ∧
      ∀ health, lost.gauge health = recovered.gauge health := by
  intro lost recovered
  have hlost : healths lost.trace = [.success, .fail] := by decide +kernel
  have hrecovered : healths recovered.trace = [.success, .fail, .success] := by decide +kernel
  refine ⟨by decide +kernel, by decide +kernel, ?_⟩
  rw [gauge_eq_iff, hlost, hrecovered]
  intro health
  cases health <;> decide

end Loop

end IdentityMap
