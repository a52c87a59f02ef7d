import IdentityMap.Proofs.Loop.Health
import IdentityMap.Proofs.Loop.Refusal

/-!
# What the state tells about the watch

The state says `watching` as soon as a stream is at hand, and the next attempt takes this back when
it is made, not when the stream is released.  So it is right while a stream is read, while a watch
is opened and after an attempt that was refused; but through the pause after a stream has ended it
speaks of a watch that is there no more.
-/

namespace IdentityMap

def Health.aftermath : Health → State
  | .success => .watching
  | .fail => .disconnected

@[simp] def Item.opening? : Item → Option State
  | opening _ _ state => some state
  | _ => none

def openingStates (trace : List Item) : List State :=
  trace.filterMap Item.opening?

section Views

variable (trace items : List Item) (item : Item)

@[simp] theorem openingStates_nil : openingStates [] = [] :=
  rfl

@[simp] theorem openingStates_cons :
    openingStates (item :: items) = item.opening?.toList ++ openingStates items := by
  rw [openingStates, List.filterMap_cons]
  cases item.opening? <;> rfl

@[simp] theorem openingStates_append :
    openingStates (trace ++ items) = openingStates trace ++ openingStates items :=
  List.filterMap_append

@[simp] theorem openingStates_items [Dialect] (event : Event) (tracked : String) (store : Store) :
    openingStates (event.items tracked store) = [] := by
  simp [openingStates, Event.items]

@[simp] theorem openingStates_handler (reason : String) (handler : FatalHandler) :
    openingStates (handler.items reason) = [] := by
  cases handler <;> rfl

@[simp] theorem openingStates_filterMap_bare :
    openingStates (trace.filterMap Item.bare) = openingStates trace :=
  filterMap_filterMap_bare (fun item => by cases item <;> rfl) trace

@[simp] theorem healths_filterMap_bare : healths (trace.filterMap Item.bare) = healths trace :=
  filterMap_filterMap_bare (fun item => by cases item <;> rfl) trace

end Views

namespace Loop

/-- Whether the worker is between two attempts of its run: it pauses after one, or it is about to
make another. -/
def isBetween (loop : Loop) : Bool :=
  loop.worker.any fun worker =>
    match worker.stage with
    | .pausing => true
    | .deciding => worker.connected
    | _ => false

inductive Tells (loop : Loop) (worker : Worker) : Prop
  | reading {stream : Stream} (hstage : worker.stage.stream? = some stream)
      (hconnected : worker.connected = true)
      (hlast : (healths loop.trace).getLast? = some .success) (hstate : loop.state = .watching)
  | between {health : Health} (hstage : worker.stage = .pausing ∨ worker.stage = .deciding)
      (hconnected : worker.connected = true)
      (hlast : (healths loop.trace).getLast? = some health) (hstate : loop.state = health.aftermath)
  | fresh (hstage : worker.stage = .deciding) (hconnected : worker.connected = false)
      (hstate : loop.state ≠ .watching)
  | ended (hstage : worker.stage = .ended) (hstate : loop.state ≠ .watching)
  | aborted (hstage : worker.stage.isAborted = true)

structure Speaks (loop : Loop) : Prop where
  worker : ∀ worker, loop.worker = some worker → Tells loop worker
  idle : loop.worker = none → loop.state ≠ .watching
  openings : ∀ state ∈ openingStates loop.trace, state = .disconnected

section Runs

variable {setup : Setup} {origin loop next : Loop} {worker : Worker}

theorem isBetween_iff (hworker : loop.worker = some worker) :
    loop.isBetween = true ↔
      worker.stage = .pausing ∨ worker.stage = .deciding ∧ worker.connected = true := by
  rw [isBetween, hworker, Option.any_some]
  cases worker.stage <;> simp

theorem speaks_of_worker (hworker : loop.worker = some worker) (htells : Tells loop worker)
    (hopenings : ∀ state ∈ openingStates loop.trace, state = .disconnected) : Speaks loop := by
  refine ⟨?_, ?_, hopenings⟩
  · intro other hother
    obtain rfl := Option.some.inj (hworker.symm.trans hother)
    exact htells
  · intro hnone
    rw [hworker] at hnone
    cases hnone

theorem Tells.of_stream (h : Tells loop worker) {stream : Stream}
    (hstream : worker.stage.stream? = some stream) :
    worker.connected = true ∧ (healths loop.trace).getLast? = some .success ∧
      loop.state = .watching := by
  cases h with
  | reading _ hconnected hlast hstate => exact ⟨hconnected, hlast, hstate⟩
  | between hstage => rcases hstage with hstage | hstage <;> simp [hstage, Stage.stream?] at hstream
  | fresh hstage | ended hstage => simp [hstage, Stage.stream?] at hstream
  | aborted hstage => cases hworker : worker.stage <;> simp_all [Stage.stream?, Stage.isAborted]

theorem Tells.of_between (h : Tells loop worker)
    (hbetween : worker.stage = .pausing ∨ worker.stage = .deciding ∧ worker.connected = true) :
    worker.connected = true ∧
      ∃ health, (healths loop.trace).getLast? = some health ∧ loop.state = health.aftermath := by
  cases h with
  | between _ hconnected hlast hstate => exact ⟨hconnected, _, hlast, hstate⟩
  | reading hstage =>
      rcases hbetween with hother | ⟨hother, -⟩ <;> simp [hother, Stage.stream?] at hstage
  | fresh hstage hconnected => simp [hstage, hconnected] at hbetween
  | ended hstage => simp [hstage] at hbetween
  | aborted hstage =>
      rcases hbetween with hother | ⟨hother, -⟩ <;> simp [hother, Stage.isAborted] at hstage

theorem Tells.of_ended (h : Tells loop worker) (hended : worker.stage = .ended) :
    loop.state ≠ .watching := by
  cases h with
  | reading hstage => simp [hended, Stage.stream?] at hstage
  | between hstage | fresh hstage => simp [hended] at hstage
  | ended _ hstate => exact hstate
  | aborted hstage => simp [hended, Stage.isAborted] at hstage

theorem Tells.of_same (h : Tells loop worker) (hstate : next.state = loop.state)
    (hhealths : healths next.trace = healths loop.trace) : Tells next worker := by
  cases h with
  | reading hstage hconnected hlast hwatching =>
      exact .reading hstage hconnected (hhealths ▸ hlast) (hstate.trans hwatching)
  | between hstage hconnected hlast hleft =>
      exact .between hstage hconnected (hhealths ▸ hlast) (hstate.trans hleft)
  | fresh hstage hconnected hnot => exact .fresh hstage hconnected (hstate ▸ hnot)
  | ended hstage hnot => exact .ended hstage (hstate ▸ hnot)
  | aborted hstage => exact .aborted hstage

theorem Tells.closeStream (h : Tells loop worker) :
    Tells loop { worker with stage := worker.stage.closeStream } := by
  cases h with
  | @reading stream hstage hconnected hlast hstate =>
      have hclosed : worker.stage.closeStream.stream? = some stream.close := by
        cases hworker : worker.stage <;> simp_all [Stage.stream?, Stage.closeStream]
      exact .reading hclosed hconnected hlast hstate
  | between hstage hconnected hlast hleft =>
      refine .between ?_ hconnected hlast hleft
      rcases hstage with hstage | hstage <;> simp [hstage, Stage.closeStream]
  | fresh hstage hconnected hnot =>
      exact .fresh (by simp [hstage, Stage.closeStream]) hconnected hnot
  | ended hstage hnot => exact .ended (by simp [hstage, Stage.closeStream]) hnot
  | aborted hstage => exact .aborted (by simpa using hstage)

/-! ## Moves -/

variable [Dialect]

theorem tells_of_turn (htells : Tells loop worker) (h : Turn setup loop worker next) :
    ∃ after, next.worker = some after ∧ Tells next after := by
  cases h with
  | halt _ _ | leave _ _ _ _ | giveUp _ _ _ _ => exact ⟨_, rfl, .ended rfl nofun⟩
  | retry _ _ _ hconnected _ =>
      have hlast : (healths (loop.trace ++ [.opening setup.options.ns setup.options.name
          .disconnected, .health .fail, .paused worker.backoff.next.1])).getLast? =
          some .fail := by simp
      exact ⟨_, rfl, .between (.inl rfl) hconnected hlast rfl⟩
  | opened _ _ _ => exact ⟨_, rfl, .reading rfl rfl (by simp) rfl⟩
  | ask hstage =>
      obtain ⟨hconnected, hlast, hstate⟩ := htells.of_stream (by rw [hstage]; rfl)
      exact ⟨_, rfl, .reading rfl hconnected (by simpa using hlast) hstate⟩
  | receive hstage _ =>
      obtain ⟨hconnected, hlast, hstate⟩ := htells.of_stream (by rw [hstage]; rfl)
      exact ⟨_, rfl, .reading rfl hconnected (by simpa using hlast) hstate⟩
  | reopen hstage _ _ _ _ =>
      -- The stream is gone, and the state stays what it was.
      obtain ⟨hconnected, hlast, hstate⟩ := htells.of_stream (by rw [hstage]; rfl)
      have hleft : loop.state = Health.success.aftermath := hstate
      exact ⟨_, rfl, .between (.inl rfl) hconnected (by simpa using hlast) hleft⟩
  | wake hstage =>
      obtain ⟨hconnected, health, hlast, hstate⟩ := htells.of_between (.inl hstage)
      exact ⟨_, rfl, .between (.inr rfl) hconnected hlast hstate⟩

theorem openingStates_of_moves (hsink : setup.sink = .accepting) (h : Moves setup loop next) :
    ∃ count, openingStates next.trace =
      openingStates loop.trace ++ List.replicate count .disconnected := by
  cases h with
  | proceed hproceeds =>
      cases hproceeds with
      | work hstep =>
          obtain ⟨worker, -, hturn⟩ := turn_of_step hsink hstep
          cases hturn with
          | giveUp _ _ _ _ | retry _ _ _ _ _ | opened _ _ _ => exact ⟨1, by simp⟩
          | halt _ _ | ask _ | receive _ _ | leave _ _ _ _ | reopen _ _ _ _ _ | wake _ =>
              exact ⟨0, by simp⟩
      | callStop => exact ⟨0, by simp⟩
      | join _ => exact ⟨0, by simp⟩
  | start seed => exact ⟨0, by simp⟩

theorem Speaks.moves (hsink : setup.sink = .accepting) (h : Speaks loop)
    (hmove : Moves setup loop next) : Speaks next := by
  have hopenings : ∀ state ∈ openingStates next.trace, state = .disconnected := by
    obtain ⟨count, hadded⟩ := openingStates_of_moves hsink hmove
    rw [hadded]
    intro state hstate
    rcases List.mem_append.1 hstate with hold | hnew
    · exact h.openings state hold
    · exact List.eq_of_mem_replicate hnew
  cases hmove with
  | proceed hproceeds =>
      cases hproceeds with
      | work hstep =>
          obtain ⟨worker, hworker, hturn⟩ := turn_of_step hsink hstep
          obtain ⟨after, hafter, htells⟩ := tells_of_turn (h.worker worker hworker) hturn
          exact speaks_of_worker hafter htells hopenings
      | callStop =>
          refine ⟨?_, fun hnone => h.idle (Option.map_eq_none_iff.1 hnone), hopenings⟩
          intro worker hworker
          obtain ⟨before, hbefore, rfl⟩ := Option.map_eq_some_iff.1 hworker
          exact (h.worker before hbefore).closeStream.of_same rfl (by simp)
      | join _ =>
          rcases loop.worker_join with hsame | ⟨hnone, ended, hworker, hstage⟩
          · refine ⟨?_, ?_, hopenings⟩
            · intro worker hworker
              rw [hsame] at hworker
              exact (h.worker worker hworker).of_same state_join (by simp)
            · rw [hsame, state_join]
              exact h.idle
          · refine ⟨?_, ?_, hopenings⟩
            · intro worker hworker
              rw [hnone] at hworker
              cases hworker
            · intro _
              rw [state_join]
              exact (h.worker ended hworker).of_ended hstage
  | start seed =>
      rcases start_cases seed setup loop with
        ⟨-, hstart⟩ | ⟨-, hworker, hstart⟩ | ⟨-, worker, -, hstart⟩
      · rw [hstart] at hopenings ⊢
        refine ⟨?_, h.idle, hopenings⟩
        intro worker hworker
        exact (h.worker worker hworker).of_same rfl (by simp [record])
      · rw [hstart] at hopenings ⊢
        exact speaks_of_worker rfl (.fresh rfl rfl (h.idle hworker)) hopenings
      · rw [hstart] at hopenings ⊢
        exact speaks_of_worker rfl (.aborted rfl) hopenings

/-! ## Histories -/

omit [Dialect] in
theorem Speaks.of_bare {shadow : Loop} (h : Speaks shadow) (hsame : shadow.bare = loop.bare) :
    Speaks loop := by
  have hstate : loop.state = shadow.state := (congrArg Loop.state hsame).symm
  have hworker : loop.worker = shadow.worker := (congrArg Loop.worker hsame).symm
  have htrace : loop.trace.filterMap Item.bare = shadow.trace.filterMap Item.bare :=
    (congrArg Loop.trace hsame).symm
  have hhealths : healths loop.trace = healths shadow.trace := by
    rw [← healths_filterMap_bare, htrace, healths_filterMap_bare]
  have hopenings : openingStates loop.trace = openingStates shadow.trace := by
    rw [← openingStates_filterMap_bare, htrace, openingStates_filterMap_bare]
  refine ⟨?_, ?_, ?_⟩
  · intro worker hsome
    exact (h.worker worker (hworker ▸ hsome)).of_same hstate hhealths
  · rw [hworker, hstate]
    exact h.idle
  · rw [hopenings]
    exact h.openings

theorem speaks_of_reaches {script : List Attempt} {store : Store}
    (hreaches : Reaches setup { script := script, store := store } loop)
    (hsafe : ¬ loop.crashed) : Speaks loop := by
  have haccepting : ∀ shadow, Reaches setup.accepting { script := script, store := store } shadow →
      Speaks shadow := by
    have hsink : setup.accepting.sink = .accepting := rfl
    intro shadow hshadow
    induction hshadow with
    | refl =>
        refine ⟨?_, by simp, by simp⟩
        rintro worker ⟨⟩
    | tail _ hmove ih => exact ih.moves hsink hmove
  obtain ⟨shadow, hshadow, hsame⟩ := (crashed_or_bare_of_reaches hreaches).resolve_left hsafe
  exact (haccepting shadow hshadow).of_bare hsame

/-- Whatever the sink takes and whoever stops the loop, the state says `watching` just in case a
stream is at hand, or the worker is between two attempts the first of which has succeeded, so that
its stream has been released.  Between two attempts the state is the one that the first left
behind, and a watch is asked for only in the state `disconnected`. -/
theorem watching_iff_stream_or_released {script : List Attempt} {store : Store}
    (hreaches : Reaches setup { script := script, store := store } loop)
    (hsafe : ¬ loop.crashed) :
    (loop.state = .watching ↔ loop.stream?.isSome = true ∨
        loop.isBetween = true ∧ (healths loop.trace).getLast? = some .success) ∧
      (loop.isBetween = true → loop.stream? = none ∧
        ∃ health, (healths loop.trace).getLast? = some health ∧
          loop.state = health.aftermath) ∧
      ∀ state ∈ openingStates loop.trace, state = .disconnected := by
  have hspeaks := speaks_of_reaches hreaches hsafe
  have hreleased : loop.isBetween = true → loop.stream? = none ∧
      ∃ health, (healths loop.trace).getLast? = some health ∧
        loop.state = health.aftermath := by
    intro hbetween
    obtain ⟨worker, hworker, -⟩ := (Option.any_eq_true _ _).1 hbetween
    rw [isBetween_iff hworker] at hbetween
    refine ⟨?_, ((hspeaks.worker worker hworker).of_between hbetween).2⟩
    rcases hbetween with hstage | ⟨hstage, -⟩ <;> simp [stream?, hworker, hstage, Stage.stream?]
  refine ⟨⟨?_, ?_⟩, hreleased, hspeaks.openings⟩
  · intro hwatching
    obtain ⟨worker, hworker⟩ : ∃ worker, loop.worker = some worker := by
      apply Option.ne_none_iff_exists'.1
      intro hnone
      exact hspeaks.idle hnone hwatching
    cases hspeaks.worker worker hworker with
    | reading hstage => exact .inl (by simp [stream?, hworker, hstage])
    | @between health hstage hconnected hlast hleft =>
        -- Only a success leaves the state behind that is seen here.
        have hsuccess : health = .success := by
          rw [hwatching] at hleft
          cases health <;> simp [Health.aftermath] at hleft ⊢
        have hbetween : loop.isBetween = true := by
          rw [isBetween_iff hworker, hconnected]
          simpa using hstage
        exact .inr ⟨hbetween, hsuccess ▸ hlast⟩
    | fresh _ _ hnot | ended _ hnot => exact absurd hwatching hnot
    | aborted hstage => exact absurd ((crashed_of_worker hworker).2 hstage) hsafe
  · rintro (hheld | ⟨hbetween, hlast⟩)
    · obtain ⟨stream, hstream⟩ := Option.isSome_iff_exists.1 hheld
      obtain ⟨worker, hworker, hstage⟩ := Option.bind_eq_some_iff.1 hstream
      exact ((hspeaks.worker worker hworker).of_stream hstage).2.2
    · obtain ⟨-, health, hother, hstate⟩ := hreleased hbetween
      obtain rfl := Option.some.inj (hlast.symm.trans hother)
      exact hstate

end Runs

/-- After an attempt to reopen that was refused, the loop does not say that it is watching. -/
theorem refused_attempt_leaves_disconnected :
    (flappingAfter 5).isBetween = true ∧ (flappingAfter 5).state = .disconnected := by
  have hbetween : (flappingAfter 5).isBetween = true := by decide +kernel
  have hlast : (healths (flappingAfter 5).trace).getLast? = some .fail := by decide +kernel
  have hsafe : ¬ (flappingAfter 5).crashed := by decide +kernel
  obtain ⟨-, hleft, -⟩ := watching_iff_stream_or_released (reaches_flappingAfter 5) hsafe
  obtain ⟨-, health, hother, hstate⟩ := hleft hbetween
  obtain rfl := Option.some.inj (hlast.symm.trans hother)
  rw [Health.aftermath] at hstate
  exact ⟨hbetween, hstate⟩

/-- When a stream has ended and was released, the loop says through the whole pause that it is
watching.  It should say that there is no watch, as it does after an attempt that was refused. -/
theorem ended_stream_leaves_watching :
    Reaches {} { script := flapping } (flappingAfter 3) ∧ (flappingAfter 3).state = .watching ∧
      (flappingAfter 3).stream?.isNone = true ∧ (flappingAfter 3).isBetween = true :=
  ⟨reaches_flappingAfter 3, by decide +kernel, by decide +kernel, by decide +kernel⟩

end Loop

end IdentityMap
