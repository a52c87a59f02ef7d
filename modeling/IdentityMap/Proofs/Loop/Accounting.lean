import IdentityMap.Document.Text
import IdentityMap.Proofs.Loop.Grammar

/-!
# The reports of a run

Every move adds to the trace of a loop, and what can be seen of it goes on with the attempt at
hand or begins the next.  So the trace of every history is a sequence of attempts, up to a last
one that has not ended, and the reports balance at every point of it.
-/

namespace IdentityMap

open Relation (ReflTransGen)

/-- What can be seen of the attempt at hand while the worker is at a stage.  An attempt in the
course of which the process is ended is not gone on with. -/
inductive Stage.Shows [Dialect] (options : Options) : Stage → List Item → Prop
  | between {stage : Stage} (h : stage.stream? = none) : Shows options stage []
  | asking {stream : Stream} {delivered : Nat} {items : List Item}
      (h : Reading options.name items) :
      Shows options (.asking stream delivered) (options.opened ++ items)
  | waiting {stream : Stream} {delivered : Nat} {items : List Item}
      (h : Reading options.name items) (stats : Stats) :
      Shows options (.waiting stream delivered)
        (options.opened ++ (items ++ [.asked .watching stats]))
  | lost {cause : Abort} {items : List Item} (h : IsBeginning options items) :
      Shows options (.aborted cause) items

section Stage

variable [Dialect] {options : Options} {stage : Stage} {items : List Item}

theorem Stage.Shows.closeStream (h : stage.Shows options items) :
    stage.closeStream.Shows options items := by
  cases h with
  | between hnone =>
      apply Shows.between
      cases stage <;> simp_all [Stage.closeStream, Stage.stream?]
  | asking hreading => exact .asking hreading
  | waiting hreading stats => exact .waiting hreading stats
  | lost hbeginning => exact .lost hbeginning

theorem Stage.Shows.beginning (h : stage.Shows options items) :
    items = [] ∨ IsBeginning options items := by
  cases h with
  | between _ => exact .inl rfl
  | asking hreading => exact .inr (.asking hreading)
  | waiting hreading stats => exact .inr (.waiting hreading stats)
  | lost hbeginning => exact .inr hbeginning

theorem Stage.Shows.abort (h : stage.Shows options items) (cause : Abort) :
    (Stage.aborted cause).Shows options items := by
  rcases h.beginning with rfl | hbeginning
  · exact .between rfl
  · exact .lost hbeginning

end Stage

namespace Loop

structure AtHand [Dialect] (options : Options) (loop : Loop) (rest : List Item) : Prop where
  stage : ∀ worker, loop.worker = some worker → worker.stage.Shows options rest
  idle : loop.worker = none → rest = []
  state : rest ≠ [] → loop.state = .watching

/-- What was seen of a loop is a sequence of attempts and what can be seen of the one at hand. -/
def Records [Dialect] (options : Options) (shown : List Item) (loop : Loop) : Prop :=
  ∃ attempts rest, shown = List.flatten attempts ++ rest ∧
    (∀ attempt ∈ attempts, IsAttempt options attempt) ∧ AtHand options loop rest

section Runs

variable [Dialect] {setup : Setup} {options : Options} {origin loop next : Loop} {worker : Worker}
  {attempts : List (List Item)} {rest items shown : List Item}

theorem atHand_nil (h : loop.stream? = none) : AtHand options loop [] := by
  constructor
  · intro worker hworker
    apply Stage.Shows.between
    simpa [stream?, hworker] using h
  · intro _
    rfl
  · intro hsome
    exact absurd rfl hsome

theorem atHand_of_shows (hworker : loop.worker = some worker)
    (hshows : worker.stage.Shows options rest) (hstate : loop.state = .watching) :
    AtHand options loop rest := by
  constructor
  · intro other hother
    obtain rfl := Option.some.inj (hworker.symm.trans hother)
    exact hshows
  · intro hnone
    rw [hworker] at hnone
    cases hnone
  · intro _
    exact hstate

theorem AtHand.beginning (h : AtHand options loop rest) :
    rest = [] ∨ IsBeginning options rest := by
  cases hworker : loop.worker with
  | none => exact .inl (h.idle hworker)
  | some worker => exact (h.stage worker hworker).beginning

theorem AtHand.exists_isAttempt (h : AtHand options loop rest) :
    ∃ whole, IsAttempt options whole ∧ rest <+: whole := by
  rcases h.beginning with rfl | hbeginning
  · exact ⟨_, .refused, List.nil_prefix⟩
  · exact hbeginning.exists_isAttempt

theorem AtHand.tallied (h : AtHand options loop rest) : Tallied options.name rest := by
  rcases h.beginning with rfl | hbeginning
  · exact ⟨rfl, rfl, rfl⟩
  · exact hbeginning.tallied

theorem AtHand.answered (h : AtHand options loop rest) : gauges rest = openings rest := by
  rcases h.beginning with rfl | hbeginning
  · rfl
  · exact hbeginning.answered

theorem AtHand.eq_nil_of_ended (h : AtHand options loop rest)
    (hended : loop.state = .stopped ∨ loop.state = .failed) : rest = [] := by
  apply Classical.byContradiction
  intro hsome
  rw [h.state hsome] at hended
  simp at hended

/-! ## Moves -/

def Extends (options : Options) (shown : List Item) (loop next : Loop) : Prop :=
  ∃ items, next.trace = loop.trace ++ items ∧ Records options (shown ++ interactions items) next

theorem extends_of_whole (hattempts : ∀ attempt ∈ attempts, IsAttempt options attempt)
    (htrace : next.trace = loop.trace ++ items)
    (hwhole : IsAttempt options (rest ++ interactions items)) (hnext : next.stream? = none) :
    Extends options (attempts.flatten ++ rest) loop next := by
  refine ⟨items, htrace, attempts ++ [rest ++ interactions items], [], by simp, ?_,
    atHand_nil hnext⟩
  intro attempt hmem
  rcases List.mem_append.1 hmem with hmem | hmem
  · exact hattempts attempt hmem
  · rw [List.mem_singleton.1 hmem]
    exact hwhole

theorem extends_of_more (hattempts : ∀ attempt ∈ attempts, IsAttempt options attempt)
    (htrace : next.trace = loop.trace ++ items)
    (hmore : AtHand options next (rest ++ interactions items)) :
    Extends options (attempts.flatten ++ rest) loop next :=
  ⟨items, htrace, attempts, rest ++ interactions items, List.append_assoc .., hattempts, hmore⟩

theorem extends_of_turn (hworker : loop.worker = some worker)
    (hrecords : Records setup.options shown loop) (h : Turn setup loop worker next) :
    Extends setup.options shown loop next := by
  obtain ⟨attempts, rest, rfl, hattempts, hhand⟩ := hrecords
  have hshows := hhand.stage worker hworker
  cases h with
  | halt hstage hrunning | wake hstage =>
      rw [hstage] at hshows
      cases hshows
      exact extends_of_more hattempts (List.append_nil _).symm (atHand_nil rfl)
  | giveUp hstage hrunning houtcome hfatal | retry hstage hrunning houtcome hconnected hallowed =>
      rw [hstage] at hshows
      cases hshows
      apply extends_of_whole hattempts rfl _ rfl
      simpa using IsAttempt.refused
  | opened hstage hrunning houtcome =>
      rw [hstage] at hshows
      cases hshows
      exact extends_of_more hattempts rfl (atHand_of_shows rfl (.asking .none) rfl)
  | ask hstage =>
      rw [hstage] at hshows
      -- A worker with a stream has an attempt at hand, so the loop is known to be watching.
      cases hshows with
      | between hnone => cases hnone
      | asking hreading =>
          have hstate : loop.state = .watching := hhand.state (by simp [Options.opened])
          apply extends_of_more hattempts rfl
          refine atHand_of_shows rfl ?_ ?_
          · simpa [hstate] using Stage.Shows.waiting hreading loop.store.stats
          · exact hstate
  | @receive stream delivered event rest hstage hqueue =>
      rw [hstage] at hshows
      cases hshows with
      | between hnone => cases hnone
      | waiting hreading stats =>
          have hstate : loop.state = .watching := hhand.state (by simp [Options.opened])
          apply extends_of_more hattempts rfl
          refine atHand_of_shows rfl ?_ ?_
          · simpa [items_eq] using Stage.Shows.asking (.event hreading stats event)
          · exact hstate
  | leave hstage hqueue hclosed hrunning | reopen hstage hqueue hclosed hrunning hbackoff =>
      rw [hstage] at hshows
      cases hshows with
      | between hnone => cases hnone
      | waiting hreading stats =>
          apply extends_of_whole hattempts rfl _ rfl
          simpa [Stats.ended] using IsAttempt.opened hreading stats

theorem atHand_callStop (h : AtHand options loop rest) : AtHand options loop.callStop rest := by
  constructor
  · intro worker hworker
    obtain ⟨before, hbefore, rfl⟩ := Option.map_eq_some_iff.1 hworker
    exact (h.stage before hbefore).closeStream
  · intro hnone
    exact h.idle (Option.map_eq_none_iff.1 hnone)
  · exact h.state

theorem atHand_join (h : AtHand options loop rest) : AtHand options loop.join rest := by
  cases hworker : loop.worker with
  | none =>
      have hkept : loop.join = loop := by simp [join, hworker]
      rw [hkept]
      exact h
  | some worker =>
      have hshows := h.stage worker hworker
      cases hstage : worker.stage with
      | ended =>
          rw [hstage] at hshows
          cases hshows
          have hnone : loop.stream? = none := by simp [stream?, hworker, hstage, Stage.stream?]
          exact atHand_nil (stream?_join.trans hnone)
      | _ =>
          have hkept : loop.join = loop := by simp [join, hworker, hstage]
          rw [hkept]
          exact h

theorem atHand_start (seed : UInt32) (h : AtHand options loop rest) :
    AtHand options (loop.start setup seed) rest := by
  rcases start_cases seed setup loop with
    ⟨-, hstart⟩ | ⟨-, hworker, hstart⟩ | ⟨-, worker, hworker, hstart⟩
  · rw [hstart]
    exact ⟨h.stage, h.idle, h.state⟩
  · rw [hstart, h.idle hworker]
    exact atHand_nil rfl
  · rw [hstart]
    -- The process ends here, and what was seen of the attempt is left as it is.
    constructor
    · rintro _ ⟨⟩
      exact (h.stage worker hworker).abort _
    · rintro ⟨⟩
    · exact h.state

theorem extends_of_moves (hsink : setup.sink = .accepting)
    (hrecords : Records setup.options shown loop) (h : Moves setup loop next) :
    Extends setup.options shown loop next := by
  obtain ⟨attempts, rest, rfl, hattempts, hhand⟩ := id hrecords
  cases h with
  | proceed hproceeds =>
      cases hproceeds with
      | work hstep =>
          obtain ⟨worker, hworker, hturn⟩ := turn_of_step hsink hstep
          exact extends_of_turn hworker hrecords hturn
      | callStop =>
          apply extends_of_more hattempts trace_callStop
          simpa using atHand_callStop hhand
      | join _ =>
          have htrace : loop.join.trace = loop.trace ++ [] := by simp
          apply extends_of_more hattempts htrace
          simpa using atHand_join hhand
  | start seed =>
      apply extends_of_more hattempts (trace_start seed)
      simpa using atHand_start seed hhand

def Raised (tracked : String) (loop next : Loop) : Prop :=
  ∃ events, handled next.trace = handled loop.trace ++ events ∧
    next.store.generation = loop.store.generation + UInt64.ofNat (updates tracked events)

theorem raised_of_moves (hsink : setup.sink = .accepting) (h : Moves setup loop next) :
    Raised setup.options.name loop next := by
  cases h with
  | proceed hproceeds =>
      rcases store_of_proceeds hsink hproceeds with ⟨hstore, hhandled⟩ | ⟨event, hstore, hhandled⟩
      · exact ⟨[], by simp [hhandled], by simp [hstore]⟩
      · refine ⟨[event], hhandled, ?_⟩
        rw [hstore, event.store_handle_accepting]
        by_cases hconcerns : event.concerns setup.options.name = true
        · simp [hconcerns, updates, Store.generation]
        · simp [hconcerns, updates]
  | start seed => exact ⟨[], by simp, by simp⟩

omit [Dialect] in
theorem Raised.trans {tracked : String} {later : Loop} (h : Raised tracked loop next)
    (h' : Raised tracked next later) : Raised tracked loop later := by
  obtain ⟨events, hhandled, hgeneration⟩ := h
  obtain ⟨more, hhandled', hgeneration'⟩ := h'
  refine ⟨events ++ more, by rw [hhandled', hhandled, List.append_assoc], ?_⟩
  rw [hgeneration', hgeneration, updates, updates, updates, List.countP_append,
    UInt64.ofNat_add, UInt64.add_assoc]

/-! ## Histories -/

theorem records_of_reaches (hsink : setup.sink = .accepting) (hidle : origin.Idle)
    (hreaches : Reaches setup origin loop) :
    Extends setup.options [] origin loop ∧ Raised setup.options.name origin loop := by
  induction hreaches with
  | refl =>
      have hnone : origin.stream? = none := by simp [stream?, hidle.worker]
      exact ⟨⟨[], by simp, [], [], rfl, by simp, atHand_nil hnone⟩, [], by simp, by simp⟩
  | tail _ hmove ih =>
      obtain ⟨⟨items, htrace, hrecords⟩, hraised⟩ := ih
      obtain ⟨more, htrace', hrecords'⟩ := extends_of_moves hsink hrecords hmove
      refine ⟨⟨items ++ more, ?_, ?_⟩, hraised.trans (raised_of_moves hsink hmove)⟩
      · rw [htrace', htrace, List.append_assoc]
      · rw [interactions_append, ← List.append_assoc]
        exact hrecords'

end Runs

/-- A client that opens a stream with an update that has errors, an error and an event about
another resource, then refuses once, then opens a stream in which the resource is removed. -/
def eventful : List Attempt :=
  let update (name data : String) : Event :=
    { kind := .modified, object := some { name, data := .ofList [("mapUsers", data)] } }
  [{ outcome := .opened { channel := { closed := true, queue :=
      [update "aws-auth" "[{userarn: a}, b, c]", { kind := .error }, update "other" "d"] } } },
    { outcome := .refused "gone" },
    { outcome := .opened { channel := { closed := true, queue := [{ kind := .deleted }] } } }]

end Loop

end IdentityMap
