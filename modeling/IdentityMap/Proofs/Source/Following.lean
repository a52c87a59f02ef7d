import Mathlib.Logic.Relation
import IdentityMap.Document.Text
import IdentityMap.Loop.Basic
import IdentityMap.Source.File
import IdentityMap.Proofs.Serving

/-!
# Following a file

A file is written and removed while a source polls it, and a store handles the events in turn.
The source knows whether it last reported a resource, each stream knows the modification time it
saw last, and the store knows the last event that concerned it.  `Follower.Agrees` ties the three
together.  It follows that a poll with nothing to report finds the store up to date with the
file, however writes, removals, polls and new streams were interleaved.
-/

namespace IdentityMap

open Relation (ReflTransGen)

/-! ## One poll -/

/-- What a poll of a file reports, given the modification time seen last and whether the file is
known as a resource; then whether it is known afterwards, and the time seen last. -/
inductive Polls [Dialect] (path : String) (seen : Option Int) (known : Bool) :
    FileView → Option Event → Bool → Option Int → Prop
  | absent (hknown : known = false) : Polls path seen known .absent none false none
  | removed (hknown : known = true) :
      Polls path seen known .absent (some { kind := .deleted }) false none
  | unchanged {modified : Int} {text : String} (hseen : seen = some modified) :
      Polls path seen known (.present modified text) none known (some modified)
  | loaded {modified : Int} {text : String} {resource : Resource} (hseen : seen ≠ some modified)
      (hload : Resource.ofFile? (some text) = .ok resource) :
      Polls path seen known (.present modified text)
        (some { kind := if known then .modified else .added, object := some resource })
        true (some modified)
  | failed {modified : Int} {text : String} {fault : ResourceFault}
      (hseen : seen ≠ some modified) (hload : Resource.ofFile? (some text) = .error fault) :
      Polls path seen known (.present modified text)
        (some { kind := .error, message := fault.message path }) known (some modified)

theorem FileStream.polls [Dialect] (stream : FileStream) (path : String) (known : Bool)
    (view : FileView) :
    Polls path stream.seen known view (stream.poll path known view).1
      (stream.poll path known view).2.1 (stream.poll path known view).2.2.seen := by
  cases view with
  | absent =>
      cases known with
      | false => exact .absent rfl
      | true => exact .removed rfl
  | present modified text =>
      by_cases hseen : stream.seen = some modified
      · simp only [poll, hseen, if_true]
        exact .unchanged rfl
      · cases hload : Resource.ofFile? (some text) with
        | ok resource =>
            simp only [poll, hseen, hload, if_false]
            exact .loaded hseen hload
        | error fault =>
            simp only [poll, hseen, hload, if_false]
            exact .failed hseen hload

namespace Polls

variable [Dialect] {path : String} {seen seen' : Option Int} {known known' : Bool}

theorem known_of_absent (h : Polls path seen known .absent none known' seen') :
    known' = false := by
  cases h
  rfl

theorem seen_of_present {modified : Int} {text : String}
    (h : Polls path seen known (.present modified text) none known' seen') :
    seen' = some modified := by
  cases h
  rfl

end Polls

namespace FileSource

variable [Dialect] (watch : FileSource) (position : Nat) (now : Int) (view : FileView)

theorem next_cases :
    watch.next position now view = (.ended, watch) ∨
      watch.next position now view = (.ended, watch.close position) ∨
      ∃ stream, watch.streams[position]? = some stream ∧
        watch.next position now view =
          ((watch.poll position view).1.elim .blocked .event, (watch.poll position view).2) := by
  unfold next
  cases hstream : watch.streams[position]? with
  | none => exact .inl rfl
  | some stream =>
      cases hclosed : stream.closed with
      | true => exact .inl (by simp [hclosed])
      | false =>
          cases hexpired : stream.deadline.any (· ≤ now) with
          | true => exact .inr (.inl (by simp [hclosed, hexpired]))
          | false =>
              refine .inr (.inr ⟨stream, rfl, ?_⟩)
              cases hevent : (watch.poll position view).1 <;> simp [hclosed, hexpired, hevent]

theorem poll_eq {stream : FileStream} (hstream : watch.streams[position]? = some stream) :
    watch.poll position view =
      ((stream.poll watch.path watch.present view).1,
        { watch with
          present := (stream.poll watch.path watch.present view).2.1
          streams := watch.streams.set position
            (stream.poll watch.path watch.present view).2.2 }) := by
  simp [poll, hstream]

end FileSource

/-! ## A file, its source and a store -/

/-- A file, the source that polls it with the stream in use, and the store that its events are
handled on; with the modification times that were given to the file so far and the events that
were emitted. -/
structure Follower where
  watch : FileSource
  position : Option Nat := none
  view : FileView := .absent
  times : List Int := []
  store : Store := .empty
  emitted : List Event := []

namespace Follower

def seen (follower : Follower) : Option Int :=
  (follower.position.bind fun position => follower.watch.streams[position]?).bind FileStream.seen

def handle [Dialect] (setup : Setup) (follower : Follower) (event : Event) : Follower :=
  { follower with
    store := (event.handle setup.sink setup.options.name follower.store).store
    emitted := follower.emitted ++ [event] }

def withWatch (follower : Follower) (watch : FileSource) : Follower :=
  { follower with watch := watch }

def react [Dialect] (setup : Setup) (follower : Follower) :
    Answer × FileSource → Answer × Follower
  | (.event event, watch) => (.event event, (follower.withWatch watch).handle setup event)
  | (answer, watch) => (answer, follower.withWatch watch)

def poll [Dialect] (setup : Setup) (follower : Follower) (now : Int) : Answer × Follower :=
  match follower.position with
  | none => (.ended, follower)
  | some position => follower.react setup (follower.watch.next position now follower.view)

def reopen (follower : Follower) (directoryExists : Bool) (now : Int) (ns name : String) :
    Follower :=
  match follower.watch.openStream directoryExists now ns name with
  | (.ok position, watch) => { follower with watch := watch, position := some position }
  | (.error _, watch) => { follower with watch := watch }

def close (follower : Follower) : Follower :=
  match follower.position with
  | none => follower
  | some position => follower.withWatch (follower.watch.close position)

/-- What can happen.  A write gives the file a modification time that it never had before. -/
inductive Happens [Dialect] (setup : Setup) (follower : Follower) : Follower → Prop
  | write (modified : Int) (text : String) (hfresh : modified ∉ follower.times) :
      Happens setup follower
        { follower with view := .present modified text, times := modified :: follower.times }
  | remove : Happens setup follower { follower with view := .absent }
  | reopen (directoryExists : Bool) (now : Int) (ns name : String) :
      Happens setup follower (follower.reopen directoryExists now ns name)
  | poll (now : Int) : Happens setup follower (follower.poll setup now).2
  | close : Happens setup follower follower.close

variable {setup : Setup} {follower next : Follower}

/-! ## What each of these does to the source -/

inductive Polled [Dialect] (setup : Setup) (follower : Follower) : Answer × Follower → Prop
  | ended {watch : FileSource} (hpresent : watch.present = follower.watch.present)
      (hseen : (follower.withWatch watch).seen = follower.seen) :
      Polled setup follower (.ended, follower.withWatch watch)
  | quiet {watch : FileSource}
      (hpolls : Polls follower.watch.path follower.seen follower.watch.present follower.view none
        watch.present (follower.withWatch watch).seen) :
      Polled setup follower (.blocked, follower.withWatch watch)
  | event {watch : FileSource} {event : Event}
      (hpolls : Polls follower.watch.path follower.seen follower.watch.present follower.view
        (some event) watch.present (follower.withWatch watch).seen) :
      Polled setup follower (.event event, (follower.withWatch watch).handle setup event)

theorem seen_withWatch_close (position : Nat) :
    (follower.withWatch (follower.watch.close position)).seen = follower.seen := by
  simp only [seen, withWatch, FileSource.close]
  cases follower.position with
  | none => rfl
  | some inUse =>
      simp only [Option.bind_some, List.getElem?_modify]
      cases follower.watch.streams[inUse]? with
      | none => rfl
      | some stream => by_cases h : position = inUse <;> simp [h]

theorem polled [Dialect] (setup : Setup) (follower : Follower) (now : Int) :
    Polled setup follower (follower.poll setup now) := by
  unfold poll
  cases hposition : follower.position with
  | none => exact .ended rfl rfl
  | some position =>
      dsimp only
      rcases follower.watch.next_cases position now follower.view with
        hnext | hnext | ⟨stream, hstream, hnext⟩
      · rw [hnext]
        exact .ended rfl rfl
      · rw [hnext]
        exact .ended rfl (seen_withWatch_close position)
      · rw [hnext, follower.watch.poll_eq position follower.view hstream]
        have hpolls := stream.polls follower.watch.path follower.watch.present follower.view
        have hseen : stream.seen = follower.seen := by simp [seen, hposition, hstream]
        have hlt : position < follower.watch.streams.length :=
          (List.getElem?_eq_some_iff.1 hstream).1
        have hafter : ∀ present, (follower.withWatch { follower.watch with
            present := present
            streams := follower.watch.streams.set position
              (stream.poll follower.watch.path follower.watch.present follower.view).2.2 }).seen =
            (stream.poll follower.watch.path follower.watch.present
              follower.view).2.2.seen := by
          intro present
          simp [seen, withWatch, hposition, hlt]
        rw [hseen, ← hafter] at hpolls
        cases hevent : (stream.poll follower.watch.path follower.watch.present
            follower.view).1 with
        | none =>
            rw [hevent] at hpolls
            exact .quiet hpolls
        | some event =>
            rw [hevent] at hpolls
            exact .event hpolls

theorem seen_close : follower.close.seen = follower.seen := by
  unfold close
  cases hposition : follower.position with
  | none => rfl
  | some position => exact seen_withWatch_close position

theorem reopen_cases (directoryExists : Bool) (now : Int) (ns name : String) :
    follower.reopen directoryExists now ns name = follower ∨
      ∃ watch position, watch.present = follower.watch.present ∧
        follower.reopen directoryExists now ns name =
          { follower with watch := watch, position := some position } ∧
        (follower.reopen directoryExists now ns name).seen = none := by
  cases directoryExists with
  | false => exact .inl (by simp [reopen, FileSource.openStream])
  | true =>
      right
      refine ⟨_, _, ?_, rfl, ?_⟩
      · rfl
      · simp [reopen, FileSource.openStream, seen]

theorem tables_handle [Dialect] (hsink : setup.sink = .accepting) (event : Event) :
    (follower.handle setup event).store.tables =
      if event.concerns setup.options.name then event.tables else follower.store.tables := by
  simp only [handle, hsink, event.store_handle_accepting]
  split <;> rfl

end Follower

/-! ## What the three memories have in common -/

/-- The tables are those of the last event that was applied, and empty while no resource is known.
If the version of the file that was seen last is the present one, and is the tracked resource,
the tables are its tables.  No later version can be taken for one that was seen, since all times
are remembered. -/
structure Agrees [Dialect] (tracked : String) (view : FileView) (times : List Int) (known : Bool)
    (seen : Option Int) (tables : Tables) (emitted : List Event) : Prop where
  served : tables = served tracked emitted
  unknown : known = false → tables = Tables.empty
  viewTime : ∀ {modified text}, view = .present modified text → modified ∈ times
  seenTime : ∀ {modified}, seen = some modified → modified ∈ times
  current : ∀ {modified text resource}, seen = some modified → view = .present modified text →
    Resource.ofFile? (some text) = .ok resource → resource.name = tracked →
    tables = resource.tables

namespace Agrees

variable [Dialect] {tracked path : String} {view : FileView} {times : List Int}
  {known known' : Bool} {seen seen' : Option Int} {tables : Tables} {emitted : List Event}

theorem initial (tracked : String) :
    Agrees tracked .absent [] false none Tables.empty [] := by
  constructor
  · rfl
  · exact fun _ => rfl
  · intro _ _ hview
    cases hview
  · intro _ hseen
    cases hseen
  · intro _ _ _ hseen
    cases hseen

theorem write (h : Agrees tracked view times known seen tables emitted) {modified : Int}
    (text : String) (hfresh : modified ∉ times) :
    Agrees tracked (.present modified text) (modified :: times) known seen tables emitted := by
  refine ⟨h.served, h.unknown, ?_, ?_, ?_⟩
  · intro _ _ hview
    cases hview
    exact List.mem_cons_self
  · intro _ hseen
    exact List.mem_cons_of_mem _ (h.seenTime hseen)
  · intro _ _ _ hseen hview
    cases hview
    exact absurd (h.seenTime hseen) hfresh

theorem remove (h : Agrees tracked view times known seen tables emitted) :
    Agrees tracked .absent times known seen tables emitted := by
  refine ⟨h.served, h.unknown, ?_, h.seenTime, ?_⟩
  · intro _ _ hview
    cases hview
  · intro _ _ _ _ hview
    cases hview

theorem unseen (h : Agrees tracked view times known seen tables emitted) :
    Agrees tracked view times known none tables emitted := by
  refine ⟨h.served, h.unknown, h.viewTime, ?_, ?_⟩
  · intro _ hseen
    cases hseen
  · intro _ _ _ hseen
    cases hseen

theorem quiet (h : Agrees tracked view times known seen tables emitted)
    (hpolls : Polls path seen known view none known' seen') :
    Agrees tracked view times known' seen' tables emitted := by
  cases hpolls with
  | absent hknown =>
      rw [← hknown]
      exact h.unseen
  | unchanged hseen =>
      rw [← hseen]
      exact h

/-- An event that is handled as soon as the poll reports it brings the tables up to date with the
file. -/
theorem event {event : Event} (h : Agrees tracked view times known seen tables emitted)
    (hpolls : Polls path seen known view (some event) known' seen') :
    Agrees tracked view times known' seen'
      (if event.concerns tracked then event.tables else tables) (emitted ++ [event]) := by
  have hserved : (if event.concerns tracked then event.tables else tables) =
      IdentityMap.served tracked (emitted ++ [event]) := by
    rw [served_concat, ← h.served]
  cases hpolls with
  | removed hknown =>
      refine ⟨hserved, fun _ => rfl, h.viewTime, ?_, ?_⟩
      · intro _ hseen
        cases hseen
      · intro _ _ _ hseen
        cases hseen
  | @loaded modified text resource hseen hload =>
      refine ⟨hserved, ?_, h.viewTime, ?_, ?_⟩
      · intro hunknown
        cases hunknown
      · intro _ hsome
        cases hsome
        exact h.viewTime rfl
      · intro _ _ resource' _ hview hload' hname
        cases hview
        cases hload.symm.trans hload'
        cases known <;> simp [Event.concerns, Event.tables, hname]
  | @failed modified text fault hseen hload =>
      refine ⟨hserved, h.unknown, h.viewTime, ?_, ?_⟩
      · intro _ hsome
        cases hsome
        exact h.viewTime rfl
      · intro _ _ resource' _ hview hload'
        cases hview
        cases hload.symm.trans hload'

end Agrees

/-! ## Every interleaving -/

namespace Follower

section Runs

variable [Dialect] {setup : Setup} {follower next : Follower}

abbrev Sound (setup : Setup) (follower : Follower) : Prop :=
  Agrees setup.options.name follower.view follower.times follower.watch.present follower.seen
    follower.store.tables follower.emitted

theorem Sound.happens (hsink : setup.sink = .accepting) (h : Sound setup follower)
    (hhappens : Happens setup follower next) : Sound setup next := by
  cases hhappens with
  | write modified text hfresh => exact h.write text hfresh
  | remove => exact h.remove
  | reopen directoryExists now ns name =>
      rcases follower.reopen_cases directoryExists now ns name with
        hsame | ⟨watch, position, hpresent, heq, hseen⟩
      · rw [hsame]
        exact h
      · rw [Sound, hseen, heq, hpresent]
        exact h.unseen
  | poll now =>
      have hpolled := polled setup follower now
      generalize follower.poll setup now = result at hpolled ⊢
      cases hpolled with
      | ended hpresent hseen =>
          rw [Sound, hseen]
          exact hpresent ▸ h
      | quiet hpolls => exact h.quiet hpolls
      | event hpolls =>
          rw [Sound, tables_handle hsink]
          exact h.event hpolls
  | close =>
      rw [Sound, seen_close]
      unfold Follower.close
      cases follower.position <;> exact h

theorem sound_of_happens (hsink : setup.sink = .accepting) {path : String} {timeout : Int}
    (hreach : ReflTransGen (Happens setup) { watch := { path := path, timeout := timeout } }
      follower) : Sound setup follower := by
  induction hreach with
  | refl => exact .initial _
  | tail _ hhappens ih => exact ih.happens hsink hhappens

/-- Whatever was written and removed, and whichever streams polled it before, a poll that has
nothing to report leaves the store up to date: empty without a file, with the tables of the
present version if that is the tracked resource, and otherwise with the tables of the last event
that was applied. -/
theorem tables_of_blocked (hsink : setup.sink = .accepting) {path : String} {timeout : Int}
    (hreach : ReflTransGen (Happens setup) { watch := { path := path, timeout := timeout } }
      follower) {now : Int} (hpoll : follower.poll setup now = (.blocked, next)) :
    (next.view = .absent → next.store.tables = Tables.empty) ∧
      (∀ modified text resource, next.view = .present modified text →
        Resource.ofFile? (some text) = .ok resource → resource.name = setup.options.name →
        next.store.tables = resource.tables) ∧
      (∀ modified text, next.view = .present modified text →
        (∀ resource, Resource.ofFile? (some text) = .ok resource →
          resource.name ≠ setup.options.name) →
        next.store.tables = served setup.options.name next.emitted) := by
  have hsound := sound_of_happens hsink hreach
  have hpolled := polled setup follower now
  rw [hpoll] at hpolled
  cases hpolled with
  | @quiet watch hpolls =>
      have hafter : Sound setup (follower.withWatch watch) := hsound.quiet hpolls
      refine ⟨?_, ?_, fun _ _ _ _ => hafter.served⟩
      · intro hview
        rw [show follower.view = .absent from hview] at hpolls
        exact hafter.unknown hpolls.known_of_absent
      · intro modified text resource hview hload hname
        rw [show follower.view = .present modified text from hview] at hpolls
        exact hafter.current hpolls.seen_of_present hview hload hname

end Runs

def oneAccount (account : String) : String :=
  "metadata: \x7bname: aws-auth\x7d\ndata: \x7bmapAccounts: '[\"" ++ account ++ "\"]'\x7d"

/-- A file that held one account, was removed between two streams, and came back with another. -/
def restored : Follower :=
  let written : Follower :=
    { watch := { path := "resource.yaml" }, view := .present 1 (oneAccount "1"), times := [1] }
  let removed : Follower :=
    { ((written.reopen true 0 "" "aws-auth").poll {} 0).2.close with view := .absent }
  let back : Follower :=
    { removed with view := .present 2 (oneAccount "2"), times := 2 :: removed.times }
  ((back.reopen true 0 "" "aws-auth").poll {} 0).2

theorem reach_restored :
    ReflTransGen (Happens {}) { watch := { path := "resource.yaml", timeout := 0 } } restored :=
  .head (.write 1 (oneAccount "1") (by decide)) <|
    .head (.reopen true 0 "" "aws-auth") <| .head (.poll 0) <| .head .close <|
    .head .remove <| .head (.write 2 (oneAccount "2") (by decide +kernel)) <|
    .head (.reopen true 0 "" "aws-auth") <| .single (.poll 0)

theorem tables_of_blocked_restored :
    ∃ next resource, restored.poll {} 0 = (.blocked, next) ∧
      next.view = .present 2 (oneAccount "2") ∧
      Resource.ofFile? (some (oneAccount "2")) = .ok resource ∧ resource.name = "aws-auth" ∧
      next.store.tables = resource.tables ∧ next.store.tables.hasAccount "2" = true := by
  obtain ⟨hblocked, hview, haccount⟩ : (restored.poll {} 0).1 = .blocked ∧
      (restored.poll {} 0).2.view = .present 2 (oneAccount "2") ∧
      (restored.poll {} 0).2.store.tables.hasAccount "2" = true := by decide +kernel
  have hload : (Resource.ofFile? (some (oneAccount "2"))).toOption.any
      (fun resource => resource.name = "aws-auth") = true := by decide +kernel
  cases hpoll : restored.poll {} 0 with
  | mk answer next =>
      rw [hpoll] at hblocked hview haccount
      obtain rfl : answer = .blocked := hblocked
      cases hresource : Resource.ofFile? (some (oneAccount "2")) with
      | error fault => simp [hresource, Except.toOption] at hload
      | ok resource =>
          have hname : resource.name = "aws-auth" := by
            simpa [hresource, Except.toOption] using hload
          obtain ⟨-, htables, -⟩ := tables_of_blocked rfl reach_restored hpoll
          exact ⟨next, resource, rfl, hview, rfl, hname,
            htables 2 _ resource hview hresource hname, haccount⟩

end Follower

end IdentityMap
