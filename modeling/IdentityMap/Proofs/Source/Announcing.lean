import Mathlib.Logic.Relation
import IdentityMap.Proofs.Source.Following

/-!
# What the streams on a file announce

Any number of streams poll one file on behalf of one source.  Each has its own memory of the
modification time, but all share whether the file is known as a resource.  So the events of all
streams together, in the order in which they come, tell the lives of the resource: it appears,
changes, disappears, and may appear again.  `Told` ties what was told so far to the shared memory,
and `Settled` says when a stream has nothing to tell.
-/

namespace IdentityMap

open Relation (ReflTransGen)

/-! ## Lives of a resource -/

/-- What is told of a resource that appears, changes so many times and disappears. -/
def life (changes : Nat) : List EventKind :=
  .added :: (List.replicate changes .modified ++ [.deleted])

/-- What was told so far, by whether the resource is known.  If it is not, only whole lives were
told; if it is, the last life has not ended. -/
inductive Told : Bool → List EventKind → Prop
  | gone (lives : List Nat) : Told false (lives.flatMap life)
  | alive (lives : List Nat) (changes : Nat) :
      Told true (lives.flatMap life ++ .added :: List.replicate changes .modified)

namespace Told

variable {known : Bool} {kinds : List EventKind}

theorem added (h : Told false kinds) : Told true (kinds ++ [.added]) := by
  cases h with
  | gone lives => exact .alive lives 0

theorem modified (h : Told true kinds) : Told true (kinds ++ [.modified]) := by
  cases h with
  | alive lives changes =>
      rw [List.append_assoc, List.cons_append, ← List.replicate_succ']
      exact .alive lives (changes + 1)

theorem deleted (h : Told true kinds) : Told false (kinds ++ [.deleted]) := by
  cases h with
  | alive lives changes =>
      have hlives : (lives ++ [changes]).flatMap life =
          lives.flatMap life ++ .added :: List.replicate changes .modified ++ [.deleted] := by
        simp [life]
      rw [← hlives]
      exact .gone _

theorem exists_prefix (h : Told known kinds) :
    ∃ lives : List Nat, kinds <+: lives.flatMap life := by
  cases h with
  | gone lives => exact ⟨lives, List.prefix_refl _⟩
  | alive lives changes =>
      refine ⟨lives ++ [changes], [.deleted], ?_⟩
      simp [life]

theorem known_iff (h : Told known kinds) :
    known = true ↔ kinds.getLast? = some .added ∨ kinds.getLast? = some .modified := by
  cases h with
  | gone lives =>
      -- The last life, if there was one, ended with the resource removed.
      rcases List.eq_nil_or_concat lives with rfl | ⟨lives, changes, rfl⟩
      · simp
      · simp [life, List.getLast?_append, List.getLast?_cons]
  | alive lives changes =>
      cases changes with
      | zero => simp
      | succ changes => simp [List.replicate_succ', List.getLast?_append, List.getLast?_cons]

end Told

/-! ## Streams that are up to date -/

/-- A stream is up to date with a file if it saw the present version last, or if there is no file
and this is known. -/
def UpToDate (view : FileView) (known : Bool) (seen : Option Int) : Prop :=
  match view with
  | .absent => known = false
  | .present modified _ => seen = some modified

namespace Polls

variable [Dialect] {path : String} {seen seen' other : Option Int} {known known' : Bool}
  {view : FileView}
  {event : Option Event}

theorem upToDate (h : Polls path seen known view event known' seen') :
    UpToDate view known' seen' := by
  cases h <;> rfl

/-- A poll on behalf of one stream leaves the others up to date: it never makes a file known that
is missing. -/
theorem upToDate_of_upToDate (h : Polls path seen known view event known' seen')
    (hother : UpToDate view known other) : UpToDate view known' other := by
  cases h with
  | absent _ | removed _ => rfl
  | unchanged _ | loaded _ _ | failed _ _ => exact hother

theorem eq_none_of_upToDate (h : Polls path seen known view event known' seen')
    (hcurrent : UpToDate view known seen) : event = none := by
  cases h with
  | absent _ | unchanged _ => rfl
  | removed hknown =>
      have hunknown : known = false := hcurrent
      rw [hknown] at hunknown
      cases hunknown
  | loaded hseen _ | failed hseen _ => exact absurd hcurrent hseen

end Polls

/-! ## What an event tells -/

def kindsOf (events : List Event) : List EventKind :=
  (events.map Event.kind).filter (· ≠ .error)

theorem kindsOf_append (events later : List Event) :
    kindsOf (events ++ later) = kindsOf events ++ kindsOf later := by
  rw [kindsOf, List.map_append, List.filter_append]
  rfl

/-- What an event carries, given what its poll found: the resource in the file if it tells of one,
and nothing otherwise. -/
def Carries [Dialect] (view : FileView) (event : Event) : Prop :=
  match event.kind with
  | .added | .modified => ∃ modified text resource, view = .present modified text ∧
      Resource.ofFile? (some text) = .ok resource ∧ event.object = some resource
  | .deleted => view = .absent ∧ event.object = none
  | .error => event.object = none ∧ ∃ modified text fault, view = .present modified text ∧
      Resource.ofFile? (some text) = .error fault

namespace Polls

variable [Dialect] {path : String} {seen seen' : Option Int} {known known' : Bool} {view : FileView}

theorem told {event : Option Event} {kinds : List EventKind}
    (h : Polls path seen known view event known' seen') (htold : Told known kinds) :
    Told known' (kinds ++ kindsOf event.toList) := by
  cases h with
  | absent hknown =>
      rw [hknown] at htold
      simpa [kindsOf] using htold
  | removed hknown =>
      rw [hknown] at htold
      exact htold.deleted
  | unchanged _ => simpa [kindsOf] using htold
  | loaded _ _ =>
      cases known with
      | false => exact htold.added
      | true => exact htold.modified
  | failed _ _ => simpa [kindsOf] using htold

theorem carries {event : Event} (h : Polls path seen known view (some event) known' seen') :
    Carries view event := by
  cases h with
  | removed _ => exact ⟨rfl, rfl⟩
  | @loaded modified text resource _ hload =>
      cases known <;> exact ⟨modified, text, resource, rfl, hload, rfl⟩
  | @failed modified text fault _ hload => exact ⟨rfl, modified, text, fault, rfl, hload⟩

end Polls

/-! ## A file and its streams -/

/-- A file and the source that polls it, with the events that its streams have emitted so far,
each next to what the poll found. -/
structure Bulletin where
  watch : FileSource
  view : FileView := .absent
  emitted : List (FileView × Event) := []

namespace Bulletin

def events (bulletin : Bulletin) : List Event :=
  bulletin.emitted.map Prod.snd

def withWatch (bulletin : Bulletin) (watch : FileSource) : Bulletin :=
  { bulletin with watch := watch }

def poll [Dialect] (bulletin : Bulletin) (position : Nat) : Bulletin :=
  let (event, watch) := bulletin.watch.poll position bulletin.view
  { bulletin with
    watch := watch
    emitted := bulletin.emitted ++ (event.map fun event => (bulletin.view, event)).toList }

def ask [Dialect] (bulletin : Bulletin) (position : Nat) (now : Int) : Bulletin :=
  match bulletin.watch.next position now bulletin.view with
  | (.event event, watch) =>
    { bulletin with watch := watch, emitted := bulletin.emitted ++ [(bulletin.view, event)] }
  | (_, watch) => bulletin.withWatch watch

/-- What the streams and their owners can do while the file stays as it is.  A stream that is
closed in the course of a poll still finishes it, so polls are not bound to streams that are
open. -/
inductive Stirs [Dialect] (bulletin : Bulletin) : Bulletin → Prop
  | openStream (directoryExists : Bool) (now : Int) (ns name : String) :
      Stirs bulletin
        (bulletin.withWatch (bulletin.watch.openStream directoryExists now ns name).2)
  | close (position : Nat) : Stirs bulletin (bulletin.withWatch (bulletin.watch.close position))
  | poll (position : Nat) : Stirs bulletin (bulletin.poll position)
  | ask (position : Nat) (now : Int) : Stirs bulletin (bulletin.ask position now)

inductive Happens [Dialect] (bulletin : Bulletin) : Bulletin → Prop
  | write (modified : Int) (text : String) :
      Happens bulletin { bulletin with view := .present modified text }
  | remove : Happens bulletin { bulletin with view := .absent }
  | stir {next : Bulletin} (hstirs : Stirs bulletin next) : Happens bulletin next

/-- Whatever the streams do is one of two things.  Either no event comes, and neither the shared
memory nor that of any stream is touched, or a stream polls the file. -/
inductive Does [Dialect] (bulletin : Bulletin) : Bulletin → Prop
  | quiet {watch : FileSource} (hpath : watch.path = bulletin.watch.path)
      (hpresent : watch.present = bulletin.watch.present)
      (hseen : ∀ {position : Nat} {stream : FileStream},
        bulletin.watch.streams[position]? = some stream →
          ∃ kept, watch.streams[position]? = some kept ∧ kept.seen = stream.seen) :
      Does bulletin (bulletin.withWatch watch)
  | poll {position : Nat} {stream : FileStream}
      (hstream : bulletin.watch.streams[position]? = some stream) :
      Does bulletin (bulletin.poll position)

section Runs

variable [Dialect] {bulletin next : Bulletin} {position : Nat} {stream : FileStream}

theorem does_nothing : Does bulletin bulletin :=
  .quiet rfl rfl fun {_ stream} hstream => ⟨stream, hstream, rfl⟩

theorem does_close (position : Nat) :
    Does bulletin (bulletin.withWatch (bulletin.watch.close position)) := by
  refine .quiet rfl rfl ?_
  intro other stream hstream
  simp only [FileSource.close, List.getElem?_modify, hstream]
  by_cases h : position = other <;> simp [h]

theorem poll_of_none (hstream : bulletin.watch.streams[position]? = none) :
    bulletin.poll position = bulletin := by
  simp [poll, FileSource.poll, hstream]

theorem ask_eq_poll {now : Int}
    (hnext : bulletin.watch.next position now bulletin.view =
      ((bulletin.watch.poll position bulletin.view).1.elim .blocked .event,
        (bulletin.watch.poll position bulletin.view).2)) :
    bulletin.ask position now = bulletin.poll position := by
  unfold ask poll
  rw [hnext]
  generalize bulletin.watch.poll position bulletin.view = polled
  obtain ⟨event, watch⟩ := polled
  cases event <;> simp [withWatch]

theorem does_ask (position : Nat) (now : Int) : Does bulletin (bulletin.ask position now) := by
  rcases bulletin.watch.next_cases position now bulletin.view with
    hnext | hnext | ⟨stream, hstream, hnext⟩
  · have hsame : bulletin.ask position now = bulletin := by
      rw [ask, hnext]
      rfl
    rw [hsame]
    exact does_nothing
  · have hclosed : bulletin.ask position now =
        bulletin.withWatch (bulletin.watch.close position) := by
      rw [ask, hnext]
    rw [hclosed]
    exact does_close position
  · rw [ask_eq_poll hnext]
    exact .poll hstream

theorem Stirs.does (h : Stirs bulletin next) : Does bulletin next := by
  cases h with
  | openStream directoryExists now ns name =>
      cases directoryExists with
      | false => exact does_nothing
      | true =>
          refine .quiet rfl rfl ?_
          intro position stream hstream
          have hlt := (List.getElem?_eq_some_iff.1 hstream).1
          exact ⟨stream, (List.getElem?_append_left hlt).trans hstream, rfl⟩
  | close position => exact does_close position
  | poll position =>
      cases hstream : bulletin.watch.streams[position]? with
      | none =>
          rw [poll_of_none hstream]
          exact does_nothing
      | some stream => exact .poll hstream
  | ask position now => exact does_ask position now

/-! ## What a poll does -/

structure Outcome (bulletin : Bulletin) (position : Nat) (stream : FileStream)
    (event : Option Event) (known : Bool) (seen : Option Int) : Prop where
  polls : Polls bulletin.watch.path stream.seen bulletin.watch.present bulletin.view event known
    seen
  emits : (bulletin.watch.poll position bulletin.view).1 = event
  emitted : (bulletin.poll position).emitted =
    bulletin.emitted ++ (event.map fun event => (bulletin.view, event)).toList
  known : (bulletin.poll position).watch.present = known
  polled : ∃ polled, (bulletin.poll position).watch.streams[position]? = some polled ∧
    polled.seen = seen
  others : ∀ other, other ≠ position →
    (bulletin.poll position).watch.streams[other]? = bulletin.watch.streams[other]?

theorem exists_outcome (hstream : bulletin.watch.streams[position]? = some stream) :
    ∃ event known seen, Outcome bulletin position stream event known seen := by
  have hpoll := bulletin.watch.poll_eq position bulletin.view hstream
  have hlt := (List.getElem?_eq_some_iff.1 hstream).1
  refine ⟨_, _, _, stream.polls bulletin.watch.path bulletin.watch.present bulletin.view,
    ?_, ?_, ?_, ⟨_, ?_, rfl⟩, ?_⟩
  · rw [hpoll]
  · rw [poll, hpoll]
  · rw [poll, hpoll]
  · rw [poll, hpoll]
    exact List.getElem?_set_self hlt
  · intro other hother
    rw [poll, hpoll]
    exact List.getElem?_set_ne (Ne.symm hother)

/-! ## The whole history -/

structure Chronicle (bulletin : Bulletin) : Prop where
  told : Told bulletin.watch.present (kindsOf bulletin.events)
  carries : ∀ report ∈ bulletin.emitted, Carries report.1 report.2

theorem Chronicle.poll (h : Chronicle bulletin)
    (hstream : bulletin.watch.streams[position]? = some stream) :
    Chronicle (bulletin.poll position) := by
  obtain ⟨event, known, seen, houtcome⟩ := exists_outcome hstream
  have hpolls := houtcome.polls
  have hevents : (bulletin.poll position).events = bulletin.events ++ event.toList := by
    rw [events, houtcome.emitted, List.map_append, events]
    cases event <;> rfl
  constructor
  · rw [houtcome.known, hevents, kindsOf_append]
    exact hpolls.told h.told
  · intro report hreport
    rw [houtcome.emitted, List.mem_append] at hreport
    rcases hreport with hearlier | hnow
    · exact h.carries report hearlier
    · obtain ⟨event, rfl, rfl⟩ : ∃ told, event = some told ∧ (bulletin.view, told) = report := by
        simpa using hnow
      exact hpolls.carries

theorem Chronicle.happens (h : Chronicle bulletin) (hhappens : Happens bulletin next) :
    Chronicle next := by
  cases hhappens with
  | write modified text => exact ⟨h.told, h.carries⟩
  | remove => exact ⟨h.told, h.carries⟩
  | stir hstirs =>
      cases hstirs.does with
      | quiet _ hpresent _ => exact ⟨by rw [withWatch, hpresent]; exact h.told, h.carries⟩
      | poll hstream => exact h.poll hstream

theorem chronicle_of_happens {path : String} {timeout : Int} {view : FileView}
    (hreach : ReflTransGen Happens { watch := { path := path, timeout := timeout }, view := view }
      bulletin) : Chronicle bulletin := by
  induction hreach with
  | refl => exact ⟨.gone [], fun report hreport => (List.not_mem_nil hreport).elim⟩
  | tail _ hhappens ih => exact ih.happens hhappens

/-! ## Nothing to tell -/

def Settled (position : Nat) (bulletin : Bulletin) : Prop :=
  ∃ stream, bulletin.watch.streams[position]? = some stream ∧
    UpToDate bulletin.view bulletin.watch.present stream.seen

theorem settled_poll (hstream : bulletin.watch.streams[position]? = some stream) :
    Settled position (bulletin.poll position) := by
  obtain ⟨event, known, seen, houtcome⟩ := exists_outcome hstream
  obtain ⟨polled, hpolled, hseen⟩ := houtcome.polled
  refine ⟨polled, hpolled, ?_⟩
  rw [houtcome.known, hseen]
  exact houtcome.polls.upToDate

/-- While the file stays as it is, a stream that is up to date remains so, whatever it and the
others do. -/
theorem Settled.stirs (h : Settled position bulletin) (hstirs : Stirs bulletin next) :
    Settled position next := by
  obtain ⟨stream, hstream, hsettled⟩ := h
  cases hstirs.does with
  | @quiet watch _ hpresent hseen =>
      obtain ⟨kept, hkept, hsame⟩ := hseen hstream
      refine ⟨kept, hkept, ?_⟩
      rw [hsame]
      exact hpresent ▸ hsettled
  | @poll polledAt polled hpolled =>
      by_cases hsame : position = polledAt
      · subst hsame
        exact settled_poll hpolled
      · obtain ⟨event, known, seen, houtcome⟩ := exists_outcome hpolled
        refine ⟨stream, (houtcome.others position hsame).trans hstream, ?_⟩
        rw [houtcome.known]
        exact houtcome.polls.upToDate_of_upToDate hsettled

theorem Settled.poll_eq_none (h : Settled position bulletin) :
    (bulletin.watch.poll position bulletin.view).1 = none := by
  obtain ⟨stream, hstream, hsettled⟩ := h
  obtain ⟨event, known, seen, houtcome⟩ := exists_outcome hstream
  rw [houtcome.emits]
  exact houtcome.polls.eq_none_of_upToDate hsettled

/-! ## The protocol -/

/-- Whatever happens to the file and whichever streams poll it, the events that tell of the
resource are a beginning of some of its lives, and each event carries what the file held.  A poll
that finds no file tells of the removal exactly if the last of these events told of a resource.
Once a stream was polled it has nothing to emit until the file changes. -/
theorem announced_prefix_of_lives {path : String} {timeout : Int} {view : FileView}
    (hreach : ReflTransGen Happens { watch := { path := path, timeout := timeout }, view := view }
      bulletin) :
    (∃ lives : List Nat, kindsOf bulletin.events <+: lives.flatMap life) ∧
      (∀ report ∈ bulletin.emitted, Carries report.1 report.2) ∧
      (∀ position stream, bulletin.watch.streams[position]? = some stream →
        ((bulletin.watch.poll position .absent).1 = some { kind := .deleted } ↔
          (kindsOf bulletin.events).getLast? = some .added ∨
            (kindsOf bulletin.events).getLast? = some .modified) ∧
        ∀ event, (bulletin.watch.poll position .absent).1 = some event →
          event = { kind := .deleted }) ∧
      (∀ position stream, bulletin.watch.streams[position]? = some stream →
        ∀ later, ReflTransGen Stirs (bulletin.poll position) later →
          (later.watch.poll position later.view).1 = none) := by
  have hchronicle := chronicle_of_happens hreach
  refine ⟨hchronicle.told.exists_prefix, hchronicle.carries, ?_, ?_⟩
  · intro position stream hstream
    rw [← hchronicle.told.known_iff, bulletin.watch.poll_eq position .absent hstream]
    cases bulletin.watch.present <;> simp [FileStream.poll, eq_comm]
  · intro position stream hstream later hlater
    have hsettled : Settled position later := by
      induction hlater with
      | refl => exact settled_poll hstream
      | tail _ hstirs ih => exact ih.stirs hstirs
    exact hsettled.poll_eq_none

end Runs

/-- A file that holds a resource with this name. -/
def named (name : String) : String :=
  "metadata: \x7bname: " ++ name ++ "\x7d"

/-- Two streams on a file that was written, spoiled and removed.  The first stream has reported the
resource and the fault, the second has not polled yet. -/
def handedOver : Bulletin :=
  let first : Bulletin := { watch := { path := "resource.yaml" } }
  let opened := first.withWatch (first.watch.openStream true 0 "" "aws-auth").2
  let told := { opened with view := .present 1 (named "aws-auth") }.ask 0 0
  let spoiled := { told with view := .present 2 "a" }.ask 0 0
  let second := spoiled.withWatch (spoiled.watch.openStream true 0 "" "aws-auth").2
  { second with view := .absent }

theorem reach_handedOver :
    ReflTransGen Happens
      { watch := { path := "resource.yaml", timeout := 0 }, view := .absent } handedOver :=
  .head (.stir (.openStream true 0 "" "aws-auth")) <|
    .head (.write 1 (named "aws-auth")) <| .head (.stir (.ask 0 0)) <|
    .head (.write 2 "a") <| .head (.stir (.ask 0 0)) <|
    .head (.stir (.openStream true 0 "" "aws-auth")) <| .single .remove

/-- The removal is told by the stream that polls first, although the other has told of the
resource. -/
theorem announced_prefix_of_lives_handedOver :
    handedOver.events.map Event.kind = [.added, .error] ∧
      (handedOver.watch.poll 1 .absent).1 = some { kind := .deleted } ∧
      (((handedOver.poll 1).poll 0).watch.poll 1 .absent).1 = none := by
  have hkinds : handedOver.events.map Event.kind = [.added, .error] := by decide +kernel
  obtain ⟨stream, hstream⟩ : ∃ stream, handedOver.watch.streams[1]? = some stream :=
    Option.isSome_iff_exists.1 (by decide +kernel)
  obtain ⟨-, -, hremoval, hquiet⟩ := announced_prefix_of_lives reach_handedOver
  refine ⟨hkinds, ?_, ?_⟩
  · rw [(hremoval 1 stream hstream).1, kindsOf, hkinds]
    exact .inl rfl
  · exact hquiet 1 stream hstream _ (.single (.poll 0))

end Bulletin

end IdentityMap
