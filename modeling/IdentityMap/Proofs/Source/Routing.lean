import Mathlib.Data.List.Induction
import IdentityMap.Source.Memory

/-!
# Routing of published events

A memory source hands out streams, and what is published goes to the channel of the stream opened
last.  Whatever is called in whatever order, each stream gives exactly the events that were
accepted while it was current, in order, and reports its end only after the last of them.  What a
call can do to one channel is listed once (`Channel.Turn`); `turn_of_call` says that there is
nothing else, and the balance of a stream is a sum of its turns.
-/

namespace IdentityMap

/-! ## What can happen to a channel -/

inductive Channel.Turn : Channel → List Event → List Event → Channel → Prop
  | stay (channel : Channel) : Turn channel [] [] channel
  | close (channel : Channel) : Turn channel [] [] channel.close
  | push {channel : Channel} (hopen : channel.closed = false) (event : Event) :
      Turn channel [event] [] { channel with queue := channel.queue ++ [event] }
  | pop {channel : Channel} {event : Event} {rest : List Event}
      (hqueue : channel.queue = event :: rest) :
      Turn channel [] [event] { channel with queue := rest }

namespace Channel

variable {channel after : Channel} {taken given : List Event}

theorem Turn.balance (h : Turn channel taken given after) :
    given ++ after.queue = channel.queue ++ taken := by
  cases h with
  | stay | close => simp
  | push _ event => simp
  | pop hqueue => simp [hqueue]

theorem Turn.of_closed (h : Turn channel taken given after) (hclosed : channel.closed = true) :
    after.closed = true ∧ taken = [] := by
  cases h with
  | stay => exact ⟨hclosed, rfl⟩
  | close => exact ⟨rfl, rfl⟩
  | push hopen event =>
      rw [hclosed] at hopen
      cases hopen
  | pop _ => exact ⟨hclosed, rfl⟩

end Channel

/-! ## What the operations of the source do to its channels -/

namespace MemorySource

variable {watch : MemorySource} {position other : Nat} {channel : Channel} {event : Event}
  {ns name : String}

theorem getElem?_closeStream :
    (watch.closeStream position).channels[other]? =
      (watch.channels[other]?).map fun channel =>
        if position = other then channel.close else channel := by
  rw [closeStream, List.getElem?_modify]
  cases watch.channels[other]? <;> by_cases h : position = other <;> simp [h]

/-- The current channel is closed, the others are left alone, and none is current any more. -/
theorem getElem?_retire :
    watch.retire.channels[other]? =
      (watch.channels[other]?).map fun channel =>
        if watch.current = some other then channel.close else channel := by
  unfold retire
  cases hcurrent : watch.current with
  | none => cases watch.channels[other]? <;> simp
  | some position => simp [getElem?_closeStream]

@[simp] theorem current_retire : watch.retire.current = none := by
  unfold retire
  cases hcurrent : watch.current with
  | none => exact hcurrent
  | some position => rfl

@[simp] theorem length_retire : watch.retire.channels.length = watch.channels.length := by
  unfold retire
  cases watch.current <;> simp [closeStream]

@[simp] theorem counts_retire :
    watch.retire.opens = watch.opens ∧ watch.retire.failedOpens = watch.failedOpens := by
  unfold retire
  cases watch.current <;> exact ⟨rfl, rfl⟩

theorem openStream_of_pending (h : 0 < watch.pendingFailures) :
    watch.openStream ns name =
      (.error (.injected ns name),
        { watch with
          pendingFailures := watch.pendingFailures - 1
          failedOpens := watch.failedOpens + 1
          lastNs := ns
          lastName := name }) := by
  simp [openStream, h]

theorem openStream_of_not_pending (h : ¬ 0 < watch.pendingFailures) :
    watch.openStream ns name =
      (.ok watch.channels.length,
        { watch with
          channels := watch.retire.channels ++ [.empty]
          current := some watch.channels.length
          opens := watch.opens + 1
          lastNs := ns
          lastName := name }) := by
  unfold openStream retire
  cases hcurrent : watch.current <;> simp [h, hcurrent, closeStream]

theorem set_channel_self (hchannel : watch.channels[position]? = some channel) :
    watch.channels.set position channel = watch.channels := by
  obtain ⟨hlt, hsame⟩ := List.getElem?_eq_some_iff.1 hchannel
  rw [← hsame]
  exact List.set_getElem_self hlt

def Accepts (watch : MemorySource) (position : Nat) (channel : Channel) : Prop :=
  watch.current = some position ∧ watch.channels[position]? = some channel ∧
    channel.closed = false

theorem publish_of_accepts (h : watch.Accepts position channel) :
    watch.publish event =
      (true, { watch with
        channels := watch.channels.set position
          { channel with queue := channel.queue ++ [event] } }) := by
  obtain ⟨hcurrent, hchannel, hopen⟩ := h
  simp [publish, hcurrent, hchannel, Channel.push_of_open hopen]

theorem publish_of_not_accepts (h : ∀ position channel, ¬ watch.Accepts position channel) :
    watch.publish event = (false, watch) := by
  unfold publish
  cases hcurrent : watch.current with
  | none => rfl
  | some position =>
      rw [Option.bind_some]
      cases hchannel : watch.channels[position]? with
      | none => rfl
      | some channel =>
          have hclosed : channel.closed = true := by
            cases hclosed : channel.closed with
            | false => exact absurd ⟨hcurrent, hchannel, hclosed⟩ (h position channel)
            | true => rfl
          simp only [Option.map_some, Channel.push_of_closed hclosed, set_channel_self hchannel,
            ← hcurrent]

theorem next_of_queue {rest : List Event} (hchannel : watch.channels[position]? = some channel)
    (hqueue : channel.queue = event :: rest) :
    watch.next position =
      (.event event, { watch with
        channels := watch.channels.set position { channel with queue := rest } }) := by
  simp [next, hchannel, Channel.next, hqueue]

theorem next_of_empty (hchannel : watch.channels[position]? = some channel)
    (hqueue : channel.queue = []) :
    watch.next position = (if channel.closed then .ended else .blocked, watch) := by
  simp [next, hchannel, Channel.next, hqueue, set_channel_self hchannel]

theorem next_of_none (hchannel : watch.channels[position]? = none) :
    watch.next position = (.ended, watch) := by
  simp [next, hchannel]

end MemorySource

/-! ## Histories -/

/-- A source, with the events that were accepted and those that were given so far, each next to
the position of its channel. -/
structure Routing where
  watch : MemorySource := {}
  accepted : List (Nat × Event) := []
  yielded : List (Nat × Event) := []

def eventsAt (position : Nat) (entries : List (Nat × Event)) : List Event :=
  (entries.filter fun entry => entry.1 = position).map Prod.snd

theorem eventsAt_concat (position other : Nat) (entries : List (Nat × Event)) (event : Event) :
    eventsAt other (entries ++ [(position, event)]) =
      eventsAt other entries ++ if position = other then [event] else [] := by
  by_cases h : position = other <;> simp [eventsAt, List.filter_append, h]

namespace Routing

/-- What the users of the source and of its streams can call.  A stream that is dropped closes its
channel, as one that is closed. -/
inductive Call where
  | openStream (ns name : String)
  | publish (event : Event)
  | retire
  | failNext (count : UInt64)
  | next (position : Nat)
  | close (position : Nat)

def Call.isOpen : Call → Bool
  | openStream _ _ => true
  | _ => false

def withWatch (routing : Routing) (watch : MemorySource) : Routing :=
  { routing with watch := watch }

/-- What was accepted is noted under the channel that is current at that moment. -/
def publish (routing : Routing) (event : Event) : Routing :=
  match routing.watch.publish event, routing.watch.current with
  | (true, watch), some position =>
    { routing with watch := watch, accepted := routing.accepted ++ [(position, event)] }
  | (_, watch), _ => routing.withWatch watch

def next (routing : Routing) (position : Nat) : Routing :=
  match routing.watch.next position with
  | (.event event, watch) =>
    { routing with watch := watch, yielded := routing.yielded ++ [(position, event)] }
  | (_, watch) => routing.withWatch watch

def call (routing : Routing) : Call → Routing
  | .openStream ns name => routing.withWatch (routing.watch.openStream ns name).2
  | .publish event => routing.publish event
  | .retire => routing.withWatch routing.watch.retire
  | .failNext count => routing.withWatch (routing.watch.failNext count)
  | .next position => routing.next position
  | .close position => routing.withWatch (routing.watch.closeStream position)

def run (calls : List Call) : Routing :=
  calls.foldl call {}

variable {routing : Routing} {position other : Nat} {channel : Channel} {event : Event}

theorem run_concat (calls : List Call) (last : Call) :
    run (calls ++ [last]) = (run calls).call last :=
  List.foldl_append

theorem publish_cases (event : Event) :
    (∃ position channel, routing.watch.Accepts position channel ∧
        routing.publish event =
          { routing with
            watch := { routing.watch with
              channels := routing.watch.channels.set position
                { channel with queue := channel.queue ++ [event] } }
            accepted := routing.accepted ++ [(position, event)] }) ∨
      routing.publish event = routing := by
  by_cases h : ∃ position channel, routing.watch.Accepts position channel
  · obtain ⟨position, channel, haccepts⟩ := h
    refine .inl ⟨position, channel, haccepts, ?_⟩
    simp only [publish, MemorySource.publish_of_accepts haccepts, haccepts.1]
  · right
    have hnone : ∀ position channel, ¬ routing.watch.Accepts position channel := by
      intro position channel haccepts
      exact h ⟨position, channel, haccepts⟩
    simp only [publish, MemorySource.publish_of_not_accepts hnone]
    rfl

theorem next_cases (position : Nat) :
    (∃ channel event rest, routing.watch.channels[position]? = some channel ∧
        channel.queue = event :: rest ∧
        routing.next position =
          { routing with
            watch := { routing.watch with
              channels := routing.watch.channels.set position { channel with queue := rest } }
            yielded := routing.yielded ++ [(position, event)] }) ∨
      routing.next position = routing := by
  cases hchannel : routing.watch.channels[position]? with
  | none =>
      right
      simp only [next, MemorySource.next_of_none hchannel]
      rfl
  | some channel =>
      cases hqueue : channel.queue with
      | nil =>
          right
          simp only [next, MemorySource.next_of_empty hchannel hqueue]
          cases channel.closed <;> rfl
      | cons event rest =>
          refine .inl ⟨channel, event, rest, rfl, hqueue, ?_⟩
          simp only [next, MemorySource.next_of_queue hchannel hqueue]

/-! ## What a call does to one channel -/

structure Turned (before after : Routing) (position : Nat) (channel : Channel)
    (taken given : List Event) (next : Channel) : Prop where
  turn : channel.Turn taken given next
  channel : after.watch.channels[position]? = some next
  accepted : eventsAt position after.accepted = eventsAt position before.accepted ++ taken
  yielded : eventsAt position after.yielded = eventsAt position before.yielded ++ given

theorem turned_of_closing (closing : Prop) [Decidable closing] {watch : MemorySource}
    (hchannel : watch.channels[position]? = some (if closing then channel.close else channel)) :
    ∃ taken given next, Turned routing (routing.withWatch watch) position channel taken given
      next := by
  by_cases h : closing
  · rw [if_pos h] at hchannel
    exact ⟨[], [], _, .close channel, hchannel, by simp [withWatch], by simp [withWatch]⟩
  · rw [if_neg h] at hchannel
    exact ⟨[], [], _, .stay channel, hchannel, by simp [withWatch], by simp [withWatch]⟩

theorem turned_of_same (hchannel : routing.watch.channels[position]? = some channel) :
    ∃ taken given next, Turned routing routing position channel taken given next :=
  ⟨[], [], channel, .stay channel, hchannel, by simp, by simp⟩

/-- Whatever is called, a channel stays as it is, is closed, takes an event or gives one. -/
theorem turn_of_call (hchannel : routing.watch.channels[position]? = some channel) (c : Call) :
    ∃ taken given next, Turned routing (routing.call c) position channel taken given next := by
  have hlt := (List.getElem?_eq_some_iff.1 hchannel).1
  cases c with
  | openStream ns name =>
      by_cases hpending : 0 < routing.watch.pendingFailures
      · rw [call, MemorySource.openStream_of_pending hpending]
        exact ⟨[], [], channel, .stay channel, hchannel, by simp [withWatch], by simp [withWatch]⟩
      · rw [call, MemorySource.openStream_of_not_pending hpending]
        apply turned_of_closing (routing.watch.current = some position)
        rw [List.getElem?_append_left (by simpa using hlt), MemorySource.getElem?_retire, hchannel]
        rfl
  | publish event =>
      rw [call]
      rcases routing.publish_cases event with ⟨target, current, haccepts, heq⟩ | heq
      · rw [heq]
        obtain ⟨-, htarget, hopen⟩ := haccepts
        by_cases hsame : target = position
        · subst hsame
          obtain rfl := Option.some.inj (htarget.symm.trans hchannel)
          exact ⟨[event], [], _, .push hopen event, List.getElem?_set_self hlt,
            by simp [eventsAt_concat], by simp⟩
        · exact ⟨[], [], channel, .stay channel, (List.getElem?_set_ne hsame).trans hchannel,
            by simp [eventsAt_concat, hsame], by simp⟩
      · rw [heq]
        exact turned_of_same hchannel
  | retire =>
      apply turned_of_closing (routing.watch.current = some position)
      rw [MemorySource.getElem?_retire, hchannel]
      rfl
  | failNext count =>
      exact ⟨[], [], channel, .stay channel, hchannel, by simp [call, withWatch],
        by simp [call, withWatch]⟩
  | next source =>
      rw [call]
      rcases routing.next_cases source with ⟨current, event, rest, hsource, hqueue, heq⟩ | heq
      · rw [heq]
        by_cases hsame : source = position
        · subst hsame
          obtain rfl := Option.some.inj (hsource.symm.trans hchannel)
          exact ⟨[], [event], _, .pop hqueue, List.getElem?_set_self hlt, by simp,
            by simp [eventsAt_concat]⟩
        · exact ⟨[], [], channel, .stay channel, (List.getElem?_set_ne hsame).trans hchannel,
            by simp, by simp [eventsAt_concat, hsame]⟩
      · rw [heq]
        exact turned_of_same hchannel
  | close target =>
      apply turned_of_closing (target = position)
      rw [MemorySource.getElem?_closeStream, hchannel]
      rfl

/-- A channel that a call adds is empty, and nothing is noted for a position without a channel. -/
theorem fresh_of_call (hnone : routing.watch.channels[position]? = none) (c : Call) :
    eventsAt position (routing.call c).accepted = eventsAt position routing.accepted ∧
      eventsAt position (routing.call c).yielded = eventsAt position routing.yielded ∧
      ∀ channel, (routing.call c).watch.channels[position]? = some channel →
        channel = .empty := by
  have hle : routing.watch.channels.length ≤ position := List.getElem?_eq_none_iff.1 hnone
  have hother : ∀ {target : Nat} {channel : Channel},
      routing.watch.channels[target]? = some channel → target ≠ position := by
    intro target channel htarget hsame
    rw [hsame, hnone] at htarget
    cases htarget
  have hnothing : ∀ {channels : List Channel}, channels[position]? = none →
      ∀ channel, channels[position]? = some channel → channel = .empty := by
    intro channels hchannels channel hchannel
    rw [hchannels] at hchannel
    cases hchannel
  cases c with
  | openStream ns name =>
      refine ⟨rfl, rfl, ?_⟩
      by_cases hpending : 0 < routing.watch.pendingFailures
      · rw [call, MemorySource.openStream_of_pending hpending]
        exact hnothing hnone
      · rw [call, MemorySource.openStream_of_not_pending hpending]
        intro channel hchannel
        rw [withWatch, List.getElem?_append_right (by simpa using hle)] at hchannel
        exact List.mem_singleton.1 (List.mem_of_getElem? hchannel)
  | publish event =>
      rw [call]
      rcases routing.publish_cases event with ⟨target, current, haccepts, heq⟩ | heq
      · rw [heq]
        have htarget := hother haccepts.2.1
        refine ⟨by simp [eventsAt_concat, htarget], rfl, hnothing ?_⟩
        exact (List.getElem?_set_ne htarget).trans hnone
      · rw [heq]
        exact ⟨rfl, rfl, hnothing hnone⟩
  | retire =>
      refine ⟨rfl, rfl, hnothing ?_⟩
      rw [call, withWatch, MemorySource.getElem?_retire, hnone]
      rfl
  | failNext count => exact ⟨rfl, rfl, hnothing hnone⟩
  | next source =>
      rw [call]
      rcases routing.next_cases source with ⟨current, event, rest, hsource, -, heq⟩ | heq
      · rw [heq]
        have htarget := hother hsource
        refine ⟨rfl, by simp [eventsAt_concat, htarget], hnothing ?_⟩
        exact (List.getElem?_set_ne htarget).trans hnone
      · rw [heq]
        exact ⟨rfl, rfl, hnothing hnone⟩
  | close target =>
      refine ⟨rfl, rfl, hnothing ?_⟩
      rw [call, withWatch, MemorySource.getElem?_closeStream, hnone]
      rfl

/-! ## Every event once, and in order -/

structure Faithful (routing : Routing) : Prop where
  stream : ∀ {position channel}, routing.watch.channels[position]? = some channel →
    eventsAt position routing.yielded ++ channel.queue = eventsAt position routing.accepted
  fresh : ∀ {position}, routing.watch.channels[position]? = none →
    eventsAt position routing.accepted = [] ∧ eventsAt position routing.yielded = []

theorem Faithful.call (h : Faithful routing) (c : Call) : Faithful (routing.call c) := by
  constructor
  · intro position channel hchannel
    cases hbefore : routing.watch.channels[position]? with
    | none =>
        obtain ⟨haccepted, hyielded, hempty⟩ := fresh_of_call hbefore c
        obtain ⟨hnone, hnothing⟩ := h.fresh hbefore
        rw [haccepted, hyielded, hnone, hnothing, hempty channel hchannel]
        rfl
    | some before =>
        obtain ⟨taken, given, next, hturned⟩ := turn_of_call hbefore c
        obtain rfl := Option.some.inj (hturned.channel.symm.trans hchannel)
        rw [hturned.accepted, hturned.yielded, List.append_assoc, hturned.turn.balance,
          ← List.append_assoc, h.stream hbefore]
  · intro position hnone
    cases hbefore : routing.watch.channels[position]? with
    | none =>
        obtain ⟨haccepted, hyielded, -⟩ := fresh_of_call hbefore c
        rw [haccepted, hyielded]
        exact h.fresh hbefore
    | some before =>
        obtain ⟨taken, given, next, hturned⟩ := turn_of_call hbefore c
        rw [hturned.channel] at hnone
        cases hnone

theorem faithful_run (calls : List Call) : Faithful (run calls) := by
  induction calls using List.reverseRecOn with
  | nil =>
      refine ⟨?_, fun _ => ⟨rfl, rfl⟩⟩
      intro position channel hchannel
      simp [run] at hchannel
  | append_singleton calls last ih =>
      rw [run_concat]
      exact ih.call last

/-- A closed channel accepts nothing more, whatever is called later. -/
theorem accepted_run_of_closed {calls : List Call}
    (hchannel : (run calls).watch.channels[position]? = some channel)
    (hclosed : channel.closed = true) (later : List Call) :
    eventsAt position (run (calls ++ later)).accepted = eventsAt position (run calls).accepted := by
  have hkept : ∃ after, (run (calls ++ later)).watch.channels[position]? = some after ∧
      after.closed = true ∧ eventsAt position (run (calls ++ later)).accepted =
        eventsAt position (run calls).accepted := by
    induction later using List.reverseRecOn with
    | nil => exact ⟨channel, by simpa using hchannel, hclosed, by simp⟩
    | append_singleton later last ih =>
        obtain ⟨after, hafter, hshut, haccepted⟩ := ih
        obtain ⟨taken, given, next, hturned⟩ := turn_of_call hafter last
        obtain ⟨hstill, hnothing⟩ := hturned.turn.of_closed hshut
        rw [← List.append_assoc, run_concat]
        refine ⟨next, hturned.channel, hstill, ?_⟩
        rw [hturned.accepted, hnothing, List.append_nil, haccepted]
  obtain ⟨-, -, -, haccepted⟩ := hkept
  exact haccepted

/-! ## Only the current channel is open -/

/-- The current channel exists, and every other one is closed. -/
structure Guarded (watch : MemorySource) : Prop where
  exists_current : ∀ {position}, watch.current = some position →
    position < watch.channels.length
  closed : ∀ {position channel}, watch.channels[position]? = some channel →
    watch.current ≠ some position → channel.closed = true

theorem Guarded.closeStream {watch : MemorySource} (h : Guarded watch) (target : Nat) :
    Guarded (watch.closeStream target) := by
  constructor
  · intro position hcurrent
    simpa [MemorySource.closeStream] using h.exists_current hcurrent
  · intro position channel hchannel hcurrent
    rw [MemorySource.getElem?_closeStream] at hchannel
    obtain ⟨before, hbefore, rfl⟩ := Option.map_eq_some_iff.1 hchannel
    split
    · rfl
    · exact h.closed hbefore hcurrent

theorem Guarded.closed_retire {watch : MemorySource} (h : Guarded watch)
    (hchannel : watch.retire.channels[position]? = some channel) : channel.closed = true := by
  rw [MemorySource.getElem?_retire] at hchannel
  obtain ⟨before, hbefore, rfl⟩ := Option.map_eq_some_iff.1 hchannel
  split
  · rfl
  · rename_i hcurrent
    exact h.closed hbefore hcurrent

theorem Guarded.set {watch : MemorySource} (h : Guarded watch) {next : Channel}
    (hchannel : watch.channels[position]? = some channel) (hclosed : next.closed = channel.closed) :
    Guarded { watch with channels := watch.channels.set position next } := by
  have hlt := (List.getElem?_eq_some_iff.1 hchannel).1
  constructor
  · intro other hcurrent
    simpa using h.exists_current hcurrent
  · intro other after hafter hcurrent
    by_cases hsame : position = other
    · subst hsame
      obtain rfl : next = after :=
        Option.some.inj ((List.getElem?_set_self hlt).symm.trans hafter)
      rw [hclosed]
      exact h.closed hchannel hcurrent
    · exact h.closed ((List.getElem?_set_ne hsame).symm.trans hafter) hcurrent

theorem Guarded.call (h : Guarded routing.watch) (c : Call) : Guarded (routing.call c).watch := by
  cases c with
  | openStream ns name =>
      by_cases hpending : 0 < routing.watch.pendingFailures
      · rw [Routing.call, MemorySource.openStream_of_pending hpending]
        exact ⟨h.exists_current, h.closed⟩
      · rw [Routing.call, MemorySource.openStream_of_not_pending hpending]
        constructor
        · rintro position ⟨⟩
          simp [withWatch]
        · intro position channel hchannel hcurrent
          have hne : routing.watch.channels.length ≠ position := by
            intro hsame
            exact hcurrent (congrArg some hsame)
          have hlt : position < routing.watch.retire.channels.length := by
            have hbound := (List.getElem?_eq_some_iff.1 hchannel).1
            simp only [withWatch, List.length_append, MemorySource.length_retire,
              List.length_singleton] at hbound
            rw [MemorySource.length_retire]
            omega
          exact h.closed_retire ((List.getElem?_append_left hlt).symm.trans hchannel)
  | publish event =>
      rw [Routing.call]
      rcases routing.publish_cases event with ⟨target, current, haccepts, heq⟩ | heq
      · rw [heq]
        exact h.set haccepts.2.1 rfl
      · rw [heq]
        exact h
  | retire =>
      constructor
      · intro position hcurrent
        rw [Routing.call, withWatch, MemorySource.current_retire] at hcurrent
        cases hcurrent
      · intro position channel hchannel _
        exact h.closed_retire hchannel
  | failNext count => exact ⟨h.exists_current, h.closed⟩
  | next source =>
      rw [Routing.call]
      rcases routing.next_cases source with ⟨current, event, rest, hsource, -, heq⟩ | heq
      · rw [heq]
        exact h.set hsource rfl
      · rw [heq]
        exact h
  | close target => exact h.closeStream target

theorem guarded_run (calls : List Call) : Guarded (run calls).watch := by
  induction calls using List.reverseRecOn with
  | nil =>
      constructor
      · rintro position ⟨⟩
      · intro position channel hchannel
        simp [run] at hchannel
  | append_singleton calls last ih =>
      rw [run_concat]
      exact ih.call last

/-! ## Calls to open -/

def attempts (calls : List Call) : Nat :=
  calls.countP Call.isOpen

theorem counts_call (c : Call) :
    (routing.call c).watch.opens + (routing.call c).watch.failedOpens =
      routing.watch.opens + routing.watch.failedOpens + if c.isOpen then 1 else 0 := by
  cases c with
  | openStream ns name =>
      by_cases hpending : 0 < routing.watch.pendingFailures
      · rw [call, MemorySource.openStream_of_pending hpending]
        exact (UInt64.add_assoc _ _ _).symm
      · rw [call, MemorySource.openStream_of_not_pending hpending]
        simp only [withWatch, Call.isOpen, if_true]
        rw [UInt64.add_assoc, UInt64.add_comm 1, ← UInt64.add_assoc]
  | publish event =>
      rw [call]
      rcases routing.publish_cases event with ⟨target, current, -, heq⟩ | heq <;>
        simp [heq, Call.isOpen]
  | next source =>
      rw [call]
      rcases routing.next_cases source with ⟨current, event, rest, -, -, heq⟩ | heq <;>
        simp [heq, Call.isOpen]
  | retire => simp [call, withWatch, Call.isOpen]
  | failNext count => simp [call, withWatch, MemorySource.failNext, Call.isOpen]
  | close target => simp [call, withWatch, MemorySource.closeStream, Call.isOpen]

theorem counts_run (calls : List Call) :
    (run calls).watch.opens + (run calls).watch.failedOpens = UInt64.ofNat (attempts calls) := by
  induction calls using List.reverseRecOn with
  | nil => rfl
  | append_singleton calls last ih =>
      have hattempts : attempts (calls ++ [last]) =
          attempts calls + if last.isOpen then 1 else 0 := by
        simp [attempts, List.countP_append]
      rw [run_concat, counts_call, ih, hattempts, UInt64.ofNat_add]
      split <;> rfl

/-! ## The protocol of the source -/

/-- What the stream at a position answers, given the events that were accepted for it and those
that it has given. -/
def answerFor (accepted given : List Event) (closed : Bool) : Answer :=
  match accepted.drop given.length with
  | event :: _ => .event event
  | [] => if closed then .ended else .blocked

/-- Whatever is called, only the current channel can be open, and what is published goes to it and
to no other, or is refused if there is none.  Each stream gives the events that were accepted while
it was current, in order and each once, and then ends if it is closed, which it stays.  An attempt
to open that fails uses up a pending failure and is counted, and nothing else changes; one that
succeeds hands out a stream on a new channel, which is empty and open, and makes it the current one.
Every attempt is counted once. -/
theorem events_reach_current_stream (calls : List Call) :
    (∀ position channel, (run calls).watch.channels[position]? = some channel →
      (run calls).watch.current ≠ some position → channel.closed = true) ∧
    (∀ event,
      (((run calls).watch.publish event).1 = true ↔
        ∃ position channel, (run calls).watch.Accepts position channel) ∧
      (((run calls).watch.publish event).1 = false →
        ((run calls).watch.publish event).2 = (run calls).watch) ∧
      ∀ position channel, (run calls).watch.Accepts position channel →
        ((run calls).watch.publish event).2 =
          { (run calls).watch with
            channels := (run calls).watch.channels.set position
              { channel with queue := channel.queue ++ [event] } }) ∧
    (∀ position channel, (run calls).watch.channels[position]? = some channel →
      eventsAt position (run calls).yielded ++ channel.queue =
        eventsAt position (run calls).accepted ∧
      ((run calls).watch.next position).1 =
        answerFor (eventsAt position (run calls).accepted)
          (eventsAt position (run calls).yielded) channel.closed ∧
      (channel.closed = true → ∀ later,
        eventsAt position (run (calls ++ later)).accepted =
          eventsAt position (run calls).accepted)) ∧
    (∀ ns name fault, ((run calls).watch.openStream ns name).1 = .error fault →
      0 < (run calls).watch.pendingFailures ∧
      ((run calls).watch.openStream ns name).2 =
        { (run calls).watch with
          pendingFailures := (run calls).watch.pendingFailures - 1
          failedOpens := (run calls).watch.failedOpens + 1
          lastNs := ns
          lastName := name }) ∧
    (∀ ns name position, ((run calls).watch.openStream ns name).1 = .ok position →
      (run calls).watch.pendingFailures = 0 ∧ position = (run calls).watch.channels.length ∧
      ((run calls).watch.openStream ns name).2 =
        { (run calls).watch with
          channels := (run calls).watch.retire.channels ++ [.empty]
          current := some position
          opens := (run calls).watch.opens + 1
          lastNs := ns
          lastName := name }) ∧
    (run calls).watch.opens + (run calls).watch.failedOpens = UInt64.ofNat (attempts calls) := by
  refine ⟨fun _ _ => (guarded_run calls).closed, ?_, ?_, ?_, ?_, counts_run calls⟩
  · intro event
    by_cases h : ∃ position channel, (run calls).watch.Accepts position channel
    · obtain ⟨position, channel, haccepts⟩ := h
      refine ⟨?_, ?_, ?_⟩
      · rw [MemorySource.publish_of_accepts haccepts]
        exact ⟨fun _ => ⟨position, channel, haccepts⟩, fun _ => rfl⟩
      · rw [MemorySource.publish_of_accepts haccepts]
        rintro ⟨⟩
      · intro target current hcurrent
        rw [MemorySource.publish_of_accepts hcurrent]
    · have hnone : ∀ position channel, ¬ (run calls).watch.Accepts position channel := by
        intro position channel haccepts
        exact h ⟨position, channel, haccepts⟩
      rw [MemorySource.publish_of_not_accepts hnone]
      refine ⟨⟨fun hfalse => ?_, fun hsome => absurd hsome h⟩, fun _ => rfl, ?_⟩
      · cases hfalse
      · intro target current hcurrent
        exact absurd hcurrent (hnone target current)
  · intro position channel hchannel
    have hstream := (faithful_run calls).stream hchannel
    refine ⟨hstream, ?_, fun hclosed later => accepted_run_of_closed hchannel hclosed later⟩
    rw [answerFor, ← hstream, List.drop_left]
    cases hqueue : channel.queue with
    | nil => rw [MemorySource.next_of_empty hchannel hqueue]
    | cons event rest => rw [MemorySource.next_of_queue hchannel hqueue]
  · intro ns name fault hfault
    by_cases hpending : 0 < (run calls).watch.pendingFailures
    · exact ⟨hpending, by rw [MemorySource.openStream_of_pending hpending]⟩
    · rw [MemorySource.openStream_of_not_pending hpending] at hfault
      cases hfault
  · intro ns name position hopened
    by_cases hpending : 0 < (run calls).watch.pendingFailures
    · rw [MemorySource.openStream_of_pending hpending] at hopened
      cases hopened
    · rw [MemorySource.openStream_of_not_pending hpending] at hopened ⊢
      obtain rfl := Except.ok.inj hopened
      exact ⟨UInt64.le_zero_iff.1 (UInt64.not_lt.1 hpending), rfl, rfl⟩

end Routing

end IdentityMap
