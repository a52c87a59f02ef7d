import Mathlib.Data.List.Induction
import IdentityMap.Proofs.Source.Routing

/-!
# Queueing of events

The users of a channel push events, ask for the next one and close the channel, in any order and
from any side.  Nothing is lost on the way: what was given and what still waits are together what
was accepted, in that order, before the channel was closed and after it.  A request for an event
that has to wait is a row of tries; all but the last of them are blocked and change nothing.
-/

namespace IdentityMap

namespace Channel

/-! ## Histories -/

inductive Call where
  | push (event : Event)
  | next
  | close

inductive Reply where
  | pushed (accepted : Bool)
  | answered (answer : Answer)
  | closed

def reply (channel : Channel) : Call → Reply
  | .push event => .pushed (channel.push event).1
  | .next => .answered channel.next.1
  | .close => .closed

def after (channel : Channel) : Call → Channel
  | .push event => (channel.push event).2
  | .next => channel.next.2
  | .close => channel.close

def accepted? : Call × Reply → Option Event
  | (.push event, .pushed true) => some event
  | _ => none

def given? : Call × Reply → Option Event
  | (.next, .answered (.event event)) => some event
  | _ => none

/-- A channel with the calls that were made so far, each next to its reply. -/
structure History where
  channel : Channel := .empty
  entries : List (Call × Reply) := []

namespace History

def call (history : History) (call : Call) : History where
  channel := history.channel.after call
  entries := history.entries ++ [(call, history.channel.reply call)]

def ofCalls (calls : List Call) : History :=
  calls.foldl call {}

def accepted (history : History) : List Event :=
  history.entries.filterMap accepted?

def given (history : History) : List Event :=
  history.entries.filterMap given?

end History

/-! ## Single calls -/

variable {channel : Channel} {event : Event}

theorem next_of_queue {rest : List Event} (hqueue : channel.queue = event :: rest) :
    channel.next = (.event event, { channel with queue := rest }) := by
  simp [next, hqueue]

theorem next_of_empty (hqueue : channel.queue = []) :
    channel.next = (if channel.closed then .ended else .blocked, channel) := by
  simp [next, hqueue]

/-- Every call is a turn of the channel, which takes what is accepted and gives what is given. -/
theorem turn_after (channel : Channel) (call : Call) :
    Turn channel (accepted? (call, channel.reply call)).toList
      (given? (call, channel.reply call)).toList (channel.after call) := by
  cases call with
  | push event =>
      cases hclosed : channel.closed with
      | false =>
          rw [reply, after, push_of_open hclosed]
          exact .push hclosed event
      | true =>
          rw [reply, after, push_of_closed hclosed]
          exact .stay channel
  | next =>
      cases hqueue : channel.queue with
      | cons event rest =>
          rw [reply, after, next_of_queue hqueue]
          exact .pop hqueue
      | nil =>
          rw [reply, after, next_of_empty hqueue]
          cases channel.closed <;> exact .stay channel
  | close => exact .close channel

theorem closed_after (channel : Channel) (call : Call) :
    (channel.after call).closed = true ↔ channel.closed = true ∨ call = .close := by
  cases call with
  | push event => cases hclosed : channel.closed <;> simp [after, push, hclosed]
  | next =>
      rw [after]
      cases hqueue : channel.queue with
      | cons event rest => simp [next_of_queue hqueue]
      | nil => simp [next_of_empty hqueue]
  | close => simp [after]

/-! ## What the replies to a channel's calls tell -/

theorem accepts_iff : (channel.push event).1 = true ↔ channel.closed = false := by
  cases hclosed : channel.closed <;> simp [push, hclosed]

theorem next_eq_event_iff : channel.next.1 = .event event ↔ channel.queue.head? = some event := by
  cases hqueue : channel.queue with
  | cons first rest => simp [next_of_queue hqueue]
  | nil => cases hclosed : channel.closed <;> simp [next_of_empty hqueue, hclosed]

theorem next_eq_blocked_iff :
    channel.next.1 = .blocked ↔ channel.closed = false ∧ channel.queue = [] := by
  cases hqueue : channel.queue with
  | cons first rest => simp [next_of_queue hqueue]
  | nil => cases hclosed : channel.closed <;> simp [next_of_empty hqueue, hclosed]

theorem next_eq_ended_iff :
    channel.next.1 = .ended ↔ channel.closed = true ∧ channel.queue = [] := by
  cases hqueue : channel.queue with
  | cons first rest => simp [next_of_queue hqueue]
  | nil => cases hclosed : channel.closed <;> simp [next_of_empty hqueue, hclosed]

theorem after_of_ended (hended : channel.next.1 = .ended) (call : Call) :
    channel.after call = channel := by
  obtain ⟨hclosed, hqueue⟩ := next_eq_ended_iff.1 hended
  cases call with
  | push event => rw [after, push_of_closed hclosed]
  | next => rw [after, next_of_empty hqueue]
  | close => rw [after, close, ← hclosed]

namespace History

variable (calls later : List Call) (last : Call)

/-! ## Whole histories -/

theorem ofCalls_concat : ofCalls (calls ++ [last]) = (ofCalls calls).call last :=
  List.foldl_append

theorem accepted_call (history : History) :
    (history.call last).accepted =
      history.accepted ++ (accepted? (last, history.channel.reply last)).toList := by
  rw [accepted, call, List.filterMap_append, ← accepted, List.filterMap_cons]
  cases accepted? (last, history.channel.reply last) <;> rfl

theorem given_call (history : History) :
    (history.call last).given =
      history.given ++ (given? (last, history.channel.reply last)).toList := by
  rw [given, call, List.filterMap_append, ← given, List.filterMap_cons]
  cases given? (last, history.channel.reply last) <;> rfl

/-- What was given and what still waits is what was accepted. -/
theorem given_append_queue :
    (ofCalls calls).given ++ (ofCalls calls).channel.queue = (ofCalls calls).accepted := by
  induction calls using List.reverseRecOn with
  | nil => rfl
  | append_singleton calls last ih =>
      have hbalance := ((ofCalls calls).channel.turn_after last).balance
      rw [ofCalls_concat, accepted_call, given_call, List.append_assoc, ← ih, List.append_assoc,
        ← hbalance]
      rfl

theorem closed_ofCalls : (ofCalls calls).channel.closed = true ↔ .close ∈ calls := by
  induction calls using List.reverseRecOn with
  | nil => simp [ofCalls, empty]
  | append_singleton calls last ih =>
      rw [ofCalls_concat, call, closed_after, ih]
      simp [eq_comm]

theorem open_ofCalls : (ofCalls calls).channel.closed = false ↔ .close ∉ calls := by
  rw [← closed_ofCalls, Bool.not_eq_true]

theorem queue_ofCalls :
    (ofCalls calls).channel.queue = [] ↔ (ofCalls calls).given = (ofCalls calls).accepted := by
  rw [← given_append_queue]
  simp

theorem ended_of_ended (hended : (ofCalls calls).channel.next.1 = .ended) :
    (ofCalls (calls ++ later)).channel.next.1 = .ended := by
  induction later using List.reverseRecOn with
  | nil => rwa [List.append_nil]
  | append_singleton later last ih =>
      rw [← List.append_assoc, ofCalls_concat, call, after_of_ended ih]
      exact ih

/-- Whatever is called in whatever order, a channel loses nothing and gives events in the order in
which they were accepted. -/
theorem channel_is_closable_fifo :
    -- What was given and what still waits are what was accepted, each event once and in order.
    (ofCalls calls).given ++ (ofCalls calls).channel.queue = (ofCalls calls).accepted ∧
    -- A push is accepted unless the channel was closed before, and then changes nothing.
    (∀ event,
      (((ofCalls calls).channel.push event).1 = true ↔ .close ∉ calls) ∧
      (((ofCalls calls).channel.push event).1 = false →
        ((ofCalls calls).channel.push event).2 = (ofCalls calls).channel)) ∧
    -- A request is given the first event that was accepted and not given yet.
    (∀ event, (ofCalls calls).channel.next.1 = .event event ↔
      ∃ rest, (ofCalls calls).accepted = (ofCalls calls).given ++ event :: rest) ∧
    -- It waits only while the channel is open and has nothing to give.
    ((ofCalls calls).channel.next.1 = .blocked ↔
      .close ∉ calls ∧ (ofCalls calls).given = (ofCalls calls).accepted) ∧
    ((ofCalls calls).channel.next.1 = .blocked →
      (ofCalls calls).channel.next.2 = (ofCalls calls).channel) ∧
    -- It is told the end once the channel is closed and everything was given, and ever after.
    ((ofCalls calls).channel.next.1 = .ended ↔
      .close ∈ calls ∧ (ofCalls calls).given = (ofCalls calls).accepted) ∧
    ((ofCalls calls).channel.next.1 = .ended →
      ∀ later, (ofCalls (calls ++ later)).channel.next.1 = .ended) ∧
    -- Closing discards nothing, and closing again does nothing.
    (ofCalls calls).channel.close.queue = (ofCalls calls).channel.queue ∧
    (ofCalls calls).channel.close.close = (ofCalls calls).channel.close := by
  have hbalance := given_append_queue calls
  refine ⟨hbalance, ?_, ?_, ?_, ?_, ?_, ?_, rfl, rfl⟩
  · intro event
    rw [accepts_iff, open_ofCalls]
    refine ⟨Iff.rfl, fun hrefused => ?_⟩
    have hclosed : (ofCalls calls).channel.closed = true := by
      rwa [← Bool.not_eq_false, ← accepts_iff, Bool.not_eq_true]
    rw [push_of_closed hclosed]
  · intro event
    rw [next_eq_event_iff, List.head?_eq_some_iff, ← hbalance]
    simp
  · rw [next_eq_blocked_iff, open_ofCalls, queue_ofCalls]
  · intro hblocked
    rw [next_of_empty (next_eq_blocked_iff.1 hblocked).2]
  · rw [next_eq_ended_iff, closed_ofCalls, queue_ofCalls]
  · exact fun hended later => ended_of_ended calls later hended

end History

end Channel

end IdentityMap
