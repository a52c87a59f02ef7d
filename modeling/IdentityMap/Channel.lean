import IdentityMap.Event

/-!
# Channels

A channel queues events until it is closed. What was queued before can still be taken
afterwards; only then does the channel report its end.
-/

namespace IdentityMap

/-- The events that wait to be taken, the oldest first. -/
structure Channel where
  queue : List Event := []
  closed : Bool := false

namespace Channel

def empty : Channel :=
  {}

/-- Queues an event. A closed channel refuses it. -/
def push (channel : Channel) (event : Event) : Bool × Channel :=
  if channel.closed then (false, channel)
  else (true, { channel with queue := channel.queue ++ [event] })

def next (channel : Channel) : Answer × Channel :=
  match channel.queue with
  | event :: rest => (.event event, { channel with queue := rest })
  | [] => (if channel.closed then .ended else .blocked, channel)

def close (channel : Channel) : Channel :=
  { channel with closed := true }

theorem push_of_open {channel : Channel} (h : channel.closed = false) (event : Event) :
    channel.push event = (true, { channel with queue := channel.queue ++ [event] }) := by
  simp [push, h]

theorem push_of_closed {channel : Channel} (h : channel.closed = true) (event : Event) :
    channel.push event = (false, channel) := by
  simp [push, h]

@[simp] theorem queue_close (channel : Channel) : channel.close.queue = channel.queue :=
  rfl

@[simp] theorem closed_close (channel : Channel) : channel.close.closed = true :=
  rfl

end Channel

end IdentityMap
