import IdentityMap.Channel

/-!
# Watches in memory

A source of events that are published by hand. Each stream it hands out reads a channel of its
own; what is published goes to the channel opened last. Failures to open can be arranged.
-/

namespace IdentityMap

/-- The state of the source. Streams are known by the position of their channel. -/
structure MemorySource where
  channels : List Channel := []
  current : Option Nat := none
  pendingFailures : UInt64 := 0
  opens : UInt64 := 0
  failedOpens : UInt64 := 0
  lastNs : String := ""
  lastName : String := ""

namespace MemorySource

def closeStream (watch : MemorySource) (position : Nat) : MemorySource :=
  { watch with channels := watch.channels.modify position Channel.close }

def retire (watch : MemorySource) : MemorySource :=
  match watch.current with
  | some position => { watch.closeStream position with current := none }
  | none => watch

/-- Opens a stream on a fresh channel and closes the channel before it. While failures are
pending, the attempt uses one up and changes no channel. -/
def openStream (watch : MemorySource) (ns name : String) : Except OpenFault Nat × MemorySource :=
  let watch := { watch with lastNs := ns, lastName := name }
  if 0 < watch.pendingFailures then
    (.error (.injected ns name),
      { watch with
        pendingFailures := watch.pendingFailures - 1
        failedOpens := watch.failedOpens + 1 })
  else
    let watch := watch.retire
    let position := watch.channels.length
    (.ok position,
      { watch with
        channels := watch.channels ++ [Channel.empty]
        current := some position
        opens := watch.opens + 1 })

def publish (watch : MemorySource) (event : Event) : Bool × MemorySource :=
  match watch.current.bind fun position => (watch.channels[position]?).map (position, ·) with
  | some (position, channel) =>
    let (accepted, channel) := channel.push event
    (accepted, { watch with channels := watch.channels.set position channel })
  | none => (false, watch)

def next (watch : MemorySource) (position : Nat) : Answer × MemorySource :=
  match watch.channels[position]? with
  | some channel =>
    let (answer, channel) := channel.next
    (answer, { watch with channels := watch.channels.set position channel })
  | none => (.ended, watch)

def failNext (watch : MemorySource) (count : UInt64) : MemorySource :=
  { watch with pendingFailures := count }

def openedAtLeast (watch : MemorySource) (count : UInt64) : Bool :=
  count ≤ watch.opens

end MemorySource

end IdentityMap
