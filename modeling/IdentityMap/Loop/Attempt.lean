import IdentityMap.Channel

/-!
# Attempts to open a watch

What a client does when the sync loop asks it to open a watch. Its part in a run is a script of
attempts. Once the script is used up, it opens streams that stay silent until they are closed.
-/

namespace IdentityMap

/-- A stream of a client: the channel it reads, and after how many more requests for an event
the client asks the loop to stop, if it does. -/
structure Stream where
  channel : Channel := {}
  stopAfter : Option Nat := none

def Stream.close (stream : Stream) : Stream :=
  { stream with channel := stream.channel.close }

def Stream.countDown (stream : Stream) : Stream :=
  { stream with
    stopAfter := match stream.stopAfter with
      | some (n + 1) => some n
      | _ => none }

inductive Outcome where
  | refused (reason : String)
  | opened (stream : Stream)

structure Attempt where
  outcome : Outcome
  stops : Bool := false

def Attempt.silent : Attempt where
  outcome := .opened {}

end IdentityMap
