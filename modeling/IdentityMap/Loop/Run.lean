import IdentityMap.Loop.Step

/-!
# Runs of the loop

A run is started and stopped by the owner. In between the worker goes on until it has nothing
more to do, or until the owner has seen what it waits for. Every step uses up some of the script
or of the stream at hand, so a number of steps that suffices can be told in advance.
-/

namespace IdentityMap

namespace Loop

/-! ## Numbers of steps -/

def attemptCost (attempt : Attempt) : Nat :=
  match attempt.outcome with
  | .refused _ => 2
  | .opened stream => 2 * stream.channel.queue.length + 4

def scriptCost : List Attempt → Nat
  | [] => 0
  | attempt :: rest => attemptCost attempt + scriptCost rest

def stageCost : Stage → Nat
  | .asking stream _ => 2 * stream.channel.queue.length + 4
  | .waiting stream _ => 2 * stream.channel.queue.length + 3
  | .pausing => 2
  | .deciding => 1
  | .ended | .aborted _ => 0

/-- An upper bound for the steps until the worker has nothing more to do: those of its stage,
those of the script, and those of a silent stream. -/
def budget (loop : Loop) : Nat :=
  (loop.worker.elim 0 fun worker => stageCost worker.stage) +
    scriptCost loop.script + attemptCost .silent

/-! ## Going on -/

variable [Dialect]

def advance (setup : Setup) (condition : Loop → Bool) : Nat → Loop → Loop
  | 0, loop => loop
  | steps + 1, loop =>
    if condition loop then loop
    else
      match loop.step setup with
      | some loop => advance setup condition steps loop
      | none => loop

def settleUntil (setup : Setup) (condition : Loop → Bool) (loop : Loop) : Loop :=
  loop.advance setup condition loop.budget

def settle (setup : Setup) (loop : Loop) : Loop :=
  loop.settleUntil setup fun _ => false

/-! ## Calls of the owner -/

/-- Starts a run with a fresh worker whose delays use the given seed. A loop that runs is left
alone. -/
def start (setup : Setup) (seed : UInt32) (loop : Loop) : Loop :=
  let loop := loop.record [.start loop.state]
  if loop.running then loop
  else
    let loop := { loop with running := true }
    match loop.worker with
    | none =>
      { loop with worker := some { backoff := .ofPolicy setup.options.backoff seed } }
    | some worker => loop.goTo worker (.aborted .workerReplaced)

def join (loop : Loop) : Loop :=
  match loop.worker.map Worker.stage with
  | some .ended => { loop with worker := none }
  | _ => loop

/-- Stops the loop and waits until its worker has ended. -/
def stop (setup : Setup) (loop : Loop) : Loop :=
  ((loop.record [.stop loop.state]).requestStop.settle setup).join

end Loop

end IdentityMap
