import IdentityMap.Loop.Basic
import IdentityMap.Wording

/-!
# Steps of the worker

A worker opens a watch, asks the stream for its events one by one, releases the stream when it
has ended, and waits before it opens the next. Each of these is a step. A report that the sink
refuses outside the handling of an event ends the process.
-/

namespace IdentityMap

namespace Loop

variable [Dialect]

/-! ## Opening a watch -/

/-- Goes on after a failure to open: the first watch must open, and so must one of the allowed
number of attempts to reopen, where zero allows any number. -/
def afterRefusal (setup : Setup) (loop : Loop) (worker : Worker) (reason : String) : Loop :=
  let loop := loop.record [.health .fail]
  if !worker.connected then loop.fail setup worker ("initial watch failed: " ++ reason)
  else
    let failures := worker.failures + 1
    let worker := { worker with failures := failures }
    if 0 < setup.options.maxReopenAttempts ∧ setup.options.maxReopenAttempts ≤ failures then
      loop.fail setup worker ("watch could not be re-established after " ++
        toString failures.toNat ++ " attempts: " ++ reason)
    else loop.pause worker

def afterOpening (setup : Setup) (loop : Loop) (worker : Worker) (stream : Stream) : Loop :=
  (loop.record [.health .success]).count setup worker .watchOpens fun loop =>
    let stream := if loop.running then stream else stream.close
    { loop with state := .watching }.goTo
      { worker with connected := true, failures := 0 } (.asking stream 0)

def openWatch (setup : Setup) (loop : Loop) (worker : Worker) : Loop :=
  let attempt := loop.script.head?.getD .silent
  let loop := { loop with state := .disconnected, script := loop.script.tail }
  let loop := loop.record [.opening setup.options.ns setup.options.name loop.state]
  let loop := if attempt.stops then loop.requestStop else loop
  match attempt.outcome with
  | .refused reason => loop.afterRefusal setup worker (upToNul reason)
  | .opened stream => loop.afterOpening setup worker stream

/-! ## Reading a stream -/

/-- Asks the stream for its next event. The client may ask the loop to stop first. -/
def ask (loop : Loop) (worker : Worker) (stream : Stream) (delivered : Nat) : Loop :=
  let loop := loop.record [.asked loop.state loop.store.stats]
  let loop := loop.goTo worker (.waiting stream.countDown delivered)
  if stream.stopAfter = some 0 then loop.requestStop else loop

def receive (setup : Setup) (loop : Loop) (worker : Worker) (stream : Stream) (delivered : Nat)
    (event : Event) : Loop :=
  let handling := event.handle setup.sink setup.options.name loop.store
  let handling := handling.contain setup.sink
  let loop := { loop with store := handling.store }
  let loop := loop.record (.received (some event) :: handling.counted.map .counted)
  match handling.refused with
  | none => loop.goTo worker (.asking stream (delivered + 1))
  | some counter => loop.goTo worker (.aborted (.uncaughtRefusal counter))

/-- Releases a stream that has ended. Only a stream that delivered something makes the delays
start over. -/
def release (setup : Setup) (loop : Loop) (worker : Worker) (delivered : Nat) : Loop :=
  (loop.record [.received none]).count setup worker .watchCloses fun loop =>
    if !loop.running then loop.halt worker
    else if 0 < delivered then loop.pause { worker with backoff := worker.backoff.reset }
    else loop.pause worker

/-! ## Steps of the worker -/

/-- What the worker does next. There is nothing to do without a worker, for one that has come
to its end, and while the stream has nothing to give. -/
def step (setup : Setup) (loop : Loop) : Option Loop := do
  let worker ← loop.worker
  match worker.stage with
  | .deciding =>
    if loop.running then some (loop.openWatch setup worker) else some (loop.halt worker)
  | .asking stream delivered => some (loop.ask worker stream delivered)
  | .waiting stream delivered =>
    match stream.channel.next with
    | (.event event, channel) =>
      some (loop.receive setup worker { stream with channel := channel } delivered event)
    | (.ended, _) => some (loop.release setup worker delivered)
    | (.blocked, _) => none
  | .pausing => some (loop.goTo worker .deciding)
  | .ended | .aborted _ => none

end Loop

end IdentityMap
