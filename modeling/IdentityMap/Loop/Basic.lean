import IdentityMap.Backoff.Basic
import IdentityMap.Loop.Attempt
import IdentityMap.Loop.Handling
import IdentityMap.Loop.State

/-!
# The sync loop

The loop keeps a store in step with a watched resource. Its worker opens a watch, handles the
events of the stream in order, and opens the next watch after a delay when the stream ends.
It gives up when the very first watch cannot be opened, or when reopening fails too often in a
row. Its owner starts and stops it; its client and its fatal handler may ask it to stop, too.

A loop is a value: the store, what the client is going to do, the worker, and a trace of
everything that can be seen from outside. `Loop.step` is what the worker does next; `Loop.start`
and `Loop.stop` are the calls of the owner.
-/

namespace IdentityMap

structure Options where
  ns : String := "kube-system"
  name : String := "aws-auth"
  backoff : Policy Float := {}
  maxReopenAttempts : UInt32 := 5

inductive FatalHandler where
  | absent
  | observing
  | stopping
  deriving DecidableEq, Repr

structure Setup where
  options : Options := {}
  sink : Sink := .accepting
  handler : FatalHandler := .absent

/-- What can be seen of a loop, with the state at that moment: the calls of its owner, its
requests to the client, its reports and its pauses. -/
inductive Item where
  | start (state : State)
  | stop (state : State)
  | opening (ns name : String) (state : State)
  | health (health : Health)
  | counted (counter : Counter)
  | asked (state : State) (stats : Stats)
  | received (event : Option Event)
  | paused (delay : Int64)
  | fatal (reason : String) (state : State)

/-- Why the whole process comes to an end: a refused report that nothing contains, or a worker
that was replaced before it was joined. -/
inductive Abort where
  | uncaughtRefusal (counter : Counter)
  | workerReplaced
  deriving DecidableEq, Repr

/-- Where a worker stands: about to open a watch, about to ask a stream for an event, within
that request, in a pause, or at its end. `delivered` counts the events of the stream. -/
inductive Stage where
  | deciding
  | asking (stream : Stream) (delivered : Nat)
  | waiting (stream : Stream) (delivered : Nat)
  | pausing
  | ended
  | aborted (cause : Abort)

/-- A worker: where it stands, its delays, whether a watch was opened in this run, and the
failures to reopen since. -/
structure Worker where
  stage : Stage := .deciding
  backoff : Backoff Float
  connected : Bool := false
  failures : UInt32 := 0

/-- A loop. Its worker is kept until the owner joins it. The script is what the client is going
to do. -/
structure Loop where
  store : Store := .empty
  script : List Attempt := []
  state : State := .disconnected
  running : Bool := false
  fatalError : String := ""
  worker : Option Worker := none
  trace : List Item := []

def Stage.closeStream : Stage → Stage
  | .asking stream delivered => .asking stream.close delivered
  | .waiting stream delivered => .waiting stream.close delivered
  | stage => stage

namespace Loop

/-! ## Small changes -/

def record (loop : Loop) (items : List Item) : Loop :=
  { loop with trace := loop.trace ++ items }

def goTo (loop : Loop) (worker : Worker) (stage : Stage) : Loop :=
  { loop with worker := some { worker with stage := stage } }

/-- Asks the loop to stop: no further watch is opened and the stream at hand is closed. -/
def requestStop (loop : Loop) : Loop :=
  { loop with
    running := false
    worker := loop.worker.map fun worker => { worker with stage := worker.stage.closeStream } }

def halt (loop : Loop) (worker : Worker) : Loop :=
  { loop with state := .stopped }.goTo worker .ended

def pause (loop : Loop) (worker : Worker) : Loop :=
  let (delay, backoff) := worker.backoff.next
  (loop.record [.paused delay]).goTo { worker with backoff := backoff } .pausing

def fail (setup : Setup) (loop : Loop) (worker : Worker) (reason : String) : Loop :=
  let loop := { loop with fatalError := reason, state := .failed }
  let loop := match setup.handler with
    | .absent => loop
    | .observing => loop.record [.fatal reason loop.state]
    | .stopping => (loop.record [.fatal reason loop.state]).requestStop
  loop.goTo worker .ended

/-- Reports an occasion and goes on, unless the sink refuses the report. -/
def count (setup : Setup) (loop : Loop) (worker : Worker) (counter : Counter)
    (next : Loop → Loop) : Loop :=
  if setup.sink.refuses counter then loop.goTo worker (.aborted (.uncaughtRefusal counter))
  else next (loop.record [.counted counter])

end Loop

end IdentityMap
