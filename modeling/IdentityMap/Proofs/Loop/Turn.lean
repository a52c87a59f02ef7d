import IdentityMap.Loop.Run
import IdentityMap.Proofs.Serving

/-!
# The turns of a worker

While the sink takes every report, a step of the worker is one of a few turns.  They are listed
here once, each with the condition under which it is taken and with everything it changes.
`turn_of_step` says that there are no others, so that properties of runs go by cases on the
turns and do not open the step function again.
-/

namespace IdentityMap

/-- The attempt at a position of a script.  Beyond the end every attempt is silent. -/
def attemptAt (script : List Attempt) (position : Nat) : Attempt :=
  script[position]?.getD .silent

@[simp] theorem attemptAt_drop (script : List Attempt) (position : Nat) :
    attemptAt (script.drop position) 0 = attemptAt script position := by
  simp [attemptAt]

def FatalHandler.items (reason : String) : FatalHandler → List Item
  | .absent => []
  | .observing | .stopping => [.fatal reason .failed]

def Event.items [Dialect] (event : Event) (tracked : String) (store : Store) : List Item :=
  (event.handle .accepting tracked store).counted.map .counted

/-- Whether a worker gives up after a refusal, with the failures it has counted then and with the
words it finds for them. -/
inductive GivesUp (limit : UInt32) (worker : Worker) (reason : String) : UInt32 → String → Prop
  | first (hconnected : worker.connected = false) :
      GivesUp limit worker reason worker.failures ("initial watch failed: " ++ upToNul reason)
  | reopening (hconnected : worker.connected = true) (hlimit : 0 < limit)
      (hreached : limit ≤ worker.failures + 1) :
      GivesUp limit worker reason (worker.failures + 1)
        ("watch could not be re-established after " ++ toString (worker.failures + 1).toNat ++
          " attempts: " ++ upToNul reason)

/-- The turns of a worker with a sink that takes every report. -/
inductive Turn [Dialect] (setup : Setup) (loop : Loop) (worker : Worker) : Loop → Prop
  /-- A request to stop is seen before another watch is opened. -/
  | halt (hstage : worker.stage = .deciding) (hrunning : loop.running = false) :
      Turn setup loop worker
        { loop with state := .stopped, worker := some { worker with stage := .ended } }
  /-- An attempt is refused, and it was the last one. -/
  | giveUp {reason message : String} {failures : UInt32} (hstage : worker.stage = .deciding)
      (hrunning : loop.running = true)
      (houtcome : (attemptAt loop.script 0).outcome = .refused reason)
      (hfatal : GivesUp setup.options.maxReopenAttempts worker reason failures message) :
      Turn setup loop worker
        { loop with
          script := loop.script.tail
          state := .failed
          running := !(attemptAt loop.script 0).stops && setup.handler != .stopping
          fatalError := message
          worker := some { worker with failures := failures, stage := .ended }
          trace := loop.trace ++ ([.opening setup.options.ns setup.options.name .disconnected,
            .health .fail] ++ setup.handler.items message) }
  /-- An attempt is refused, and there will be another. -/
  | retry {reason : String} (hstage : worker.stage = .deciding) (hrunning : loop.running = true)
      (houtcome : (attemptAt loop.script 0).outcome = .refused reason)
      (hconnected : worker.connected = true)
      (hallowed : 0 < setup.options.maxReopenAttempts →
        worker.failures + 1 < setup.options.maxReopenAttempts) :
      Turn setup loop worker
        { loop with
          script := loop.script.tail
          state := .disconnected
          running := !(attemptAt loop.script 0).stops
          worker := some
            { worker with
              failures := worker.failures + 1
              backoff := worker.backoff.next.2
              stage := .pausing }
          trace := loop.trace ++ [.opening setup.options.ns setup.options.name .disconnected,
            .health .fail, .paused worker.backoff.next.1] }
  | opened {stream : Stream} (hstage : worker.stage = .deciding) (hrunning : loop.running = true)
      (houtcome : (attemptAt loop.script 0).outcome = .opened stream) :
      Turn setup loop worker
        { loop with
          script := loop.script.tail
          state := .watching
          running := !(attemptAt loop.script 0).stops
          worker := some
            { worker with
              connected := true
              failures := 0
              stage := .asking
                (if (attemptAt loop.script 0).stops then stream.close else stream) 0 }
          trace := loop.trace ++ [.opening setup.options.ns setup.options.name .disconnected,
            .health .success, .counted .watchOpens] }
  | ask {stream : Stream} {delivered : Nat} (hstage : worker.stage = .asking stream delivered) :
      Turn setup loop worker
        { loop with
          running := loop.running && stream.stopAfter != some 0
          worker := some
            { worker with
              stage := .waiting (if stream.stopAfter = some 0 then stream.countDown.close
                else stream.countDown) delivered }
          trace := loop.trace ++ [.asked loop.state loop.store.stats] }
  /-- The stream gives an event, which is handled. -/
  | receive {stream : Stream} {delivered : Nat} {event : Event} {rest : List Event}
      (hstage : worker.stage = .waiting stream delivered)
      (hqueue : stream.channel.queue = event :: rest) :
      Turn setup loop worker
        { loop with
          store := (event.handle .accepting setup.options.name loop.store).store
          worker := some
            { worker with
              stage := .asking { stream with channel := { stream.channel with queue := rest } }
                (delivered + 1) }
          trace := loop.trace ++
            (.received (some event) :: event.items setup.options.name loop.store) }
  /-- The stream has ended and a stop was requested. -/
  | leave {stream : Stream} {delivered : Nat} (hstage : worker.stage = .waiting stream delivered)
      (hqueue : stream.channel.queue = []) (hclosed : stream.channel.closed = true)
      (hrunning : loop.running = false) :
      Turn setup loop worker
        { loop with
          state := .stopped
          worker := some { worker with stage := .ended }
          trace := loop.trace ++ [.received none, .counted .watchCloses] }
  /-- The stream has ended and another watch will be opened. -/
  | reopen {stream : Stream} {delivered : Nat} (hstage : worker.stage = .waiting stream delivered)
      (hqueue : stream.channel.queue = []) (hclosed : stream.channel.closed = true)
      (hrunning : loop.running = true) {backoff : Backoff Float}
      (hbackoff : backoff = if 0 < delivered then worker.backoff.reset else worker.backoff) :
      Turn setup loop worker
        { loop with
          worker := some { worker with backoff := backoff.next.2, stage := .pausing }
          trace := loop.trace ++
            [.received none, .counted .watchCloses, .paused backoff.next.1] }
  | wake (hstage : worker.stage = .pausing) :
      Turn setup loop worker { loop with worker := some { worker with stage := .deciding } }

namespace Loop

variable {setup : Setup} {loop next : Loop} {worker : Worker}

/-! ## Opening a watch -/

def opening (setup : Setup) (loop : Loop) : Loop :=
  { loop with
    script := loop.script.tail
    state := .disconnected
    running := !(attemptAt loop.script 0).stops
    trace := loop.trace ++ [.opening setup.options.ns setup.options.name .disconnected] }

theorem fail_eq (reason : String) :
    loop.fail setup worker reason =
      { loop with
        state := .failed
        running := loop.running && setup.handler != .stopping
        fatalError := reason
        worker := some { worker with stage := .ended }
        trace := loop.trace ++ setup.handler.items reason } := by
  unfold Loop.fail
  cases setup.handler <;> simp [FatalHandler.items, record, requestStop, goTo]

theorem count_accepting (hsink : setup.sink = .accepting) (counter : Counter)
    (go : Loop → Loop) :
    loop.count setup worker counter go = go (loop.record [.counted counter]) := by
  simp [count, hsink]

theorem openWatch_eq (hworker : loop.worker = some worker) (hstage : worker.stage = .deciding)
    (hrunning : loop.running = true) :
    loop.openWatch setup worker =
      match (attemptAt loop.script 0).outcome with
      | .refused reason => (loop.opening setup).afterRefusal setup worker (upToNul reason)
      | .opened stream => (loop.opening setup).afterOpening setup worker stream := by
  have hkept : { worker with stage := worker.stage.closeStream } = worker := by
    rw [hstage, Stage.closeStream, ← hstage] <;> simp
  have hhead : loop.script.head?.getD .silent = attemptAt loop.script 0 := by
    rw [attemptAt, List.head?_eq_getElem?]
  simp only [openWatch, hhead, opening]
  cases (attemptAt loop.script 0).outcome <;> cases (attemptAt loop.script 0).stops <;>
    simp [record, requestStop, hworker, hrunning, hkept]

variable [Dialect]

theorem turn_openWatch (hsink : setup.sink = .accepting) (hworker : loop.worker = some worker)
    (hstage : worker.stage = .deciding) (hrunning : loop.running = true) :
    Turn setup loop worker (loop.openWatch setup worker) := by
  rw [openWatch_eq hworker hstage hrunning]
  cases houtcome : (attemptAt loop.script 0).outcome with
  | refused reason =>
      by_cases hconnected : worker.connected = true
      · by_cases hspent : 0 < setup.options.maxReopenAttempts ∧
            setup.options.maxReopenAttempts ≤ worker.failures + 1
        · have hturn : Turn setup loop worker _ := .giveUp hstage hrunning houtcome
            (.reopening hconnected hspent.1 hspent.2)
          simpa [afterRefusal, hconnected, hspent, fail_eq, opening, record,
            String.append_assoc] using hturn
        · have hturn : Turn setup loop worker _ := .retry hstage hrunning houtcome hconnected
            (fun hlimit => UInt32.not_le.1 fun hle => hspent ⟨hlimit, hle⟩)
          simpa [afterRefusal, hconnected, hspent, pause, opening, record, goTo] using hturn
      · have hturn : Turn setup loop worker _ := .giveUp hstage hrunning houtcome
          (.first (by simpa using hconnected))
        simpa [afterRefusal, hconnected, fail_eq, opening, record] using hturn
  | opened stream =>
      have hturn : Turn setup loop worker _ := .opened hstage hrunning houtcome
      cases hstops : (attemptAt loop.script 0).stops <;>
        simpa [afterOpening, count_accepting hsink, opening, record, goTo, hstops] using hturn

/-! ## The other stages -/

theorem turn_ask {stream : Stream} {delivered : Nat}
    (hstage : worker.stage = .asking stream delivered) :
    Turn setup loop worker (loop.ask worker stream delivered) := by
  have hturn : Turn setup loop worker _ := .ask hstage
  by_cases hstop : stream.stopAfter = some 0
  · simpa [ask, hstop, record, goTo, requestStop, Stage.closeStream] using hturn
  · have hgoes : (stream.stopAfter != some 0) = true := by simpa using hstop
    simpa [ask, hstop, hgoes, record, goTo] using hturn

theorem turn_receive (hsink : setup.sink = .accepting) {stream : Stream} {delivered : Nat}
    {event : Event} {rest : List Event} (hstage : worker.stage = .waiting stream delivered)
    (hqueue : stream.channel.queue = event :: rest) :
    Turn setup loop worker
      (loop.receive setup worker
        { stream with channel := { stream.channel with queue := rest } } delivered event) := by
  have hturn : Turn setup loop worker _ := .receive hstage hqueue
  simpa [receive, hsink, record, goTo, Event.items] using hturn

theorem turn_release (hsink : setup.sink = .accepting) {stream : Stream} {delivered : Nat}
    (hstage : worker.stage = .waiting stream delivered) (hqueue : stream.channel.queue = [])
    (hclosed : stream.channel.closed = true) :
    Turn setup loop worker (loop.release setup worker delivered) := by
  cases hrunning : loop.running with
  | false =>
      have hturn : Turn setup loop worker _ := .leave hstage hqueue hclosed hrunning
      simpa [release, count_accepting hsink, record, hrunning, halt, goTo] using hturn
  | true =>
      have hturn : Turn setup loop worker _ := .reopen hstage hqueue hclosed hrunning rfl
      by_cases hdelivered : 0 < delivered <;>
        simpa [release, count_accepting hsink, record, hrunning, pause, goTo, hdelivered]
          using hturn

/-! ## Steps are turns -/

theorem turn_of_step (hsink : setup.sink = .accepting) (h : loop.step setup = some next) :
    ∃ worker, loop.worker = some worker ∧ Turn setup loop worker next := by
  cases hworker : loop.worker with
  | none => simp [step, hworker] at h
  | some worker =>
      refine ⟨worker, rfl, ?_⟩
      cases hstage : worker.stage with
      | deciding =>
          cases hrunning : loop.running with
          | false =>
              obtain rfl : loop.halt worker = next := by
                simpa [step, hworker, hstage, hrunning] using h
              exact .halt hstage hrunning
          | true =>
              obtain rfl : loop.openWatch setup worker = next := by
                simpa [step, hworker, hstage, hrunning] using h
              exact turn_openWatch hsink hworker hstage hrunning
      | asking stream delivered =>
          obtain rfl : loop.ask worker stream delivered = next := by
            simpa [step, hworker, hstage] using h
          exact turn_ask hstage
      | waiting stream delivered =>
          cases hqueue : stream.channel.queue with
          | cons event rest =>
              obtain rfl : loop.receive setup worker
                  { stream with channel := { stream.channel with queue := rest } } delivered
                  event = next := by
                simpa [step, hworker, hstage, Channel.next, hqueue] using h
              exact turn_receive hsink hstage hqueue
          | nil =>
              cases hclosed : stream.channel.closed with
              | false => simp [step, hworker, hstage, Channel.next, hqueue, hclosed] at h
              | true =>
                  obtain rfl : loop.release setup worker delivered = next := by
                    simpa [step, hworker, hstage, Channel.next, hqueue, hclosed] using h
                  exact turn_release hsink hstage hqueue hclosed
      | pausing =>
          obtain rfl : loop.goTo worker .deciding = next := by
            simpa [step, hworker, hstage] using h
          exact .wake hstage
      | ended => simp [step, hworker, hstage] at h
      | aborted cause => simp [step, hworker, hstage] at h

end Loop

end IdentityMap
