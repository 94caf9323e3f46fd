import MetricRing.Export.Run
/-!
# The export pipeline

`run` (`Export.Run`) fetches and writes the work items one after another. The program itself
runs an export on several threads. A feeder puts the work items into a bounded queue; `w` workers (at least one)
take items from it, ask the servers of each in order until one serves it, and put every metric
they download into a second bounded queue; the calling thread, the serializer, writes what
arrives into the sink. Fetch failures stay with the worker that met them.

Each queue holds at most `queueCapacity` messages. A send blocks while its queue is full and
fails once every receiver of the queue is gone; a receive takes the oldest message, blocks while
the queue is empty and some sender remains, and ends its party's loop once the queue is empty
and every sender is gone.

This module states that system as a step function of its parties (`Party`), one step per queue
operation, download request or sink call, so that every interleaving of the threads is a
schedule, a list of parties each taking its next step (`Pipeline.State.runSchedule`):

* the feeder sends the items in order and stops, dropping its sender, once every item is sent
  or once a send fails because every worker has stopped;
* a worker takes an item, asks its servers in order until one serves it, and then either sends
  the metric to the serializer or records the failure with every attempt; it stops, dropping
  both its ends, when the work queue is empty and the feeder has stopped, or when a send fails
  because the serializer has stopped;
* the serializer receives metrics and writes each into the sink until the data queue is empty
  and every worker has stopped, or until a write fails. It then waits for the other threads
  and, unless a write failed, finishes the sink; the report lists the workers' failures worker
  by worker.

The sink is any `MetricSink`: a state, a write that may fail and a finish that may fail. The
trace (`Pipeline.Event`) records what the outside world sees: items taken, requests made and
sink calls.

What the model leaves out: logging, and the order in which the calling thread spawns the other
threads and drops its own copies of the queue ends. Until it has dropped them, no send or
receive can fail and the serializer has not started, so a thread not yet spawned behaves as one
not yet scheduled. Messages left in a queue whose receivers are gone stay in the model's queue,
where nothing reads them.
-/

namespace MetricRing

/-- The single writer of an export: a state `σ`, a write that may fail, and a finish that
consumes the state and gives the output `ω`. -/
structure MetricSink (σ ω : Type) where
  write : σ → MetricData → Except Archive.ArchiveError σ
  finish : σ → Except Archive.ArchiveError ω

/-- The tar archive as a sink. -/
def Archive.TarSink.asSink : MetricSink Archive.TarSink Archive.Output :=
  ⟨Archive.TarSink.write, Archive.TarSink.finish⟩

namespace Pipeline

/-- How many messages each of the two queues holds. -/
def queueCapacity : Nat := 25

/-- What a party did that the outside world sees. -/
inductive Event where
  /-- Worker `worker` took `item` from the work queue. -/
  | take (worker : Nat) (item : WorkItem)
  /-- Worker `worker` asked `server` for the metric `name`. -/
  | fetch (worker : Nat) (server name : String)
  /-- The serializer wrote a metric into the sink; `failed` is the error of a failed write. -/
  | write (m : MetricData) (failed : Option Archive.ArchiveError)
  /-- The serializer finished the sink; `failed` is the error of a failed finish. -/
  | finish (failed : Option Archive.ArchiveError)
deriving DecidableEq

/-- Where a worker is in its loop. -/
inductive Task where
  /-- Waiting for an item. -/
  | idle
  /-- Asking the servers `left` for `item`, after the failed `attempts`, newest first. -/
  | fetching (item : WorkItem) (left : List String) (attempts : List (String × FetchError))
  /-- Holding a downloaded metric for the serializer. -/
  | sending (m : MetricData)
  /-- Stopped, both its queue ends dropped. -/
  | stopped
deriving DecidableEq

/-- The worker has stopped. -/
def Task.isStopped : Task → Bool
  | stopped => true
  | _ => false

/-- Where a worker goes once `server` has answered its request for `item`: on to sending the
metric it got, or on to the servers `left` with one more failed attempt. -/
def Task.afterFetch (item : WorkItem) (left : List String) (attempts : List (String × FetchError))
    (server : String) : Except FetchError MetricData → Task
  | .ok m => .sending m
  | .error e => .fetching item left ((server, e) :: attempts)

/-- A worker: where it is, and the failures it has recorded, oldest first. -/
structure Worker where
  task : Task
  failures : List FetchFailure
deriving DecidableEq

/-- Where the calling thread is. -/
inductive Serializer (σ ω : Type) where
  /-- Receiving metrics, with the sink and the number written so far. -/
  | receiving (sink : σ) (written : Nat)
  /-- Holding a received metric, about to write it. -/
  | writing (sink : σ) (written : Nat) (m : MetricData)
  /-- Done serializing, its receiver dropped, with the number written or the error of the
  failed write; waiting for the other threads. -/
  | joining (sink : σ) (written : Except Archive.ArchiveError Nat)
  /-- Returned from the export. -/
  | returned (result : Except TarError (ω × Report))

/-- The serializer still holds the data queue's receiver. -/
def Serializer.receives {σ ω : Type} : Serializer σ ω → Bool
  | receiving .. => true
  | writing .. => true
  | _ => false

/-- The whole export: the items the feeder has still to send (`none` once it has stopped), the
work queue, the workers in the order they were spawned, the data queue, the calling thread,
the number of items, and the events so far, oldest first. -/
structure State (σ ω : Type) where
  feeder : Option (List WorkItem)
  work : List WorkItem
  workers : List Worker
  data : List MetricData
  caller : Serializer σ ω
  attempted : Nat
  trace : List Event

/-- The threads of an export. -/
inductive Party where
  | feeder
  | worker (i : Nat)
  | caller
deriving DecidableEq

namespace State

variable {σ ω : Type}

/-- An export about to start: the feeder holds every item and `max workers 1` workers wait. -/
def start (work : List WorkItem) (sink : σ) (workers : Nat) : State σ ω where
  feeder := some work
  work := []
  workers := List.replicate (max workers 1) ⟨.idle, []⟩
  data := []
  caller := .receiving sink 0
  attempted := work.length
  trace := []

/-- Every worker has stopped: the work queue has no receiver left and the data queue no
sender. -/
def workersStopped (s : State σ ω) : Bool :=
  s.workers.all (·.task.isStopped)

/-- What the export returned, once it has. -/
def result (s : State σ ω) : Option (Except TarError (ω × Report)) :=
  match s.caller with
  | .returned r => some r
  | _ => none

/-- Worker `i` moves to `w`. -/
def setWorker (s : State σ ω) (i : Nat) (w : Worker) : State σ ω :=
  { s with workers := s.workers.set i w }

/-- The feeder's next step: it sends its next item, or stops. -/
def feederStep (s : State σ ω) : Option (State σ ω) :=
  match s.feeder with
  | none => none
  | some [] => some { s with feeder := none }
  | some (item :: rest) =>
    -- every receiver is gone: the send fails and the rest is abandoned
    if s.workersStopped then some { s with feeder := none }
    else if s.work.length < queueCapacity then
      some { s with feeder := some rest, work := s.work ++ [item] }
    else none

/-- The next step of worker `i`. -/
def workerStep (src : MetricSource) (s : State σ ω) (i : Nat) : Option (State σ ω) :=
  match s.workers[i]? with
  | none => none
  | some w =>
    match w.task with
    | .idle =>
      match s.work with
      | item :: rest =>
        some { s.setWorker i { w with task := .fetching item item.servers [] } with
          work := rest, trace := s.trace ++ [.take i item] }
      | [] => if s.feeder.isNone then some (s.setWorker i { w with task := .stopped }) else none
    | .fetching item (server :: left) attempts =>
      let task := Task.afterFetch item left attempts server (src.fetch server item.name)
      some { s.setWorker i { w with task } with trace := s.trace ++ [.fetch i server item.name] }
    | .fetching item [] attempts =>
      some (s.setWorker i ⟨.idle, w.failures ++ [⟨item.name, attempts.reverse⟩]⟩)
    | .sending m =>
      if s.caller.receives then
        if s.data.length < queueCapacity then
          some { s.setWorker i { w with task := .idle } with data := s.data ++ [m] }
        else none
      -- the serializer is gone: the send fails and the worker stops
      else some (s.setWorker i { w with task := .stopped })
    | .stopped => none

/-- The calling thread's next step. -/
def callerStep (sink : MetricSink σ ω) (s : State σ ω) : Option (State σ ω) :=
  match s.caller with
  | .receiving k n =>
    match s.data with
    | m :: rest => some { s with data := rest, caller := .writing k n m }
    | [] => if s.workersStopped then some { s with caller := .joining k (.ok n) } else none
  | .writing k n m =>
    match sink.write k m with
    | .ok k' => some { s with caller := .receiving k' (n + 1), trace := s.trace ++ [.write m none] }
    | .error e =>
      some { s with caller := .joining k (.error e), trace := s.trace ++ [.write m (some e)] }
  | .joining k written =>
    if s.workersStopped && s.feeder.isNone then
      match written with
      | .error e => some { s with caller := .returned (.error (.archive e)) }
      | .ok n =>
        match sink.finish k with
        | .ok out =>
          some { s with
            caller := .returned (.ok (out, ⟨s.attempted, n, s.workers.flatMap (·.failures)⟩))
            trace := s.trace ++ [.finish none] }
        | .error e =>
          some { s with caller := .returned (.error (.archive e)), trace := s.trace ++ [.finish (some e)] }
    else none
  | .returned _ => none

/-- The next step of a party, `none` when it cannot take one. -/
def step (src : MetricSource) (sink : MetricSink σ ω) (s : State σ ω) : Party → Option (State σ ω)
  | .feeder => s.feederStep
  | .worker i => s.workerStep src i
  | .caller => s.callerStep sink

/-- The state after the parties of a schedule take their steps in order, `none` when one of
them cannot. -/
def runSchedule (src : MetricSource) (sink : MetricSink σ ω) (s : State σ ω) :
    List Party → Option (State σ ω)
  | [] => some s
  | p :: ps => (s.step src sink p).bind fun s' => s'.runSchedule src sink ps

end State

end Pipeline

end MetricRing
