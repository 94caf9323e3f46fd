import MetricRing.Export.Pipeline
/-!
# What each step of an export can do

The views of a trace the laws of the export are stated in (`takes`, `byWorker`, `written`,
`sinkCalls`), and, once for every party, everything one of its steps can do: an inversion lemma
per party (`State.feederStep_eq_some`, `State.workerStep_eq_some`, `State.callerStep_eq_some`)
listing each enabled step with the state it leads to. The invariants of the export are proved
from these lists, never from the step functions. A run of a schedule keeps every property that
each step keeps (`State.runSchedule_invariant`), and a measure that each step lowers bounds the
length of every schedule (`State.length_add_le_of_runSchedule`).
-/

namespace MetricRing.Pipeline

namespace Event

/-- The worker and item of a take. -/
def take? : Event → Option (Nat × WorkItem)
  | take i item => some (i, item)
  | _ => none

/-- The worker an event is by, if it is a worker's. -/
def worker? : Event → Option Nat
  | take i _ => some i
  | fetch i _ _ => some i
  | _ => none

/-- The metric of a write that went through. -/
def written? : Event → Option MetricData
  | write m none => some m
  | _ => none

/-- The event is a call on the sink. -/
def isSinkCall : Event → Bool
  | write .. => true
  | finish _ => true
  | _ => false

/-- The error of a failed sink call. -/
def failure : Event → Option Archive.ArchiveError
  | write _ failed => failed
  | finish failed => failed
  | _ => none

variable {i : Nat} {item : WorkItem} {server name : String} {m : MetricData}
  {failed : Option Archive.ArchiveError}

@[simp] theorem take?_take : (take i item).take? = some (i, item) := rfl

@[simp] theorem take?_fetch : (fetch i server name).take? = none := rfl

@[simp] theorem take?_write : (write m failed).take? = none := rfl

@[simp] theorem take?_finish : (finish failed).take? = none := rfl

@[simp] theorem written?_take : (take i item).written? = none := rfl

@[simp] theorem written?_fetch : (fetch i server name).written? = none := rfl

@[simp] theorem written?_write_none : (write m none).written? = some m := rfl

@[simp] theorem written?_write_some (e : Archive.ArchiveError) :
    (write m (some e)).written? = none := rfl

@[simp] theorem written?_finish : (finish failed).written? = none := rfl

end Event

/-- The items taken, each with the worker that took it, in the order taken. -/
def takes (trace : List Event) : List (Nat × WorkItem) :=
  trace.filterMap Event.take?

/-- The events of worker `i`, in order. -/
def byWorker (i : Nat) (trace : List Event) : List Event :=
  trace.filter (·.worker? == some i)

/-- The metrics written into the sink, in order. -/
def written (trace : List Event) : List MetricData :=
  trace.filterMap Event.written?

/-- The calls made on the sink, in order. -/
def sinkCalls (trace : List Event) : List Event :=
  trace.filter Event.isSinkCall

@[simp] theorem takes_append (t t' : List Event) : takes (t ++ t') = takes t ++ takes t' :=
  List.filterMap_append

@[simp] theorem byWorker_append (i : Nat) (t t' : List Event) :
    byWorker i (t ++ t') = byWorker i t ++ byWorker i t' :=
  List.filter_append _ _

@[simp] theorem written_append (t t' : List Event) : written (t ++ t') = written t ++ written t' :=
  List.filterMap_append

@[simp] theorem sinkCalls_append (t t' : List Event) :
    sinkCalls (t ++ t') = sinkCalls t ++ sinkCalls t' :=
  List.filter_append _ _

@[simp] theorem takes_singleton (e : Event) : takes [e] = e.take?.toList := by
  cases e <;> rfl

@[simp] theorem byWorker_singleton (i : Nat) (e : Event) :
    byWorker i [e] = if e.worker? = some i then [e] else [] := by
  simp only [byWorker, List.filter_cons, List.filter_nil, beq_iff_eq]

@[simp] theorem written_singleton (e : Event) : written [e] = e.written?.toList := by
  cases e with
  | write m failed => cases failed <;> rfl
  | _ => rfl

@[simp] theorem sinkCalls_singleton (e : Event) :
    sinkCalls [e] = if e.isSinkCall then [e] else [] := by
  cases e <;> rfl

@[simp] theorem takes_nil : takes [] = [] := rfl

@[simp] theorem byWorker_nil (i : Nat) : byWorker i [] = [] := rfl

@[simp] theorem written_nil : written [] = [] := rfl

@[simp] theorem sinkCalls_nil : sinkCalls [] = [] := rfl

namespace State

variable {σ ω : Type} {src : MetricSource} {sink : MetricSink σ ω} {s s' : State σ ω}

@[simp] theorem setWorker_workers (i : Nat) (w : Worker) :
    (s.setWorker i w).workers = s.workers.set i w := rfl

@[simp] theorem setWorker_feeder (i : Nat) (w : Worker) : (s.setWorker i w).feeder = s.feeder :=
  rfl

@[simp] theorem setWorker_work (i : Nat) (w : Worker) : (s.setWorker i w).work = s.work := rfl

@[simp] theorem setWorker_data (i : Nat) (w : Worker) : (s.setWorker i w).data = s.data := rfl

@[simp] theorem setWorker_caller (i : Nat) (w : Worker) : (s.setWorker i w).caller = s.caller :=
  rfl

@[simp] theorem setWorker_attempted (i : Nat) (w : Worker) :
    (s.setWorker i w).attempted = s.attempted := rfl

@[simp] theorem setWorker_trace (i : Nat) (w : Worker) : (s.setWorker i w).trace = s.trace := rfl

/-! ### The feeder -/

/-- The feeder either stops, when it has sent everything or every worker has stopped, or sends
its next item into a work queue with room. -/
theorem feederStep_eq_some (h : s.feederStep = some s') :
    (∃ rest, s.feeder = some rest ∧ (rest = [] ∨ s.workersStopped = true) ∧
        s' = { s with feeder := none }) ∨
      ∃ item rest, s.feeder = some (item :: rest) ∧ s.workersStopped = false ∧
        s.work.length < queueCapacity ∧
        s' = { s with feeder := some rest, work := s.work ++ [item] } := by
  unfold feederStep at h
  split at h
  · cases h
  · cases h
    exact .inl ⟨[], ‹_›, .inl rfl, rfl⟩
  · rename_i item rest hfeed
    split at h
    · cases h
      exact .inl ⟨item :: rest, hfeed, .inr ‹_›, rfl⟩
    · split at h
      · cases h
        exact .inr ⟨item, rest, hfeed, Bool.eq_false_iff.2 ‹_›, ‹_›, rfl⟩
      · cases h

/-! ### A worker -/

/-- A worker takes the oldest item, stops once nothing is left to take, asks its next server,
records the failure of an item no server served, sends a metric to the serializer, or stops
because the serializer has. -/
theorem workerStep_eq_some {i : Nat} (h : s.workerStep src i = some s') :
    ∃ w, s.workers[i]? = some w ∧
      ((w.task = .idle ∧ ∃ item rest, s.work = item :: rest ∧
          s' = { s.setWorker i ⟨.fetching item item.servers [], w.failures⟩ with
            work := rest, trace := s.trace ++ [.take i item] }) ∨
        (w.task = .idle ∧ s.work = [] ∧ s.feeder = none ∧
          s' = s.setWorker i ⟨.stopped, w.failures⟩) ∨
        (∃ item server left attempts, w.task = .fetching item (server :: left) attempts ∧
          s' = { s.setWorker i
            ⟨Task.afterFetch item left attempts server (src.fetch server item.name), w.failures⟩
            with trace := s.trace ++ [.fetch i server item.name] }) ∨
        (∃ item attempts, w.task = .fetching item [] attempts ∧
          s' = s.setWorker i ⟨.idle, w.failures ++ [⟨item.name, attempts.reverse⟩]⟩) ∨
        (∃ m, w.task = .sending m ∧ s.caller.receives = true ∧
          s.data.length < queueCapacity ∧
          s' = { s.setWorker i ⟨.idle, w.failures⟩ with data := s.data ++ [m] }) ∨
        (∃ m, w.task = .sending m ∧ s.caller.receives = false ∧
          s' = s.setWorker i ⟨.stopped, w.failures⟩)) := by
  unfold workerStep at h
  split at h
  · cases h
  · rename_i w hw
    refine ⟨w, hw, ?_⟩
    split at h
    · -- waiting for an item
      rename_i htask
      split at h
      · rename_i item rest hwork
        cases h
        exact .inl ⟨htask, item, rest, hwork, rfl⟩
      · rename_i hwork
        split at h
        · cases h
          exact .inr (.inl ⟨htask, hwork, Option.isNone_iff_eq_none.1 ‹_›, rfl⟩)
        · cases h
    · rename_i item server left attempts htask
      cases h
      exact .inr (.inr (.inl ⟨item, server, left, attempts, htask, rfl⟩))
    · rename_i item attempts htask
      cases h
      exact .inr (.inr (.inr (.inl ⟨item, attempts, htask, rfl⟩)))
    · -- holding a metric
      rename_i m htask
      split at h
      · split at h
        · cases h
          exact .inr (.inr (.inr (.inr (.inl ⟨m, htask, ‹_›, ‹_›, rfl⟩))))
        · cases h
      · cases h
        exact .inr (.inr (.inr (.inr (.inr ⟨m, htask, Bool.eq_false_iff.2 ‹_›, rfl⟩))))
    · cases h

/-! ### The calling thread -/

/-- The calling thread receives a metric, ends serializing once the data queue is empty and
every worker has stopped, writes the metric it holds, or returns once the other threads are
gone, finishing the sink unless a write failed. -/
theorem callerStep_eq_some (h : s.callerStep sink = some s') :
    (∃ k n m rest, s.caller = .receiving k n ∧ s.data = m :: rest ∧
        s' = { s with data := rest, caller := .writing k n m }) ∨
      (∃ k n, s.caller = .receiving k n ∧ s.data = [] ∧ s.workersStopped = true ∧
        s' = { s with caller := .joining k (.ok n) }) ∨
      (∃ k n m k', s.caller = .writing k n m ∧ sink.write k m = .ok k' ∧
        s' = { s with caller := .receiving k' (n + 1), trace := s.trace ++ [.write m none] }) ∨
      (∃ k n m e, s.caller = .writing k n m ∧ sink.write k m = .error e ∧
        s' = { s with caller := .joining k (.error e), trace := s.trace ++ [.write m (some e)] }) ∨
      (∃ k e, s.caller = .joining k (.error e) ∧ s.workersStopped = true ∧ s.feeder = none ∧
        s' = { s with caller := .returned (.error (.archive e)) }) ∨
      (∃ k n out, s.caller = .joining k (.ok n) ∧ s.workersStopped = true ∧ s.feeder = none ∧
        sink.finish k = .ok out ∧
        s' = { s with
          caller := .returned (.ok (out, ⟨s.attempted, n, s.workers.flatMap (·.failures)⟩))
          trace := s.trace ++ [.finish none] }) ∨
      (∃ k n e, s.caller = .joining k (.ok n) ∧ s.workersStopped = true ∧ s.feeder = none ∧
        sink.finish k = .error e ∧
        s' = { s with
          caller := .returned (.error (.archive e))
          trace := s.trace ++ [.finish (some e)] }) := by
  unfold callerStep at h
  split at h
  · -- receiving
    rename_i k n hc
    split at h
    · rename_i m rest hd
      cases h
      exact .inl ⟨k, n, m, rest, hc, hd, rfl⟩
    · rename_i hd
      split at h
      · cases h
        exact .inr (.inl ⟨k, n, hc, hd, ‹_›, rfl⟩)
      · cases h
  · -- writing
    rename_i k n m hc
    split at h
    · rename_i k' hw
      cases h
      exact .inr (.inr (.inl ⟨k, n, m, k', hc, hw, rfl⟩))
    · rename_i e hw
      cases h
      exact .inr (.inr (.inr (.inl ⟨k, n, m, e, hc, hw, rfl⟩)))
  · -- joining
    rename_i k written hc
    split at h
    · rename_i hdone
      simp only [Bool.and_eq_true, Option.isNone_iff_eq_none] at hdone
      split at h
      · rename_i e
        cases h
        exact .inr (.inr (.inr (.inr (.inl ⟨k, e, hc, hdone.1, hdone.2, rfl⟩))))
      · rename_i n
        split at h
        · rename_i out hf
          cases h
          exact .inr (.inr (.inr (.inr (.inr (.inl ⟨k, n, out, hc, hdone.1, hdone.2, hf, rfl⟩)))))
        · rename_i e hf
          cases h
          exact .inr (.inr (.inr (.inr (.inr (.inr ⟨k, n, e, hc, hdone.1, hdone.2, hf, rfl⟩)))))
    · cases h
  · cases h

/-! ### Runs -/

@[simp] theorem runSchedule_nil : s.runSchedule src sink [] = some s := rfl

theorem runSchedule_cons (p : Party) (ps : List Party) :
    s.runSchedule src sink (p :: ps) = (s.step src sink p).bind (·.runSchedule src sink ps) :=
  rfl

/-- A property that every step keeps holds after every schedule. -/
theorem runSchedule_invariant (P : State σ ω → Prop)
    (hstep : ∀ s p s', P s → s.step src sink p = some s' → P s') :
    ∀ {s s' : State σ ω} {sched : List Party}, P s → s.runSchedule src sink sched = some s' → P s'
  | s, s', [], hs, h => by
    cases h
    exact hs
  | s, s', p :: ps, hs, h => by
    rw [runSchedule_cons] at h
    obtain ⟨t, ht, h⟩ := Option.bind_eq_some_iff.1 h
    exact runSchedule_invariant P hstep (hstep s p t hs ht) h

/-- A measure that every step lowers bounds how long a schedule can run. -/
theorem length_add_le_of_runSchedule (μ : State σ ω → Nat)
    (hstep : ∀ s p s', s.step src sink p = some s' → μ s' < μ s) :
    ∀ {s s' : State σ ω} {sched : List Party}, s.runSchedule src sink sched = some s' →
      sched.length + μ s' ≤ μ s
  | s, s', [], h => by
    cases h
    simp
  | s, s', p :: ps, h => by
    rw [runSchedule_cons] at h
    obtain ⟨t, ht, h⟩ := Option.bind_eq_some_iff.1 h
    have hlt := hstep s p t ht
    have := length_add_le_of_runSchedule μ hstep h
    simp only [List.length_cons]
    omega

end State

end MetricRing.Pipeline
