import MetricRing.Proofs.Export.Steps
/-!
# An export always returns

Whatever the sink does and however the threads interleave, an export cannot block and cannot
run forever, and its answer says how the sink fared.

* No state blocks every party before the export has returned (`State.exists_step`): a worker
  that has not stopped can move or lets the feeder move, and once every worker has stopped the
  feeder and the calling thread can move.
* Every step lowers a budget of steps still to come (`State.budget_step_lt`), so no schedule is
  longer than the budget of the start.
* The sink calls stand in the order the calling thread allows (`State.SinkLog`): writes that
  went through, then at most one last call, a failed write or the finish.
* `State.export_never_hangs` : **an export always returns**, with the error of the first sink
  call that failed, or with its output when none did; no sink call follows a failed one.
-/

namespace MetricRing.Pipeline

/-- At most how many more steps a worker in this task can take, its stop included. -/
def Task.budget : Task → Nat
  | .idle => 1
  | .fetching _ left _ => left.length + 5
  | .sending _ => 4
  | .stopped => 0

/-- At most how many more steps the calling thread can take. -/
def Serializer.budget {σ ω : Type} : Serializer σ ω → Nat
  | .receiving .. => 2
  | .writing .. => 3
  | .joining .. => 1
  | .returned _ => 0

/-- The workers' budgets, summed. -/
def workersBudget : List Worker → Nat
  | [] => 0
  | w :: ws => w.task.budget + workersBudget ws

/-- The budgets of items still to be taken, each its requests and `extra` further steps. -/
def itemsBudget (extra : Nat) : List WorkItem → Nat
  | [] => 0
  | item :: items => item.servers.length + extra + itemsBudget extra items

theorem itemsBudget_append (extra : Nat) (l l' : List WorkItem) :
    itemsBudget extra (l ++ l') = itemsBudget extra l + itemsBudget extra l' := by
  induction l with
  | nil => simp [itemsBudget]
  | cons item l ih =>
    simp only [List.cons_append, itemsBudget, ih]
    omega

/-- Replacing one worker changes the sum by the difference of the two budgets. -/
theorem workersBudget_set {l : List Worker} {i : Nat} {w : Worker} (h : l[i]? = some w)
    (w' : Worker) : workersBudget (l.set i w') + w.task.budget = workersBudget l + w'.task.budget := by
  induction l generalizing i with
  | nil => simp at h
  | cons v l ih =>
    cases i with
    | zero =>
      simp only [List.getElem?_cons_zero, Option.some.injEq] at h
      subst h
      simp only [List.set_cons_zero, workersBudget]
      omega
    | succ i =>
      simp only [List.getElem?_cons_succ] at h
      have := ih h
      simp only [List.set_cons_succ, workersBudget]
      omega

namespace State

variable {σ ω : Type} {src : MetricSource} {sink : MetricSink σ ω} {s s' : State σ ω}

/-- How many more steps an export can take at most: for each item the feeder still holds, its
send, its take, a request per server and three more; the same less the send for each queued
item; each worker's budget; two per queued metric, its receipt and its write; the calling
thread's budget; and the feeder's own stop. -/
def budget (s : State σ ω) : Nat :=
  (match s.feeder with
    | none => 0
    | some rest => 1 + itemsBudget 6 rest) +
  itemsBudget 5 s.work + workersBudget s.workers + 2 * s.data.length + s.caller.budget

theorem feederStep_budget_lt (h : s.feederStep = some s') : s'.budget < s.budget := by
  rcases feederStep_eq_some h with ⟨rest, hfeed, -, rfl⟩ | ⟨item, rest, hfeed, -, -, rfl⟩
  · simp only [budget, hfeed]
    omega
  · simp only [budget, hfeed, itemsBudget, itemsBudget_append]
    omega

theorem workerStep_budget_lt {i : Nat} (h : s.workerStep src i = some s') :
    s'.budget < s.budget := by
  obtain ⟨w, hw, hcases⟩ := workerStep_eq_some h
  -- each case replaces worker `i`; the rest of the budget moves with the queues
  have hset := fun w' => workersBudget_set hw w'
  rcases hcases with ⟨htask, item, rest, hwork, rfl⟩ | ⟨htask, -, -, rfl⟩ |
    ⟨item, server, left, attempts, htask, rfl⟩ | ⟨item, attempts, htask, rfl⟩ |
    ⟨m, htask, -, -, rfl⟩ | ⟨m, htask, -, rfl⟩
  · have := hset ⟨.fetching item item.servers [], w.failures⟩
    rw [htask] at this
    simp only [budget, hwork, itemsBudget, setWorker_workers, setWorker_feeder, setWorker_data,
      setWorker_caller]
    simp only [Task.budget] at this
    omega
  · have := hset ⟨.stopped, w.failures⟩
    rw [htask] at this
    simp only [budget, setWorker_workers, setWorker_feeder, setWorker_work, setWorker_data,
      setWorker_caller]
    simp only [Task.budget] at this
    omega
  · have := hset ⟨Task.afterFetch item left attempts server (src.fetch server item.name),
      w.failures⟩
    -- a request either ends the item's requests or leaves one server fewer
    have hafter : (Task.afterFetch item left attempts server
        (src.fetch server item.name)).budget ≤ left.length + 5 := by
      cases src.fetch server item.name <;> simp [Task.afterFetch, Task.budget]
    have hbefore : w.task.budget = left.length + 6 := by
      rw [htask]
      simp [Task.budget]
    simp only at this
    simp only [budget, setWorker_workers, setWorker_feeder, setWorker_work, setWorker_data,
      setWorker_caller]
    omega
  · have := hset ⟨.idle, w.failures ++ [⟨item.name, attempts.reverse⟩]⟩
    rw [htask] at this
    simp only [budget, setWorker_workers, setWorker_feeder, setWorker_work, setWorker_data,
      setWorker_caller]
    simp only [Task.budget, List.length_nil] at this
    omega
  · have := hset ⟨.idle, w.failures⟩
    rw [htask] at this
    simp only [budget, setWorker_workers, setWorker_feeder, setWorker_work, setWorker_caller,
      List.length_append, List.length_singleton]
    simp only [Task.budget] at this
    omega
  · have := hset ⟨.stopped, w.failures⟩
    rw [htask] at this
    simp only [budget, setWorker_workers, setWorker_feeder, setWorker_work, setWorker_data,
      setWorker_caller]
    simp only [Task.budget] at this
    omega

theorem callerStep_budget_lt (h : s.callerStep sink = some s') : s'.budget < s.budget := by
  rcases callerStep_eq_some h with ⟨k, n, m, rest, hc, hd, rfl⟩ | ⟨k, n, hc, -, -, rfl⟩ |
    ⟨k, n, m, k', hc, -, rfl⟩ | ⟨k, n, m, e, hc, -, rfl⟩ | ⟨k, e, hc, -, -, rfl⟩ |
    ⟨k, n, out, hc, -, -, -, rfl⟩ | ⟨k, n, e, hc, -, -, -, rfl⟩
  · -- a receipt turns two units of the queued metric into one of the write to come
    simp only [budget, hc, hd, Serializer.budget, List.length_cons]
    omega
  all_goals
    simp only [budget, hc, Serializer.budget]
    omega

/-- **Every step lowers the budget.** -/
theorem budget_step_lt {p : Party} (h : s.step src sink p = some s') : s'.budget < s.budget := by
  cases p with
  | feeder => exact feederStep_budget_lt h
  | worker i => exact workerStep_budget_lt h
  | caller => exact callerStep_budget_lt h

/-- No schedule from a state is longer than its budget. -/
theorem length_le_budget {sched : List Party} (h : s.runSchedule src sink sched = some s') :
    sched.length ≤ s.budget := by
  have := length_add_le_of_runSchedule budget (fun _ _ _ => budget_step_lt) h
  omega

/-! ### No state blocks every party -/

theorem workersStopped_eq_false {i : Nat} {w : Worker} (hw : s.workers[i]? = some w)
    (hrun : w.task.isStopped = false) : s.workersStopped = false := by
  rw [workersStopped, Bool.eq_false_iff]
  intro hall
  have := List.all_eq_true.1 hall w (List.mem_of_getElem? hw)
  rw [hrun] at this
  cases this

theorem exists_running (h : s.workersStopped = false) :
    ∃ (i : Nat) (w : Worker), s.workers[i]? = some w ∧ w.task.isStopped = false := by
  rw [workersStopped, Bool.eq_false_iff] at h
  obtain ⟨w, hw, hrun⟩ : ∃ w : Worker, w ∈ s.workers ∧ w.task.isStopped = false := by
    simpa using h
  obtain ⟨i, hi, rfl⟩ := List.mem_iff_getElem.1 hw
  exact ⟨i, _, List.getElem?_eq_getElem hi, hrun⟩

/-- A worker that has not stopped can move, or, waiting on an empty work queue, lets the feeder
move; a metric it holds needs room in the data queue only while the serializer receives. -/
theorem exists_step_of_running {i : Nat} {w : Worker} (hw : s.workers[i]? = some w)
    (hrun : w.task.isStopped = false)
    (hroom : s.caller.receives = true → s.data.length < queueCapacity) :
    ∃ p, (s.step src sink p).isSome := by
  have hns := workersStopped_eq_false hw hrun
  cases htask : w.task with
  | idle =>
    cases hwork : s.work with
    | cons item rest => exact ⟨.worker i, by simp [step, workerStep, hw, htask, hwork]⟩
    | nil =>
      cases hfeed : s.feeder with
      | none => exact ⟨.worker i, by simp [step, workerStep, hw, htask, hwork, hfeed]⟩
      | some rest =>
        -- the worker waits on the feeder, which sends into the empty queue or stops
        cases rest with
        | nil => exact ⟨.feeder, by simp [step, feederStep, hfeed]⟩
        | cons item rest =>
          exact ⟨.feeder, by simp [step, feederStep, hfeed, hns, hwork, queueCapacity]⟩
  | fetching item left attempts =>
    cases left with
    | nil => exact ⟨.worker i, by simp [step, workerStep, hw, htask]⟩
    | cons server left => exact ⟨.worker i, by simp [step, workerStep, hw, htask]⟩
  | sending m =>
    by_cases hrec : s.caller.receives = true
    · exact ⟨.worker i, by simp [step, workerStep, hw, htask, hrec, hroom hrec]⟩
    · exact ⟨.worker i, by simp [step, workerStep, hw, htask, hrec]⟩
  | stopped =>
    rw [htask] at hrun
    cases hrun

/-- **No state blocks every party before the export returns.** -/
theorem exists_step (hres : s.result = none) : ∃ p, (s.step src sink p).isSome := by
  cases hc : s.caller with
  | receiving k n =>
    cases hd : s.data with
    | cons m rest => exact ⟨.caller, by simp [step, callerStep, hc, hd]⟩
    | nil =>
      cases hstop : s.workersStopped with
      | true => exact ⟨.caller, by simp [step, callerStep, hc, hd, hstop]⟩
      | false =>
        -- a worker runs, and the data queue has room for what it holds
        obtain ⟨i, w, hw, hrun⟩ := exists_running hstop
        exact exists_step_of_running hw hrun fun _ => by simp [hd, queueCapacity]
  | writing k n m =>
    cases hw : sink.write k m <;> exact ⟨.caller, by simp [step, callerStep, hc, hw]⟩
  | joining k written =>
    cases hstop : s.workersStopped with
    | false =>
      obtain ⟨i, w, hw, hrun⟩ := exists_running hstop
      exact exists_step_of_running hw hrun fun h => by simp [hc, Serializer.receives] at h
    | true =>
      cases hfeed : s.feeder with
      | some rest =>
        -- nobody is left to take an item: the feeder stops
        cases rest with
        | nil => exact ⟨.feeder, by simp [step, feederStep, hfeed]⟩
        | cons item rest => exact ⟨.feeder, by simp [step, feederStep, hfeed, hstop]⟩
      | none =>
        -- every other thread is gone: the calling thread returns
        cases written with
        | error e => exact ⟨.caller, by simp [step, callerStep, hc, hstop, hfeed]⟩
        | ok n =>
          cases hf : sink.finish k <;>
            exact ⟨.caller, by simp [step, callerStep, hc, hstop, hfeed, hf]⟩
  | returned r =>
    simp [result, hc] at hres

/-- From any state some schedule leads to a return: a party can always move, and each move
lowers the budget. -/
theorem exists_returned (s : State σ ω) :
    ∃ sched s', s.runSchedule src sink sched = some s' ∧ s'.result.isSome := by
  cases hres : s.result with
  | some r => exact ⟨[], s, rfl, by simp [hres]⟩
  | none =>
    obtain ⟨p, hp⟩ : ∃ p, (s.step src sink p).isSome := exists_step hres
    obtain ⟨t, ht⟩ := Option.isSome_iff_exists.1 hp
    have := budget_step_lt ht
    obtain ⟨sched, s', hrun, hret⟩ := exists_returned t
    exact ⟨p :: sched, s', by simp [runSchedule_cons, ht, hrun], hret⟩
termination_by s.budget

/-! ### The sink calls -/

/-- Every call is a write that went through. -/
def OkWrites (calls : List Event) : Prop :=
  ∀ c ∈ calls, ∃ m, c = .write m none

theorem okWrites_append {calls calls' : List Event} (h : OkWrites calls)
    (h' : OkWrites calls') : OkWrites (calls ++ calls') := by
  intro c hc
  rcases List.mem_append.1 hc with hc | hc
  · exact h c hc
  · exact h' c hc

theorem filterMap_failure_eq_nil {calls : List Event} (h : OkWrites calls) :
    calls.filterMap Event.failure = [] := by
  refine List.filterMap_eq_nil_iff.2 fun c hc => ?_
  obtain ⟨m, rfl⟩ := h c hc
  rfl

/-- Only sink calls fail. -/
theorem filterMap_failure_sinkCalls (trace : List Event) :
    (sinkCalls trace).filterMap Event.failure = trace.filterMap Event.failure := by
  induction trace with
  | nil => rfl
  | cons e trace ih =>
    rw [show e :: trace = [e] ++ trace from rfl, sinkCalls_append, List.filterMap_append,
      List.filterMap_append, ih, sinkCalls_singleton]
    cases e <;> rfl

/-- Only sink calls write. -/
theorem filterMap_written_sinkCalls (trace : List Event) :
    (sinkCalls trace).filterMap Event.written? = written trace := by
  induction trace with
  | nil => rfl
  | cons e trace ih =>
    rw [show e :: trace = [e] ++ trace from rfl, sinkCalls_append, written_append,
      List.filterMap_append, ih, sinkCalls_singleton, written_singleton]
    cases e with
    | write m failed => cases failed <;> rfl
    | _ => rfl

/-- Writes that all went through are the writes of the metrics they wrote. -/
theorem OkWrites.eq_map {calls : List Event} (h : OkWrites calls) :
    calls = (calls.filterMap Event.written?).map fun m => .write m none := by
  induction calls with
  | nil => rfl
  | cons c calls ih =>
    obtain ⟨m, rfl⟩ := h c List.mem_cons_self
    simp [← ih fun c hc => h c (List.mem_cons_of_mem _ hc)]

/-- The sink calls so far, as the calling thread's place allows them: while it serializes, and
once it has stopped without a failure, writes that went through; after a failed write, those
and the failed write; once returned, those and one last call, the finish or the failed write,
which failed exactly when the export returned an archive error, with its error. -/
def SinkLog (s : State σ ω) : Prop :=
  match s.caller with
  | .receiving _ _ | .writing _ _ _ | .joining _ (.ok _) => OkWrites (sinkCalls s.trace)
  | .joining _ (.error e) =>
    ∃ pre m, sinkCalls s.trace = pre ++ [.write m (some e)] ∧ OkWrites pre
  | .returned (.ok _) => ∃ pre, sinkCalls s.trace = pre ++ [.finish none] ∧ OkWrites pre
  | .returned (.error r) =>
    ∃ pre c e, r = .archive e ∧ sinkCalls s.trace = pre ++ [c] ∧ OkWrites pre ∧
      c.failure = some e

theorem sinkLog_start (work : List WorkItem) (sink₀ : σ) (workers : Nat) :
    (start work sink₀ workers : State σ ω).SinkLog := by
  simp [SinkLog, start, OkWrites]

/-- The feeder and the workers make no sink calls and leave the calling thread where it is. -/
theorem SinkLog.frame {s s' : State σ ω} (h : s.SinkLog) (hc : s'.caller = s.caller)
    (ht : sinkCalls s'.trace = sinkCalls s.trace) : s'.SinkLog := by
  unfold SinkLog at h ⊢
  rw [hc, ht]
  exact h

theorem SinkLog.callerStep (h : s.SinkLog) (hstep : s.callerStep sink = some s') :
    s'.SinkLog := by
  rcases callerStep_eq_some hstep with ⟨k, n, m, rest, hc, -, rfl⟩ | ⟨k, n, hc, -, -, rfl⟩ |
    ⟨k, n, m, k', hc, -, rfl⟩ | ⟨k, n, m, e, hc, -, rfl⟩ | ⟨k, e, hc, -, -, rfl⟩ |
    ⟨k, n, out, hc, -, -, -, rfl⟩ | ⟨k, n, e, hc, -, -, -, rfl⟩
  · -- a receipt changes no call
    simp only [SinkLog, hc] at h ⊢
    exact h
  · simp only [SinkLog, hc] at h ⊢
    exact h
  · -- a write that went through joins the writes before it
    simp only [SinkLog, hc] at h ⊢
    rw [sinkCalls_append, sinkCalls_singleton]
    exact okWrites_append h fun c hc => ⟨m, by simpa [Event.isSinkCall] using hc⟩
  · -- a failed write is the last call of its kind
    simp only [SinkLog, hc] at h ⊢
    rw [sinkCalls_append, sinkCalls_singleton]
    exact ⟨_, m, by simp [Event.isSinkCall], h⟩
  · simp only [SinkLog, hc] at h ⊢
    obtain ⟨pre, m, hcalls, hpre⟩ := h
    exact ⟨pre, _, e, rfl, hcalls, hpre, rfl⟩
  · simp only [SinkLog, hc] at h ⊢
    rw [sinkCalls_append, sinkCalls_singleton]
    exact ⟨_, by simp [Event.isSinkCall], h⟩
  · simp only [SinkLog, hc] at h ⊢
    rw [sinkCalls_append, sinkCalls_singleton]
    exact ⟨_, .finish (some e), e, rfl, by simp [Event.isSinkCall], h, rfl⟩

theorem SinkLog.step {p : Party} (h : s.SinkLog) (hstep : s.step src sink p = some s') :
    s'.SinkLog := by
  cases p with
  | feeder =>
    rcases feederStep_eq_some hstep with ⟨-, -, -, rfl⟩ | ⟨-, -, -, -, -, -, rfl⟩ <;>
      exact h.frame rfl rfl
  | worker i =>
    obtain ⟨w, -, hcases⟩ := workerStep_eq_some hstep
    rcases hcases with ⟨-, item, rest, -, rfl⟩ | ⟨-, -, -, rfl⟩ |
      ⟨item, server, left, attempts, -, rfl⟩ | ⟨item, attempts, -, rfl⟩ | ⟨m, -, -, -, rfl⟩ |
      ⟨m, -, -, rfl⟩ <;>
      exact h.frame rfl (by simp [sinkCalls_singleton, Event.isSinkCall])
  | caller => exact h.callerStep hstep

/-- Every sink call but the last is a write that went through: nothing follows a failed write,
and the finish comes last. -/
theorem SinkLog.okWrites_dropLast (h : s.SinkLog) : OkWrites (sinkCalls s.trace).dropLast := by
  unfold SinkLog at h
  split at h
  all_goals first
    | exact fun c hc => h c (List.dropLast_subset _ hc)
    | obtain ⟨pre, _, hcalls, hpre⟩ := h
      rw [hcalls, List.dropLast_concat]
      exact hpre
    | obtain ⟨pre, hcalls, hpre⟩ := h
      rw [hcalls, List.dropLast_concat]
      exact hpre
    | obtain ⟨pre, _, _, -, hcalls, hpre, -⟩ := h
      rw [hcalls, List.dropLast_concat]
      exact hpre

/-- Once returned, the export gives the error of the first failed sink call, or its output when
no sink call failed. -/
theorem SinkLog.result_eq {r : Except TarError (ω × Report)} (h : s.SinkLog)
    (hr : s.result = some r) :
    match (s.trace.filterMap Event.failure).head? with
    | some e => r = .error (.archive e)
    | none => ∃ v, r = .ok v := by
  rw [← filterMap_failure_sinkCalls]
  unfold SinkLog at h
  cases hc : s.caller with
  | returned r' =>
    simp only [result, hc, Option.some.injEq] at hr
    subst hr
    rw [hc] at h
    cases r' with
    | ok v =>
      obtain ⟨pre, hcalls, hpre⟩ := h
      rw [hcalls, List.filterMap_append, filterMap_failure_eq_nil hpre]
      exact ⟨v, rfl⟩
    | error r' =>
      obtain ⟨pre, c, e, rfl, hcalls, hpre, hfail⟩ := h
      rw [hcalls, List.filterMap_append, filterMap_failure_eq_nil hpre]
      simp [hfail]
  | receiving _ _ => simp [result, hc] at hr
  | writing _ _ _ => simp [result, hc] at hr
  | joining _ _ => simp [result, hc] at hr

/-- **An export always returns.** For every list of work items, every metric source, every
sink, whose writes and finish may fail, and every worker count, over every interleaving of the
threads: a state from which no party can move has returned, and no schedule runs longer than a
bound fixed by the start. Every sink call but the last is a write that went through, so no
write or finish follows a failed write; and the export returns the archive error of the first
failed sink call, or its output when no sink call failed. -/
theorem export_never_hangs (src : MetricSource) (sink : MetricSink σ ω) (work : List WorkItem)
    (sink₀ : σ) (workers : Nat) :
    let s₀ : State σ ω := start work sink₀ workers
    (∀ sched s, s₀.runSchedule src sink sched = some s → s.result = none →
      ∃ p s', s.step src sink p = some s') ∧
    (∃ bound, ∀ sched s, s₀.runSchedule src sink sched = some s → sched.length ≤ bound) ∧
    ∀ sched s, s₀.runSchedule src sink sched = some s →
      (∀ c ∈ (sinkCalls s.trace).dropLast, ∃ m, c = .write m none) ∧
      ∀ r, s.result = some r →
        match (s.trace.filterMap Event.failure).head? with
        | some e => r = .error (.archive e)
        | none => ∃ v, r = .ok v := by
  intro s₀
  refine ⟨fun sched s _ hres => ?_, ⟨s₀.budget, fun sched s h => ?_⟩, fun sched s h => ?_⟩
  · obtain ⟨p, hp⟩ : ∃ p, (s.step src sink p).isSome := exists_step hres
    obtain ⟨s', hs'⟩ := Option.isSome_iff_exists.1 hp
    exact ⟨p, s', hs'⟩
  · exact length_le_budget h
  · have hlog := runSchedule_invariant SinkLog (fun _ _ _ hs hstep => hs.step hstep)
      (sinkLog_start work sink₀ workers) h
    exact ⟨hlog.okWrites_dropLast, fun r hr => hlog.result_eq hr⟩

end State

end MetricRing.Pipeline
