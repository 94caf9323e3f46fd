import Mathlib.Data.List.Basic
import MetricRing.Proofs.Export.Shutdown
/-!
# Every item accounted for

With a sink that never fails, every interleaving of an export hands each item to exactly one
worker, asks its servers in order up to the first that serves it, writes each downloaded metric
once, and reports every item no server served.

* What one download does, over the servers of an item (`MetricSource.asked`,
  `MetricSource.served`, `MetricSource.unserved`), with the laws the workers' steps follow
  (`MetricSource.asked_failing_append` and its companions).
* `Ledgers` : each worker's events are whole downloads, then the download in hand so far;
  every step keeps them, whatever the sink does (`State.ledgers_step`).
* `State.Accounts` : with a sink that never fails, the items taken, queued and still with the
  feeder are the work list in order, each downloaded metric is written, held or queued exactly
  once, and each failure recorded or due exactly once; one lemma per party keeps it.
* `Accounted` : what an export has done once it has returned;
  `State.export_accounts_for_every_item` : **the accounting of an export**, over every schedule.
-/

namespace MetricRing

namespace MetricSource

variable (src : MetricSource) (name : String)

/-- The metric of the first of `servers` to serve `name`. -/
def firstServed (servers : List String) : Option MetricData :=
  servers.findSome? fun server => (src.fetch server name).toOption

/-- The servers a download of `name` asks, in order: each that fails it, up to and including
the first that serves it. -/
def asked (servers : List String) : List String :=
  let failing := servers.takeWhile fun server => !(src.fetch server name).isOk
  failing ++ (servers.drop failing.length).take 1

/-- Each of `servers` that fails `name`, with its error, in order. -/
def errors (servers : List String) : List (String × FetchError) :=
  servers.filterMap fun server =>
    match src.fetch server name with
    | .ok _ => none
    | .error e => some (server, e)

/-- The metric a download of the item gets. -/
def served (item : WorkItem) : Option MetricData :=
  src.firstServed item.name item.servers

/-- The failure a download of the item records: when no server serves it, every server with
its error. -/
def unserved (item : WorkItem) : Option FetchFailure :=
  if (src.served item).isSome then none else some ⟨item.name, src.errors item.name item.servers⟩

/-- Failed attempts, oldest first, each a server with the error it gave. -/
def Failing (attempts : List (String × FetchError)) : Prop :=
  ∀ a ∈ attempts, src.fetch a.1 name = .error a.2

/-! ### Downloads, one server at a time -/

variable {src name}

theorem firstServed_failing_append {attempts : List (String × FetchError)}
    (h : src.Failing name attempts) (rest : List String) :
    src.firstServed name (attempts.map Prod.fst ++ rest) = src.firstServed name rest := by
  have hnone : (attempts.map Prod.fst).findSome? (fun server => (src.fetch server name).toOption)
      = none := by
    refine List.findSome?_eq_none_iff.2 fun server hs => ?_
    obtain ⟨a, ha, rfl⟩ := List.mem_map.1 hs
    simp [h a ha, Except.toOption]
  simp only [firstServed, List.findSome?_append, hnone, Option.none_or]

theorem asked_failing_append {attempts : List (String × FetchError)}
    (h : src.Failing name attempts) (rest : List String) :
    src.asked name (attempts.map Prod.fst ++ rest) = attempts.map Prod.fst ++ src.asked name rest := by
  have hfail : ∀ server ∈ attempts.map Prod.fst, (!(src.fetch server name).isOk) = true := by
    intro server hs
    obtain ⟨a, ha, rfl⟩ := List.mem_map.1 hs
    simp [h a ha, Except.isOk, Except.toBool]
  simp only [asked, List.takeWhile_append_of_pos hfail, List.length_append, List.append_assoc]
  rw [List.drop_length_add_append]

theorem errors_failing_append {attempts : List (String × FetchError)}
    (h : src.Failing name attempts) (rest : List String) :
    src.errors name (attempts.map Prod.fst ++ rest) = attempts ++ src.errors name rest := by
  induction attempts with
  | nil => rfl
  | cons a attempts ih =>
    have ha : src.fetch a.1 name = .error a.2 := h a List.mem_cons_self
    simp only [errors, List.map_cons, List.cons_append, List.filterMap_cons, ha] at ih ⊢
    rw [ih fun b hb => h b (List.mem_cons_of_mem a hb)]

theorem firstServed_cons_of_ok {server : String} {m : MetricData}
    (h : src.fetch server name = .ok m) (rest : List String) :
    src.firstServed name (server :: rest) = some m := by
  simp [firstServed, h, Except.toOption]

theorem asked_cons_of_ok {server : String} {m : MetricData} (h : src.fetch server name = .ok m)
    (rest : List String) : src.asked name (server :: rest) = [server] := by
  simp [asked, h, Except.isOk, Except.toBool]

@[simp] theorem firstServed_nil : src.firstServed name [] = none := rfl

@[simp] theorem asked_nil : src.asked name [] = [] := rfl

@[simp] theorem errors_nil : src.errors name [] = [] := rfl

/-- Every error listed is the one its server gave. -/
theorem failing_errors (servers : List String) : src.Failing name (src.errors name servers) := by
  induction servers with
  | nil => exact fun a ha => nomatch ha
  | cons server rest ih =>
    intro a ha
    cases hfetch : src.fetch server name with
    | ok m =>
      simp only [errors, List.filterMap_cons, hfetch] at ha
      exact ih a ha
    | error e =>
      simp only [errors, List.filterMap_cons, hfetch, List.mem_cons] at ha
      rcases ha with rfl | ha
      · exact hfetch
      · exact ih a ha

/-- When no server serves the name, every server is listed with its error, in order. -/
theorem map_fst_errors {servers : List String} (h : src.firstServed name servers = none) :
    (src.errors name servers).map Prod.fst = servers := by
  induction servers with
  | nil => rfl
  | cons server rest ih =>
    cases hfetch : src.fetch server name with
    | ok m => simp [firstServed_cons_of_ok hfetch] at h
    | error e =>
      have hrest : src.firstServed name rest = none := by
        simpa [firstServed, hfetch, Except.toOption] using h
      simp only [errors, List.filterMap_cons, hfetch, List.map_cons]
      exact congrArg (server :: ·) (ih hrest)

theorem unserved_eq_none_iff (item : WorkItem) :
    src.unserved item = none ↔ (src.served item).isSome := by
  unfold unserved
  split <;> simp [*]

/-- The failure of an item names it and lists every server of it in order, each with the
error it gave. -/
theorem unserved_eq_some {item : WorkItem} {f : FetchFailure} (h : src.unserved item = some f) :
    f.name = item.name ∧ f.attempts.map Prod.fst = item.servers ∧
      src.Failing item.name f.attempts := by
  unfold unserved at h
  split at h
  · cases h
  · rename_i hnone
    cases h
    exact ⟨rfl, map_fst_errors (by simpa [served] using hnone), failing_errors _⟩

/-- Each item is served or fails, not both. -/
theorem length_filterMap_served_add_unserved (work : List WorkItem) :
    (work.filterMap src.served).length + (work.filterMap src.unserved).length = work.length := by
  induction work with
  | nil => rfl
  | cons item work ih =>
    cases hs : src.served item with
    | none => simp [hs, unserved]; omega
    | some m => simp [hs, unserved]; omega

end MetricSource

theorem Report.toResult_eq_ok_iff (r : Report) : r.toResult = .ok r ↔ r.failures = [] := by
  unfold Report.toResult Report.isComplete
  cases r.failures <;> simp

namespace Pipeline

/-- The events of worker `i` for an item it has finished: the take, then a request to each
server the download asks. -/
def itemEvents (src : MetricSource) (i : Nat) (item : WorkItem) : List Event :=
  .take i item :: (src.asked item.name item.servers).map fun server => .fetch i server item.name

/-- The events `evs` of worker `i` account for its task: finished items, and while it asks the
servers of an item, that item's take and a request to each server tried, all of which failed
with the error recorded. -/
def Ledger (src : MetricSource) (i : Nat) : Task → List Event → Prop
  | .fetching item left attempts, evs =>
    ∃ done : List WorkItem,
      evs = done.flatMap (itemEvents src i) ++
          .take i item :: attempts.reverse.map (fun a => .fetch i a.1 item.name) ∧
        item.servers = attempts.reverse.map Prod.fst ++ left ∧
        src.Failing item.name attempts.reverse
  | _, evs => ∃ done : List WorkItem, evs = done.flatMap (itemEvents src i)

namespace Ledger

variable {src : MetricSource} {i : Nat} {item : WorkItem} {evs : List Event}

theorem take (h : Ledger src i .idle evs) :
    Ledger src i (.fetching item item.servers []) (evs ++ [.take i item]) := by
  obtain ⟨done, rfl⟩ := h
  exact ⟨done, rfl, rfl, fun _ h => nomatch h⟩

/-- A request either ends the download with the metric it got or adds a failed attempt. -/
theorem afterFetch {server : String} {left : List String}
    {attempts : List (String × FetchError)}
    (h : Ledger src i (.fetching item (server :: left) attempts) evs) :
    Ledger src i (Task.afterFetch item left attempts server (src.fetch server item.name))
      (evs ++ [.fetch i server item.name]) := by
  obtain ⟨done, rfl, hservers, hfail⟩ := h
  cases hfetch : src.fetch server item.name with
  | ok m =>
    -- the download is finished: the requests so far are exactly those it asks
    have hasked : src.asked item.name item.servers = attempts.reverse.map Prod.fst ++ [server] := by
      rw [hservers, MetricSource.asked_failing_append hfail, MetricSource.asked_cons_of_ok hfetch]
    refine ⟨done ++ [item], ?_⟩
    simp [itemEvents, hasked, List.map_map, Function.comp_def]
  | error e =>
    refine ⟨done, by simp, by simp [hservers], fun a ha => ?_⟩
    rw [List.reverse_cons, List.mem_append, List.mem_singleton] at ha
    rcases ha with ha | rfl
    · exact hfail a ha
    · exact hfetch

/-- A download that ran out of servers is finished, having asked every one of them. -/
theorem exhausted {attempts : List (String × FetchError)}
    (h : Ledger src i (.fetching item [] attempts) evs) : Ledger src i .idle evs := by
  obtain ⟨done, rfl, hservers, hfail⟩ := h
  have hasked : src.asked item.name item.servers = attempts.reverse.map Prod.fst := by
    rw [hservers, MetricSource.asked_failing_append hfail, MetricSource.asked_nil,
      List.append_nil]
  refine ⟨done ++ [item], ?_⟩
  simp [itemEvents, hasked, List.map_map, Function.comp_def]

/-- A request that succeeds gives the metric of the download. -/
theorem served_eq {server : String} {left : List String} {attempts : List (String × FetchError)}
    {m : MetricData} (h : Ledger src i (.fetching item (server :: left) attempts) evs)
    (hfetch : src.fetch server item.name = .ok m) : src.served item = some m := by
  obtain ⟨_, -, hservers, hfail⟩ := h
  rw [MetricSource.served, hservers, MetricSource.firstServed_failing_append hfail,
    MetricSource.firstServed_cons_of_ok hfetch]

/-- A download that ran out of servers got nothing and fails with every attempt. -/
theorem unserved_eq {attempts : List (String × FetchError)}
    (h : Ledger src i (.fetching item [] attempts) evs) :
    src.served item = none ∧ src.unserved item = some ⟨item.name, attempts.reverse⟩ := by
  obtain ⟨_, -, hservers, hfail⟩ := h
  have hserved : src.served item = none := by
    rw [MetricSource.served, hservers, MetricSource.firstServed_failing_append hfail,
      MetricSource.firstServed_nil]
  refine ⟨hserved, ?_⟩
  rw [MetricSource.unserved, hserved, hservers, MetricSource.errors_failing_append hfail]
  simp

end Ledger

/-- Each worker's events account for its task, and no event is by a worker that does not
exist. -/
structure Ledgers (src : MetricSource) (workers : List Worker) (trace : List Event) : Prop where
  worker : ∀ i w, workers[i]? = some w → Ledger src i w.task (byWorker i trace)
  outside : ∀ i, workers[i]? = none → byWorker i trace = []

namespace Ledgers

variable {src : MetricSource} {workers : List Worker} {trace : List Event}

theorem start (n : Nat) : Ledgers src (List.replicate n ⟨.idle, []⟩) [] where
  worker i w hw := by
    obtain ⟨-, rfl⟩ := List.mem_replicate.1 (List.mem_of_getElem? hw)
    exact ⟨[], rfl⟩
  outside _ _ := rfl

/-- An event that is no worker's leaves every worker's events as they are. -/
theorem append_other (h : Ledgers src workers trace) {e : Event} (he : e.worker? = none) :
    Ledgers src workers (trace ++ [e]) := by
  have hby : ∀ i, byWorker i (trace ++ [e]) = byWorker i trace := by simp [he]
  exact ⟨fun i w hw => hby i ▸ h.worker i w hw, fun i hi => (hby i).trans (h.outside i hi)⟩

/-- Worker `i` moves to `w'` and adds events of its own, which `w'` accounts for. -/
theorem set (h : Ledgers src workers trace) {i : Nat} {w : Worker} (hw : workers[i]? = some w)
    {w' : Worker} {evs : List Event} (hevs : ∀ e ∈ evs, e.worker? = some i)
    (hnew : Ledger src i w'.task (byWorker i trace ++ evs)) :
    Ledgers src (workers.set i w') (trace ++ evs) := by
  have hi : i < workers.length := (List.getElem?_eq_some_iff.1 hw).1
  have hown : byWorker i evs = evs := List.filter_eq_self.2 fun e he => by simp [hevs e he]
  have hother : ∀ j, j ≠ i → byWorker j evs = [] := fun j hj =>
    List.filter_eq_nil_iff.2 fun e he => by simp [hevs e he, Ne.symm hj]
  constructor
  · intro j u hu
    by_cases hj : j = i
    · subst hj
      rw [List.getElem?_set_self hi] at hu
      cases hu
      rwa [byWorker_append, hown]
    · rw [List.getElem?_set_ne (Ne.symm hj)] at hu
      rw [byWorker_append, hother j hj, List.append_nil]
      exact h.worker j u hu
  · intro j hj
    have hji : j ≠ i := by
      rintro rfl
      simp [List.getElem?_set_self hi] at hj
    rw [List.getElem?_set_ne (Ne.symm hji)] at hj
    rw [byWorker_append, hother j hji, List.append_nil, h.outside j hj]

/-- Worker `i` moves to `w'` without an event. -/
theorem set_quiet (h : Ledgers src workers trace) {i : Nat} {w : Worker}
    (hw : workers[i]? = some w) {w' : Worker} (hnew : Ledger src i w'.task (byWorker i trace)) :
    Ledgers src (workers.set i w') trace := by
  have hnil : ∀ e ∈ ([] : List Event), e.worker? = some i := fun _ he => nomatch he
  have hnew' : Ledger src i w'.task (byWorker i trace ++ []) := by rwa [List.append_nil]
  simpa using h.set hw hnil hnew'

end Ledgers

/-- The items among worker `i`'s events are the items it took. -/
theorem takes_byWorker (i : Nat) (trace : List Event) :
    takes (byWorker i trace) = (takes trace).filter (·.1 == i) := by
  induction trace with
  | nil => rfl
  | cons e trace ih =>
    rw [show e :: trace = [e] ++ trace from rfl, byWorker_append, takes_append, takes_append, ih,
      List.filter_append]
    congr 1
    cases e with
    | take j item => by_cases hj : j = i <;> simp [Event.worker?, hj]
    | fetch j server name => by_cases hj : j = i <;> simp [Event.worker?, hj]
    | write m failed => simp [Event.worker?]
    | finish failed => simp [Event.worker?]

theorem takes_flatMap_itemEvents (src : MetricSource) (i : Nat) (items : List WorkItem) :
    takes (items.flatMap (itemEvents src i)) = items.map (i, ·) := by
  induction items with
  | nil => rfl
  | cons item items ih =>
    rw [List.flatMap_cons, takes_append, ih]
    simp [itemEvents, takes, List.filterMap_map, Function.comp_def]

namespace State

variable {σ ω : Type} {src : MetricSource} {sink : MetricSink σ ω} {s s' : State σ ω}

/-- **Every step keeps the workers' ledgers**, whatever the sink does. -/
theorem ledgers_step {p : Party} (h : Ledgers src s.workers s.trace)
    (hstep : s.step src sink p = some s') : Ledgers src s'.workers s'.trace := by
  cases p with
  | feeder =>
    rcases feederStep_eq_some hstep with ⟨-, -, -, rfl⟩ | ⟨-, -, -, -, -, rfl⟩ <;> exact h
  | caller =>
    rcases callerStep_eq_some hstep with ⟨-, -, -, -, -, -, rfl⟩ | ⟨-, -, -, -, -, rfl⟩ |
        ⟨-, -, m, -, -, -, rfl⟩ | ⟨-, -, m, e, -, -, rfl⟩ | ⟨-, -, -, -, -, rfl⟩ |
        ⟨-, -, -, -, -, -, -, rfl⟩ | ⟨-, -, e, -, -, -, -, rfl⟩
    all_goals first
      | exact h
      | exact h.append_other rfl
  | worker i =>
    obtain ⟨w, hw, htake | hstop | hfetch | hdone | hsend | hgone⟩ := workerStep_eq_some hstep
    all_goals have hl := h.worker i w hw
    · obtain ⟨htask, item, -, -, rfl⟩ := htake
      rw [htask] at hl
      exact h.set hw (by simp [Event.worker?]) hl.take
    · obtain ⟨htask, -, -, rfl⟩ := hstop
      rw [htask] at hl
      exact h.set_quiet hw hl
    · obtain ⟨item, server, left, attempts, htask, rfl⟩ := hfetch
      rw [htask] at hl
      exact h.set hw (by simp [Event.worker?]) hl.afterFetch
    · obtain ⟨item, attempts, htask, rfl⟩ := hdone
      rw [htask] at hl
      exact h.set_quiet hw hl.exhausted
    -- a worker that sends or stops has no download in hand, before or after
    · obtain ⟨m, htask, -, -, rfl⟩ := hsend
      rw [htask] at hl
      exact h.set_quiet hw hl
    · obtain ⟨m, htask, -, rfl⟩ := hgone
      rw [htask] at hl
      exact h.set_quiet hw hl

end State

/-! ### The books of an export whose sink never fails -/

/-- The metrics a worker holds in this task: the one its download will get, or the one it
sends. -/
def Task.inHand (src : MetricSource) : Task → List MetricData
  | .fetching item _ _ => (src.served item).toList
  | .sending m => [m]
  | _ => []

/-- The failure the download in hand will record. -/
def Task.due (src : MetricSource) : Task → List FetchFailure
  | .fetching item _ _ => (src.unserved item).toList
  | _ => []

/-- The metric the calling thread holds, about to write it. -/
def Serializer.held {σ ω : Type} : Serializer σ ω → List MetricData
  | .writing _ _ m => [m]
  | _ => []

section

variable {src : MetricSource} {item : WorkItem} {left : List String}
  {attempts : List (String × FetchError)} {m : MetricData} {σ ω : Type} {k : σ} {n : Nat}

@[simp] theorem Task.inHand_idle : Task.idle.inHand src = [] := rfl

@[simp] theorem Task.inHand_fetching :
    (Task.fetching item left attempts).inHand src = (src.served item).toList := rfl

@[simp] theorem Task.inHand_sending : (Task.sending m).inHand src = [m] := rfl

@[simp] theorem Task.inHand_stopped : Task.stopped.inHand src = [] := rfl

@[simp] theorem Task.due_idle : Task.idle.due src = [] := rfl

@[simp] theorem Task.due_fetching :
    (Task.fetching item left attempts).due src = (src.unserved item).toList := rfl

@[simp] theorem Task.due_sending : (Task.sending m).due src = [] := rfl

@[simp] theorem Task.due_stopped : Task.stopped.due src = [] := rfl

@[simp] theorem Serializer.held_receiving : (Serializer.receiving k n : Serializer σ ω).held = [] :=
  rfl

@[simp] theorem Serializer.held_writing : (Serializer.writing k n m : Serializer σ ω).held = [m] :=
  rfl

@[simp] theorem Serializer.held_joining (r : Except Archive.ArchiveError Nat) :
    (Serializer.joining k r : Serializer σ ω).held = [] := rfl

@[simp] theorem Serializer.held_returned (r : Except TarError (ω × Report)) :
    (Serializer.returned r : Serializer σ ω).held = [] := rfl

end

theorem Task.eq_stopped {t : Task} (h : t.isStopped = true) : t = .stopped := by
  cases t <;> simp_all [Task.isStopped]

theorem Task.isStopped_afterFetch (item : WorkItem) (left : List String)
    (attempts : List (String × FetchError)) (server : String)
    (r : Except FetchError MetricData) :
    (Task.afterFetch item left attempts server r).isStopped = false := by
  cases r <;> rfl

/-- A request leaves the metric in hand as it was: the one the download gets. -/
theorem Ledger.inHand_afterFetch {src : MetricSource} {i : Nat} {item : WorkItem}
    {server : String} {left : List String} {attempts : List (String × FetchError)}
    {evs : List Event} (h : Ledger src i (.fetching item (server :: left) attempts) evs) :
    (Task.afterFetch item left attempts server (src.fetch server item.name)).inHand src =
      (src.served item).toList := by
  cases hfetch : src.fetch server item.name with
  | ok m => simp [Task.afterFetch, h.served_eq hfetch]
  | error e => rfl

/-- A request leaves the failure due as it was: none once a server has served the item. -/
theorem Ledger.due_afterFetch {src : MetricSource} {i : Nat} {item : WorkItem}
    {server : String} {left : List String} {attempts : List (String × FetchError)}
    {evs : List Event} (h : Ledger src i (.fetching item (server :: left) attempts) evs) :
    (Task.afterFetch item left attempts server (src.fetch server item.name)).due src =
      (src.unserved item).toList := by
  cases hfetch : src.fetch server item.name with
  | ok m => simp [Task.afterFetch, MetricSource.unserved, h.served_eq hfetch]
  | error e => rfl

theorem filterMap_singleton_eq_toList {α β : Type} (f : α → Option β) (a : α) :
    [a].filterMap f = (f a).toList := by
  cases h : f a <;> simp [h]

/-- Replacing one member changes the count over a `flatMap` by the difference of the two. -/
theorem count_flatMap_set {α β : Type} [BEq β] {l : List α} {i : Nat} {a : α} (h : l[i]? = some a)
    (b : α) (f : α → List β) (x : β) :
    ((l.set i b).flatMap f).count x + (f a).count x = (l.flatMap f).count x + (f b).count x := by
  induction l generalizing i with
  | nil => simp at h
  | cons c l ih =>
    cases i with
    | zero =>
      cases h
      simp only [List.set_cons_zero, List.flatMap_cons, List.count_append]
      omega
    | succ i =>
      have := ih (by simpa using h)
      simp only [List.set_cons_succ, List.flatMap_cons, List.count_append]
      omega

namespace State

variable {σ ω : Type} {src : MetricSource} {sink : MetricSink σ ω} {s s' : State σ ω}

/-- The calling thread's count is the number of writes in the trace, no write has failed, and
its answer, once given, is the report of the export. -/
def Books (s : State σ ω) : Prop :=
  match s.caller with
  | .receiving _ n | .writing _ n _ | .joining _ (.ok n) => n = (written s.trace).length
  | .joining _ (.error _) => False
  | .returned r =>
    ∃ out, r = .ok (out, ⟨s.attempted, (written s.trace).length, s.workers.flatMap (·.failures)⟩)

/-- A step that leaves the calling thread, while it receives, and the writes alone keeps the
books. -/
theorem Books.frame (h : s.Books) (hrec : s.caller.receives = true) (hc : s'.caller = s.caller)
    (hw : written s'.trace = written s.trace) : s'.Books := by
  unfold Books at h ⊢
  rw [hc, hw]
  cases hcs : s.caller with
  | receiving k n => simpa [hcs] using h
  | writing k n m => simpa [hcs] using h
  | joining k r => simp [hcs, Serializer.receives] at hrec
  | returned r => simp [hcs, Serializer.receives] at hrec

/-- The books of an export whose sink never fails, over the work list `work`. -/
structure Accounts (src : MetricSource) (work : List WorkItem) (s : State σ ω) : Prop where
  attempted : s.attempted = work.length
  workers_ne_nil : s.workers ≠ []
  /-- The items taken, queued and still with the feeder are the work list, in order. -/
  order : (takes s.trace).map Prod.snd ++ s.work ++ s.feeder.getD [] = work
  /-- A worker stops only once nothing is left to take. -/
  stopped : ∀ w ∈ s.workers, w.task.isStopped = true → s.feeder = none ∧ s.work = []
  /-- The calling thread stops receiving only once every worker has stopped and nothing is
  queued. -/
  drained : s.caller.receives = false → s.workersStopped = true ∧ s.data = []
  /-- Each metric the downloads of the items taken get is written, held by the calling
  thread, queued, or in its worker's hands, exactly once. -/
  served : ∀ m, (((takes s.trace).map Prod.snd).filterMap src.served).count m =
    (written s.trace).count m + s.caller.held.count m + s.data.count m +
      (s.workers.flatMap (·.task.inHand src)).count m
  /-- Each failure of an item taken is recorded by its worker or due from the download in
  hand, exactly once. -/
  unserved : ∀ f, (((takes s.trace).map Prod.snd).filterMap src.unserved).count f =
    (s.workers.flatMap fun w => w.failures ++ w.task.due src).count f
  books : s.Books

variable {work : List WorkItem}

theorem accounts_start (work : List WorkItem) (sink₀ : σ) (workers : Nat) :
    (start work sink₀ workers : State σ ω).Accounts src work where
  attempted := rfl
  workers_ne_nil := by simp [start]
  order := by simp [start]
  stopped w hw hst := by
    obtain ⟨-, rfl⟩ := List.mem_replicate.1 hw
    simp [Task.isStopped] at hst
  drained h := by simp [start, Serializer.receives] at h
  served m := by simp [start, List.flatMap_replicate]
  unserved f := by simp [start, List.flatMap_replicate]
  books := rfl

namespace Accounts

variable (h : s.Accounts src work)
include h

/-- While the feeder holds items no worker has stopped. -/
theorem running_of_feeder {rest : List WorkItem} (hf : s.feeder = some rest) :
    ∀ w ∈ s.workers, w.task.isStopped = false := by
  intro w hw
  cases hst : w.task.isStopped with
  | false => rfl
  | true => simp [(h.stopped w hw hst).1] at hf

theorem workersStopped_of_feeder {rest : List WorkItem} (hf : s.feeder = some rest) :
    s.workersStopped = false := by
  obtain ⟨w, hw⟩ := List.exists_mem_of_ne_nil _ h.workers_ne_nil
  exact List.all_eq_false.2 ⟨w, hw, by simp [h.running_of_feeder hf w hw]⟩

/-- While a worker runs the calling thread receives. -/
theorem receives {i : Nat} {w : Worker} (hw : s.workers[i]? = some w)
    (hrun : w.task.isStopped = false) : s.caller.receives = true := by
  cases hr : s.caller.receives with
  | true => rfl
  | false =>
    have hall := List.all_eq_true.1 (h.drained hr).1 w (List.mem_of_getElem? hw)
    simp [hrun] at hall

theorem feederStep (hstep : s.feederStep = some s') : s'.Accounts src work := by
  rcases feederStep_eq_some hstep with ⟨rest, hfeed, hend, rfl⟩ | ⟨item, rest, hfeed, -, -, rfl⟩
  · -- the feeder stops having sent everything: no worker has stopped while it held items
    have hrest : rest = [] := by
      rcases hend with hend | hall
      · exact hend
      · simp [h.workersStopped_of_feeder hfeed] at hall
    subst hrest
    exact { h with
      order := by simpa [hfeed] using h.order
      stopped := fun u hu hst => by simp [h.running_of_feeder hfeed u hu] at hst }
  · exact { h with
      order := by simpa [hfeed] using h.order
      stopped := fun u hu hst => by simp [h.running_of_feeder hfeed u hu] at hst }

/-- The calling thread's steps keep the books while the sink never fails. -/
theorem callerStep (hwrite : ∀ k m, ∃ k', sink.write k m = .ok k')
    (hfinish : ∀ k, ∃ out, sink.finish k = .ok out) (hstep : s.callerStep sink = some s') :
    s'.Accounts src work := by
  have hbooks := h.books
  rcases callerStep_eq_some hstep with
    ⟨k, n, m, rest, hc, hd, rfl⟩ | ⟨k, n, hc, hd, hall, rfl⟩ | ⟨k, n, m, k', hc, -, rfl⟩ |
    ⟨k, n, m, e, hc, herr, rfl⟩ | ⟨k, e, hc, -, -, rfl⟩ | ⟨k, n, out, hc, -, -, -, rfl⟩ |
    ⟨k, n, e, hc, -, -, herr, rfl⟩
  · -- receives a metric: it moves from the queue to the calling thread's hands
    rw [Books, hc] at hbooks
    exact { h with
      drained := fun hr => nomatch hr
      served := fun x => by
        have hs := h.served x
        simp only [hc, hd, Serializer.held_receiving, Serializer.held_writing, List.count_cons,
          List.count_nil] at hs ⊢
        omega
      books := hbooks }
  · -- stops receiving once every worker has stopped and the queue is empty
    rw [Books, hc] at hbooks
    exact { h with
      drained := fun _ => ⟨hall, hd⟩
      served := fun x => by simpa [hc] using h.served x
      books := hbooks }
  · -- writes it
    rw [Books, hc] at hbooks
    exact { h with
      order := by simpa using h.order
      drained := fun hr => nomatch hr
      served := fun x => by
        have hs := h.served x
        simp only [hc, Serializer.held_writing] at hs
        simp [List.count_singleton] at hs ⊢
        omega
      unserved := fun f => by simpa using h.unserved f
      books := by simp [Books, hbooks] }
  · -- a write that fails: the sink never fails
    obtain ⟨k', hk'⟩ := hwrite k m
    rw [hk'] at herr
    cases herr
  · -- a failed write on the books: there is none
    rw [Books, hc] at hbooks
    exact hbooks.elim
  · -- returns the report
    rw [Books, hc] at hbooks
    exact { h with
      order := by simpa using h.order
      drained := fun _ => h.drained (by simp [hc, Serializer.receives])
      served := fun x => by simpa [hc] using h.served x
      unserved := fun f => by simpa using h.unserved f
      books := ⟨out, by simp [hbooks]⟩ }
  · -- a finish that fails: the sink never fails
    obtain ⟨out, hout⟩ := hfinish k
    rw [hout] at herr
    cases herr

/-- Worker `i` moves to `w'`, which has not stopped unless nothing is left to take. -/
theorem stopped_set {i : Nat} {w' : Worker}
    (hw' : w'.task.isStopped = true → s.feeder = none ∧ s.work = []) :
    ∀ u ∈ s.workers.set i w', u.task.isStopped = true → s.feeder = none ∧ s.work = [] := by
  intro u hu hst
  rcases List.mem_or_eq_of_mem_set hu with hu | rfl
  · exact h.stopped u hu hst
  · exact hw' hst

/-- Worker `i` moves from `w` to `w'`, taking the items `taken` and sending the metrics `sent`:
the metrics stay accounted for when what it holds changes by exactly these. -/
theorem served_move {i : Nat} {w : Worker} (hw : s.workers[i]? = some w) (w' : Worker)
    (taken : List WorkItem) (sent : List MetricData)
    (hmove : ∀ m, (w.task.inHand src ++ taken.filterMap src.served).count m =
      (w'.task.inHand src ++ sent).count m) (x : MetricData) :
    (((takes s.trace).map Prod.snd ++ taken).filterMap src.served).count x =
      (written s.trace).count x + s.caller.held.count x + (s.data ++ sent).count x +
        ((s.workers.set i w').flatMap (·.task.inHand src)).count x := by
  have hs := h.served x
  have hset := count_flatMap_set hw w' (·.task.inHand src) x
  have hm := hmove x
  simp only [List.filterMap_append, List.count_append] at hs hm hset ⊢
  omega

/-- Worker `i` moves from `w` to `w'`, taking the items `taken`: the failures stay accounted
for when those recorded and due change by exactly the failures of these. -/
theorem unserved_move {i : Nat} {w : Worker} (hw : s.workers[i]? = some w) (w' : Worker)
    (taken : List WorkItem)
    (hmove : ∀ f, (w.failures ++ w.task.due src ++ taken.filterMap src.unserved).count f =
      (w'.failures ++ w'.task.due src).count f) (f : FetchFailure) :
    (((takes s.trace).map Prod.snd ++ taken).filterMap src.unserved).count f =
      ((s.workers.set i w').flatMap fun u => u.failures ++ u.task.due src).count f := by
  have hs := h.unserved f
  have hset := count_flatMap_set hw w' (fun u => u.failures ++ u.task.due src) f
  have hm := hmove f
  simp only [List.filterMap_append, List.count_append] at hs hm hset ⊢
  omega

/-- A worker's steps keep the books. -/
theorem workerStep {i : Nat} (hl : Ledgers src s.workers s.trace)
    (hstep : s.workerStep src i = some s') : s'.Accounts src work := by
  obtain ⟨w, hw, htake | hstop | hfetch | hdone | hsend | hgone⟩ := workerStep_eq_some hstep
  all_goals have hlw := hl.worker i w hw
  · -- takes the oldest item: it leaves the queue and its download is in hand
    obtain ⟨htask, item, rest, hwork, rfl⟩ := htake
    have hrec := h.receives hw (by simp [htask, Task.isStopped])
    exact {
      attempted := h.attempted
      workers_ne_nil := by simpa using h.workers_ne_nil
      order := by simpa [hwork] using h.order
      stopped := fun u hu hst => by
        rcases List.mem_or_eq_of_mem_set hu with hu | rfl
        · have hnil := (h.stopped u hu hst).2
          rw [hwork] at hnil
          cases hnil
        · simp [Task.isStopped] at hst
      drained := fun hr => by simp [hrec] at hr
      served := by
        simpa using h.served_move hw ⟨.fetching item item.servers [], w.failures⟩ [item] []
          fun m => by simp [htask, filterMap_singleton_eq_toList]
      unserved := by
        simpa using h.unserved_move hw ⟨.fetching item item.servers [], w.failures⟩ [item]
          fun f => by simp [htask, filterMap_singleton_eq_toList]
      books := h.books.frame hrec rfl (by simp) }
  · -- stops, nothing being left to take
    obtain ⟨htask, hwork, hfeed, rfl⟩ := hstop
    have hrec := h.receives hw (by simp [htask, Task.isStopped])
    exact { h with
      workers_ne_nil := by simpa using h.workers_ne_nil
      stopped := h.stopped_set fun _ => ⟨hfeed, hwork⟩
      drained := fun hr => by simp [hrec] at hr
      served := by simpa using h.served_move hw ⟨.stopped, w.failures⟩ [] [] fun m => by simp [htask]
      unserved := by
        simpa using h.unserved_move hw ⟨.stopped, w.failures⟩ [] fun f => by simp [htask]
      books := h.books.frame hrec rfl rfl }
  · -- asks its next server: the download stays in hand, done or not
    obtain ⟨item, server, left, attempts, htask, rfl⟩ := hfetch
    rw [htask] at hlw
    have hrec := h.receives hw (by simp [htask, Task.isStopped])
    exact {
      attempted := h.attempted
      workers_ne_nil := by simpa using h.workers_ne_nil
      order := by simpa using h.order
      stopped := h.stopped_set fun hst => by simp [Task.isStopped_afterFetch] at hst
      drained := fun hr => by simp [hrec] at hr
      served := by
        simpa using h.served_move hw ⟨_, w.failures⟩ [] [] fun m => by
          simp [htask, hlw.inHand_afterFetch]
      unserved := by
        simpa using h.unserved_move hw ⟨_, w.failures⟩ [] fun f => by
          simp [htask, hlw.due_afterFetch]
      books := h.books.frame hrec rfl (by simp) }
  · -- has asked every server in vain: the failure is recorded
    obtain ⟨item, attempts, htask, rfl⟩ := hdone
    rw [htask] at hlw
    obtain ⟨hserved, hunserved⟩ := hlw.unserved_eq
    have hrec := h.receives hw (by simp [htask, Task.isStopped])
    exact { h with
      workers_ne_nil := by simpa using h.workers_ne_nil
      stopped := h.stopped_set fun hst => by simp [Task.isStopped] at hst
      drained := fun hr => by simp [hrec] at hr
      served := by
        simpa using h.served_move hw ⟨.idle, _⟩ [] [] fun m => by simp [htask, hserved]
      unserved := by
        simpa using h.unserved_move hw ⟨.idle, w.failures ++ [⟨item.name, attempts.reverse⟩]⟩ []
          fun f => by simp [htask, hunserved]
      books := h.books.frame hrec rfl rfl }
  · -- sends its metric: it moves from the worker's hands to the queue
    obtain ⟨m, htask, hrec, -, rfl⟩ := hsend
    exact { h with
      workers_ne_nil := by simpa using h.workers_ne_nil
      stopped := h.stopped_set fun hst => by simp [Task.isStopped] at hst
      drained := fun hr => by simp [hrec] at hr
      served := by simpa using h.served_move hw ⟨.idle, w.failures⟩ [] [m] fun x => by simp [htask]
      unserved := by simpa using h.unserved_move hw ⟨.idle, w.failures⟩ [] fun f => by simp [htask]
      books := h.books.frame hrec rfl rfl }
  · -- a send that fails: the calling thread receives while the worker runs
    obtain ⟨m, htask, hr, -⟩ := hgone
    simp [h.receives hw (by simp [htask, Task.isStopped])] at hr

/-- Every step keeps the books while the sink never fails. -/
theorem step (hwrite : ∀ k m, ∃ k', sink.write k m = .ok k')
    (hfinish : ∀ k, ∃ out, sink.finish k = .ok out) (hl : Ledgers src s.workers s.trace)
    {p : Party} (hstep : s.step src sink p = some s') : s'.Accounts src work := by
  cases p with
  | feeder => exact h.feederStep hstep
  | worker i => exact h.workerStep hl hstep
  | caller => exact h.callerStep hwrite hfinish hstep

end Accounts

end State

/-! ### The accounting -/

/-- What an export over the work list `work`, with the events `trace`, has done once it has
returned the report `report`. -/
structure Accounted (src : MetricSource) (work : List WorkItem) (trace : List Event)
    (report : Report) : Prop where
  /-- Every item counts as attempted. -/
  attempted : report.attempted = work.length
  /-- Each item was taken once, by one worker, in the order of the work list. -/
  taken : (takes trace).map Prod.snd = work
  /-- Each worker asked, for each item it took and in turn, the servers of the item in order up
  to and including the first that serves it, and no other. -/
  requests : ∀ i, byWorker i trace =
    (((takes trace).filter (·.1 == i)).map Prod.snd).flatMap (itemEvents src i)
  /-- The sink saw a write for each metric written, then the finish. -/
  calls : sinkCalls trace = (written trace).map (fun m => .write m none) ++ [.finish none]
  /-- The metrics written are, for each item some server serves, the metric of the first that
  does. -/
  writes : (written trace).Perm (work.filterMap src.served)
  /-- The report counts the writes. -/
  count : report.written = (written trace).length
  /-- The failures are one for each item no server serves, -/
  failures : report.failures.Perm (work.filterMap src.unserved)
  /-- each naming its item and listing every server of it in order with the error it gave. -/
  attempts : ∀ f ∈ report.failures, ∃ item ∈ work, f.name = item.name ∧
    f.attempts.map Prod.fst = item.servers ∧ src.Failing item.name f.attempts
  /-- Hence the items written and those failed add up to the items attempted, -/
  total : report.written + report.failures.length = report.attempted
  /-- and the report is complete exactly when some server serves every item. -/
  complete : report.toResult = .ok report ↔ ∀ item ∈ work, (src.served item).isSome

namespace State

variable {σ ω : Type} {src : MetricSource} {sink : MetricSink σ ω} {s : State σ ω}
  {work : List WorkItem}

theorem caller_of_result {r : Except TarError (ω × Report)} (hr : s.result = some r) :
    s.caller = .returned r := by
  unfold result at hr
  split at hr
  · cases hr
    assumption
  · cases hr

/-- Once an export whose books hold has returned, every item is accounted for. -/
theorem Accounts.accounted {r : Except TarError (ω × Report)} (h : s.Accounts src work)
    (hl : Ledgers src s.workers s.trace) (hlog : s.SinkLog) (hr : s.result = some r) :
    ∃ out report, r = .ok (out, report) ∧ Accounted src work s.trace report := by
  have hc := caller_of_result hr
  have hbooks := h.books
  simp only [Books, hc] at hbooks
  obtain ⟨out, rfl⟩ := hbooks
  -- every worker has stopped: nothing is left to take, to send or to write
  obtain ⟨hall, hdata⟩ := h.drained (by simp [hc, Serializer.receives])
  have hstopped : ∀ w ∈ s.workers, w.task = .stopped := fun w hw =>
    Task.eq_stopped (List.all_eq_true.1 hall w hw)
  obtain ⟨w, hw⟩ := List.exists_mem_of_ne_nil _ h.workers_ne_nil
  obtain ⟨hfeed, hwork⟩ := h.stopped w hw (by simp [hstopped w hw, Task.isStopped])
  have htaken : (takes s.trace).map Prod.snd = work := by simpa [hfeed, hwork] using h.order
  have hinHand : s.workers.flatMap (·.task.inHand src) = [] :=
    List.flatMap_eq_nil_iff.2 fun w hw => by simp [hstopped w hw]
  have hdue : (s.workers.flatMap fun w => w.failures ++ w.task.due src) =
      s.workers.flatMap (·.failures) :=
    List.flatMap_congr fun w hw => by simp [hstopped w hw]
  have hwrites : (written s.trace).Perm (work.filterMap src.served) := by
    refine List.perm_iff_count.2 fun m => ?_
    have hs := h.served m
    rw [htaken, hc, hdata, hinHand] at hs
    simpa using hs.symm
  have hfailures : (s.workers.flatMap (·.failures)).Perm (work.filterMap src.unserved) := by
    refine List.perm_iff_count.2 fun f => ?_
    have hs := h.unserved f
    rw [htaken, hdue] at hs
    exact hs.symm
  have hcalls :
      sinkCalls s.trace = (written s.trace).map (fun m => .write m none) ++ [.finish none] := by
    simp only [SinkLog, hc] at hlog
    obtain ⟨pre, hpre, hok⟩ := hlog
    have hw : written s.trace = pre.filterMap Event.written? := by
      rw [← filterMap_written_sinkCalls, hpre, List.filterMap_append]
      simp
    rw [hpre, hw, ← hok.eq_map]
  refine ⟨out, _, rfl, ?_⟩
  refine {
    attempted := h.attempted
    taken := htaken
    requests := fun i => ?_
    calls := hcalls
    writes := hwrites
    count := rfl
    failures := hfailures
    attempts := fun f hf => ?_
    total := ?_
    complete := ?_ }
  · -- a worker's events are whole downloads of the items it took; a party that is no worker
    -- has none
    rw [← takes_byWorker]
    cases hwi : s.workers[i]? with
    | none => rw [hl.outside i hwi]; rfl
    | some w =>
      have hlw := hl.worker i w hwi
      rw [hstopped w (List.mem_of_getElem? hwi)] at hlw
      obtain ⟨done, hdone⟩ := hlw
      simp [hdone, takes_flatMap_itemEvents, List.map_map, Function.comp_def]
  · obtain ⟨item, hitem, hf⟩ := List.mem_filterMap.1 (hfailures.subset hf)
    exact ⟨item, hitem, MetricSource.unserved_eq_some hf⟩
  · have := src.length_filterMap_served_add_unserved work
    simp only [hwrites.length_eq, hfailures.length_eq, h.attempted]
    omega
  · have key : s.workers.flatMap (·.failures) = [] ↔ work.filterMap src.unserved = [] := by
      constructor
      · intro h0
        rw [h0] at hfailures
        exact hfailures.nil_eq.symm
      · intro h0
        rw [h0] at hfailures
        exact hfailures.eq_nil
    simp only [Report.toResult_eq_ok_iff, key, List.filterMap_eq_nil_iff,
      MetricSource.unserved_eq_none_iff]

/-- **The accounting of an export.** With a sink whose writes and finish never fail, whatever
the source, the work list and the number of workers, and however the threads interleave: no
schedule runs longer than a bound, every schedule can go on to a return, and an export that
has returned has returned its output and a report that accounts for every item. -/
theorem export_accounts_for_every_item (src : MetricSource) (sink : MetricSink σ ω)
    (hwrite : ∀ k m, ∃ k', sink.write k m = .ok k')
    (hfinish : ∀ k, ∃ out, sink.finish k = .ok out) (work : List WorkItem) (sink₀ : σ)
    (workers : Nat) :
    let s₀ : State σ ω := start work sink₀ workers
    (∃ bound, ∀ sched s, s₀.runSchedule src sink sched = some s → sched.length ≤ bound) ∧
    (∀ sched s, s₀.runSchedule src sink sched = some s →
      ∃ more s', s.runSchedule src sink more = some s' ∧ s'.result.isSome) ∧
    ∀ sched s r, s₀.runSchedule src sink sched = some s → s.result = some r →
      ∃ out report, r = .ok (out, report) ∧ Accounted src work s.trace report := by
  intro s₀
  refine ⟨⟨s₀.budget, fun _ _ h => length_le_budget h⟩, fun _ s _ => exists_returned s,
    fun sched s r h hr => ?_⟩
  -- the ledgers, the books and the sink log hold after every schedule
  have hinv := runSchedule_invariant
    (fun s => Ledgers src s.workers s.trace ∧ s.Accounts src work ∧ s.SinkLog)
    (fun _ _ _ ⟨hl, ha, hlog⟩ hstep =>
      ⟨ledgers_step hl hstep, ha.step hwrite hfinish hl hstep, hlog.step hstep⟩)
    ⟨Ledgers.start _, accounts_start work sink₀ workers, sinkLog_start work sink₀ workers⟩ h
  obtain ⟨hl, ha, hlog⟩ := hinv
  exact ha.accounted hl hlog hr

/-- Two workers, an item the second server serves and one no server serves. -/
theorem export_accounts_two_items :
    let src : MetricSource := ⟨fun server name =>
      if server = "a" then .ok ⟨⟨name, 0, 420, 0⟩, []⟩ else .error (.status 503)⟩
    let sink : MetricSink (List String) (List String) := ⟨fun k m => .ok (k ++ [m.stat.name]), .ok⟩
    let work : List WorkItem := [⟨"cpu", ["b", "a"]⟩, ⟨"disk", ["b"]⟩]
    (∀ k m, ∃ k', sink.write k m = .ok k') ∧ (∀ k, ∃ out, sink.finish k = .ok out) ∧
      let s₀ : State (List String) (List String) := start work [] 2
      (∃ bound, ∀ sched s, s₀.runSchedule src sink sched = some s → sched.length ≤ bound) ∧
      (∀ sched s, s₀.runSchedule src sink sched = some s →
        ∃ more s', s.runSchedule src sink more = some s' ∧ s'.result.isSome) ∧
      ∀ sched s r, s₀.runSchedule src sink sched = some s → s.result = some r →
        ∃ out report, r = .ok (out, report) ∧ Accounted src work s.trace report := by
  intro src sink work
  have hwrite : ∀ k m, ∃ k', sink.write k m = .ok k' := fun _ _ => ⟨_, rfl⟩
  have hfinish : ∀ k, ∃ out, sink.finish k = .ok out := fun _ => ⟨_, rfl⟩
  exact ⟨hwrite, hfinish, export_accounts_for_every_item src sink hwrite hfinish work [] 2⟩

end State

end Pipeline

end MetricRing
