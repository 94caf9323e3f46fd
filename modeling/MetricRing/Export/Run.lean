import MetricRing.Export.Plan
import MetricRing.Fetch.Basic
/-!
# Running an export

`run` downloads every work item and writes each downloaded metric into the archive. An item
is tried on its servers in order, up to the first that serves it; an item no server serves is
a `FetchFailure` listing every attempt with its error, and does not stop the batch. A failed
archive write stops the export with `TarError.archive`. Once every item has been tried the
archive is finished.

Items are fetched and written one after another, in work order. The concurrent export, with
its download workers and bounded queues, is the step model of `Export.Pipeline`.

* `Report.toResult` turns an incomplete report into `TarError.incomplete`.
-/

namespace MetricRing

/-- A metric no owner could serve, with each server tried and its error. -/
structure FetchFailure where
  name : String
  attempts : List (String × FetchError)
deriving DecidableEq, Repr

/-- What an export did: items attempted, metrics written, and the failures. -/
structure Report where
  attempted : Nat
  written : Nat
  failures : List FetchFailure
deriving DecidableEq, Repr

namespace Report

/-- Every item was written. -/
def isComplete (r : Report) : Bool := r.failures.isEmpty

/-- The report, or `TarError.incomplete` when an item failed. -/
def toResult (r : Report) : Except TarError Report :=
  if r.isComplete then .ok r else .error (.incomplete r.failures.length r.attempted)

end Report

/-- Tries the servers of an item in order up to the first that serves it; also returns the
requests made, as server and name. -/
def fetchFromOwners (src : MetricSource) (item : WorkItem) :
    Except FetchFailure MetricData × List (String × String) :=
  let rec go (attempts : List (String × FetchError)) (calls : List (String × String)) :
      List String → Except FetchFailure MetricData × List (String × String)
    | [] => (.error ⟨item.name, attempts.reverse⟩, calls.reverse)
    | server :: rest =>
      match src.fetch server item.name with
      | .ok m => (.ok m, ((server, item.name) :: calls).reverse)
      | .error e => go ((server, e) :: attempts) ((server, item.name) :: calls) rest
  go [] [] item.servers

/-- The outcome of an export: the finished archive, the report, and every request made. -/
structure Outcome where
  output : Archive.Output
  report : Report
  calls : List (String × String)

/-- Progress of an export: the archive so far, metrics written, failures and requests, the
last two newest first. -/
structure Progress where
  sink : Archive.TarSink
  written : Nat := 0
  failures : List FetchFailure := []
  calls : List (String × String) := []

/-- Handles one work item. -/
def Progress.step (src : MetricSource) (p : Progress) (item : WorkItem) :
    Except TarError Progress := do
  let (result, calls) := fetchFromOwners src item
  let p := { p with calls := calls.reverse ++ p.calls }
  match result with
  | .ok m =>
    let sink ← (p.sink.write m).mapError .archive
    pure { p with sink, written := p.written + 1 }
  | .error f => pure { p with failures := f :: p.failures }

/-- Downloads every work item into the archive and finishes it. -/
def run (work : List WorkItem) (src : MetricSource) (sink : Archive.TarSink) :
    Except TarError Outcome := do
  let p ← work.foldlM (Progress.step src) { sink }
  let output ← p.sink.finish.mapError .archive
  pure ⟨output, ⟨work.length, p.written, p.failures.reverse⟩, p.calls.reverse⟩

end MetricRing
