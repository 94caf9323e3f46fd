import MetricRing.Ring.Lookup
import MetricRing.Archive.Writer
/-!
# Planning an export

An export downloads a list of metrics into one archive. `plan` resolves the owners of every
metric once, before any download: names are sorted and deduplicated so the archive comes out
in a stable order, and each work item lists the servers to try, primary owner first. With
fallback the list is the server of every member met walking the ring from the metric's
position; without it only the primary owner's. A server appears once even when several
members share it.

`TarError` names the ways an export fails: an empty ring, a failed archive write, and metrics
that could not be fetched from any owner.
-/

namespace MetricRing

/-- A failed export. -/
inductive TarError where
  /-- There is no member to place metrics on. -/
  | emptyRing
  /-- The archive could not be written. -/
  | archive (e : Archive.ArchiveError)
  /-- `failed` of the `attempted` metrics could not be fetched. -/
  | incomplete (failed attempted : Nat)
deriving DecidableEq, Repr

namespace TarError

/-- The description of the error. -/
def message : TarError → String
  | emptyRing => "cannot place metrics on an empty ring"
  | archive _ => "failed to build archive"
  | incomplete failed attempted =>
    toString failed ++ " of " ++ toString attempted ++ " metrics could not be fetched"

end TarError

/-- A metric and the servers to try for it, primary owner first. -/
structure WorkItem where
  name : String
  servers : List String
deriving DecidableEq, Repr

/-- A sorted list without its repeated neighbours. -/
def dedupSorted : List String → List String
  | a :: b :: rest => if a = b then dedupSorted (b :: rest) else a :: dedupSorted (b :: rest)
  | l => l

/-- The distinct elements of a list, in the order of their first occurrence. -/
def firstOccurrences : List String → List String
  | [] => []
  | a :: rest => a :: (firstOccurrences rest).filter (· != a)

/-- The work item of one metric. -/
def workItem (ring : HashRing) (fallback : Bool) (name : String) : Except RingFault WorkItem := do
  let owners ← if fallback then ring.owners name else do pure [← ring.owner name]
  pure ⟨name, firstOccurrences (owners.map Node.server)⟩

/-- Resolves the owners of every metric, in name order. -/
def plan (ring : HashRing) (metrics : List String) (fallback : Bool) :
    Except TarError (List WorkItem) :=
  if ring.isEmpty then .error .emptyRing
  else
    let names := dedupSorted (metrics.mergeSort fun a b => decide (a ≤ b))
    (names.mapM (workItem ring fallback)).mapError fun _ => .emptyRing

end MetricRing
