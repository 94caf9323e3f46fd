import MetricRing.Metric
/-!
# Metric sources

A `MetricSource` downloads a metric by name from a server. `FetchError` names the ways a
download fails: the request itself, an unsuccessful status, a missing or malformed
`X-Metric-Stat` header, and an unreadable body.

`Catalog` is a source held in memory: metrics listed per server, and servers that are down.
A down server answers status 503 to everything; a metric the catalog does not list for a
server is status 404.
-/

namespace MetricRing

/-- A failed download. -/
inductive FetchError where
  /-- The request could not be made or answered. -/
  | request
  /-- The server answered with an unsuccessful status. -/
  | status (code : Nat)
  /-- The answer had no `X-Metric-Stat` header. -/
  | missingStat
  /-- The `X-Metric-Stat` header could not be read; `reason` says why. -/
  | malformedStat (reason : String)
  /-- The body could not be read. -/
  | body
deriving DecidableEq, Repr

namespace FetchError

/-- The description of the error. -/
def message : FetchError → String
  | request => "failed to request metric"
  | status code => "metric server responded with status " ++ toString code
  | missingStat => "response missing X-Metric-Stat header"
  | malformedStat _ => "malformed X-Metric-Stat header"
  | body => "failed to read metric body"

end FetchError

/-- Somewhere metrics can be downloaded from: a server and a metric name give the metric or
the reason it could not be had. -/
structure MetricSource where
  fetch : String → String → Except FetchError MetricData

/-- A metric a catalog serves: the server, the name it is asked for, and the metric. -/
structure CatalogEntry where
  server : String
  request : String
  metric : MetricData

/-- Metric servers held in memory. -/
structure Catalog where
  entries : List CatalogEntry := []
  down : List String := []

namespace Catalog

/-- What the catalog answers for a metric on a server; a later entry for the same server and
name replaces an earlier one. -/
def fetch (c : Catalog) (server name : String) : Except FetchError MetricData :=
  if c.down.contains server then .error (.status 503)
  else
    match (c.entries.filter fun e => e.server == server && e.request == name).getLast? with
    | some e => .ok e.metric
    | none => .error (.status 404)

/-- The catalog as a metric source. -/
def toSource (c : Catalog) : MetricSource := ⟨c.fetch⟩

end Catalog

end MetricRing
