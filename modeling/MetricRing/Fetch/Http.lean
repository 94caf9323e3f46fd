import MetricRing.Fetch.Basic
/-!
# Downloading metrics over HTTP

An `HttpSource` downloads a metric from the metric daemon's `/metrics/<name>` endpoint on a
server's HTTP port, through a `Transport` that sends a GET request and returns the answer if
one came. `Transport.offline` is a network where no request gets an answer, so every download
fails with `FetchError.request`.
-/

namespace MetricRing

/-- An HTTP answer: status code, header fields, body. -/
structure Response where
  status : Nat
  headers : List (String × String)
  body : Bytes

/-- Sends a GET request for a URL and returns the answer, or nothing when no answer came. -/
structure Transport where
  get : String → Option Response

namespace Transport

/-- A network on which no request is answered. -/
def offline : Transport := ⟨fun _ => none⟩

end Transport

/-- A metric daemon client: the daemons' HTTP port, the request deadline, and the network. -/
structure HttpSource where
  port : Nat
  timeoutSecs : Nat
  transport : Transport

namespace HttpSource

/-- The base URL of a server's metric endpoint. -/
def scope (s : HttpSource) (server : String) : String :=
  "http://" ++ server ++ ":" ++ toString s.port ++ "/metrics"

/-- The URL of one metric on a server. -/
def route (s : HttpSource) (server name : String) : String := s.scope server ++ "/" ++ name

/-- The diagnostic form `HttpMetricSource(port:P)`. -/
def debugText (s : HttpSource) : String := "HttpMetricSource(port:" ++ toString s.port ++ ")"

/-- Downloads a metric: an unanswered request is `FetchError.request`, an unsuccessful status
is `FetchError.status`. -/
def fetch (s : HttpSource) (server name : String) : Except FetchError MetricData :=
  match s.transport.get (s.route server name) with
  | none => .error .request
  | some r =>
    if r.status < 200 || 300 ≤ r.status then .error (.status r.status)
    else .error .missingStat

/-- The client as a metric source. -/
def toSource (s : HttpSource) : MetricSource := ⟨s.fetch⟩

end HttpSource

end MetricRing
