/-!
# Archive paths of metrics

A metric `a.b.c` is stored in an archive at `a/b/c.wsp`: each dot becomes a directory
separator, the whisper suffix `.wsp` is appended, and leading separators are dropped.
`pathToMetric` reads a path back: leading separators dropped, the suffix stripped when present,
separators turned back into dots.
-/

namespace MetricRing.Archive

/-- The suffix of every metric file. -/
def suffix : String := ".wsp"

/-- Replaces every occurrence of one character by another. -/
def replaceChar (a b : Char) (s : String) : String :=
  String.ofList (s.toList.map fun c => if c = a then b else c)

/-- Drops the leading `/` characters of a text. -/
def dropLeadingSlashes (s : String) : String :=
  String.ofList (s.toList.dropWhile (· = '/'))

/-- Where a metric is stored inside an archive. -/
def metricToPath (metric : String) : String :=
  dropLeadingSlashes (replaceChar '.' '/' metric ++ suffix)

/-- The metric stored at an archive path. -/
def pathToMetric (path : String) : String :=
  let p := dropLeadingSlashes path
  let stem := if p.endsWith suffix then String.ofList (p.toList.take (p.length - suffix.length)) else p
  replaceChar '/' '.' stem

example : metricToPath "carbon.agents.a.cpuUsage" = "carbon/agents/a/cpuUsage.wsp" := by decide +kernel
example : pathToMetric "//foo/bar.wsp" = "foo.bar" := by decide +kernel

end MetricRing.Archive
