import MetricRing.Text.Quoted
/-!
# Metrics

A metric as downloaded from a metric daemon: its file attributes (`Stat`, as the daemon reports
them) and the bytes of its whisper file. The attributes are signed 64-bit values in the
daemon's report; here they are integers in that range.
-/

namespace MetricRing

/-- Bytes, in order. -/
abbrev Bytes := List UInt8

/-- File attributes of a metric as the metric daemon reports them. -/
structure Stat where
  name : String
  size : Int
  mode : Int
  modTime : Int
deriving DecidableEq, Repr

/-- A downloaded metric: its reported attributes and its file contents. -/
structure MetricData where
  stat : Stat
  data : Bytes
deriving DecidableEq

namespace Stat

/-- The diagnostic form `MetricStat { name: "…", size: S, mode: M, mod_time: T }`. -/
def debugText (s : Stat) : String :=
  "MetricStat \x7b name: " ++ Text.quote s.name ++ ", size: " ++ toString s.size ++ ", mode: " ++
    toString s.mode ++ ", mod_time: " ++ toString s.modTime ++ " \x7d"

end Stat

namespace MetricData

/-- The metric's name, as its attributes report it. -/
def name (m : MetricData) : String := m.stat.name

/-- The diagnostic form `MetricData(stat:…, data:N bytes)`. -/
def debugText (m : MetricData) : String :=
  "MetricData(stat:" ++ m.stat.debugText ++ ", data:" ++ toString m.data.length ++ " bytes)"

end MetricData

end MetricRing
