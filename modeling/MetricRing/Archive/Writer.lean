import MetricRing.Archive.Header
import MetricRing.Archive.Output
import MetricRing.Archive.Path
/-!
# Writing metrics into a tar archive

`TarSink` writes each metric as one regular-file entry at `metricToPath` of its name: a GNU
header carrying the size of the received bytes (not the reported size), the reported mode
reduced to the field's octal digits, and the reported modification time clamped at zero; then
the bytes, padded with zeros to whole blocks. A path that does not fit the name field is
preceded by a long-name entry. `TarSink.finish` ends the archive with two zero blocks.

Every write can fail: the output may refuse bytes and the path may not be writable.
`ArchiveError.io` carries the cause.
-/

namespace MetricRing.Archive

/-- What went wrong underneath an archive write. -/
inductive IoFault where
  | write (f : WriteFault)
  | name (e : NameError)
deriving DecidableEq, Repr

namespace IoFault

/-- The description of the fault. -/
def message : IoFault → String
  | write f => f.message
  | name e => e.message

end IoFault

/-- A failed archive write. -/
inductive ArchiveError where
  | io (cause : IoFault)
deriving DecidableEq, Repr

namespace ArchiveError

/-- The description of the error. -/
def message : ArchiveError → String
  | io _ => "failed to write archive"

/-- The description of the cause. -/
def source : ArchiveError → String
  | io c => c.message

end ArchiveError

/-- Zero bytes that pad `n` bytes of data to whole blocks. -/
def padding (n : Nat) : Bytes := zeros ((512 - n % 512) % 512)

/-- Writes a block of header and its data, padded to whole blocks. -/
def appendEntry (o : Output) (header : Bytes) (data : Bytes) : Except WriteFault Output := do
  let o ← o.emit header
  let o ← o.emit data
  o.emit (padding data.length)

/-- A tar archive under construction. -/
structure TarSink where
  out : Output

namespace TarSink

/-- An archive writing into `out`. -/
def new (out : Output) : TarSink := ⟨out⟩

/-- The header fields a metric sets before its path. -/
def headerOf (m : MetricData) : Header :=
  { Header.gnu with
    size := numeric 12 m.data.length
    mode := octal 8 (m.stat.mode % 4294967296).toNat
    mtime := numeric 12 (max m.stat.modTime 0).toNat }

/-- Lifts a write fault into an archive error. -/
def onWrite {α} (x : Except WriteFault α) : Except ArchiveError α :=
  x.mapError fun f => .io (.write f)

/-- Lifts a name error into an archive error. -/
def onName {α} (x : Except NameError α) : Except ArchiveError α :=
  x.mapError fun e => .io (.name e)

/-- Writes a metric as one entry, preceded by a long-name entry when its path does not fit. -/
def write (s : TarSink) (m : MetricData) : Except ArchiveError TarSink := do
  let path := metricToPath m.name
  let h := headerOf m
  let (o, h) ← match h.setPath path with
    | .ok h' => pure (s.out, h')
    | .error e =>
      let bytes := path.toUTF8.toList
      if bytes.length < 100 then throw (.io (.name e))
      else
        let o ← onWrite (appendEntry s.out (Header.longName bytes.length).toBytes (bytes ++ [0]))
        let h' ← onName ({ h with name := e.field }.setPath (utf8Prefix path 100))
        pure (o, h')
  let o ← onWrite (appendEntry o h.toBytes m.data)
  pure ⟨o⟩

/-- Ends the archive with two zero blocks and gives back the output. -/
def finish (s : TarSink) : Except ArchiveError Output :=
  onWrite (s.out.emit (zeros 1024))

end TarSink

end MetricRing.Archive
