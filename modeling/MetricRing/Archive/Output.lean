import MetricRing.Metric
/-!
# Archive output

An `Output` collects the bytes an archive writer emits. It may carry a limit on the bytes it
accepts in total: a write that would pass the limit fails with `WriteFault.limitReached`, so a
chunk is accepted exactly when all of it fits. Empty writes always succeed.

* `Output.contents_emit` says an accepted chunk is appended to the contents.
-/

namespace MetricRing.Archive

/-- Why the output refused a write. -/
inductive WriteFault where
  /-- The bytes would pass the output's limit. -/
  | limitReached
deriving DecidableEq, Repr

namespace WriteFault

/-- The description of the fault. -/
def message : WriteFault → String
  | limitReached => "write limit reached"

end WriteFault

/-- Bytes written so far (newest chunk first), their count, and the optional limit. -/
structure Output where
  chunks : List Bytes := []
  written : Nat := 0
  limit : Option Nat := none

namespace Output

/-- An output accepting at most `limit` bytes, or any number without a limit. -/
def withLimit (limit : Option Nat) : Output := { limit }

/-- The bytes written, in order. -/
def contents (o : Output) : Bytes := o.chunks.reverse.flatten

/-- The chunk fits under the limit. -/
def fits (o : Output) (chunk : Bytes) : Bool :=
  match o.limit with
  | some l => o.written + chunk.length ≤ l
  | none => true

/-- Writes a chunk, refusing it when it would pass the limit. -/
def emit (o : Output) (chunk : Bytes) : Except WriteFault Output :=
  if chunk.isEmpty then .ok o
  else if o.fits chunk then .ok { o with chunks := chunk :: o.chunks, written := o.written + chunk.length }
  else .error .limitReached

theorem contents_emit (o o' : Output) (chunk : Bytes) (h : o.emit chunk = .ok o') :
    o'.contents = o.contents ++ chunk := by
  unfold emit at h
  split at h
  · rename_i hc
    cases h
    simp_all [List.isEmpty_iff]
  · split at h
    · cases h; simp [contents]
    · cases h

end Output

end MetricRing.Archive
