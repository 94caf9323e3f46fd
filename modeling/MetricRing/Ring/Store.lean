import MetricRing.Ring.Position
import MetricRing.Ring.Node
/-!
# The ring store

A `Store` holds the ring's entries, each a position and the node owning it, non-decreasing by
position. A new entry goes in front of every entry already at its position, so entries that
share a position appear latest first.

* `Store.findIndex` is a binary search for the first entry at or after a position;
* `Store.insert` places one entry, `Store.insertBatch` a batch sorted as repeated insertion
  would leave it, by one merge;
* `Store.eraseNode` drops the entries of an identity and counts them.
-/

namespace MetricRing

/-- A virtual node: a position and the member owning it. -/
structure Entry where
  position : Position
  node : Node
deriving DecidableEq

/-- Ring entries, non-decreasing by position. -/
structure Store where
  entries : Array Entry := #[]

namespace Store

/-- The store with no entries. -/
def empty : Store := {}

/-- Number of entries. -/
def size (s : Store) : Nat := s.entries.size

/-- The store has no entries. -/
def isEmpty (s : Store) : Bool := s.entries.isEmpty

/-- The entries in order. -/
def toList (s : Store) : List Entry := s.entries.toList

/-- The entry at an index, if there is one. -/
def get? (s : Store) (i : Nat) : Option Entry := s.entries[i]?

/-- Binary search between `lo` and `hi` for the first index whose entry is at or after `p`,
assuming every entry before `lo` is before `p` and every entry from `hi` on is not. -/
def lowerBound (es : Array Entry) (p : Position) (lo hi : Nat) (hhi : hi ≤ es.size) : Nat :=
  if h : lo < hi then
    let mid := (lo + hi) / 2
    have hmid : mid < es.size := by omega
    if es[mid].position < p then lowerBound es p (mid + 1) hi hhi
    else lowerBound es p lo mid (by omega)
  else lo
termination_by hi - lo

/-- The first index whose entry sits at or after `p`, or the size when every entry is
before `p`. -/
def findIndex (s : Store) (p : Position) : Nat :=
  lowerBound s.entries p 0 s.entries.size (Nat.le_refl _)

/-- Inserts an entry in front of the entries already at or after its position. -/
def insert (s : Store) (e : Entry) : Store :=
  let i := s.findIndex e.position
  ⟨(s.entries.extract 0 i).push e ++ s.entries.extract i s.entries.size⟩

/-- Merges a batch, sorted by position with later insertions first among equals, in front of
the equal positions of a sorted list. -/
def mergeFront : List Entry → List Entry → List Entry
  | [], es => es
  | b :: bs, [] => b :: bs
  | b :: bs, e :: es =>
    if e.position < b.position then e :: mergeFront (b :: bs) es
    else b :: mergeFront bs (e :: es)
termination_by bs es => bs.length + es.length

/-- Inserts a list of entries one after another, as one merge: the batch is ordered by
position, later entries first among equals, and merged in front of equal positions. -/
def insertBatch (s : Store) (batch : List Entry) : Store :=
  let sorted := batch.reverse.mergeSort fun a b => a.position ≤ b.position
  ⟨(mergeFront sorted s.entries.toList).toArray⟩

/-- Drops every entry whose node shares `n`'s identity; also returns how many went. -/
def eraseNode (s : Store) (n : Node) : Store × Nat :=
  let kept := s.entries.filter fun e => !e.node.sameIdentity n
  (⟨kept⟩, s.entries.size - kept.size)

theorem toList_mk (es : Array Entry) : Store.toList ⟨es⟩ = es.toList := rfl

end Store

end MetricRing
