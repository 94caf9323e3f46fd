import MetricRing.Ring.Basic
/-!
# Finding owners on the ring

A key belongs to the first virtual node at or after its position, wrapping past the top of the
ring. `HashRing.owner` returns that node's member. `HashRing.owners` walks the ring from there
and lists each identity the first time it is met, primary owner first, stopping once every
registered identity has been seen. Both refuse an empty ring with `RingFault.empty`.
-/

namespace MetricRing

namespace HashRing

/-- Number of distinct identities among the registered members. -/
def distinctCount (ring : HashRing) : Nat :=
  (ring.nodes.map Node.identity).eraseDups.length

/-- The index of the first virtual node at or after a key's position; refused on an empty
ring. -/
def startIndex (ring : HashRing) (key : String) : Except RingFault Nat :=
  if ring.isEmpty then .error .empty else .ok (ring.store.findIndex (positionOf key))

/-- The member owning a key. -/
def owner (ring : HashRing) (key : String) : Except RingFault Node := do
  let start ← ring.startIndex key
  match ring.store.get? (start % ring.size) with
  | some e => pure e.node
  | none => throw .empty

/-- Walks entries, keeping each member whose identity is new, until `distinct` identities have
been kept. `seen` holds the identities kept so far. -/
def collectDistinct (distinct : Nat) (seen : List String) : List Entry → List Node
  | [] => []
  | e :: es =>
    if distinct ≤ seen.length then []
    else if seen.contains e.node.identity then collectDistinct distinct seen es
    else e.node :: collectDistinct distinct (e.node.identity :: seen) es

/-- The distinct members met walking clockwise from a key's position, primary owner first. -/
def owners (ring : HashRing) (key : String) : Except RingFault (List Node) := do
  let start ← ring.startIndex key
  let walk := ring.entries.rotateLeft start
  pure (collectDistinct ring.distinctCount [] walk)

end HashRing

end MetricRing
