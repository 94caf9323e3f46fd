import MetricRing.Ring.Store
/-!
# The hash ring

A `HashRing` places metrics on cluster members. Every registered member contributes `replicas`
virtual nodes, the `i`-th at the position of `replicaKey kv i` for the member's key value `kv`;
the replica count is always positive and applies to members registered after it is set.
Registration keeps no duplicate check: registering an identity twice doubles its footprint.
Removal drops every registration and virtual node of an identity.

`RingFault` names the two ways an operation is refused: a lookup on an empty ring and a replica
count of zero. A refused operation leaves the ring as it was.
-/

namespace MetricRing

/-- The virtual node count of a ring that was not given one. -/
def defaultReplicas : Nat := 100

/-- An operation the ring refuses. -/
inductive RingFault where
  /-- A lookup on a ring without virtual nodes. -/
  | empty
  /-- A replica count of zero. -/
  | zeroReplicas
deriving DecidableEq, Repr

namespace RingFault

/-- The description of the fault. -/
def message : RingFault → String
  | empty => "HashRing is empty"
  | zeroReplicas => "HashRing replicas must be positive"

end RingFault

/-- A consistent hashing ring: its virtual nodes, its members in registration order, and the
virtual node count for members registered from now on. -/
structure HashRing where
  store : Store
  nodes : List Node
  replicas : Nat
  replicas_pos : 0 < replicas

namespace HashRing

/-- A ring without members, with `defaultReplicas` virtual nodes per member. -/
def empty : HashRing := ⟨Store.empty, [], defaultReplicas, by decide⟩

/-- Sets the virtual node count for members registered from now on; zero is refused. -/
def setReplicas (ring : HashRing) (r : Nat) : Except RingFault HashRing :=
  if h : 0 < r then .ok { ring with replicas := r, replicas_pos := h } else .error .zeroReplicas

/-- A ring without members whose members each get `r` virtual nodes; zero is refused. -/
def withReplicas (r : Nat) : Except RingFault HashRing := empty.setReplicas r

/-- The virtual nodes a member contributes when `r` is the replica count. -/
def footprint (n : Node) (r : Nat) : List Entry :=
  (List.range r).map fun i => ⟨positionOf (replicaKey n.keyValue i), n⟩

/-- Registers a member and places its virtual nodes. -/
def addNode (ring : HashRing) (n : Node) : HashRing :=
  { ring with
    store := ring.store.insertBatch (footprint n ring.replicas)
    nodes := ring.nodes ++ [n] }

/-- Drops every registration and virtual node sharing `n`'s identity. -/
def removeNode (ring : HashRing) (n : Node) : HashRing :=
  { ring with
    store := (ring.store.eraseNode n).1
    nodes := ring.nodes.filter fun m => !m.sameIdentity n }

/-- Number of virtual nodes. -/
def size (ring : HashRing) : Nat := ring.store.size

/-- The ring has no virtual nodes. -/
def isEmpty (ring : HashRing) : Bool := ring.store.isEmpty

/-- The virtual nodes in ring order. -/
def entries (ring : HashRing) : List Entry := ring.store.toList

/-- The summary `[HashRing: N nodes, R replicas, M ring members id id ...]`. -/
def render (ring : HashRing) : String :=
  "[HashRing: " ++ toString ring.nodes.length ++ " nodes, " ++ toString ring.replicas ++
    " replicas, " ++ toString ring.size ++ " ring members " ++
    " ".intercalate (ring.nodes.map Node.render) ++ "]"

/-- The diagnostic form `HashRing(nodes:[Node(a), ...], replicas:R, members:M)`. -/
def debugText (ring : HashRing) : String :=
  "HashRing(nodes:[" ++ ", ".intercalate (ring.nodes.map Node.debugText) ++ "], replicas:" ++
    toString ring.replicas ++ ", members:" ++ toString ring.size ++ ")"

end HashRing

end MetricRing
