import MetricRing.Ring.Basic
import MetricRing.Proofs.Ring.Store
/-!
# The ring invariant

A program creates a ring with `HashRing.empty` or `HashRing.withReplicas` (`HashRing.Fresh`)
and then adds and removes members, changes the replica count and looks owners up, in any order
(`RingOp`, `HashRing.run`); a refused operation leaves the ring as it was. `HashRing.Reachable`
names the rings some such run ends in.

Whatever the run, the ring holds exactly the registrations it leaves standing
(`registrations`): each `add` registers its member with the replica count in force at that
moment, and stands unless a later `remove` names the same identity.

## Main statements

* `HashRing.Realizes` : the invariant, one registration list the ring holds: its members in
  order, its entries in ring order, and at each position the registrations' virtual nodes
  latest first;
* `HashRing.Realizes.addNode`, `HashRing.Realizes.removeNode` : one lemma per operation that
  changes the ring;
* `HashRing.realizes_run` : the invariant after any run, by induction on the operations;
* `HashRing.run_matches_registrations` : **the ring invariant**, spelled out over the
  registrations of the run: the members, the entries with their multiplicities, their order
  and their ties, and the identities on the ring;
* `HashRing.Reachable.wellFormed` : what the lookups rely on, on every reachable ring.
-/

namespace MetricRing

/-- An operation a program performs on a ring. -/
inductive RingOp where
  | add (n : Node)
  | remove (n : Node)
  | setReplicas (r : Nat)
  | owner (key : String)
  | owners (key : String)

namespace RingOp

/-- The operation is a removal that names `n`'s identity. -/
def removes : RingOp → Node → Bool
  | remove m, n => n.sameIdentity m
  | _, _ => false

@[simp] theorem removes_add (m n : Node) : (add m).removes n = false := rfl

@[simp] theorem removes_remove (m n : Node) : (remove m).removes n = n.sameIdentity m := rfl

@[simp] theorem removes_setReplicas (r : Nat) (n : Node) : (setReplicas r).removes n = false :=
  rfl

@[simp] theorem removes_owner (key : String) (n : Node) : (owner key).removes n = false := rfl

@[simp] theorem removes_owners (key : String) (n : Node) : (owners key).removes n = false := rfl

end RingOp

/-- One registration of a member: the member and the replica count in force when it was
made. -/
structure Registration where
  node : Node
  replicas : Nat
  replicas_pos : 0 < replicas

namespace Registration

/-- The virtual nodes a registration places. -/
def entries (g : Registration) : List Entry :=
  HashRing.footprint g.node g.replicas

theorem node_of_mem_entries {g : Registration} {e : Entry} (h : e ∈ g.entries) :
    e.node = g.node := by
  simp only [entries, HashRing.footprint, List.mem_map] at h
  obtain ⟨i, -, rfl⟩ := h
  rfl

/-- A registration places at least one virtual node, its first replica. -/
theorem first_mem_entries (g : Registration) :
    ⟨positionOf (replicaKey g.node.keyValue 0), g.node⟩ ∈ g.entries := by
  simp only [entries, HashRing.footprint, List.mem_map, List.mem_range]
  exact ⟨0, g.replicas_pos, rfl⟩

/-- Keeping the virtual nodes of some members is keeping their registrations. -/
theorem filter_flatMap_entries (q : Node → Bool) (regs : List Registration) :
    (regs.flatMap entries).filter (fun e => q e.node) =
      (regs.filter fun g => q g.node).flatMap entries := by
  induction regs with
  | nil => rfl
  | cons g regs ih =>
    rw [List.flatMap_cons, List.filter_append, ih, List.filter_cons]
    by_cases hq : q g.node
    · rw [List.filter_eq_self.2 fun e he => by rw [node_of_mem_entries he]; exact hq]
      simp [hq]
    · rw [List.filter_eq_nil_iff.2 fun e he => by rw [node_of_mem_entries he]; exact hq]
      simp [hq]

end Registration

/-- The registrations a sequence of operations leaves standing, when `r` is the replica count
in force at its start: each `add` registers its member with the count in force at that moment,
and stands unless a later `remove` names its identity. -/
def registrations (r : Nat) (hr : 0 < r) : List RingOp → List Registration
  | [] => []
  | .add n :: ops =>
    (if ops.any (·.removes n) then [] else [⟨n, r, hr⟩]) ++ registrations r hr ops
  | .remove _ :: ops => registrations r hr ops
  | .setReplicas r' :: ops =>
    if h : 0 < r' then registrations r' h ops else registrations r hr ops
  | .owner _ :: ops => registrations r hr ops
  | .owners _ :: ops => registrations r hr ops

namespace HashRing

/-- The ring after an operation. A refused operation, a replica count of zero, leaves the ring
as it was, and lookups never change it. -/
def apply (ring : HashRing) : RingOp → HashRing
  | .add n => ring.addNode n
  | .remove n => ring.removeNode n
  | .setReplicas r =>
    match ring.setReplicas r with
    | .ok ring' => ring'
    | .error _ => ring
  | .owner _ => ring
  | .owners _ => ring

/-- The ring after a sequence of operations. -/
def run (ring : HashRing) (ops : List RingOp) : HashRing :=
  ops.foldl apply ring

/-- A ring as a program creates it: `HashRing.empty`, or `HashRing.withReplicas` with a count
it accepts. -/
def Fresh (ring : HashRing) : Prop :=
  ring = empty ∨ ∃ r, withReplicas r = .ok ring

/-- A ring some program can hold: a fresh ring after any sequence of operations. -/
def Reachable (ring : HashRing) : Prop :=
  ∃ init ops, Fresh init ∧ init.run ops = ring

@[simp] theorem entries_addNode (ring : HashRing) (n : Node) :
    (ring.addNode n).entries =
      Store.mergeFront ((footprint n ring.replicas).reverse.mergeSort
        fun a b => a.position ≤ b.position) ring.entries :=
  rfl

@[simp] theorem nodes_addNode (ring : HashRing) (n : Node) :
    (ring.addNode n).nodes = ring.nodes ++ [n] :=
  rfl

@[simp] theorem replicas_addNode (ring : HashRing) (n : Node) :
    (ring.addNode n).replicas = ring.replicas :=
  rfl

@[simp] theorem entries_removeNode (ring : HashRing) (n : Node) :
    (ring.removeNode n).entries = ring.entries.filter fun e => !e.node.sameIdentity n :=
  Store.toList_eraseNode _ _

@[simp] theorem nodes_removeNode (ring : HashRing) (n : Node) :
    (ring.removeNode n).nodes = ring.nodes.filter fun m => !m.sameIdentity n :=
  rfl

@[simp] theorem replicas_removeNode (ring : HashRing) (n : Node) :
    (ring.removeNode n).replicas = ring.replicas :=
  rfl

theorem length_footprint (n : Node) (r : Nat) : (footprint n r).length = r := by
  simp [footprint]

/-- Registering a member adds one virtual node per replica. -/
theorem length_entries_addNode (ring : HashRing) (n : Node) :
    (ring.addNode n).entries.length = ring.entries.length + ring.replicas := by
  rw [entries_addNode, (Store.perm_mergeFront _ _).length_eq, List.length_append,
    List.length_mergeSort, List.length_reverse, length_footprint, Nat.add_comm]

theorem entries_addNode_ne_nil (ring : HashRing) (n : Node) : (ring.addNode n).entries ≠ [] := by
  rw [← List.length_pos_iff, length_entries_addNode]
  exact Nat.lt_of_lt_of_le ring.replicas_pos (Nat.le_add_left _ _)

theorem entries_ne_nil_of_removeNode {ring : HashRing} {n : Node}
    (h : (ring.removeNode n).entries ≠ []) : ring.entries ≠ [] := by
  intro hnil
  exact h (by rw [entries_removeNode, hnil, List.filter_nil])

theorem setReplicas_eq_ok {ring ring' : HashRing} {r : Nat}
    (h : ring.setReplicas r = .ok ring') :
    ring'.entries = ring.entries ∧ ring'.nodes = ring.nodes ∧ ring'.replicas = r := by
  unfold setReplicas at h
  split at h
  · cases h
    exact ⟨rfl, rfl, rfl⟩
  · cases h

theorem Fresh.entries_nodes {ring : HashRing} (h : ring.Fresh) :
    ring.entries = [] ∧ ring.nodes = [] := by
  rcases h with rfl | ⟨r, hr⟩
  · exact ⟨rfl, rfl⟩
  · obtain ⟨he, hn, -⟩ := setReplicas_eq_ok hr
    exact ⟨he, hn⟩

/-! ### The invariant -/

/-- The ring holds exactly the registrations `regs`: its members are theirs, in order, and its
entries are in ring order with, at each position, the registrations' virtual nodes there in
reverse order of placement. -/
structure Realizes (ring : HashRing) (regs : List Registration) : Prop where
  nodes_eq : ring.nodes = regs.map Registration.node
  ordered : RingOrdered ring.entries
  filter_position : ∀ p : Position, ring.entries.filter (·.position == p) =
    (regs.flatMap Registration.entries).reverse.filter (·.position == p)

/-- Two lists that agree at every position hold the same entries. -/
theorem perm_of_filter_position {l₁ l₂ : List Entry}
    (h : ∀ p : Position, l₁.filter (·.position == p) = l₂.filter (·.position == p)) :
    l₁.Perm l₂ := by
  refine List.perm_iff_count.2 fun e => ?_
  -- an entry is counted among the entries at its own position
  have he : ∀ l : List Entry, (l.filter (·.position == e.position)).count e = l.count e :=
    fun l => List.count_filter (p := fun x : Entry => x.position == e.position) (a := e)
      (beq_self_eq_true _)
  rw [← he l₁, h, he]

theorem Fresh.realizes {ring : HashRing} (h : ring.Fresh) : ring.Realizes [] := by
  obtain ⟨he, hn⟩ := h.entries_nodes
  exact ⟨hn, he ▸ List.Pairwise.nil, fun p => by simp [he]⟩

theorem Realizes.perm {ring : HashRing} {regs : List Registration} (h : ring.Realizes regs) :
    ring.entries.Perm (regs.flatMap Registration.entries) :=
  (perm_of_filter_position h.filter_position).trans (List.reverse_perm _)

/-- The identities on the ring are those of its members: every registration places at least
one virtual node. -/
theorem Realizes.mem_identities {ring : HashRing} {regs : List Registration}
    (h : ring.Realizes regs) (id : String) :
    id ∈ ring.entries.map (·.node.identity) ↔ id ∈ ring.nodes.map Node.identity := by
  rw [h.nodes_eq, List.map_map]
  constructor
  · intro hid
    obtain ⟨e, he, rfl⟩ := List.mem_map.1 hid
    obtain ⟨g, hg, he'⟩ := List.mem_flatMap.1 (h.perm.mem_iff.1 he)
    exact List.mem_map.2 ⟨g, hg, by simp [Registration.node_of_mem_entries he']⟩
  · intro hid
    obtain ⟨g, hg, rfl⟩ := List.mem_map.1 hid
    exact List.mem_map.2
      ⟨_, h.perm.mem_iff.2 (List.mem_flatMap.2 ⟨g, hg, g.first_mem_entries⟩), rfl⟩

/-- Registering a member merges its virtual nodes in front of the equal positions, and appends
its registration. -/
theorem Realizes.addNode {ring : HashRing} {regs : List Registration} (h : ring.Realizes regs)
    (n : Node) : (ring.addNode n).Realizes (regs ++ [⟨n, ring.replicas, ring.replicas_pos⟩]) where
  nodes_eq := by simp [h.nodes_eq]
  ordered := by
    rw [entries_addNode]
    exact Store.ordered_mergeFront (Store.ordered_mergeSort _) h.ordered
  filter_position p := by
    -- at `p`, the sorted batch keeps the reversed footprint's order and sits ahead of the old
    -- entries: that is the newest registration's entries, reversed, in front
    rw [entries_addNode, Store.filter_position_mergeFront (Store.ordered_mergeSort _),
      Store.filter_position_mergeSort, h.filter_position, ← List.filter_append,
      ← List.reverse_append, List.flatMap_append, List.flatMap_singleton]
    rfl

/-- Removing a member drops the virtual nodes and the registrations of its identity. -/
theorem Realizes.removeNode {ring : HashRing} {regs : List Registration} (h : ring.Realizes regs)
    (n : Node) : (ring.removeNode n).Realizes (regs.filter fun g => !g.node.sameIdentity n) where
  nodes_eq := by
    rw [nodes_removeNode, h.nodes_eq, List.filter_map]
    rfl
  ordered := by
    rw [entries_removeNode]
    exact h.ordered.filter _
  filter_position p := by
    have hkeep := Registration.filter_flatMap_entries (fun m => !m.sameIdentity n) regs
    rw [entries_removeNode, filter_filter_comm, h.filter_position, filter_filter_comm,
      List.filter_reverse, hkeep]

theorem Realizes.setReplicas {ring : HashRing} {regs : List Registration} (h : ring.Realizes regs)
    {r : Nat} {ring' : HashRing} (hr : ring.setReplicas r = .ok ring') : ring'.Realizes regs := by
  obtain ⟨he, hn, -⟩ := setReplicas_eq_ok hr
  exact ⟨hn ▸ h.nodes_eq, he ▸ h.ordered, he ▸ h.filter_position⟩

@[simp] theorem run_cons (ring : HashRing) (op : RingOp) (ops : List RingOp) :
    ring.run (op :: ops) = (ring.apply op).run ops :=
  rfl

/-- **The invariant after any run.** The registrations standing after the run are those of
`regs` that no later removal names, then those the run makes itself. -/
theorem realizes_run {ring : HashRing} {regs : List Registration} (h : ring.Realizes regs)
    (ops : List RingOp) :
    (ring.run ops).Realizes (regs.filter (fun g => !ops.any (·.removes g.node)) ++
      registrations ring.replicas ring.replicas_pos ops) := by
  -- each operation moves the ring and its registrations together, by the step lemmas above
  induction ops generalizing ring regs with
  | nil =>
    simp only [run, List.foldl_nil, List.any_nil, Bool.not_false, registrations, List.append_nil]
    rwa [List.filter_eq_self.2 fun _ _ => rfl]
  | cons op ops ih =>
    cases op with
    | add n =>
      -- the new registration stands unless a later removal names its identity
      have key := ih (h.addNode n)
      simp only [run_cons, apply, registrations, List.any_cons, RingOp.removes_add,
        Bool.false_or, replicas_addNode, List.filter_append, List.filter_cons, List.filter_nil,
        List.append_assoc] at key ⊢
      by_cases hn : ops.any (·.removes n) <;> simpa [hn] using key
    | remove n =>
      -- the removal drops the standing registrations of its identity ahead of later removals
      have key := ih (h.removeNode n)
      simp only [run_cons, apply, registrations, List.any_cons, RingOp.removes_remove,
        replicas_removeNode, List.filter_filter, Bool.not_or] at key ⊢
      simpa only [Bool.and_comm] using key
    | setReplicas r =>
      simp only [run_cons, apply, registrations, List.any_cons, RingOp.removes_setReplicas,
        Bool.false_or]
      by_cases hr : 0 < r
      · have hset : ring.setReplicas r = .ok { ring with replicas := r, replicas_pos := hr } := by
          simp [setReplicas, hr]
        simpa [hset, hr] using ih (h.setReplicas hset)
      · -- a refused count leaves the ring, and the count of later registrations, unchanged
        have hset : ring.setReplicas r = .error .zeroReplicas := by
          simp [setReplicas, hr]
        simpa [hset, hr] using ih h
    | owner key =>
      simpa only [run_cons, apply, registrations, List.any_cons, RingOp.removes_owner,
        Bool.false_or] using ih h
    | owners key =>
      simpa only [run_cons, apply, registrations, List.any_cons, RingOp.removes_owners,
        Bool.false_or] using ih h

/-- What the lookups rely on: the entries are in ring order, and the identities on the ring are
those of the members. -/
structure WellFormed (ring : HashRing) : Prop where
  ordered : RingOrdered ring.entries
  identities : ∀ id, id ∈ ring.entries.map (·.node.identity) ↔ id ∈ ring.nodes.map Node.identity

theorem Realizes.wellFormed {ring : HashRing} {regs : List Registration}
    (h : ring.Realizes regs) : ring.WellFormed :=
  ⟨h.ordered, h.mem_identities⟩

theorem Reachable.realizes {ring : HashRing} (h : ring.Reachable) : ∃ regs, ring.Realizes regs := by
  obtain ⟨init, ops, hinit, rfl⟩ := h
  exact ⟨_, realizes_run hinit.realizes ops⟩

theorem Reachable.wellFormed {ring : HashRing} (h : ring.Reachable) : ring.WellFormed := by
  obtain ⟨regs, hr⟩ := h.realizes
  exact hr.wellFormed

theorem Reachable.apply {ring : HashRing} (h : ring.Reachable) (op : RingOp) :
    (ring.apply op).Reachable := by
  obtain ⟨init, ops, hinit, rfl⟩ := h
  exact ⟨init, ops ++ [op], hinit, by simp [run, List.foldl_append]⟩

theorem Reachable.addNode {ring : HashRing} (h : ring.Reachable) (n : Node) :
    (ring.addNode n).Reachable :=
  h.apply (.add n)

theorem Reachable.removeNode {ring : HashRing} (h : ring.Reachable) (n : Node) :
    (ring.removeNode n).Reachable :=
  h.apply (.remove n)

theorem reachable_empty : empty.Reachable :=
  ⟨empty, [], .inl rfl, rfl⟩

/-- **The ring invariant.** After any run from a fresh ring, with `regs` the registrations the
run leaves standing: the replica count is positive; the members are the standing registrations'
members in registration order; the entries are, with their multiplicities, the virtual nodes of
the standing registrations, each placed with the replica count in force at its registration;
they are in ring order, and the entries at each position come in reverse order of placement,
a later registration first and, within one, a higher replica index first; and the identities
on the ring are those of the members. -/
theorem run_matches_registrations {init : HashRing} (hinit : init.Fresh) (ops : List RingOp) :
    let ring := init.run ops
    let regs := registrations init.replicas init.replicas_pos ops
    0 < ring.replicas ∧
      ring.nodes = regs.map Registration.node ∧
      ring.entries.Perm (regs.flatMap Registration.entries) ∧
      RingOrdered ring.entries ∧
      (∀ p : Position, ring.entries.filter (·.position == p) =
        (regs.flatMap Registration.entries).reverse.filter (·.position == p)) ∧
      ∀ id, id ∈ ring.entries.map (·.node.identity) ↔ id ∈ ring.nodes.map Node.identity := by
  intro ring regs
  have h : ring.Realizes regs := by
    simpa using realizes_run hinit.realizes ops
  exact ⟨ring.replicas_pos, h.nodes_eq, h.perm, h.ordered, h.filter_position, h.mem_identities⟩

/-- The invariant on a run that registers two members under different replica counts and
removes the first. -/
theorem run_matches_registrations_two_members :
    let init := empty
    let ops := [.add ⟨"a", "", by decide⟩, .setReplicas 2, .add ⟨"b", "x", by decide⟩,
      .remove ⟨"a", "", by decide⟩]
    init.Fresh ∧
      let ring := init.run ops
      let regs := registrations init.replicas init.replicas_pos ops
      0 < ring.replicas ∧
        ring.nodes = regs.map Registration.node ∧
        ring.entries.Perm (regs.flatMap Registration.entries) ∧
        RingOrdered ring.entries ∧
        (∀ p : Position, ring.entries.filter (·.position == p) =
          (regs.flatMap Registration.entries).reverse.filter (·.position == p)) ∧
        ∀ id, id ∈ ring.entries.map (·.node.identity) ↔ id ∈ ring.nodes.map Node.identity :=
  ⟨.inl rfl, run_matches_registrations (.inl rfl) _⟩

end HashRing

end MetricRing
