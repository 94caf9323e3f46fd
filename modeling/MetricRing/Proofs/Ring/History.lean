import Mathlib.Data.List.Basic
import MetricRing.Proofs.Ring.Invariant
/-!
# The store after any history

A program changes a store by inserting entries, at any position and for any node, and by
removing the entries of an identity, in any order (`StoreOp`, `Store.run`). Whatever the
history, the store holds exactly the entries it leaves standing (`standing`): each inserted
entry that no later removal names. They are sorted by position with the later insertion first
among equal positions, which is a stable sort of the standing entries taken in reverse
insertion order.

## Main statements

* `eq_of_filter_position` : two lists in ring order that agree at every position are equal;
* `Store.Holds` : the invariant, the entries a store holds, with one lemma per operation
  (`Store.Holds.insert`, `Store.Holds.remove`) and the invariant after any run
  (`Store.holds_run`);
* `Store.eraseNode_count` : a removal returns how many entries of its identity the store held;
* `Store.insertBatch_eq_foldl_insert` : merging a batch at once leaves the store that inserting
  its entries one after another leaves, so `HashRing.addNode_eq_insert_loop` : registering a
  member is inserting its virtual nodes one by one;
* `Store.run_eq_sorted_standing` : **the closed form** of the store after any history, and the
  count each removal returns.
-/

namespace MetricRing

/-- Two lists in ring order that agree at every position are equal: ring order fixes the order
of the positions, and the entries at each position come in the order of their filter. -/
theorem eq_of_filter_position {l₁ l₂ : List Entry} (h₁ : RingOrdered l₁) (h₂ : RingOrdered l₂)
    (h : ∀ p : Position, l₁.filter (·.position == p) = l₂.filter (·.position == p)) :
    l₁ = l₂ := by
  induction l₁ generalizing l₂ with
  | nil =>
    cases l₂ with
    | nil => rfl
    | cons b l₂ => simpa using h b.position
  | cons a l₁ ih =>
    cases l₂ with
    | nil => simpa using h a.position
    | cons b l₂ =>
      have hperm := HashRing.perm_of_filter_position h
      -- each head sits at the least position of its list, and the lists hold the same entries
      have hab : a.position ≤ b.position := by
        rcases List.mem_cons.1 (hperm.symm.subset List.mem_cons_self) with hb | hb
        · rw [hb]
          exact UInt16.le_refl _
        · exact List.rel_of_pairwise_cons h₁ hb
      have hba : b.position ≤ a.position := by
        rcases List.mem_cons.1 (hperm.subset List.mem_cons_self) with ha | ha
        · rw [ha]
          exact UInt16.le_refl _
        · exact List.rel_of_pairwise_cons h₂ ha
      have hpos : a.position = b.position := UInt16.le_antisymm hab hba
      have hat := h a.position
      rw [List.filter_cons_of_pos (by simp), List.filter_cons_of_pos (by simp [hpos])] at hat
      obtain ⟨rfl, hrest⟩ := List.cons.inj hat
      congr 1
      refine ih h₁.of_cons h₂.of_cons fun p => ?_
      by_cases hp : a.position = p
      · exact hp ▸ hrest
      · simpa [hp] using h p

/-- An operation a program performs on a store. -/
inductive StoreOp where
  /-- Inserts an entry in front of the entries at its position. -/
  | insert (e : Entry)
  /-- Removes every entry of the node's identity. -/
  | remove (n : Node)

namespace StoreOp

/-- The operation is a removal that names `n`'s identity. -/
def removes : StoreOp → Node → Bool
  | insert _, _ => false
  | remove m, n => n.sameIdentity m

@[simp] theorem removes_insert (e : Entry) (n : Node) : (insert e).removes n = false := rfl

@[simp] theorem removes_remove (m n : Node) : (remove m).removes n = n.sameIdentity m := rfl

end StoreOp

/-- The entries a history leaves standing, in insertion order: each inserted entry, unless a
later removal names its identity. -/
def standing : List StoreOp → List Entry
  | [] => []
  | .insert e :: ops => (if ops.any (·.removes e.node) then [] else [e]) ++ standing ops
  | .remove _ :: ops => standing ops

namespace Store

/-- The store after an operation. -/
def apply (s : Store) : StoreOp → Store
  | .insert e => s.insert e
  | .remove n => (s.eraseNode n).1

/-- The store after a sequence of operations. -/
def run (s : Store) (ops : List StoreOp) : Store :=
  ops.foldl apply s

@[simp] theorem run_nil (s : Store) : s.run [] = s := rfl

@[simp] theorem run_cons (s : Store) (op : StoreOp) (ops : List StoreOp) :
    s.run (op :: ops) = (s.apply op).run ops :=
  rfl

/-- A removal returns how many entries of its identity the store held. -/
theorem eraseNode_count (s : Store) (n : Node) :
    (s.eraseNode n).2 = (s.toList.filter fun e => e.node.sameIdentity n).length := by
  have h : s.toList.length = _ := List.length_eq_length_filter_add fun e => e.node.sameIdentity n
  have hkept : (s.entries.filter fun e => !e.node.sameIdentity n).size =
      (s.toList.filter fun e => !e.node.sameIdentity n).length := by
    rw [← Array.length_toList, Array.toList_filter, toList]
  simp only [eraseNode, hkept]
  simp only [toList, ← Array.length_toList] at h ⊢
  omega

/-! ### The invariant -/

/-- The store holds exactly the entries `es`, inserted in this order: its entries are in ring
order, and at each position they are the entries of `es` there, latest first. -/
structure Holds (s : Store) (es : List Entry) : Prop where
  ordered : RingOrdered s.toList
  filter_position : ∀ p : Position,
    s.toList.filter (·.position == p) = es.reverse.filter (·.position == p)

variable {s : Store} {es : List Entry}

theorem holds_empty : empty.Holds [] :=
  ⟨by simp [RingOrdered], fun p => by simp⟩

theorem Holds.perm (h : s.Holds es) : s.toList.Perm es :=
  (HashRing.perm_of_filter_position h.filter_position).trans (List.reverse_perm _)

/-- An insertion goes in front of the entries already at its position. -/
theorem Holds.insert (h : s.Holds es) (e : Entry) : (s.insert e).Holds (es ++ [e]) where
  ordered := by
    rw [toList_insert h.ordered]
    exact ordered_mergeFront (List.pairwise_singleton _ _) h.ordered
  filter_position p := by
    rw [toList_insert h.ordered, filter_position_mergeFront (List.pairwise_singleton _ _),
      h.filter_position, List.reverse_append, List.filter_append]
    rfl

/-- A removal drops the entries of its identity. -/
theorem Holds.remove (h : s.Holds es) (n : Node) :
    (s.eraseNode n).1.Holds (es.filter fun e => !e.node.sameIdentity n) where
  ordered := by
    rw [toList_eraseNode]
    exact h.ordered.filter _
  filter_position p := by
    rw [toList_eraseNode, filter_filter_comm, h.filter_position, filter_filter_comm,
      List.filter_reverse]

/-- **The invariant after any run.** The entries standing after the run are those of `es` that
no later removal names, then those the run inserts itself and leaves standing. -/
theorem holds_run (h : s.Holds es) (ops : List StoreOp) :
    (s.run ops).Holds (es.filter (fun e => !ops.any (·.removes e.node)) ++ standing ops) := by
  induction ops generalizing s es with
  | nil =>
    simp only [run_nil, List.any_nil, Bool.not_false, standing, List.append_nil]
    rwa [List.filter_eq_self.2 fun _ _ => rfl]
  | cons op ops ih =>
    cases op with
    | insert e =>
      -- the new entry stands unless a later removal names its identity
      have key := ih (h.insert e)
      simp only [run_cons, apply, standing, List.any_cons, StoreOp.removes_insert,
        Bool.false_or, List.filter_append, List.filter_cons, List.filter_nil,
        List.append_assoc] at key ⊢
      by_cases hn : ops.any (·.removes e.node) <;> simpa [hn] using key
    | remove n =>
      -- the removal drops the standing entries of its identity ahead of later removals
      have key := ih (h.remove n)
      simp only [run_cons, apply, standing, List.any_cons, StoreOp.removes_remove,
        List.filter_filter, Bool.not_or] at key ⊢
      simpa only [Bool.and_comm] using key

/-! ### A batch merged at once -/

theorem holds_self (hs : RingOrdered s.toList) : s.Holds s.toList.reverse :=
  ⟨hs, fun p => by rw [List.reverse_reverse]⟩

theorem Holds.foldl_insert (h : s.Holds es) (batch : List Entry) :
    (batch.foldl Store.insert s).Holds (es ++ batch) := by
  induction batch generalizing s es with
  | nil => simpa using h
  | cons e batch ih => simpa using ih (h.insert e)

/-- A batch merged at once goes in as its entries inserted one after another: at every
position, the batch's entries come first, the latest first. -/
theorem Holds.insertBatch (h : s.Holds es) (batch : List Entry) :
    (s.insertBatch batch).Holds (es ++ batch) where
  ordered := by
    rw [toList_insertBatch]
    exact ordered_mergeFront (ordered_mergeSort _) h.ordered
  filter_position p := by
    rw [toList_insertBatch, filter_position_mergeFront (ordered_mergeSort _),
      filter_position_mergeSort, h.filter_position, List.reverse_append, List.filter_append]

/-- **One merge is the insertion loop.** On a store in ring order, merging a batch leaves the
store that inserting its entries one after another leaves. -/
theorem insertBatch_eq_foldl_insert (hs : RingOrdered s.toList) (batch : List Entry) :
    s.insertBatch batch = batch.foldl insert s := by
  have h₁ := (holds_self hs).insertBatch batch
  have h₂ := (holds_self hs).foldl_insert batch
  refine eq_of_toList_eq (eq_of_filter_position h₁.ordered h₂.ordered fun p => ?_)
  rw [h₁.filter_position, h₂.filter_position]

/-- **The store after any history.** From the empty store, whatever insertions and removals,
the entries are the stable sort by position of the standing entries taken in reverse insertion
order; and a removal issued after the history returns the number of entries of its identity the
store holds, which is the number of standing entries of that identity. -/
theorem run_eq_sorted_standing (ops : List StoreOp) :
    (empty.run ops).toList =
        (standing ops).reverse.mergeSort (fun a b => a.position ≤ b.position) ∧
      ∀ n : Node,
        ((empty.run ops).eraseNode n).2 =
            ((empty.run ops).toList.filter fun e => e.node.sameIdentity n).length ∧
          ((empty.run ops).eraseNode n).2 =
            ((standing ops).filter fun e => e.node.sameIdentity n).length := by
  have h : (empty.run ops).Holds (standing ops) := by
    simpa using holds_run holds_empty ops
  refine ⟨eq_of_filter_position h.ordered (ordered_mergeSort _) fun p => ?_, fun n => ?_⟩
  · rw [h.filter_position, filter_position_mergeSort]
  · refine ⟨eraseNode_count _ n, ?_⟩
    rw [eraseNode_count, (h.perm.filter _).length_eq]

end Store

namespace HashRing

/-- **Registering a member is the insertion loop.** On a ring in ring order, registering a
member places its virtual nodes as inserting them one after another, in replica order, does,
and appends the member to the registrations. -/
theorem addNode_eq_insert_loop {ring : HashRing} (hs : RingOrdered ring.entries) (n : Node) :
    ring.addNode n =
      { ring with
        store := (footprint n ring.replicas).foldl Store.insert ring.store
        nodes := ring.nodes ++ [n] } := by
  rw [← Store.insertBatch_eq_foldl_insert hs]
  rfl

end HashRing

end MetricRing
