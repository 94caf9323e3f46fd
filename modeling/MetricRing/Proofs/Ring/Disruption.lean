import MetricRing.Proofs.Ring.Order
/-!
# Consistent hashing moves only the keys it must

Removing a member from a reachable ring takes its identity out of every replica set and
changes nothing else: a key whose owner had another identity keeps it. Adding a member hands
a key either to the new member or leaves it with its owner, and the replica sets of the other
identities stay exactly as they were.

Both follow from the walk `clockwise`: removing a member filters the walk, and adding one
interleaves its virtual nodes with the old walk without reordering it.

## Main statements

* `Node.eraseDupsBy_filter` : keeping the first member of each identity commutes with dropping
  one identity;
* `HashRing.head?_clockwise_mergeFront` : the first entry of the walk after a merge is one of
  the batch or the first entry of the old walk;
* `HashRing.disruption_bound` : **the disruption bound**, for removal and for addition;
* `HashRing.removeNode_addNode_of_fresh_identity` : registering a member of a new identity and
  removing it again gives back the ring it started from.
-/

namespace MetricRing

namespace Node

/-- Dropping the members of some identities commutes with keeping the first member of each
identity, as long as the identities dropped are whole. -/
theorem eraseDupsBy_filter {q : Node → Bool}
    (hq : ∀ a b, a.sameIdentity b = true → q a = q b) :
    ∀ l : List Node, (l.filter q).eraseDupsBy sameIdentity = (l.eraseDupsBy sameIdentity).filter q
  | [] => rfl
  | a :: l => by
    have : (l.filter fun b => !b.sameIdentity a).length < l.length + 1 :=
      Nat.lt_succ_of_le (List.length_filter_le _ _)
    rw [List.eraseDupsBy_cons, List.filter_cons]
    by_cases ha : q a
    · rw [if_pos ha, List.eraseDupsBy_cons, List.filter_cons_of_pos ha,
        ← eraseDupsBy_filter hq, filter_filter_comm]
    · -- `a` is dropped, and with it every later member of its identity
      rw [if_neg ha, List.filter_cons_of_neg ha, ← eraseDupsBy_filter hq, filter_filter_comm]
      congr 1
      refine (List.filter_eq_self.2 fun b hb => ?_).symm
      have hqb : q b = true := (List.mem_filter.1 hb).2
      simp only [decide_eq_true_eq]
      cases hab : b.sameIdentity a
      · rfl
      · exact absurd (hq b a hab ▸ hqb) ha
termination_by l => l.length

/-- Dropping one identity drops whole identities. -/
theorem keep_of_sameIdentity (X : Node) (a b : Node) (h : a.sameIdentity b = true) :
    (!a.sameIdentity X) = !b.sameIdentity X := by
  simp only [sameIdentity, beq_iff_eq] at h ⊢
  rw [h]

end Node

namespace HashRing

theorem node_of_mem_footprint {n : Node} {r : Nat} {e : Entry} (h : e ∈ footprint n r) :
    e.node = n := by
  simp only [footprint, List.mem_map] at h
  obtain ⟨i, -, rfl⟩ := h
  rfl

theorem head?_clockwise (p : Position) (es : List Entry) :
    (clockwise p es).head? = (es.find? (p ≤ ·.position)).or (es.find? (·.position < p)) := by
  simp only [clockwise, List.head?_append, List.head?_filter]

/-- The walk from `p` over a batch merged into old entries starts with an entry of the batch
or with the entry the old walk starts with. -/
theorem head?_clockwise_mergeFront {p : Position} {bs es : List Entry} {x : Entry}
    (h : (clockwise p (Store.mergeFront bs es)).head? = some x) :
    x ∈ bs ∨ (clockwise p es).head? = some x := by
  rw [head?_clockwise] at h ⊢
  cases hf : (Store.mergeFront bs es).find? (p ≤ ·.position) with
  | some y =>
    rw [hf, Option.some_or] at h
    cases h
    rcases Store.find?_mergeFront hf with hb | he
    · exact .inl (List.mem_of_find?_eq_some hb)
    · exact .inr (by rw [he, Option.some_or])
  | none =>
    rw [hf, Option.none_or] at h
    -- no old entry is at or after `p` either: the old walk wraps too
    have hnone : es.find? (p ≤ ·.position) = none := by
      refine List.find?_eq_none.2 fun y hy => ?_
      exact List.find?_eq_none.1 hf y ((Store.perm_mergeFront bs es).mem_iff.2
        (List.mem_append_right bs hy))
    rcases Store.find?_mergeFront h with hb | he
    · exact .inl (List.mem_of_find?_eq_some hb)
    · exact .inr (by rw [hnone, Option.none_or, he])

/-! ### Removing a member -/

theorem owners_removeNode {ring : HashRing} (hr : ring.Reachable) (X : Node) (key : String)
    (hne : (ring.removeNode X).entries ≠ []) :
    ∃ ns, ring.owners key = .ok ns ∧
      (ring.removeNode X).owners key = .ok (ns.filter fun m => !m.sameIdentity X) := by
  refine ⟨_, owners_eq_clockwise hr.wellFormed (entries_ne_nil_of_removeNode hne) key, ?_⟩
  rw [owners_eq_clockwise (hr.removeNode X).wellFormed hne, entries_removeNode, clockwise_filter,
    ← Node.eraseDupsBy_filter (Node.keep_of_sameIdentity X), List.filter_map]
  rfl

theorem owner_removeNode {ring : HashRing} (hr : ring.Reachable) (X : Node) (key : String)
    (hne : (ring.removeNode X).entries ≠ []) {o : Node} (ho : ring.owner key = .ok o)
    (hoX : o.identity ≠ X.identity) : (ring.removeNode X).owner key = .ok o := by
  obtain ⟨ns, hns, hns'⟩ := owners_removeNode hr X key hne
  obtain ⟨first, rest, hfirst, hown⟩ :=
    owner_eq_head_owners hr.wellFormed (entries_ne_nil_of_removeNode hne) key
  obtain ⟨first', rest', hfirst', hown'⟩ :=
    owner_eq_head_owners (hr.removeNode X).wellFormed hne key
  rw [ho] at hown
  cases hown
  rw [hns] at hfirst
  cases hfirst
  -- the old owner survives the filter, so it still heads the replica set
  have hkeep : (!o.sameIdentity X) = true := by simpa [Node.sameIdentity] using hoX
  rw [hns', List.filter_cons_of_pos (p := fun m : Node => !m.sameIdentity X) hkeep] at hfirst'
  cases hfirst'
  exact hown'

/-! ### Adding a member -/

/-- Every virtual node that registering `X` merges in carries `X`'s identity. -/
theorem not_keep_of_mem_batch {X : Node} {r : Nat} {b : Entry}
    (hb : b ∈ (footprint X r).reverse.mergeSort fun a b => a.position ≤ b.position) :
    (!b.node.sameIdentity X) = false := by
  rw [List.mem_mergeSort, List.mem_reverse] at hb
  simp [node_of_mem_footprint hb, Node.sameIdentity]

theorem owner_addNode {ring : HashRing} (hr : ring.Reachable) (X : Node) (key : String)
    (hne : ring.entries ≠ []) :
    ∃ o', (ring.addNode X).owner key = .ok o' ∧ (ring.owner key = .ok o' ∨ o' = X) := by
  obtain ⟨x, hx, hown'⟩ :=
    owner_eq_head_clockwise (hr.addNode X).wellFormed.ordered (entries_addNode_ne_nil ring X) key
  refine ⟨x.node, hown', ?_⟩
  rw [entries_addNode] at hx
  rcases head?_clockwise_mergeFront hx with hb | hold
  · -- the new owner is one of the new virtual nodes
    right
    rw [List.mem_mergeSort, List.mem_reverse] at hb
    exact node_of_mem_footprint hb
  · left
    obtain ⟨e, he, hown⟩ := owner_eq_head_clockwise hr.wellFormed.ordered hne key
    rw [hold, Option.some.injEq] at he
    rw [hown, he]

theorem owners_addNode {ring : HashRing} (hr : ring.Reachable) (X : Node) (key : String)
    (hne : ring.entries ≠ []) :
    ∃ ns ns', ring.owners key = .ok ns ∧ (ring.addNode X).owners key = .ok ns' ∧
      ns'.filter (fun m => !m.sameIdentity X) = ns.filter (fun m => !m.sameIdentity X) := by
  refine ⟨_, _, owners_eq_clockwise hr.wellFormed hne key,
    owners_eq_clockwise (hr.addNode X).wellFormed (entries_addNode_ne_nil ring X) key, ?_⟩
  rw [← Node.eraseDupsBy_filter (Node.keep_of_sameIdentity X),
    ← Node.eraseDupsBy_filter (Node.keep_of_sameIdentity X), List.filter_map, List.filter_map]
  simp only [Function.comp_def]
  -- the new virtual nodes all carry `X`'s identity, so dropping it undoes the merge
  rw [← clockwise_filter, ← clockwise_filter, entries_addNode,
    Store.filter_mergeFront_of_forall fun _ => not_keep_of_mem_batch]

/-- **The disruption bound.** On a reachable ring, for every member `X` and every key:
removing `X`, when it leaves virtual nodes, takes `X`'s identity out of the key's replica set
and changes nothing else, so a key owned by another identity keeps its owner; adding `X` to a
non-empty ring leaves the key with its owner or gives it to `X`, and leaves the replica set
unchanged once `X`'s identity is dropped from both. -/
theorem disruption_bound {ring : HashRing} (hr : ring.Reachable) (X : Node) (key : String) :
    ((ring.removeNode X).entries ≠ [] →
      (∃ ns, ring.owners key = .ok ns ∧
        (ring.removeNode X).owners key = .ok (ns.filter fun m => !m.sameIdentity X)) ∧
      ∀ o, ring.owner key = .ok o → o.identity ≠ X.identity →
        (ring.removeNode X).owner key = .ok o) ∧
    (ring.entries ≠ [] →
      (∃ o', (ring.addNode X).owner key = .ok o' ∧ (ring.owner key = .ok o' ∨ o' = X)) ∧
      ∃ ns ns', ring.owners key = .ok ns ∧ (ring.addNode X).owners key = .ok ns' ∧
        ns'.filter (fun m => !m.sameIdentity X) = ns.filter (fun m => !m.sameIdentity X)) :=
  ⟨fun hne => ⟨owners_removeNode hr X key hne,
      fun _ ho hoX => owner_removeNode hr X key hne ho hoX⟩,
    fun hne => ⟨owner_addNode hr X key hne, owners_addNode hr X key hne⟩⟩

/-- The disruption bound on a ring of two members, removing and re-adding the second. -/
theorem disruption_bound_two_members :
    let ring := (empty.addNode ⟨"a", "", by decide⟩).addNode ⟨"b", "x", by decide⟩
    let X : Node := ⟨"b", "x", by decide⟩
    let key := "carbon.agents.cpu"
    ring.Reachable ∧
      ((ring.removeNode X).entries ≠ [] →
        (∃ ns, ring.owners key = .ok ns ∧
          (ring.removeNode X).owners key = .ok (ns.filter fun m => !m.sameIdentity X)) ∧
        ∀ o, ring.owner key = .ok o → o.identity ≠ X.identity →
          (ring.removeNode X).owner key = .ok o) ∧
      (ring.entries ≠ [] →
        (∃ o', (ring.addNode X).owner key = .ok o' ∧ (ring.owner key = .ok o' ∨ o' = X)) ∧
        ∃ ns ns', ring.owners key = .ok ns ∧ (ring.addNode X).owners key = .ok ns' ∧
          ns'.filter (fun m => !m.sameIdentity X) = ns.filter (fun m => !m.sameIdentity X)) :=
  ⟨(reachable_empty.addNode _).addNode _,
    disruption_bound ((reachable_empty.addNode _).addNode _) _ _⟩

/-! ### Undoing a registration -/

/-- Two rings are equal when their entries, members and replica counts are. -/
theorem eq_of_entries_eq {R₁ R₂ : HashRing} (he : R₁.entries = R₂.entries)
    (hn : R₁.nodes = R₂.nodes) (hr : R₁.replicas = R₂.replicas) : R₁ = R₂ := by
  have hs := store_eq_of_entries_eq he
  obtain ⟨s₁, n₁, r₁, _⟩ := R₁
  obtain ⟨s₂, n₂, r₂, _⟩ := R₂
  cases hs
  cases hn
  cases hr
  rfl

/-- On a reachable ring no entry carries an identity that no member has. -/
theorem keep_of_mem_entries {ring : HashRing} (hr : ring.Reachable) {X : Node}
    (hX : ∀ m ∈ ring.nodes, m.identity ≠ X.identity) {e : Entry} (he : e ∈ ring.entries) :
    (!e.node.sameIdentity X) = true := by
  obtain ⟨m, hm, hmid⟩ := List.mem_map.1
    ((hr.wellFormed.identities e.node.identity).1 (List.mem_map_of_mem he))
  simp [Node.sameIdentity, ← hmid, hX m hm]

/-- Registering a member of an identity the ring does not hold and then removing it gives back
the ring: the same members, the same entries in the same order, ties included, and the same
replica count. The removal drops exactly the merged virtual nodes, which carry the new identity
alone, and the merge never reordered the old entries. -/
theorem removeNode_addNode_of_fresh_identity {ring : HashRing} (hr : ring.Reachable) {X : Node}
    (hX : ∀ m ∈ ring.nodes, m.identity ≠ X.identity) : (ring.addNode X).removeNode X = ring := by
  have hentries : ((ring.addNode X).removeNode X).entries = ring.entries := by
    rw [entries_removeNode, entries_addNode,
      Store.filter_mergeFront_of_forall fun _ => not_keep_of_mem_batch,
      List.filter_eq_self.2 fun _ => keep_of_mem_entries hr hX]
  have hnodes : ((ring.addNode X).removeNode X).nodes = ring.nodes := by
    have hkeep : ∀ m ∈ ring.nodes, (!m.sameIdentity X) = true := by
      intro m hm
      simp [Node.sameIdentity, hX m hm]
    rw [nodes_removeNode, nodes_addNode, List.filter_append, List.filter_eq_self.2 hkeep]
    simp [Node.sameIdentity]
  exact eq_of_entries_eq hentries hnodes rfl

/-- Registering a second member and removing it again on a ring of one member. -/
theorem removeNode_addNode_second_member :
    let ring := empty.addNode ⟨"a", "", by decide⟩
    let X : Node := ⟨"a", "x", by decide⟩
    ring.Reachable ∧ (∀ m ∈ ring.nodes, m.identity ≠ X.identity) ∧
      (ring.addNode X).removeNode X = ring :=
  ⟨reachable_empty.addNode _, by decide,
    removeNode_addNode_of_fresh_identity (reachable_empty.addNode _) (by decide)⟩

end HashRing

end MetricRing
