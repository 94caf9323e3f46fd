import MetricRing.Ring.Lookup
import MetricRing.Proofs.Ring.Invariant
/-!
# Owners on a reachable ring

A key belongs to the virtual node it meets first walking clockwise from its position
(`HashRing.owner`), and its replica set lists the members met on that walk, each identity once
(`HashRing.owners`). The lookups index the ring modulo its size and stop the walk early once
they have seen as many identities as are registered; on a reachable ring neither shortcut
changes the answer.

## Main statements

* `HashRing.owner_nearest_clockwise` : the owner is the member of the entry nearest the key
  clockwise (`gap`), the first such entry in ring order; equivalently the first entry at or
  after the key, or the first entry of the ring when the key is past them all. Both lookups
  refuse an empty ring.
* `HashRing.owners_first_of_each_identity` : the replica set is the walk over every entry from
  the binary search's index, modulo the ring size, keeping the first member of each identity.
  So it starts with the owner, its identities are distinct, and it holds every registered
  identity exactly once.
* `HashRing.owner_eq_head_clockwise`, `HashRing.owners_eq_clockwise` : the two lookups in terms
  of the walk `clockwise`, the form the disruption bounds are proved in;
  `HashRing.owner_eq_head_owners` : the owner heads the replica set.
-/

namespace MetricRing

/-! ### Distinct identities -/

theorem nodup_eraseDups {α : Type} [BEq α] [LawfulBEq α] : ∀ l : List α, l.eraseDups.Nodup
  | [] => List.nodup_nil
  | a :: l => by
    have : (l.filter fun b => !b == a).length < l.length + 1 :=
      Nat.lt_succ_of_le (List.length_filter_le _ _)
    rw [List.eraseDups_cons, List.nodup_cons]
    refine ⟨fun h => ?_, nodup_eraseDups _⟩
    simp at h
termination_by l => l.length

theorem length_eraseDups_congr {α : Type} [BEq α] [LawfulBEq α] {l₁ l₂ : List α}
    (h : ∀ x, x ∈ l₁ ↔ x ∈ l₂) : l₁.eraseDups.length = l₂.eraseDups.length :=
  Nat.le_antisymm
    ((nodup_eraseDups l₁).length_le_of_subset fun x hx => by simpa [h] using hx)
    ((nodup_eraseDups l₂).length_le_of_subset fun x hx => by simpa [h] using hx)

/-- A list of distinct identities, all taken from `ids` and as many as `ids` has distinct ones,
holds every identity of `ids`. -/
theorem mem_of_length_eraseDups_le {seen ids : List String} (hnd : seen.Nodup)
    (hsub : ∀ x ∈ seen, x ∈ ids) (hlen : ids.eraseDups.length ≤ seen.length) :
    ∀ x ∈ ids, x ∈ seen := by
  intro x hx
  refine Classical.byContradiction fun hxs => ?_
  have hsub' : x :: seen ⊆ ids.eraseDups := fun y hy => by
    rcases List.mem_cons.1 hy with rfl | hy
    · exact List.mem_eraseDups.2 hx
    · exact List.mem_eraseDups.2 (hsub y hy)
  have hle := (List.nodup_cons.2 ⟨hxs, hnd⟩).length_le_of_subset hsub'
  simp at hle
  omega

namespace Node

theorem decide_sameIdentity_eq_false (a b : Node) :
    decide (a.sameIdentity b = false) = !(a.identity == b.identity) := by
  cases h : a.identity == b.identity <;> simp [sameIdentity, h]

/-- Keeping the first member of each identity keeps the first occurrence of each identity. -/
theorem map_identity_eraseDupsBy : ∀ l : List Node,
    (l.eraseDupsBy sameIdentity).map identity = (l.map identity).eraseDups
  | [] => rfl
  | a :: l => by
    have : (l.filter fun b => !b.sameIdentity a).length < l.length + 1 :=
      Nat.lt_succ_of_le (List.length_filter_le _ _)
    rw [List.eraseDupsBy_cons, List.map_cons, List.map_cons, List.eraseDups_cons,
      map_identity_eraseDupsBy, List.filter_map]
    congr 3
    exact List.filter_congr fun b _ => by
      simp only [decide_sameIdentity_eq_false, Function.comp_apply]
termination_by l => l.length

theorem pairwise_eraseDupsBy (l : List Node) :
    (l.eraseDupsBy sameIdentity).Pairwise fun a b => a.identity ≠ b.identity := by
  have h := nodup_eraseDups (l.map identity)
  rwa [← map_identity_eraseDupsBy, List.Nodup, List.pairwise_map] at h

end Node

/-! ### Walking the ring -/

theorem perm_rotateLeft {α : Type} {l : List α} {i : Nat} (hi : i ≤ l.length) :
    (l.rotateLeft i).Perm l := by
  rw [rotateLeft_eq_drop_append_take hi]
  exact List.perm_append_comm.trans (by rw [List.take_append_drop])

/-- Rotating a list to index `i` is visiting its indices `i + j` modulo its length. -/
theorem rotateLeft_eq_ofFn {α : Type} {l : List α} {i : Nat} (hi : i ≤ l.length) :
    l.rotateLeft i =
      List.ofFn fun j : Fin l.length => l.get ⟨(i + j) % l.length, Nat.mod_lt _ j.pos⟩ := by
  rw [rotateLeft_eq_drop_append_take hi]
  apply List.ext_getElem
  · simp only [List.length_append, List.length_drop, List.length_take, List.length_ofFn]
    omega
  · intro j _ h2
    simp only [List.length_ofFn] at h2
    simp only [List.getElem_ofFn, List.get_eq_getElem, List.getElem_append, List.length_drop]
    split
    · -- still before the end of the list
      have e : (i + j) % l.length = i + j := Nat.mod_eq_of_lt (by omega)
      simp only [List.getElem_drop, e]
    · -- wrapped past the end
      have e : (i + j) % l.length = j - (l.length - i) := by
        rw [Nat.mod_eq_sub_mod (by omega), Nat.mod_eq_of_lt (by omega)]
        omega
      simp only [List.getElem_take, e]

namespace HashRing

/-! ### Clockwise distance -/

/-- How far position `q` lies clockwise from position `p` on the ring of 65536 positions. -/
def gap (p q : Position) : Nat := (q - p).toNat

theorem gap_of_le {p q : Position} (h : p ≤ q) : gap p q = q.toNat - p.toNat := by
  have := UInt16.le_iff_toNat_le.1 h
  have := q.toNat_lt
  rw [gap, UInt16.toNat_sub]
  omega

theorem gap_of_lt {p q : Position} (h : q < p) : gap p q = q.toNat + 65536 - p.toNat := by
  have := UInt16.lt_iff_toNat_lt.1 h
  have := p.toNat_lt
  rw [gap, UInt16.toNat_sub]
  omega

/-- A position before `p` is farther from it clockwise than any position at or after it. -/
theorem gap_lt_gap {p q q' : Position} (hq : p ≤ q) (hq' : q' < p) : gap p q < gap p q' := by
  have := q.toNat_lt
  have := UInt16.le_iff_toNat_le.1 hq
  rw [gap_of_le hq, gap_of_lt hq']
  omega

/-- On either side of `p`, a later position is farther clockwise. -/
theorem gap_le_gap {p q q' : Position} (hqq' : q ≤ q') (hside : p ≤ q ∨ q' < p) :
    gap p q ≤ gap p q' := by
  have := UInt16.le_iff_toNat_le.1 hqq'
  rcases hside with hq | hq'
  · rw [gap_of_le hq, gap_of_le (UInt16.le_trans hq hqq')]
    omega
  · rw [gap_of_lt (UInt16.lt_of_le_of_lt hqq' hq'), gap_of_lt hq']
    omega

/-! ### The lookups, unfolded -/

@[simp] theorem toList_store (ring : HashRing) : ring.store.toList = ring.entries :=
  rfl

theorem isEmpty_iff (ring : HashRing) : ring.isEmpty = true ↔ ring.entries = [] := by
  simp [isEmpty, Store.isEmpty, entries, Store.toList]

theorem isEmpty_eq_false {ring : HashRing} (hne : ring.entries ≠ []) : ring.isEmpty = false := by
  cases h : ring.isEmpty
  · rfl
  · exact absurd ((isEmpty_iff ring).1 h) hne

theorem owner_of_entries_eq_nil {ring : HashRing} (h : ring.entries = []) (key : String) :
    ring.owner key = .error .empty := by
  simp [owner, startIndex, (isEmpty_iff ring).2 h, bind, Except.bind]

theorem owners_of_entries_eq_nil {ring : HashRing} (h : ring.entries = []) (key : String) :
    ring.owners key = .error .empty := by
  simp [owners, startIndex, (isEmpty_iff ring).2 h, bind, Except.bind]

/-- The owner is the member of the entry at the binary search's index, modulo the ring size. -/
theorem owner_eq_getElem {ring : HashRing} (hne : ring.entries ≠ []) (key : String) :
    ring.owner key = .ok (ring.entries.get
      ⟨ring.store.findIndex (positionOf key) % ring.entries.length,
        Nat.mod_lt _ (List.length_pos_iff.2 hne)⟩).node := by
  have hlt : ring.store.findIndex (positionOf key) % ring.store.entries.size <
      ring.store.entries.size :=
    Nat.mod_lt _ (List.length_pos_iff.2 hne)
  simp only [owner, startIndex, isEmpty_eq_false hne, Bool.false_eq_true, if_false, bind,
    Except.bind, size, Store.size, Store.get?, Array.getElem?_eq_getElem hlt]
  rfl

theorem owners_eq_collectDistinct {ring : HashRing} (hne : ring.entries ≠ []) (key : String) :
    ring.owners key = .ok (collectDistinct ring.distinctCount []
      (ring.entries.rotateLeft (ring.store.findIndex (positionOf key)))) := by
  simp only [owners, startIndex, isEmpty_eq_false hne, Bool.false_eq_true, if_false, bind,
    Except.bind]
  rfl

/-- Walking entries whose identities are all registered, the early stop after as many
identities as are registered cuts nothing: the walk keeps the first member of each identity
not seen yet. -/
theorem collectDistinct_eq {ids seen : List String} {es : List Entry} (hnd : seen.Nodup)
    (hseen : ∀ x ∈ seen, x ∈ ids) (hes : ∀ e ∈ es, e.node.identity ∈ ids) :
    collectDistinct ids.eraseDups.length seen es =
      ((es.map Entry.node).filter fun m => !seen.contains m.identity).eraseDupsBy
        Node.sameIdentity := by
  induction es generalizing seen with
  | nil => rfl
  | cons e es ih =>
    have hes' : ∀ e ∈ es, e.node.identity ∈ ids := fun x hx => hes x (List.mem_cons_of_mem e hx)
    rw [collectDistinct]
    split
    · -- as many identities seen as are registered: all of them, so nothing new is left
      rename_i hlen
      have hall := mem_of_length_eraseDups_le hnd hseen hlen
      rw [List.filter_eq_nil_iff.2]
      · rfl
      · intro m hm
        obtain ⟨x, hx, rfl⟩ := List.mem_map.1 hm
        simpa using hall _ (hes x hx)
    · split
      · rename_i _ hin
        rw [ih hnd hseen hes', List.map_cons, List.filter_cons_of_neg (by simpa using hin)]
      · rename_i _ hin
        have hnd' : (e.node.identity :: seen).Nodup := List.nodup_cons.2 ⟨by simpa using hin, hnd⟩
        have hseen' : ∀ x ∈ e.node.identity :: seen, x ∈ ids := by
          intro x hx
          rcases List.mem_cons.1 hx with rfl | hx
          · exact hes e List.mem_cons_self
          · exact hseen x hx
        rw [ih hnd' hseen' hes', List.map_cons, List.filter_cons_of_pos (by simpa using hin),
          List.eraseDupsBy_cons, List.filter_filter]
        congr 2
        exact List.filter_congr fun m _ => by
          simp only [List.contains_cons, Bool.not_or, Node.decide_sameIdentity_eq_false]

/-- On a well-formed ring the replica set keeps the first member of each identity along the
whole walk from the key. -/
theorem owners_eq_eraseDupsBy {ring : HashRing} (hwf : ring.WellFormed) (hne : ring.entries ≠ [])
    (key : String) :
    ring.owners key = .ok (((ring.entries.rotateLeft (ring.store.findIndex (positionOf key))).map
      Entry.node).eraseDupsBy Node.sameIdentity) := by
  have hle := (Store.findIndex_spec (s := ring.store) hwf.ordered (positionOf key)).1
  rw [owners_eq_collectDistinct hne, distinctCount, collectDistinct_eq List.nodup_nil
    (fun _ h => absurd h List.not_mem_nil)]
  · -- nothing is seen before the walk starts
    simp only [List.contains_nil, Bool.not_false]
    rw [List.filter_eq_self.2 fun _ _ => rfl]
  · intro e he
    exact (hwf.identities _).1 (List.mem_map_of_mem ((perm_rotateLeft hle).mem_iff.1 he))

/-- The owner's entry is the first entry of the walk from the binary search's index. -/
theorem owner_eq_head_rotateLeft {ring : HashRing} (hs : RingOrdered ring.entries)
    (hne : ring.entries ≠ []) (key : String) :
    ∃ e, (ring.entries.rotateLeft (ring.store.findIndex (positionOf key))).head? = some e ∧
      ring.owner key = .ok e.node := by
  have hle : ring.store.findIndex (positionOf key) ≤ ring.entries.length :=
    (Store.findIndex_spec (s := ring.store) hs (positionOf key)).1
  have hpos : 0 < ring.entries.length := List.length_pos_iff.2 hne
  refine ⟨_, ?_, owner_eq_getElem hne key⟩
  rw [rotateLeft_eq_ofFn hle, List.head?_eq_getElem?]
  simp [hpos]

theorem find?_findIndex {ring : HashRing} (hs : RingOrdered ring.entries) (p : Position) :
    ring.entries.find? (fun e => p ≤ e.position) = ring.entries[ring.store.findIndex p]? := by
  rw [← List.head?_filter, ← toList_store, ← Store.drop_findIndex hs, List.head?_drop]

/-! ### The lookups along the clockwise walk -/

theorem owner_eq_head_clockwise {ring : HashRing} (hs : RingOrdered ring.entries)
    (hne : ring.entries ≠ []) (key : String) :
    ∃ e, (clockwise (positionOf key) ring.entries).head? = some e ∧
      ring.owner key = .ok e.node := by
  have h := owner_eq_head_rotateLeft hs hne key
  rwa [← toList_store, Store.rotateLeft_findIndex hs] at h

theorem owners_eq_clockwise {ring : HashRing} (hwf : ring.WellFormed) (hne : ring.entries ≠ [])
    (key : String) :
    ring.owners key = .ok (((clockwise (positionOf key) ring.entries).map Entry.node).eraseDupsBy
      Node.sameIdentity) := by
  rw [owners_eq_eraseDupsBy hwf hne, ← toList_store, Store.rotateLeft_findIndex hwf.ordered]

/-- On a well-formed non-empty ring the owner heads the replica set. -/
theorem owner_eq_head_owners {ring : HashRing} (hwf : ring.WellFormed) (hne : ring.entries ≠ [])
    (key : String) :
    ∃ first rest, ring.owners key = .ok (first :: rest) ∧ ring.owner key = .ok first := by
  obtain ⟨e, he, hown⟩ := owner_eq_head_clockwise hwf.ordered hne key
  obtain ⟨ws, hw⟩ := List.head?_eq_some_iff.1 he
  exact ⟨e.node, _, by rw [owners_eq_clockwise hwf hne, hw, List.map_cons,
    List.eraseDupsBy_cons], hown⟩

/-! ### The owner -/

/-- **The owner is the nearest entry clockwise.** On an empty ring both lookups refuse with
"HashRing is empty". Otherwise the owner is the member of an entry `e` at some index `i` that is
the first entry at or after the key, or the first entry of the ring when every entry is before
the key; no entry is nearer the key clockwise than `e`, and every entry before index `i` is
strictly farther. -/
theorem owner_nearest_clockwise {ring : HashRing} (hr : ring.Reachable) (key : String) :
    (ring.entries = [] →
      ring.owner key = .error .empty ∧ ring.owners key = .error .empty ∧
        RingFault.empty.message = "HashRing is empty") ∧
    ∀ hne : ring.entries ≠ [], ∃ (i : Nat) (e : Entry), ring.entries[i]? = some e ∧
      ring.owner key = .ok e.node ∧
      e = (ring.entries.find? fun e => positionOf key ≤ e.position).getD (ring.entries.head hne) ∧
      (∀ e' ∈ ring.entries, gap (positionOf key) e.position ≤ gap (positionOf key) e'.position) ∧
      ∀ (j : Nat) (e' : Entry), j < i → ring.entries[j]? = some e' →
        gap (positionOf key) e.position < gap (positionOf key) e'.position := by
  refine ⟨fun h => ⟨owner_of_entries_eq_nil h key, owners_of_entries_eq_nil h key, rfl⟩,
    fun hne => ?_⟩
  have hs := hr.wellFormed.ordered
  obtain ⟨hle, hbelow, habove⟩ := Store.findIndex_spec (s := ring.store) hs (positionOf key)
  simp only [toList_store] at hle hbelow habove
  have hpos : 0 < ring.entries.length := List.length_pos_iff.2 hne
  rcases Nat.lt_or_eq_of_le hle with hlt | heq
  · -- some entry is at or after the key: the owner is the first of them
    have hown := habove _ hlt (Nat.le_refl _)
    refine ⟨_, _, List.getElem?_eq_getElem hlt, ?_, ?_, ?_, ?_⟩
    · rw [owner_eq_getElem hne]
      simp [Nat.mod_eq_of_lt hlt]
    · rw [find?_findIndex hs, List.getElem?_eq_getElem hlt]
      rfl
    · intro e' he'
      obtain ⟨j, hj, rfl⟩ := List.mem_iff_getElem.1 he'
      by_cases hjs : ring.store.findIndex (positionOf key) ≤ j
      · exact gap_le_gap (hs.le_of_le hlt hj hjs) (.inl hown)
      · exact Nat.le_of_lt (gap_lt_gap hown (hbelow j hj (by omega)))
    · intro j e' hj he'
      obtain ⟨hj', rfl⟩ := List.getElem?_eq_some_iff.1 he'
      exact gap_lt_gap hown (hbelow j hj' hj)
  · -- every entry is before the key: the walk wraps to the first entry
    refine ⟨0, _, List.getElem?_eq_getElem hpos, ?_, ?_, ?_, ?_⟩
    · rw [owner_eq_getElem hne]
      simp [heq]
    · rw [find?_findIndex hs, heq, List.getElem?_eq_none (Nat.le_refl _)]
      simp [List.head_eq_getElem]
    · intro e' he'
      obtain ⟨j, hj, rfl⟩ := List.mem_iff_getElem.1 he'
      exact gap_le_gap (hs.le_of_le hpos hj (Nat.zero_le _)) (.inr (hbelow j hj (by omega)))
    · intro j e' hj
      omega

/-- The owner on a ring of one member. -/
theorem owner_nearest_clockwise_one_member :
    let ring := empty.addNode ⟨"a", "", by decide⟩
    let key := "carbon.agents.cpu"
    ring.Reachable ∧
      (ring.entries = [] →
        ring.owner key = .error .empty ∧ ring.owners key = .error .empty ∧
          RingFault.empty.message = "HashRing is empty") ∧
      ∀ hne : ring.entries ≠ [], ∃ (i : Nat) (e : Entry), ring.entries[i]? = some e ∧
        ring.owner key = .ok e.node ∧
        e = (ring.entries.find? fun e => positionOf key ≤ e.position).getD (ring.entries.head hne) ∧
        (∀ e' ∈ ring.entries, gap (positionOf key) e.position ≤ gap (positionOf key) e'.position) ∧
        ∀ (j : Nat) (e' : Entry), j < i → ring.entries[j]? = some e' →
          gap (positionOf key) e.position < gap (positionOf key) e'.position :=
  ⟨reachable_empty.addNode _, owner_nearest_clockwise (reachable_empty.addNode _) _⟩

/-! ### The replica set -/

/-- **The replica set is every identity once, in walk order.** On a non-empty reachable ring,
the replica set is the walk over the entries at indices `s + j` modulo the ring size, for
`j = 0 … n - 1` from the binary search's index `s`, keeping the member of each entry whose
identity has not occurred earlier in the walk. It starts with the owner, its identities are
pairwise distinct, they are exactly the registered identities, and there are as many as there
are distinct registered identities: the early stop of the walk never cuts it short. -/
theorem owners_first_of_each_identity {ring : HashRing} (hr : ring.Reachable) (key : String)
    (hne : ring.entries ≠ []) :
    let n := ring.entries.length
    let s := ring.store.findIndex (positionOf key)
    let walk := List.ofFn fun j : Fin n => ring.entries.get ⟨(s + j) % n, Nat.mod_lt _ j.pos⟩
    ∃ ns, ring.owners key = .ok ns ∧
      ns = (walk.map Entry.node).eraseDupsBy Node.sameIdentity ∧
      ns.Pairwise (fun a b => a.identity ≠ b.identity) ∧
      (∃ first rest, ns = first :: rest ∧ ring.owner key = .ok first) ∧
      (∀ id, id ∈ ns.map Node.identity ↔ id ∈ ring.nodes.map Node.identity) ∧
      ns.length = ring.distinctCount := by
  intro n s walk
  have hwf := hr.wellFormed
  have hle : s ≤ n := (Store.findIndex_spec (s := ring.store) hwf.ordered (positionOf key)).1
  have hwalk : ring.entries.rotateLeft s = walk := rotateLeft_eq_ofFn hle
  -- the walk meets every entry once, so the identities met are those of the members
  have hids : ∀ id, id ∈ (walk.map Entry.node).map Node.identity ↔
      id ∈ ring.nodes.map Node.identity := by
    intro id
    rw [← hwalk, List.map_map, ← hwf.identities]
    exact ((perm_rotateLeft hle).map _).mem_iff
  refine ⟨_, by rw [owners_eq_eraseDupsBy hwf hne, hwalk], rfl, Node.pairwise_eraseDupsBy _,
    ?_, ?_, ?_⟩
  · -- the walk starts at the owner's entry
    obtain ⟨first, rest, hfirst, hown⟩ := owner_eq_head_owners hwf hne key
    rw [owners_eq_eraseDupsBy hwf hne, hwalk, Except.ok.injEq] at hfirst
    exact ⟨first, rest, hfirst, hown⟩
  · intro id
    rw [Node.map_identity_eraseDupsBy, List.mem_eraseDups, hids]
  · rw [← List.length_map (f := Node.identity), Node.map_identity_eraseDupsBy, distinctCount]
    exact length_eraseDups_congr hids

/-- The replica set on a ring of two members. -/
theorem owners_first_of_each_identity_two_members :
    let ring := (empty.addNode ⟨"a", "", by decide⟩).addNode ⟨"b", "x", by decide⟩
    let key := "carbon.agents.cpu"
    ring.Reachable ∧ ring.entries ≠ [] ∧
      let n := ring.entries.length
      let s := ring.store.findIndex (positionOf key)
      let walk := List.ofFn fun j : Fin n => ring.entries.get ⟨(s + j) % n, Nat.mod_lt _ j.pos⟩
      ∃ ns, ring.owners key = .ok ns ∧
        ns = (walk.map Entry.node).eraseDupsBy Node.sameIdentity ∧
        ns.Pairwise (fun a b => a.identity ≠ b.identity) ∧
        (∃ first rest, ns = first :: rest ∧ ring.owner key = .ok first) ∧
        (∀ id, id ∈ ns.map Node.identity ↔ id ∈ ring.nodes.map Node.identity) ∧
        ns.length = ring.distinctCount := by
  intro ring key
  have hr : ring.Reachable := (reachable_empty.addNode _).addNode _
  have hne : ring.entries ≠ [] := entries_addNode_ne_nil _ _
  exact ⟨hr, hne, owners_first_of_each_identity hr key hne⟩

end HashRing

end MetricRing
