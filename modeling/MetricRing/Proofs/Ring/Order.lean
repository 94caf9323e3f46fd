import Mathlib.Data.List.Nodup
import MetricRing.Ring.Lookup
import MetricRing.Proofs.Ring.Owners
import MetricRing.Config.Settings
/-!
# Registration order

Registering the same members on a fresh ring in two orders places the same virtual nodes: the
two rings hold the same entries and so the same positions in the same order. Only entries that
share a position are ordered by the time of their registration, the latest first. A lookup
reads the first entry at the key's owner position, so the order of registration shows only
where that position holds entries of two identities.

## Main statements

* `HashRing.owner_eq_of_perm` : two rings in ring order holding the same entries give a key
  owners whose entries sit at the same position;
* `HashRing.order_invisible_outside_shared_positions` : **registration order matters only at
  shared positions**, for the owner of a key and for the whole ring.
-/

namespace MetricRing

/-- Every entry at position `p` belongs to one identity. -/
def OneIdentityAt (es : List Entry) (p : Position) : Prop :=
  ∀ a ∈ es, ∀ b ∈ es, a.position = p → b.position = p → a.node.identity = b.node.identity

namespace HashRing

/-! ### Rings built by registration alone -/

theorem foldl_addNode_eq_run (ring : HashRing) (ns : List Node) :
    ns.foldl addNode ring = ring.run (ns.map RingOp.add) := by
  rw [run, List.foldl_map]
  rfl

theorem registrations_map_add (r : Nat) (hr : 0 < r) (ns : List Node) :
    registrations r hr (ns.map RingOp.add) = ns.map fun n => ⟨n, r, hr⟩ := by
  induction ns with
  | nil => rfl
  | cons n ns ih =>
    -- nothing later removes anything
    have hnone : (ns.map RingOp.add).any (·.removes n) = false := by simp
    rw [List.map_cons, registrations, hnone, ih]
    rfl

/-- A fresh ring after registering `ns` holds one registration per member, in order, each with
the ring's replica count. -/
theorem realizes_foldl_addNode {ring : HashRing} (h : ring.Fresh) (ns : List Node) :
    (ns.foldl addNode ring).Realizes (ns.map fun n => ⟨n, ring.replicas, ring.replicas_pos⟩) := by
  have key := realizes_run h.realizes (ns.map RingOp.add)
  rwa [List.filter_nil, List.nil_append, registrations_map_add, ← foldl_addNode_eq_run] at key

/-- The node of every entry of such a ring is one of the members registered. -/
theorem node_mem_of_realizes {ring : HashRing} {ns : List Node} {r : Nat} {hr : 0 < r}
    (h : ring.Realizes (ns.map fun n => ⟨n, r, hr⟩)) {e : Entry} (he : e ∈ ring.entries) :
    e.node ∈ ns := by
  obtain ⟨g, hg, hge⟩ := List.mem_flatMap.1 (h.perm.mem_iff.1 he)
  obtain ⟨n, hn, rfl⟩ := List.mem_map.1 hg
  rw [Registration.node_of_mem_entries hge]
  exact hn

/-! ### Rings holding the same entries -/

/-- Two lists in ring order holding the same entries hold the same positions in the same
order. -/
theorem map_position_eq_of_perm {l₁ l₂ : List Entry} (h₁ : RingOrdered l₁) (h₂ : RingOrdered l₂)
    (hp : l₁.Perm l₂) : l₁.map (·.position) = l₂.map (·.position) :=
  List.Perm.eq_of_pairwise (fun _ _ _ _ hab hba => UInt16.le_antisymm hab hba)
    (List.pairwise_map.2 h₁) (List.pairwise_map.2 h₂) (hp.map _)

/-- Two lists in ring order holding the same entries are equal when entries at one position are
equal. -/
theorem eq_of_perm_of_position_eq {l₁ l₂ : List Entry} (h₁ : RingOrdered l₁)
    (h₂ : RingOrdered l₂) (hp : l₁.Perm l₂)
    (h : ∀ a ∈ l₁, ∀ b ∈ l₂, a.position = b.position → a = b) : l₁ = l₂ :=
  List.Perm.eq_of_pairwise (fun a b ha hb hab hba => h a ha b hb (UInt16.le_antisymm hab hba))
    h₁ h₂ hp

/-- Two rings in ring order holding the same entries give a key owners taken from entries at
the same index, and so at the same position. -/
theorem owner_eq_of_perm {R₁ R₂ : HashRing} (h₁ : RingOrdered R₁.entries)
    (h₂ : RingOrdered R₂.entries) (hp : R₁.entries.Perm R₂.entries) (key : String)
    (hne : R₁.entries ≠ []) :
    ∃ e₁ e₂, R₁.entries[R₁.store.findIndex (positionOf key) % R₁.entries.length]? = some e₁ ∧
      e₂ ∈ R₂.entries ∧ e₁.position = e₂.position ∧
      R₁.owner key = .ok e₁.node ∧ R₂.owner key = .ok e₂.node := by
  have hne₂ : R₂.entries ≠ [] := fun h => hne (List.Perm.eq_nil (h ▸ hp))
  have hlen : R₁.entries.length = R₂.entries.length := hp.length_eq
  -- both searches count the entries before the key
  have hidx : R₁.store.findIndex (positionOf key) = R₂.store.findIndex (positionOf key) := by
    rw [Store.findIndex_eq_length_filter h₁, Store.findIndex_eq_length_filter h₂, toList_store,
      toList_store, (hp.filter _).length_eq]
  have hpos := map_position_eq_of_perm h₁ h₂ hp
  have hi₁ : R₁.store.findIndex (positionOf key) % R₁.entries.length < R₁.entries.length :=
    Nat.mod_lt _ (List.length_pos_iff.2 hne)
  have hi₂ : R₁.store.findIndex (positionOf key) % R₁.entries.length < R₂.entries.length :=
    hlen ▸ hi₁
  refine ⟨_, _, List.getElem?_eq_getElem hi₁, List.getElem_mem hi₂, ?_,
    owner_eq_getElem hne key, ?_⟩
  · have := congrArg (·[R₁.store.findIndex (positionOf key) % R₁.entries.length]?) hpos
    simpa [hi₁, hi₂] using this
  · rw [owner_eq_getElem hne₂ key]
    simp only [List.get_eq_getElem, hidx, hlen]

theorem store_eq_of_entries_eq {R₁ R₂ : HashRing} (h : R₁.entries = R₂.entries) :
    R₁.store = R₂.store :=
  Store.eq_of_toList_eq h

/-- The replica set reads the ring's store and the number of registered identities, nothing
else. -/
theorem owners_congr {R₁ R₂ : HashRing} (hs : R₁.store = R₂.store)
    (hd : R₁.distinctCount = R₂.distinctCount) (key : String) : R₁.owners key = R₂.owners key := by
  unfold owners startIndex isEmpty entries
  rw [hs, hd]

/-! ### Registration order -/

/-- **Registration order matters only at shared positions.** Register the same members, of
pairwise distinct identities, in two orders on a fresh ring with `r` virtual nodes each. A key
has the same owner on both rings whenever the entries at its owner's position all belong to one
identity; and when no position holds entries of two identities, the rings hold the same entries
in the same order and give every key the same replica set. -/
theorem order_invisible_outside_shared_positions {r : Nat} {R₀ : HashRing}
    (h₀ : withReplicas r = .ok R₀) {ns ms : List Node}
    (hns : ns.Pairwise fun a b => a.identity ≠ b.identity) (hperm : ms.Perm ns) :
    let R₁ := ns.foldl addNode R₀
    let R₂ := ms.foldl addNode R₀
    (∀ key : String,
      (∀ e, R₁.entries[R₁.store.findIndex (positionOf key) % R₁.entries.length]? = some e →
        OneIdentityAt R₁.entries e.position) →
      R₁.owner key = R₂.owner key) ∧
    ((∀ p, OneIdentityAt R₁.entries p) →
      R₁.entries = R₂.entries ∧ ∀ key : String, R₁.owners key = R₂.owners key) := by
  intro R₁ R₂
  have hfresh : R₀.Fresh := .inr ⟨r, h₀⟩
  have hr₁ := realizes_foldl_addNode hfresh ns
  have hr₂ := realizes_foldl_addNode hfresh ms
  -- both rings hold the footprints of the same members
  have hp : R₁.entries.Perm R₂.entries :=
    hr₁.perm.trans ((((hperm.map _).flatMap_right _)).symm.trans hr₂.perm.symm)
  -- a member is known by its identity
  have hinj : ∀ a ∈ ns, ∀ b ∈ ns, a.identity = b.identity → a = b :=
    fun a ha b hb hab => List.inj_on_of_nodup_map (List.pairwise_map.2 hns) ha hb hab
  have hnode₁ : ∀ e ∈ R₁.entries, e.node ∈ ns := fun e he => node_mem_of_realizes hr₁ he
  have hnode₂ : ∀ e ∈ R₂.entries, e.node ∈ ns :=
    fun e he => hperm.mem_iff.1 (node_mem_of_realizes hr₂ he)
  refine ⟨fun key hone => ?_, fun hall => ?_⟩
  · by_cases hne : R₁.entries = []
    · have hne₂ : R₂.entries = [] := List.Perm.eq_nil (hne ▸ hp.symm)
      rw [owner_of_entries_eq_nil hne, owner_of_entries_eq_nil hne₂]
    · obtain ⟨e₁, e₂, he₁, he₂, hpos, hown₁, hown₂⟩ :=
        owner_eq_of_perm hr₁.ordered hr₂.ordered hp key hne
      have hmem₁ : e₁ ∈ R₁.entries := List.mem_of_getElem? he₁
      -- both owner entries sit at the owner's position, which holds one identity
      have hid := hone e₁ he₁ e₁ hmem₁ e₂ (hp.mem_iff.2 he₂) rfl hpos.symm
      rw [hown₁, hown₂, hinj _ (hnode₁ e₁ hmem₁) _ (hnode₂ e₂ he₂) hid]
  · have heq : R₁.entries = R₂.entries := by
      refine eq_of_perm_of_position_eq hr₁.ordered hr₂.ordered hp fun a ha b hb hpos => ?_
      -- entries at one position share an identity, hence a member, hence are equal
      have hid := hall a.position a ha b (hp.mem_iff.2 hb) rfl hpos.symm
      have hn := hinj _ (hnode₁ a ha) _ (hnode₂ b hb) hid
      cases a
      cases b
      simp_all
    refine ⟨heq, owners_congr (store_eq_of_entries_eq heq) ?_⟩
    -- both rings register the same identities
    have hnodes : ∀ (l : List Node), (l.foldl addNode R₀).nodes = l := fun l => by
      rw [Config.Configuration.foldl_addNode_nodes, hfresh.entries_nodes.2, List.nil_append]
    simp only [distinctCount]
    rw [show R₁.nodes = ns from hnodes ns, show R₂.nodes = ms from hnodes ms]
    exact length_eraseDups_congr fun x => (hperm.map _).mem_iff.symm

/-- Registration order on two members registered both ways round with two virtual nodes each. -/
theorem order_invisible_two_members :
    let a : Node := ⟨"a", "", by decide⟩
    let b : Node := ⟨"b", "", by decide⟩
    let R₀ : HashRing := { empty with replicas := 2, replicas_pos := by decide }
    withReplicas 2 = .ok R₀ ∧ [a, b].Pairwise (fun x y => x.identity ≠ y.identity) ∧
      [b, a].Perm [a, b] ∧
      let R₁ := [a, b].foldl addNode R₀
      let R₂ := [b, a].foldl addNode R₀
      (∀ key : String,
        (∀ e, R₁.entries[R₁.store.findIndex (positionOf key) % R₁.entries.length]? = some e →
          OneIdentityAt R₁.entries e.position) →
        R₁.owner key = R₂.owner key) ∧
      ((∀ p, OneIdentityAt R₁.entries p) →
        R₁.entries = R₂.entries ∧ ∀ key : String, R₁.owners key = R₂.owners key) := by
  intro a b R₀
  have h₀ : withReplicas 2 = .ok R₀ := rfl
  have hns : [a, b].Pairwise (fun x y => x.identity ≠ y.identity) := by
    simp [a, b, Node.identity, Node.render, Node.instance?]
  have hperm : [b, a].Perm [a, b] := List.Perm.swap _ _ _
  exact ⟨h₀, hns, hperm, order_invisible_outside_shared_positions h₀ hns hperm⟩

end HashRing

end MetricRing
