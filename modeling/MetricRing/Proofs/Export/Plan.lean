import MetricRing.Export.Plan
import MetricRing.Proofs.Ring.Owners
/-!
# What a plan promises

`plan` refuses an empty ring. On any other reachable ring it resolves every metric once: the
names come out sorted and without repeats, and each work item lists the servers of the key's
owners with repeats removed, primary owner first. With fallback the owners are the key's
replica set, one member per registered identity; without it, the owner alone.

Servers are compared as texts, and two members of one identity need not share a server (the
member `a:b` without an instance and the member `a` with instance `b` are one identity), so
with fallback the list names one server per identity: every registered server only when
members of one identity share their server.

## Main statements

* `dedupSorted` and `firstOccurrences` : a sorted list without repeated neighbours is strictly
  increasing, and `firstOccurrences` is `List.eraseDups`;
* `HashRing.workItem_eq_ok` : the work item of one metric, through the two lookups;
* `HashRing.mapM_workItem` : resolving a list of names, in order;
* `HashRing.length_servers_le` : with fallback a work item lists at most one server per
  registered identity;
* `HashRing.plan_resolves_every_name` : **what a plan promises**.
-/

namespace MetricRing

/-! ### Sorting and deduplicating names -/

theorem String.lt_of_le_of_ne {a b : String} (hab : a ≤ b) (hne : a ≠ b) : a < b :=
  String.not_le.1 fun hba => hne (String.le_antisymm hab hba)

theorem pairwise_le_mergeSort (l : List String) :
    (l.mergeSort fun a b => decide (a ≤ b)).Pairwise (· ≤ ·) := by
  have h := @List.pairwise_mergeSort String (fun a b => decide (a ≤ b))
    (fun a b c hab hbc => by simpa using String.le_trans (by simpa using hab) (by simpa using hbc))
    (fun a b => by simpa using String.le_total a b) l
  exact h.imp fun hab => by simpa using hab

@[simp] theorem mem_dedupSorted {x : String} {l : List String} : x ∈ dedupSorted l ↔ x ∈ l := by
  fun_induction dedupSorted l with
  | case1 b rest ih => simp [ih]
  | case2 a b rest hab ih => simp [ih]
  | case3 => rfl

/-- Dropping the repeated neighbours of a sorted list leaves it strictly increasing. -/
theorem pairwise_lt_dedupSorted {l : List String} (h : l.Pairwise (· ≤ ·)) :
    (dedupSorted l).Pairwise (· < ·) := by
  fun_induction dedupSorted l with
  | case1 b rest ih => exact ih h.of_cons
  | case2 a b rest hab ih =>
    refine List.pairwise_cons.2 ⟨fun y hy => ?_, ih h.of_cons⟩
    have hay : a ≤ y := List.rel_of_pairwise_cons h (mem_dedupSorted.1 hy)
    refine String.lt_of_le_of_ne hay fun hya => ?_
    -- `y` is `b` or comes after it, so `a = y` would put `b` between two equal names
    rcases List.mem_cons.1 (mem_dedupSorted.1 hy) with rfl | hy'
    · exact hab hya
    · have hby : b ≤ y := List.rel_of_pairwise_cons h.of_cons hy'
      exact hab (String.le_antisymm (List.rel_of_pairwise_cons h List.mem_cons_self)
        (hya ▸ hby))
  | case3 l hl =>
    match l, hl with
    | [], _ => exact List.Pairwise.nil
    | [_], _ => exact List.pairwise_singleton _ _
    | _ :: _ :: _, hl => exact absurd rfl (hl _ _ _)

/-- Keeping the first occurrence of each element commutes with a filter. -/
theorem eraseDups_filter (q : String → Bool) :
    ∀ l : List String, (l.filter q).eraseDups = l.eraseDups.filter q
  | [] => rfl
  | a :: l => by
    have : (l.filter fun b => !b == a).length < l.length + 1 :=
      Nat.lt_succ_of_le (List.length_filter_le _ _)
    rw [List.eraseDups_cons, List.filter_cons]
    by_cases ha : q a
    · rw [if_pos ha, List.eraseDups_cons, List.filter_cons_of_pos ha, filter_filter_comm,
        eraseDups_filter q]
    · -- `a` goes, and no element the filter keeps equals it
      rw [if_neg ha, List.filter_cons_of_neg ha, ← eraseDups_filter q, filter_filter_comm]
      congr 1
      refine (List.filter_eq_self.2 fun b hb => ?_).symm
      have hqb : q b = true := (List.mem_filter.1 hb).2
      simpa using fun hba : b = a => ha (hba ▸ hqb)
termination_by l => l.length

theorem firstOccurrences_eq_eraseDups : ∀ l : List String, firstOccurrences l = l.eraseDups
  | [] => rfl
  | a :: rest => by
    rw [firstOccurrences, firstOccurrences_eq_eraseDups rest, List.eraseDups_cons,
      eraseDups_filter]
    rfl

/-! ### The replica set on a reachable ring -/

theorem eraseDupsBy_subset {α : Type} (r : α → α → Bool) :
    ∀ l : List α, l.eraseDupsBy r ⊆ l
  | [] => List.nil_subset _
  | a :: l => by
    have : (l.filter fun b => !r b a).length < l.length + 1 :=
      Nat.lt_succ_of_le (List.length_filter_le _ _)
    rw [List.eraseDupsBy_cons]
    exact List.cons_subset_cons a (List.Subset.trans (eraseDupsBy_subset r _) List.filter_sublist.subset)
termination_by l => l.length

theorem mem_clockwise {p : Position} {es : List Entry} {e : Entry} :
    e ∈ clockwise p es ↔ e ∈ es := by
  simp only [clockwise, List.mem_append, List.mem_filter, decide_eq_true_eq]
  constructor
  · rintro (⟨he, -⟩ | ⟨he, -⟩) <;> exact he
  · intro he
    by_cases h : p ≤ e.position
    · exact .inl ⟨he, h⟩
    · exact .inr ⟨he, UInt16.not_le.1 h⟩

namespace HashRing

theorem Realizes.node_mem {ring : HashRing} {regs : List Registration} (h : ring.Realizes regs)
    {e : Entry} (he : e ∈ ring.entries) : e.node ∈ ring.nodes := by
  obtain ⟨g, hg, hge⟩ := List.mem_flatMap.1 (h.perm.mem_iff.1 he)
  rw [h.nodes_eq, Registration.node_of_mem_entries hge]
  exact List.mem_map_of_mem hg

/-- The members of a replica set are registered members. -/
theorem mem_nodes_of_mem_owners {ring : HashRing} (hr : ring.Reachable) {key : String}
    {owners : List Node} (hown : ring.owners key = .ok owners) {m : Node} (hm : m ∈ owners) :
    m ∈ ring.nodes := by
  obtain ⟨regs, hreg⟩ := hr.realizes
  have hne : ring.entries ≠ [] := fun h => by
    rw [owners_of_entries_eq_nil h] at hown
    cases hown
  rw [owners_eq_clockwise hr.wellFormed hne, Except.ok.injEq] at hown
  subst hown
  obtain ⟨e, he, rfl⟩ := List.mem_map.1 (eraseDupsBy_subset _ _ hm)
  exact hreg.node_mem (mem_clockwise.1 he)

/-- A replica set holds a member of every registered identity. -/
theorem exists_mem_owners_identity {ring : HashRing} (hwf : ring.WellFormed)
    (hne : ring.entries ≠ []) {key : String} {owners : List Node}
    (hown : ring.owners key = .ok owners) {n : Node} (hn : n ∈ ring.nodes) :
    ∃ m ∈ owners, m.identity = n.identity := by
  rw [owners_eq_clockwise hwf hne, Except.ok.injEq] at hown
  have hid : n.identity ∈ owners.map Node.identity := by
    rw [← hown, Node.map_identity_eraseDupsBy, List.mem_eraseDups, List.map_map]
    -- the walk meets every entry, and some entry carries `n`'s identity
    obtain ⟨e, he, hen⟩ := List.mem_map.1
      ((hwf.identities n.identity).2 (List.mem_map_of_mem hn))
    exact List.mem_map.2 ⟨e, mem_clockwise.2 he, hen⟩
  obtain ⟨m, hm, hmn⟩ := List.mem_map.1 hid
  exact ⟨m, hm, hmn⟩

/-- A replica set has at most one member per registered identity. -/
theorem length_owners_le {ring : HashRing} (hr : ring.Reachable) {key : String}
    {owners : List Node} (hown : ring.owners key = .ok owners) :
    owners.length ≤ ring.distinctCount := by
  have hne : ring.entries ≠ [] := fun h => by
    rw [owners_of_entries_eq_nil h] at hown
    cases hown
  have hnd : (owners.map Node.identity).Nodup := by
    have hpw := (owners_eq_clockwise hr.wellFormed hne key).symm.trans hown
    rw [Except.ok.injEq] at hpw
    exact List.pairwise_map.2 (hpw ▸ Node.pairwise_eraseDupsBy _)
  have hsub : owners.map Node.identity ⊆ (ring.nodes.map Node.identity).eraseDups := by
    intro id hid
    obtain ⟨m, hm, rfl⟩ := List.mem_map.1 hid
    exact List.mem_eraseDups.2 (List.mem_map_of_mem (mem_nodes_of_mem_owners hr hown hm))
  simpa [distinctCount] using hnd.length_le_of_subset hsub

/-! ### One metric -/

/-- On a well-formed ring with entries, the work item of a metric lists the servers of its
owners with repeats removed: of the replica set with fallback, of the owner alone without. -/
theorem workItem_eq_ok {ring : HashRing} (hwf : ring.WellFormed) (hne : ring.entries ≠ [])
    (fallback : Bool) (name : String) :
    ∃ o owners, ring.owner name = .ok o ∧ ring.owners name = .ok owners ∧
      owners.head? = some o ∧
      workItem ring fallback name =
        .ok ⟨name, ((if fallback then owners else [o]).map Node.server).eraseDups⟩ := by
  obtain ⟨first, rest, hown, ho⟩ := owner_eq_head_owners hwf hne name
  refine ⟨first, first :: rest, ho, hown, rfl, ?_⟩
  cases fallback <;>
    simp [workItem, hown, ho, bind, Except.bind, pure, Except.pure, firstOccurrences_eq_eraseDups]

/-- Resolving names one after another gives one work item per name, in order, each the work
item of its own name. -/
theorem mapM_workItem {ring : HashRing} (hwf : ring.WellFormed) (hne : ring.entries ≠ [])
    (fallback : Bool) :
    ∀ names : List String, ∃ work, names.mapM (workItem ring fallback) = .ok work ∧
      work.map WorkItem.name = names ∧ ∀ w ∈ work, workItem ring fallback w.name = .ok w
  | [] => ⟨[], rfl, rfl, fun _ h => absurd h List.not_mem_nil⟩
  | name :: names => by
    obtain ⟨o, owners, -, -, -, hitem⟩ := workItem_eq_ok hwf hne fallback name
    obtain ⟨work, hwork, hnames, hall⟩ := mapM_workItem hwf hne fallback names
    refine ⟨⟨name, ((if fallback then owners else [o]).map Node.server).eraseDups⟩ :: work, by simp [List.mapM_cons, hitem, hwork, bind, Except.bind, pure,
      Except.pure], by simp [hnames], ?_⟩
    intro w hw
    rcases List.mem_cons.1 hw with rfl | hw
    · exact hitem
    · exact hall w hw

/-- What a work item of a plan lists: the servers of its metric's owners, primary first. -/
theorem servers_of_workItem {ring : HashRing} (hwf : ring.WellFormed) (hne : ring.entries ≠ [])
    {fallback : Bool} {w : WorkItem} (hw : workItem ring fallback w.name = .ok w) :
    ∃ o owners, ring.owner w.name = .ok o ∧ ring.owners w.name = .ok owners ∧
      owners.head? = some o ∧
      w.servers = ((if fallback then owners else [o]).map Node.server).eraseDups := by
  obtain ⟨o, owners, ho, hown, hhead, hitem⟩ := workItem_eq_ok hwf hne fallback w.name
  rw [hw, Except.ok.injEq] at hitem
  exact ⟨o, owners, ho, hown, hhead, by rw [hitem]⟩

/-- The servers of owners headed by `o`, repeats removed, start with `o`'s server. -/
theorem head?_servers {o : Node} {owners : List Node} (hhead : owners.head? = some o)
    (fallback : Bool) :
    ((if fallback then owners else [o]).map Node.server).eraseDups.head? = some o.server := by
  obtain ⟨rest, rfl⟩ := List.head?_eq_some_iff.1 hhead
  cases fallback <;> simp [List.eraseDups_cons]

/-- With fallback a work item lists at most one server per registered identity. -/
theorem length_servers_le {ring : HashRing} (hr : ring.Reachable) (hne : ring.entries ≠ [])
    {w : WorkItem} (hw : workItem ring true w.name = .ok w) :
    w.servers.length ≤ ring.distinctCount := by
  obtain ⟨o, owners, -, hown, -, hservers⟩ := servers_of_workItem hr.wellFormed hne hw
  rw [if_pos rfl] at hservers
  have hsub : w.servers ⊆ owners.map Node.server := fun s hs =>
    List.mem_eraseDups.1 (hservers ▸ hs)
  calc w.servers.length
      ≤ (owners.map Node.server).length :=
        (hservers ▸ nodup_eraseDups _).length_le_of_subset hsub
    _ = owners.length := List.length_map _
    _ ≤ ring.distinctCount := length_owners_le hr hown

/-- With fallback the servers of a work item are registered servers, and every registered
identity has a member whose server is listed; when members of one identity share their server,
the list holds every registered server once. -/
theorem servers_of_fallback {ring : HashRing} (hr : ring.Reachable) (hne : ring.entries ≠ [])
    {w : WorkItem} (hw : workItem ring true w.name = .ok w) :
    (∀ s ∈ w.servers, ∃ n ∈ ring.nodes, n.server = s) ∧
      (∀ n ∈ ring.nodes, ∃ m ∈ ring.nodes, m.identity = n.identity ∧ m.server ∈ w.servers) ∧
      ((∀ a ∈ ring.nodes, ∀ b ∈ ring.nodes, a.identity = b.identity → a.server = b.server) →
        w.servers.Perm (ring.nodes.map Node.server).eraseDups) := by
  obtain ⟨o, owners, -, hown, -, hservers⟩ := servers_of_workItem hr.wellFormed hne hw
  rw [if_pos rfl] at hservers
  have hmem : ∀ s, s ∈ w.servers ↔ s ∈ owners.map Node.server := by
    intro s
    rw [hservers, List.mem_eraseDups]
  have hlisted : ∀ s ∈ w.servers, ∃ n ∈ ring.nodes, n.server = s := by
    intro s hs
    obtain ⟨m, hm, rfl⟩ := List.mem_map.1 ((hmem s).1 hs)
    exact ⟨m, mem_nodes_of_mem_owners hr hown hm, rfl⟩
  have hcover : ∀ n ∈ ring.nodes, ∃ m ∈ ring.nodes, m.identity = n.identity ∧
      m.server ∈ w.servers := by
    intro n hn
    obtain ⟨m, hm, hmn⟩ := exists_mem_owners_identity hr.wellFormed hne hown hn
    exact ⟨m, mem_nodes_of_mem_owners hr hown hm, hmn, (hmem _).2 (List.mem_map_of_mem hm)⟩
  refine ⟨hlisted, hcover, fun hsame => ?_⟩
  refine (List.perm_ext_iff_of_nodup (hservers ▸ nodup_eraseDups _) (nodup_eraseDups _)).2
    fun s => ?_
  rw [List.mem_eraseDups]
  constructor
  · intro hs
    obtain ⟨n, hn, rfl⟩ := hlisted s hs
    exact List.mem_map_of_mem hn
  · intro hs
    obtain ⟨n, hn, rfl⟩ := List.mem_map.1 hs
    obtain ⟨m, hm, hmn, hms⟩ := hcover n hn
    rwa [← hsame m hm n hn hmn]

/-! ### The plan -/

theorem plan_of_entries_eq_nil {ring : HashRing} (h : ring.entries = []) (metrics : List String)
    (fallback : Bool) : plan ring metrics fallback = .error .emptyRing := by
  simp [plan, (isEmpty_iff ring).2 h]

/-- On a well-formed ring with entries the plan resolves the sorted distinct names, one work
item per name, each the work item of its name. -/
theorem plan_eq_ok {ring : HashRing} (hwf : ring.WellFormed) (hne : ring.entries ≠ [])
    (metrics : List String) (fallback : Bool) :
    ∃ work, plan ring metrics fallback = .ok work ∧
      (work.map WorkItem.name).Pairwise (· < ·) ∧
      (∀ x, x ∈ work.map WorkItem.name ↔ x ∈ metrics) ∧
      ∀ w ∈ work, workItem ring fallback w.name = .ok w := by
  obtain ⟨work, hwork, hnames, hall⟩ := mapM_workItem hwf hne fallback
    (dedupSorted (metrics.mergeSort fun a b => decide (a ≤ b)))
  refine ⟨work, ?_, ?_, ?_, hall⟩
  · simp only [plan, isEmpty_eq_false hne, Bool.false_eq_true, if_false, hwork]
    rfl
  · rw [hnames]
    exact pairwise_lt_dedupSorted (pairwise_le_mergeSort metrics)
  · intro x
    rw [hnames, mem_dedupSorted, List.mem_mergeSort]

/-- **What a plan promises.** On a reachable ring without entries the plan is refused, whatever
the metrics. Otherwise it lists the distinct metric names in strictly increasing order, and
each work item lists the servers of its metric's owners, the replica set with fallback and the
owner alone without, with repeats removed keeping first occurrences: a non-empty list without
repeats that starts with the owner's server. With fallback the servers listed are registered
servers, every registered identity has a member whose server is listed, and when members of one
identity share their server the list holds every registered server once. -/
theorem plan_resolves_every_name {ring : HashRing} (hr : ring.Reachable) (metrics : List String)
    (fallback : Bool) :
    (ring.entries = [] → plan ring metrics fallback = .error .emptyRing) ∧
    (ring.entries ≠ [] → ∃ work, plan ring metrics fallback = .ok work ∧
      (work.map WorkItem.name).Pairwise (· < ·) ∧
      (∀ x, x ∈ work.map WorkItem.name ↔ x ∈ metrics) ∧
      ∀ w ∈ work, ∃ o owners, ring.owner w.name = .ok o ∧ ring.owners w.name = .ok owners ∧
        w.servers = ((if fallback then owners else [o]).map Node.server).eraseDups ∧
        w.servers ≠ [] ∧ w.servers.Nodup ∧ w.servers.head? = some o.server ∧
        (fallback = true →
          (∀ s ∈ w.servers, ∃ n ∈ ring.nodes, n.server = s) ∧
          (∀ n ∈ ring.nodes, ∃ m ∈ ring.nodes, m.identity = n.identity ∧ m.server ∈ w.servers) ∧
          ((∀ a ∈ ring.nodes, ∀ b ∈ ring.nodes, a.identity = b.identity → a.server = b.server) →
            w.servers.Perm (ring.nodes.map Node.server).eraseDups))) := by
  refine ⟨fun h => plan_of_entries_eq_nil h metrics fallback, fun hne => ?_⟩
  obtain ⟨work, hplan, hsorted, hnames, hall⟩ := plan_eq_ok hr.wellFormed hne metrics fallback
  refine ⟨work, hplan, hsorted, hnames, fun w hw => ?_⟩
  obtain ⟨o, owners, ho, hown, hhead, hservers⟩ := servers_of_workItem hr.wellFormed hne (hall w hw)
  have hfirst : w.servers.head? = some o.server := hservers ▸ head?_servers hhead fallback
  refine ⟨o, owners, ho, hown, hservers, fun hnil => by simp [hnil] at hfirst,
    hservers ▸ nodup_eraseDups _, hfirst, fun hfb => ?_⟩
  subst hfb
  exact servers_of_fallback hr hne (hall w hw)

/-- The promise of a plan with fallback on a ring of two members, for repeated and unsorted
names. -/
theorem plan_resolves_two_members :
    let ring := (empty.addNode ⟨"a", "", by decide⟩).addNode ⟨"b", "x", by decide⟩
    let metrics := ["m2", "m1", "m2"]
    ring.Reachable ∧
      (ring.entries = [] → plan ring metrics true = .error .emptyRing) ∧
      (ring.entries ≠ [] → ∃ work, plan ring metrics true = .ok work ∧
        (work.map WorkItem.name).Pairwise (· < ·) ∧
        (∀ x, x ∈ work.map WorkItem.name ↔ x ∈ metrics) ∧
        ∀ w ∈ work, ∃ o owners, ring.owner w.name = .ok o ∧ ring.owners w.name = .ok owners ∧
          w.servers = ((if true then owners else [o]).map Node.server).eraseDups ∧
          w.servers ≠ [] ∧ w.servers.Nodup ∧ w.servers.head? = some o.server ∧
          (true = true →
            (∀ s ∈ w.servers, ∃ n ∈ ring.nodes, n.server = s) ∧
            (∀ n ∈ ring.nodes, ∃ m ∈ ring.nodes, m.identity = n.identity ∧ m.server ∈ w.servers) ∧
            ((∀ a ∈ ring.nodes, ∀ b ∈ ring.nodes, a.identity = b.identity → a.server = b.server) →
              w.servers.Perm (ring.nodes.map Node.server).eraseDups))) :=
  ⟨(reachable_empty.addNode _).addNode _,
    plan_resolves_every_name ((reachable_empty.addNode _).addNode _) _ _⟩

/-- Two members of one identity on different servers, `a:b` without an instance and `a` with
instance `b`: with fallback the one work item, for the metric `m`, names one server, not both. -/
theorem plan_names_one_server_per_identity :
    let ring := (empty.addNode ⟨"a:b", "", by decide⟩).addNode ⟨"a", "b", by decide⟩
    ∃ work, plan ring ["m"] true = .ok work ∧ work.map WorkItem.name = ["m"] ∧
      ∀ w ∈ work, ¬ w.servers.Perm (ring.nodes.map Node.server).eraseDups := by
  intro ring
  have hr : ring.Reachable := (reachable_empty.addNode _).addNode _
  have hne : ring.entries ≠ [] := entries_addNode_ne_nil _ _
  obtain ⟨work, hplan, hsorted, hmem, hall⟩ := plan_eq_ok hr.wellFormed hne ["m"] true
  -- the names are strictly increasing and are exactly the metrics asked for
  have hnames : work.map WorkItem.name = ["m"] := by
    cases hL : work.map WorkItem.name with
    | nil => simpa [hL] using (hmem "m").2 (by simp)
    | cons a rest =>
      rw [hL] at hsorted hmem
      have ha : a = "m" := by simpa using (hmem a).1 (by simp)
      have hrest : rest = [] := List.eq_nil_iff_forall_not_mem.2 fun x hx => by
        have hx' : x = "m" := by simpa using (hmem x).1 (by simp [hx])
        exact absurd (List.rel_of_pairwise_cons hsorted hx) (by simp [ha, hx'])
      rw [ha, hrest]
  refine ⟨work, hplan, hnames, fun w hw hperm => ?_⟩
  -- one identity, so at most one server, against the two registered servers
  have hone : ring.distinctCount = 1 := by decide
  have htwo : ((ring.nodes.map Node.server).eraseDups).length = 2 := by decide
  have hle := length_servers_le hr hne (hall w hw)
  rw [hperm.length_eq, htwo, hone] at hle
  omega

end HashRing

end MetricRing
