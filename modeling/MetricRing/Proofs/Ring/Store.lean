import MetricRing.Ring.Store
/-!
# Laws of the ring store

The store keeps its entries in *ring order*, non-decreasing by position (`RingOrdered`). On a
store in ring order:

* `Store.findIndex_spec` : the binary search returns the first index at or after a position,
  so `Store.take_findIndex` and `Store.drop_findIndex` cut the entries into those before the
  position and those at or after it;
* `Store.findIndex_counts_entries_before` : **the index is the number of entries before the
  position**, the entries at indices below it are exactly those before the position, and it is
  the size exactly when every entry is before the position;
* `Store.rotateLeft_findIndex` : rotating the entries to that index lists them in the order a
  walk from the position meets them, `clockwise`: first the entries at or after it, then,
  wrapping past the top of the ring, the entries before it.

For a batch merged in front of the entries (`Store.mergeFront`):

* `Store.ordered_mergeFront` and `Store.perm_mergeFront` : the merge keeps ring order and loses
  or duplicates nothing;
* `Store.filter_position_mergeFront` : **at every position the batch comes first**, ahead of
  the entries that were already there, which is the tie rule of a single insertion;
* `Store.filter_position_mergeSort` : sorting the batch by position keeps the order of the
  entries that share a position (the sort is stable);
* `Store.find?_mergeFront` : the first entry of the merge with a property is the first such
  entry of the batch or of the old entries.

A single insertion is a merge of one entry (`Store.toList_insert`).
-/

namespace MetricRing

/-- Entries in ring order: non-decreasing by position. -/
def RingOrdered (es : List Entry) : Prop :=
  es.Pairwise fun a b => a.position ≤ b.position

instance (es : List Entry) : Decidable (RingOrdered es) :=
  inferInstanceAs (Decidable (es.Pairwise _))

/-- The entries in the order a walk from position `p` meets them: those at or after `p` in ring
order, then those before `p`, reached by wrapping past the top of the ring. -/
def clockwise (p : Position) (es : List Entry) : List Entry :=
  es.filter (p ≤ ·.position) ++ es.filter (·.position < p)

theorem RingOrdered.le_of_le {es : List Entry} (hs : RingOrdered es) {i j : Nat}
    (hi : i < es.length) (hj : j < es.length) (hij : i ≤ j) : es[i].position ≤ es[j].position := by
  rcases Nat.lt_or_eq_of_le hij with hlt | rfl
  · exact List.pairwise_iff_getElem.1 hs i j hi hj hlt
  · exact UInt16.le_refl _

theorem RingOrdered.getElem_le {es : Array Entry} (hs : RingOrdered es.toList) {i j : Nat}
    (hi : i < es.size) (hj : j < es.size) (hij : i ≤ j) : es[i].position ≤ es[j].position :=
  hs.le_of_le hi hj hij

theorem RingOrdered.filter {es : List Entry} (hs : RingOrdered es) (q : Entry → Bool) :
    RingOrdered (es.filter q) :=
  List.Pairwise.filter q hs

theorem filter_filter_comm {α : Type} (p q : α → Bool) (l : List α) :
    (l.filter p).filter q = (l.filter q).filter p := by
  simp only [List.filter_filter, Bool.and_comm]

theorem clockwise_filter (p : Position) (es : List Entry) (q : Entry → Bool) :
    clockwise p (es.filter q) = (clockwise p es).filter q := by
  simp only [clockwise, List.filter_append, List.filter_filter, Bool.and_comm]

theorem rotateLeft_eq_drop_append_take {α : Type} {l : List α} {i : Nat}
    (h : i ≤ l.length) : l.rotateLeft i = l.drop i ++ l.take i := by
  rcases Nat.lt_or_eq_of_le h with hlt | rfl
  · dsimp only [List.rotateLeft]
    split
    · -- a list of at most one element: the only index below its length is `0`
      obtain rfl : i = 0 := by omega
      simp
    · simp [Nat.mod_eq_of_lt hlt]
  · dsimp only [List.rotateLeft]
    split <;> simp

namespace Store

/-! ### The binary search -/

theorem lowerBound_spec {es : Array Entry} {p : Position} (hs : RingOrdered es.toList)
    {lo hi : Nat} (hhi : hi ≤ es.size) (hlohi : lo ≤ hi)
    (hbelow : ∀ j (hj : j < es.size), j < lo → es[j].position < p)
    (habove : ∀ j (hj : j < es.size), hi ≤ j → p ≤ es[j].position) :
    let i := lowerBound es p lo hi hhi
    i ≤ hi ∧ (∀ j (hj : j < es.size), j < i → es[j].position < p) ∧
      ∀ j (hj : j < es.size), i ≤ j → p ≤ es[j].position := by
  fun_induction lowerBound es p lo hi hhi with
  | case1 lo hi hhi h mid hmid hlt ih =>
    -- the midpoint is before `p`, and so is every entry up to it
    refine ih (by omega) (fun j hj hj' => ?_) habove
    by_cases hjlo : j < lo
    · exact hbelow j hj hjlo
    · exact UInt16.lt_of_le_of_lt (hs.getElem_le hj hmid (by omega)) hlt
  | case2 lo hi hhi h mid hmid hge ih =>
    obtain ⟨hle, hb, ha⟩ := ih (by omega) hbelow fun j hj hj' =>
      UInt16.le_trans (UInt16.not_lt.1 hge) (hs.getElem_le hmid hj hj')
    exact ⟨by omega, hb, ha⟩
  | case3 lo hi hhi h =>
    exact ⟨hlohi, hbelow, fun j hj hj' => habove j hj (by omega)⟩

/-- On a store in ring order, `findIndex p` is the first index whose entry is at or after
`p`, or the size when there is none. -/
theorem findIndex_spec {s : Store} (hs : RingOrdered s.toList) (p : Position) :
    let i := s.findIndex p
    i ≤ s.toList.length ∧ (∀ j (hj : j < s.toList.length), j < i → s.toList[j].position < p) ∧
      ∀ j (hj : j < s.toList.length), i ≤ j → p ≤ s.toList[j].position := by
  obtain ⟨hle, hb, ha⟩ := lowerBound_spec (p := p) hs (Nat.le_refl _) (Nat.zero_le _)
    (fun j _ hj => absurd hj (Nat.not_lt_zero j)) (fun j hj hj' => absurd hj (by omega))
  exact ⟨hle, hb, ha⟩

theorem take_findIndex {s : Store} (hs : RingOrdered s.toList) (p : Position) :
    s.toList.take (s.findIndex p) = s.toList.filter (·.position < p) := by
  obtain ⟨-, hbelow, habove⟩ := findIndex_spec hs p
  conv => rhs; rw [← List.take_append_drop (s.findIndex p) s.toList]
  rw [List.filter_append, List.filter_eq_self.2, List.filter_eq_nil_iff.2, List.append_nil]
  · intro x hx
    obtain ⟨j, hj, rfl⟩ := List.mem_drop_iff_getElem.1 hx
    simpa using habove _ (by omega) (by omega)
  · intro x hx
    obtain ⟨j, hj, rfl⟩ := List.mem_take_iff_getElem.1 hx
    simpa using hbelow _ (by omega) (by omega)

theorem drop_findIndex {s : Store} (hs : RingOrdered s.toList) (p : Position) :
    s.toList.drop (s.findIndex p) = s.toList.filter (p ≤ ·.position) := by
  obtain ⟨-, hbelow, habove⟩ := findIndex_spec hs p
  conv => rhs; rw [← List.take_append_drop (s.findIndex p) s.toList]
  rw [List.filter_append, List.filter_eq_nil_iff.2, List.nil_append, List.filter_eq_self.2]
  · intro x hx
    obtain ⟨j, hj, rfl⟩ := List.mem_drop_iff_getElem.1 hx
    simpa using habove _ (by omega) (by omega)
  · intro x hx
    obtain ⟨j, hj, rfl⟩ := List.mem_take_iff_getElem.1 hx
    simpa using hbelow _ (by omega) (by omega)

/-- **The walk from a position starts at the binary search's index.** -/
theorem rotateLeft_findIndex {s : Store} (hs : RingOrdered s.toList) (p : Position) :
    s.toList.rotateLeft (s.findIndex p) = clockwise p s.toList := by
  rw [rotateLeft_eq_drop_append_take (findIndex_spec hs p).1, take_findIndex hs,
    drop_findIndex hs, clockwise]

/-- On a store in ring order, the binary search's index is the number of entries before the
position. -/
theorem findIndex_eq_length_filter {s : Store} (hs : RingOrdered s.toList) (p : Position) :
    s.findIndex p = (s.toList.filter (·.position < p)).length := by
  rw [← take_findIndex hs, List.length_take, Nat.min_eq_left (findIndex_spec hs p).1]

theorem get?_eq_getElem?_toList (s : Store) (j : Nat) : s.get? j = s.toList[j]? := by
  simp [get?, toList]

theorem length_toList (s : Store) : s.toList.length = s.size := by
  simp [toList, size]

/-- **The binary search counts the entries before a position.** On a store in ring order, for
every position `p`, `findIndex p` is the number of entries before `p`; an entry sits at an
index below it exactly when it is before `p`, so every entry from it on is at or after `p`; and
it is the size of the store exactly when every entry is before `p`. -/
theorem findIndex_counts_entries_before {s : Store} (hs : RingOrdered s.toList) (p : Position) :
    s.findIndex p = s.toList.countP (·.position < p) ∧
      (∀ j e, s.get? j = some e → (j < s.findIndex p ↔ e.position < p)) ∧
      (s.findIndex p = s.size ↔ ∀ e ∈ s.toList, e.position < p) := by
  obtain ⟨-, hbelow, habove⟩ := findIndex_spec hs p
  have hcount := findIndex_eq_length_filter hs p
  refine ⟨by rw [hcount, List.countP_eq_length_filter], fun j e he => ?_, ?_⟩
  · rw [get?_eq_getElem?_toList] at he
    obtain ⟨hj, rfl⟩ := List.getElem?_eq_some_iff.1 he
    refine ⟨hbelow j hj, fun hlt => Nat.lt_of_not_le fun hle => ?_⟩
    -- from the index on, the entries are at or after `p`
    exact UInt16.not_le.2 hlt (habove j hj hle)
  · rw [hcount, ← length_toList, List.length_filter_eq_length_iff]
    simp

/-- The index on the store of four entries with a position held twice, at that position. -/
theorem findIndex_counts_entries_at_shared_position :
    let s : Store := ⟨#[⟨10, ⟨"a", "", by decide⟩⟩, ⟨20, ⟨"c", "", by decide⟩⟩,
      ⟨20, ⟨"b", "", by decide⟩⟩, ⟨30, ⟨"d", "", by decide⟩⟩]⟩
    RingOrdered s.toList ∧
      s.findIndex 20 = s.toList.countP (·.position < 20) ∧
      (∀ j e, s.get? j = some e → (j < s.findIndex 20 ↔ e.position < 20)) ∧
      (s.findIndex 20 = s.size ↔ ∀ e ∈ s.toList, e.position < 20) :=
  ⟨by decide, findIndex_counts_entries_before (by decide) 20⟩

/-! ### Merging a batch -/

theorem position_le_trans (a b c : Entry) :
    decide (a.position ≤ b.position) → decide (b.position ≤ c.position) →
      decide (a.position ≤ c.position) := by
  simpa using UInt16.le_trans

theorem position_le_total (a b : Entry) :
    (decide (a.position ≤ b.position) || decide (b.position ≤ a.position)) = true := by
  simpa using UInt16.le_total a.position b.position

theorem mergeFront_eq_merge (bs es : List Entry) :
    mergeFront bs es = bs.merge es fun a b => a.position ≤ b.position := by
  fun_induction mergeFront bs es with
  | case1 es => simp
  | case2 b bs => simp
  | case3 b bs e es hlt ih =>
    rw [List.cons_merge_cons_neg _ _ _ (by simpa using hlt), ih]
  | case4 b bs e es hge ih =>
    rw [List.cons_merge_cons_pos _ _ _ (by simpa using UInt16.not_lt.1 hge), ih]

theorem ordered_mergeFront {bs es : List Entry} (hb : RingOrdered bs) (he : RingOrdered es) :
    RingOrdered (mergeFront bs es) := by
  rw [mergeFront_eq_merge]
  simpa [RingOrdered] using List.pairwise_merge position_le_trans position_le_total bs es
    (by simpa [RingOrdered] using hb) (by simpa [RingOrdered] using he)

theorem perm_mergeFront (bs es : List Entry) : (mergeFront bs es).Perm (bs ++ es) := by
  rw [mergeFront_eq_merge]
  exact List.merge_perm_append _

theorem filter_position_mergeFront {bs : List Entry} (hb : RingOrdered bs) (es : List Entry)
    (p : Position) :
    (mergeFront bs es).filter (·.position == p) =
      bs.filter (·.position == p) ++ es.filter (·.position == p) := by
  fun_induction mergeFront bs es with
  | case1 es => simp
  | case2 b bs => simp
  | case3 b bs e es hlt ih =>
    rw [List.filter_cons, List.filter_cons (x := e), ih hb]
    by_cases he : e.position = p
    · -- the batch holds nothing at `e`'s position: it starts past it
      have hnil : (b :: bs).filter (·.position == p) = [] := by
        refine List.filter_eq_nil_iff.2 fun x hx => ?_
        have hbx : b.position ≤ x.position := by
          rcases List.mem_cons.1 hx with rfl | hx
          · exact UInt16.le_refl _
          · exact List.rel_of_pairwise_cons hb hx
        simp only [beq_iff_eq]
        intro hxp
        exact absurd (hxp ▸ he ▸ hlt) (UInt16.not_lt.2 hbx)
      simp [he, hnil]
    · simp [he]
  | case4 b bs e es hge ih =>
    rw [List.filter_cons, List.filter_cons (x := b), ih hb.of_cons]
    split <;> simp

theorem filter_mergeFront_of_forall {bs : List Entry} {q : Entry → Bool}
    (h : ∀ b ∈ bs, q b = false) (es : List Entry) :
    (mergeFront bs es).filter q = es.filter q := by
  fun_induction mergeFront bs es with
  | case1 es => rfl
  | case2 b bs => simpa using h
  | case3 b bs e es hlt ih =>
    rw [List.filter_cons, List.filter_cons (x := e), ih h]
  | case4 b bs e es hge ih =>
    rw [List.filter_cons, h b List.mem_cons_self, ih fun x hx => h x (List.mem_cons_of_mem b hx)]
    rfl

/-- The merge interleaves the batch with the old entries, keeping the order of each, so the
first entry of the merge with a property is the first of one of them. -/
theorem find?_mergeFront {bs es : List Entry} {q : Entry → Bool} {x : Entry}
    (h : (mergeFront bs es).find? q = some x) : bs.find? q = some x ∨ es.find? q = some x := by
  fun_induction mergeFront bs es with
  | case1 es => exact .inr h
  | case2 b bs => exact .inl h
  | case3 b bs e es hlt ih =>
    by_cases hq : q e
    · right
      rwa [List.find?_cons_of_pos hq] at h ⊢
    · rw [List.find?_cons_of_neg hq] at h
      rw [List.find?_cons_of_neg hq]
      exact ih h
  | case4 b bs e es hge ih =>
    by_cases hq : q b
    · left
      rwa [List.find?_cons_of_pos hq] at h ⊢
    · rw [List.find?_cons_of_neg hq] at h
      rw [List.find?_cons_of_neg hq]
      exact ih h

/-- A batch of one entry goes after the entries before its position and in front of all the
others. -/
theorem mergeFront_singleton {b : Entry} {l : List Entry} (hl : RingOrdered l) :
    mergeFront [b] l =
      l.filter (·.position < b.position) ++ b :: l.filter (b.position ≤ ·.position) := by
  induction l with
  | nil => simp [mergeFront]
  | cons e es ih =>
    rw [mergeFront]
    split
    · rename_i hlt
      rw [ih hl.of_cons]
      simp [hlt, UInt16.not_le.2 hlt]
    · -- `e`, and so every entry after it, is at or after `b`'s position
      rename_i hge
      have hafter : ∀ x ∈ e :: es, b.position ≤ x.position := by
        intro x hx
        rcases List.mem_cons.1 hx with rfl | hx
        · exact UInt16.not_lt.1 hge
        · exact UInt16.le_trans (UInt16.not_lt.1 hge) (List.rel_of_pairwise_cons hl hx)
      rw [List.filter_eq_nil_iff.2 fun x hx => by simpa using hafter x hx,
        List.filter_eq_self.2 fun x hx => by simpa using hafter x hx]
      simp [mergeFront]

/-! ### Sorting a batch -/

theorem ordered_mergeSort (l : List Entry) :
    RingOrdered (l.mergeSort fun a b => a.position ≤ b.position) := by
  simpa [RingOrdered] using List.pairwise_mergeSort position_le_trans position_le_total l

theorem filter_position_mergeSort (l : List Entry) (p : Position) :
    (l.mergeSort fun a b => a.position ≤ b.position).filter (·.position == p) =
      l.filter (·.position == p) := by
  -- the entries at `p` are in order already, so the sort keeps them as a sublist (stability)
  have hc : (l.filter (·.position == p)).Pairwise fun a b => decide (a.position ≤ b.position) := by
    refine List.pairwise_of_forall_mem_list fun a ha b hb => ?_
    simp only [List.mem_filter, beq_iff_eq] at ha hb
    simp [ha.2, hb.2]
  have hsub := List.sublist_mergeSort position_le_trans position_le_total hc List.filter_sublist
  have hlen := ((List.mergeSort_perm l fun a b : Entry => decide (a.position ≤ b.position)).filter
    (·.position == p)).length_eq
  refine (List.Sublist.eq_of_length ?_ hlen.symm).symm
  simpa [List.filter_filter] using hsub.filter (·.position == p)

/-! ### The store's updates through its list of entries -/

@[simp] theorem toList_insertBatch (s : Store) (batch : List Entry) :
    (s.insertBatch batch).toList =
      mergeFront (batch.reverse.mergeSort fun a b => a.position ≤ b.position) s.toList :=
  rfl

/-- On a store in ring order, inserting an entry is merging it as a batch of one. -/
theorem toList_insert {s : Store} (hs : RingOrdered s.toList) (e : Entry) :
    (s.insert e).toList = mergeFront [e] s.toList := by
  rw [mergeFront_singleton hs, ← take_findIndex hs, ← drop_findIndex hs]
  -- the insertion copies the entries before the index, the entry, and all from the index on
  simp only [toList, insert, Array.toList_append, Array.toList_push, Array.toList_extract,
    List.extract_eq_take_drop, Nat.sub_zero, List.drop_zero, List.append_assoc, List.cons_append,
    List.nil_append, List.append_cancel_left_eq, List.cons.injEq, true_and]
  -- the copy from the index on takes every remaining entry
  exact List.take_of_length_le (Nat.le_of_eq (by rw [List.length_drop, Array.length_toList]))

@[simp] theorem toList_eraseNode (s : Store) (n : Node) :
    (s.eraseNode n).1.toList = s.toList.filter fun e => !e.node.sameIdentity n := by
  simp [eraseNode, toList]

@[simp] theorem toList_empty : empty.toList = [] := rfl

/-- A store is its list of entries. -/
theorem eq_of_toList_eq {s₁ s₂ : Store} (h : s₁.toList = s₂.toList) : s₁ = s₂ := by
  obtain ⟨es₁⟩ := s₁
  obtain ⟨es₂⟩ := s₂
  obtain rfl : es₁ = es₂ := Array.ext' h
  rfl

end Store

end MetricRing
