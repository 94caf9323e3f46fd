import MetricRing.Archive.Path
/-!
# Metric names and archive paths

`metricToPath` turns every dot of a name into a separator, appends the suffix and drops the
leading separators; `pathToMetric` drops leading separators, strips the suffix and turns every
separator back into a dot. The two are inverse only on part of their domains: a name with a
separator comes back with a dot in its place, and a name starting with a dot loses it with the
leading separators.

Everything here is said of the characters of the texts, where both functions are a `map`, a
`dropWhile` and an append.

## Main statements

* `Archive.toList_metricToPath` : the characters of a metric's path;
* `Archive.toList_pathToMetric_of_eq_append` : reading back a path that ends in the suffix;
* `Archive.exists_metricToPath_eq_iff` : the paths metrics are stored at are the texts that end
  in the suffix, start with no separator and hold no dot before the suffix;
* `Archive.path_round_trip_domains` : **the exact domains of the two inverses**.
-/

namespace MetricRing.Archive

@[simp] theorem toList_replaceChar (a b : Char) (s : String) :
    (replaceChar a b s).toList = s.toList.map fun c => if c = a then b else c := by
  simp [replaceChar]

@[simp] theorem toList_dropLeadingSlashes (s : String) :
    (dropLeadingSlashes s).toList = s.toList.dropWhile (· = '/') := by
  simp [dropLeadingSlashes]

theorem toList_suffix : suffix.toList = ['.', 'w', 's', 'p'] := rfl

/-! ### Replacing characters -/

/-- Replacing `a` by `b` and then `b` by `a` gives back a text that held no `b`. -/
theorem map_replace_replace {a b : Char} {l : List Char} (h : b ∉ l) :
    ((l.map fun c => if c = a then b else c).map fun c => if c = b then a else c) = l := by
  induction l with
  | nil => rfl
  | cons c l ih =>
    have hcb : c ≠ b := fun hc => h (hc ▸ List.mem_cons_self)
    rw [List.map_cons, List.map_cons, ih fun hb => h (List.mem_cons_of_mem c hb)]
    by_cases hca : c = a
    · simp [hca]
    · simp [hca, hcb]

/-- After replacing `a` by another character, no `a` is left. -/
theorem not_mem_map_replace {a b : Char} (hab : a ≠ b) (l : List Char) :
    a ∉ l.map fun c => if c = a then b else c := by
  intro ha
  obtain ⟨c, -, hc⟩ := List.mem_map.1 ha
  by_cases hca : c = a
  · rw [if_pos hca] at hc
    exact hab hc.symm
  · rw [if_neg hca] at hc
    exact hca hc

/-! ### Leading separators -/

theorem dropWhile_slash_of_head? {l : List Char} (h : l.head? ≠ some '/') :
    l.dropWhile (· = '/') = l := by
  cases l with
  | nil => rfl
  | cons c l =>
    have hc : c ≠ '/' := fun hc => h (by rw [hc]; rfl)
    simp [hc]

theorem head?_dropWhile_slash : ∀ l : List Char, (l.dropWhile (· = '/')).head? ≠ some '/'
  | [] => by simp
  | c :: l => by
    rw [List.dropWhile_cons]
    by_cases hc : c = '/'
    · simpa [hc] using head?_dropWhile_slash l
    · simp [hc]

/-- A text in front of the suffix keeps its leading separators only when it has none. -/
theorem dropWhile_slash_append_suffix {l : List Char} (h : l.head? ≠ some '/') :
    (l ++ suffix.toList).dropWhile (· = '/') = l ++ suffix.toList := by
  cases l with
  | nil => rfl
  | cons c l => exact dropWhile_slash_of_head? h

/-! ### The two directions through characters -/

/-- The characters of a metric's path: the name with dots as separators, less its leading
separators, then the suffix. -/
theorem toList_metricToPath (m : String) :
    (metricToPath m).toList =
      (m.toList.map fun c => if c = '.' then '/' else c).dropWhile (· = '/') ++ suffix.toList := by
  rw [metricToPath, toList_dropLeadingSlashes, String.toList_append, toList_replaceChar,
    List.dropWhile_append]
  split
  · -- the name was all separators: the suffix, which starts with a dot, is what is left
    rename_i hnil
    rw [List.isEmpty_iff.1 hnil, List.nil_append]
    rfl
  · rfl

/-- A path whose characters after the leading separators are a stem and the suffix reads back
as the stem with separators as dots. -/
theorem toList_pathToMetric_of_eq_append {p : String} {stem : List Char}
    (h : p.toList.dropWhile (· = '/') = stem ++ suffix.toList) :
    (pathToMetric p).toList = stem.map fun c => if c = '/' then '.' else c := by
  have hends : (dropLeadingSlashes p).endsWith suffix = true := by
    rw [String.endsWith_eq_endsWith_toSlice, String.Slice.endsWith_string_iff,
      String.copy_toSlice, toList_dropLeadingSlashes, h]
    exact List.suffix_append stem _
  have hlen : (dropLeadingSlashes p).length - suffix.length = stem.length := by
    rw [← String.length_toList, ← String.length_toList, toList_dropLeadingSlashes, h,
      List.length_append]
    omega
  simp only [pathToMetric, hends, if_true, toList_replaceChar, String.toList_ofList, hlen,
    toList_dropLeadingSlashes, h, List.take_left]

/-! ### The paths metrics are stored at -/

/-- A metric's path is a stem without dots, not starting with a separator, then the suffix. -/
theorem metricToPath_eq_append (m : String) :
    ∃ stem, (metricToPath m).toList = stem ++ suffix.toList ∧ '.' ∉ stem ∧
      (metricToPath m).toList.head? ≠ some '/' := by
  refine ⟨_, toList_metricToPath m, fun hdot => ?_, ?_⟩
  · exact not_mem_map_replace (by decide) m.toList ((List.dropWhile_suffix _).subset hdot)
  · -- the path starts where the name's separators end, or with the suffix's dot
    rw [toList_metricToPath, List.head?_append]
    cases hd : ((m.toList.map fun c => if c = '.' then '/' else c).dropWhile (· = '/')).head? with
    | none => decide
    | some c =>
      rw [Option.some_or, ← hd]
      exact head?_dropWhile_slash _

/-- A text of that form is the path of the metric it reads back as. -/
theorem metricToPath_pathToMetric_of_eq_append {p : String} {stem : List Char}
    (hp : p.toList = stem ++ suffix.toList) (hdot : '.' ∉ stem) (hhead : p.toList.head? ≠ some '/') :
    metricToPath (pathToMetric p) = p := by
  -- the stem starts as the path does, so with no separator
  have hstem : stem.head? ≠ some '/' := by
    cases stem with
    | nil => simp
    | cons c l => simpa [hp] using hhead
  have hread := toList_pathToMetric_of_eq_append (by rw [hp, dropWhile_slash_append_suffix hstem])
  rw [← String.toList_inj, toList_metricToPath, hread, map_replace_replace hdot,
    dropWhile_slash_of_head? hstem, hp]

/-- The paths metrics are stored at are exactly the texts that end in the suffix, do not start
with a separator, and hold no dot before the suffix. -/
theorem exists_metricToPath_eq_iff (p : String) :
    (∃ m, metricToPath m = p) ↔
      ∃ stem, p.toList = stem ++ suffix.toList ∧ '.' ∉ stem ∧ p.toList.head? ≠ some '/' := by
  constructor
  · rintro ⟨m, rfl⟩
    exact metricToPath_eq_append m
  · rintro ⟨stem, hp, hdot, hhead⟩
    exact ⟨_, metricToPath_pathToMetric_of_eq_append hp hdot hhead⟩

/-- Reading a metric's path back gives the metric exactly when the name holds no separator and
does not start with a dot. -/
theorem pathToMetric_metricToPath_eq_iff (m : String) :
    pathToMetric (metricToPath m) = m ↔ '/' ∉ m.toList ∧ m.toList.head? ≠ some '.' := by
  obtain ⟨stem, hp, -, hhead⟩ := metricToPath_eq_append m
  have hstem : stem = (m.toList.map fun c => if c = '.' then '/' else c).dropWhile (· = '/') :=
    List.append_cancel_right (hp.symm.trans (toList_metricToPath m))
  have hread := toList_pathToMetric_of_eq_append (by rw [dropWhile_slash_of_head? hhead, hp])
  rw [← String.toList_inj, hread]
  constructor
  · intro heq
    -- no character was dropped, so the name did not start with a separator once dots became
    -- separators, and the separators it held would have come back as dots
    have hlen : stem.length = (m.toList.map fun c => if c = '.' then '/' else c).length := by
      rw [List.length_map, ← heq, List.length_map]
    have hall : stem = m.toList.map fun c => if c = '.' then '/' else c :=
      (hstem ▸ List.dropWhile_suffix _).eq_of_length hlen
    refine ⟨fun hs => not_mem_map_replace (by decide) stem (heq ▸ hs), fun hd => ?_⟩
    have hfirst := hstem ▸ head?_dropWhile_slash
      (m.toList.map fun c => if c = '.' then '/' else c)
    rw [hall, List.head?_map, hd] at hfirst
    simp at hfirst
  · rintro ⟨hslash, hdot⟩
    have hfirst : (m.toList.map fun c => if c = '.' then '/' else c).head? ≠ some '/' := by
      rw [List.head?_map]
      cases hm : m.toList with
      | nil => simp
      | cons c l =>
        have hc : c ≠ '/' := fun hc => hslash (by rw [hm, hc]; exact List.mem_cons_self)
        have hc' : c ≠ '.' := fun hc' => hdot (by rw [hm, hc']; rfl)
        simp [hc, hc']
    rw [hstem, dropWhile_slash_of_head? hfirst, map_replace_replace hslash]

/-- **The exact domains of the two inverses.** Reading a metric's path back gives the metric
exactly when the name holds no separator and does not start with a dot; writing the path of
what a text reads back as gives the text exactly when it is the path of some metric; and those
paths are the texts that end in the suffix, do not start with a separator and hold no dot before
the suffix. -/
theorem path_round_trip_domains :
    (∀ m, pathToMetric (metricToPath m) = m ↔ '/' ∉ m.toList ∧ m.toList.head? ≠ some '.') ∧
      (∀ p, metricToPath (pathToMetric p) = p ↔ ∃ m, metricToPath m = p) ∧
      ∀ p, (∃ m, metricToPath m = p) ↔
        ∃ stem, p.toList = stem ++ suffix.toList ∧ '.' ∉ stem ∧ p.toList.head? ≠ some '/' := by
  refine ⟨pathToMetric_metricToPath_eq_iff, fun p => ⟨fun h => ⟨_, h⟩, ?_⟩,
    exists_metricToPath_eq_iff⟩
  rintro ⟨m, rfl⟩
  obtain ⟨stem, hp, hdot, hhead⟩ := metricToPath_eq_append m
  exact metricToPath_pathToMetric_of_eq_append hp hdot hhead

end MetricRing.Archive
