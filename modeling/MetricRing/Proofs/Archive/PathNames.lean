import Mathlib
import MetricRing.Proofs.Archive.NameField
import MetricRing.Proofs.Archive.Paths
/-!
# The names a header records for metric paths

A name field records a relative path as its parts joined by single separators: empty parts and
`.` parts are dropped. `recordedPath` is that text. A metric's path `metricToPath m` has no part
`.` or `..` and does not start with a separator, so all of its parts are normal components and
the field records its non-empty parts; when they do not fit, the first 100 bytes of the path
cut at a character boundary (`utf8Prefix`) are written instead, and that write succeeds.

## Main statements

* `Archive.components_eq_keptParts` : the components of a relative path without `..`;
* `Archive.setPath_metricToPath_of_fits`, `Archive.setPath_metricToPath_of_too_long` : writing a
  metric's path;
* `Archive.setPath_utf8Prefix` : writing the cut path into what the failed write left.
-/

namespace MetricRing.Archive

/-! ### Parts of a path -/

section Parts

variable {α : Type}

/-- A joined piece is a stretch of the joined list. -/
theorem sublist_intercalate_of_mem {sep p : List α} : ∀ {L : List (List α)}, p ∈ L →
    p.Sublist (sep.intercalate L)
  | [], h => absurd h List.not_mem_nil
  | [q], h => by
    rw [List.mem_singleton] at h
    subst h
    simp
  | q :: r :: L, h => by
    rw [List.intercalate_cons_cons]
    rcases List.mem_cons.1 h with rfl | h
    · exact (List.sublist_append_left p sep).trans (List.sublist_append_left _ _)
    · exact (sublist_intercalate_of_mem h).trans (List.sublist_append_right _ _)

/-- Joining only some of the pieces gives a sublist of joining them all. -/
theorem intercalate_filter_sublist (sep : List α) (q : List α → Bool) :
    ∀ L : List (List α), (sep.intercalate (L.filter q)).Sublist (sep.intercalate L)
  | [] => by simp
  | [x] => by
    by_cases hx : q x <;> simp [hx]
  | x :: y :: L => by
    have ih := intercalate_filter_sublist sep q (y :: L)
    rw [List.intercalate_cons_cons, List.filter_cons]
    split
    · -- the first piece is kept: the rest is a sublist after it and the separator
      by_cases hrest : (y :: L).filter q = []
      · rw [hrest, List.intercalate_singleton]
        exact (List.sublist_append_left x sep).trans (List.sublist_append_left _ _)
      · rw [List.intercalate_cons_of_ne_nil hrest, List.append_assoc, List.append_assoc]
        exact (ih.append_left sep).append_left x
    · exact ih.trans (List.sublist_append_right _ _)

theorem sublist_of_mem_splitOn {a : Char} {l p : List Char} (h : p ∈ l.splitOn a) :
    p.Sublist l := by
  simpa using @sublist_intercalate_of_mem Char [a] p (l.splitOn a) h

/-- A character other than the separator joins the first part. -/
theorem splitOn_cons_of_ne [BEq α] [LawfulBEq α] {a x : α} (hx : x ≠ a) (l : List α) :
    ∃ r rs, l.splitOn a = r :: rs ∧ (x :: l).splitOn a = (x :: r) :: rs := by
  obtain ⟨r, rs, hr⟩ := List.exists_cons_of_ne_nil (List.splitOn_ne_nil a l)
  refine ⟨r, rs, hr, ?_⟩
  rw [List.splitOn_cons_eq_if_modifyHead, if_neg (by simpa using hx), hr, List.modifyHead_cons]

theorem splitOn_cons_self [BEq α] [LawfulBEq α] (a : α) (l : List α) :
    (a :: l).splitOn a = [] :: l.splitOn a := by
  rw [List.splitOn_cons_eq_if_modifyHead, if_pos (by simp)]

/-- No part of a split holds the separator. -/
theorem not_mem_of_mem_splitOn {a : Char} : ∀ {l p : List Char}, p ∈ l.splitOn a → a ∉ p
  | [], p, h => by
    rw [List.splitOn_nil, List.mem_singleton] at h
    simp [h]
  | x :: l, p, h => by
    by_cases hx : x = a
    · rw [hx, splitOn_cons_self] at h
      rcases List.mem_cons.1 h with rfl | h
      · simp
      · exact not_mem_of_mem_splitOn h
    · obtain ⟨r, rs, hr, hxr⟩ := splitOn_cons_of_ne hx l
      rw [hxr] at h
      rcases List.mem_cons.1 h with rfl | h
      · rintro (_ | ⟨_, ha⟩)
        · exact hx rfl
        · exact not_mem_of_mem_splitOn (hr ▸ List.mem_cons_self) ha
      · exact not_mem_of_mem_splitOn (hr ▸ List.mem_cons_of_mem _ h)

/-- The first part of a split starts the list. -/
theorem prefix_of_head?_splitOn {a : Char} : ∀ {l p : List Char}, (l.splitOn a).head? = some p →
    p.IsPrefix l
  | [], p, h => by
    rw [List.splitOn_nil] at h
    cases h
    exact List.nil_prefix
  | x :: l, p, h => by
    by_cases hx : x = a
    · rw [hx, splitOn_cons_self] at h
      cases h
      exact List.nil_prefix
    · obtain ⟨r, rs, hr, hxr⟩ := splitOn_cons_of_ne hx l
      rw [hxr] at h
      cases h
      exact (List.prefix_cons_inj x).2 (prefix_of_head?_splitOn (by rw [hr]; rfl))

/-- Text after the last separator joins the last part. -/
theorem splitOn_append_of_not_mem {a : Char} {m : List Char} (hm : a ∉ m) :
    ∀ l : List Char, ∃ init last, l.splitOn a = init ++ [last] ∧
      (l ++ m).splitOn a = init ++ [last ++ m]
  | [] => ⟨[], [], by simp, by simp [List.splitOn_eq_singleton hm]⟩
  | x :: l => by
    obtain ⟨init, last, hl, hlm⟩ := splitOn_append_of_not_mem hm l
    rw [List.cons_append, List.splitOn_cons_eq_if_modifyHead,
      List.splitOn_cons_eq_if_modifyHead, hl, hlm]
    split
    · exact ⟨[] :: init, last, rfl, rfl⟩
    · cases init with
      | nil => exact ⟨[], x :: last, rfl, rfl⟩
      | cons i init => exact ⟨(x :: i) :: init, last, rfl, rfl⟩

end Parts

/-! ### The path a name field records -/

/-- The parts of a path a reader keeps: the non-empty ones other than `.`. -/
def keptParts (path : String) : List (List Char) :=
  (path.toList.splitOn '/').filter fun p => p != [] && p != ['.']

/-- The path a name field records: the kept parts joined by single separators. -/
def recordedPath (path : String) : String :=
  String.ofList (['/'].intercalate (keptParts path))

/-- A text built from characters is a given text exactly when the characters are its characters;
the three cases below are the parts a path's components single out. -/
theorem ofList_eq_iff {p : List Char} {s : String} : String.ofList p = s ↔ p = s.toList := by
  rw [← String.toList_inj, String.toList_ofList]

theorem ofList_eq_empty_iff {p : List Char} : String.ofList p = "" ↔ p = [] := ofList_eq_iff

theorem ofList_eq_dot_iff {p : List Char} : String.ofList p = "." ↔ p = ['.'] := ofList_eq_iff

theorem ofList_eq_dotdot_iff {p : List Char} : String.ofList p = ".." ↔ p = ['.', '.'] :=
  ofList_eq_iff

/-- The components of a path that does not start with a separator, has no `..` part and does not
start with a `.` part: one normal component per kept part. -/
theorem components_eq_keptParts {path : String} (hroot : path.toList.head? ≠ some '/')
    (hfirst : (path.toList.splitOn '/').head? ≠ some ['.'])
    (hparent : ∀ p ∈ path.toList.splitOn '/', p ≠ ['.', '.']) :
    Text.components path = (keptParts path).map fun p => .normal (String.ofList p) := by
  have hrooted : (path.toList.head? == some '/') = false := by simpa using hroot
  have hcur : ¬((path.toList.splitOn '/').map String.ofList).head? = some "." := by
    rw [List.head?_map]
    cases hh : (path.toList.splitOn '/').head? with
    | none => simp
    | some p =>
      simp only [Option.map_some, Option.some.injEq, ofList_eq_dot_iff]
      rintro rfl
      exact hfirst hh
  -- a part is kept as a text exactly when it is kept as characters
  have hkeep : ((fun p => p != "" && p != ".") ∘ String.ofList) =
      fun p : List Char => p != [] && p != ['.'] := by
    funext p
    rw [Function.comp_apply, Bool.eq_iff_iff]
    simp only [Bool.and_eq_true, bne_iff_ne, ne_eq, ofList_eq_empty_iff, ofList_eq_dot_iff]
  simp only [Text.components, hrooted, hcur, Bool.false_or, decide_false, Bool.false_eq_true,
    if_false, List.nil_append, keptParts, List.filter_map, List.map_map, hkeep]
  refine List.map_congr_left fun p hp => ?_
  have hne : (String.ofList p == "..") = false := by
    simpa [ofList_eq_dotdot_iff] using hparent p (List.mem_filter.1 hp).1
  simp only [Function.comp_apply, hne]
  rfl

/-- Encoding a joined list piece by piece: the pieces' encodings joined by the separator's. -/
theorem flatMap_intercalate {α β : Type} (f : α → List β) (c : α) :
    ∀ L : List (List α), ([c].intercalate L).flatMap f = (f c).intercalate (L.map (·.flatMap f))
  | [] => rfl
  | [p] => by simp
  | p :: q :: L => by
    rw [List.intercalate_cons_cons, List.map_cons, List.map_cons, List.intercalate_cons_cons,
      List.flatMap_append, List.flatMap_append, ← List.map_cons, ← flatMap_intercalate f c (q :: L)]
    simp

/-- The bytes of the kept parts joined by separators are the bytes of the recorded path. -/
theorem joinedBytes_keptParts (path : String) :
    joinedBytes ((keptParts path).map String.ofList) = (recordedPath path).toUTF8.toList := by
  have hpart : (fun p : String => p.toUTF8.toList) ∘ String.ofList =
      fun p => p.flatMap String.utf8EncodeChar := by
    funext p
    rw [Function.comp_apply, toList_toUTF8, String.toList_ofList]
  rw [recordedPath, toList_toUTF8, String.toList_ofList, joinedBytes, List.map_map, hpart,
    flatMap_intercalate]
  rfl

/-- The recorded path keeps some of the path's characters, in order. -/
theorem recordedPath_sublist (path : String) : (recordedPath path).toList.Sublist path.toList := by
  have hsub := intercalate_filter_sublist ['/'] (fun p => p != [] && p != ['.'])
    (path.toList.splitOn '/')
  rw [List.intercalate_splitOn] at hsub
  rw [recordedPath, String.toList_ofList]
  exact hsub

/-- The recorded path is no longer than the path. -/
theorem length_recordedPath_le (path : String) :
    (recordedPath path).toUTF8.toList.length ≤ path.toUTF8.toList.length := by
  rw [toList_toUTF8, toList_toUTF8]
  exact ((recordedPath_sublist path).flatMap _).length_le

theorem endsWith_slash_iff (s : String) : s.endsWith "/" = true ↔ ∃ t, s.toList = t ++ ['/'] := by
  rw [String.endsWith_eq_endsWith_toSlice, String.Slice.endsWith_string_iff, String.copy_toSlice]
  exact List.singleton_suffix_iff_getLast?_eq_some.trans List.getLast?_eq_some_iff

/-- A path ending in a separator records at least one byte less: that separator is not kept. -/
theorem length_recordedPath_lt_of_endsWith {path : String} (h : path.endsWith "/" = true) :
    (recordedPath path).toUTF8.toList.length < path.toUTF8.toList.length := by
  obtain ⟨t, ht⟩ := (endsWith_slash_iff path).1 h
  have hkept : keptParts path = (t.splitOn '/').filter fun p => p != [] && p != ['.'] := by
    rw [keptParts, ht, List.splitOn_append_cons_self, List.splitOn_nil, List.filter_append]
    simp
  have hsub := intercalate_filter_sublist ['/'] (fun p => p != [] && p != ['.']) (t.splitOn '/')
  rw [List.intercalate_splitOn] at hsub
  have hle := (hsub.flatMap String.utf8EncodeChar).length_le
  rw [toList_toUTF8, toList_toUTF8, recordedPath, String.toList_ofList, hkept, ht,
    List.flatMap_append, List.length_append]
  have hslash : (['/'].flatMap String.utf8EncodeChar).length = 1 := rfl
  omega

/-! ### The parts of a metric's path -/

/-- The parts of a metric's path: dot-free ones, then the last, which ends in the suffix. -/
theorem splitOn_metricToPath (m : String) :
    ∃ init last, (metricToPath m).toList.splitOn '/' = init ++ [last ++ suffix.toList] ∧
      ∀ p ∈ init, '.' ∉ p := by
  obtain ⟨stem, hp, hdot, -⟩ := metricToPath_eq_append m
  obtain ⟨init, last, hstem, hsplit⟩ :=
    splitOn_append_of_not_mem (a := '/') (m := suffix.toList) (by rw [toList_suffix]; decide) stem
  refine ⟨init, last, by rw [hp]; exact hsplit, fun p hmem hd => hdot ?_⟩
  -- a part before the last is a part of the stem
  have hin : p ∈ stem.splitOn '/' := hstem ▸ List.mem_append_left _ hmem
  exact (sublist_of_mem_splitOn hin).subset hd

theorem ne_dot_of_parts_metricToPath {m : String} {p : List Char}
    (h : p ∈ (metricToPath m).toList.splitOn '/') : p ≠ ['.'] ∧ p ≠ ['.', '.'] := by
  obtain ⟨init, last, hsplit, hinit⟩ := splitOn_metricToPath m
  rw [hsplit] at h
  rcases List.mem_append.1 h with h | h
  · exact ⟨fun he => hinit p h (by simp [he]), fun he => hinit p h (by simp [he])⟩
  · rw [List.mem_singleton] at h
    subst h
    constructor <;> intro he <;> simpa [toList_suffix] using congrArg List.length he

theorem head?_metricToPath (m : String) : (metricToPath m).toList.head? ≠ some '/' :=
  (metricToPath_eq_append m).choose_spec.2.2

theorem not_mem_nul_metricToPath {m : String} (h : '\x00' ∉ m.toList) :
    '\x00' ∉ (metricToPath m).toList := by
  rw [toList_metricToPath]
  intro hmem
  rcases List.mem_append.1 hmem with hmem | hmem
  · obtain ⟨c, hc, hce⟩ := List.mem_map.1 ((List.dropWhile_suffix _).subset hmem)
    by_cases hcd : c = '.'
    · rw [if_pos hcd] at hce
      exact absurd hce (by decide)
    · rw [if_neg hcd] at hce
      exact h (hce ▸ hc)
  · exact absurd hmem (by decide)

theorem endsWith_metricToPath (m : String) : (metricToPath m).endsWith "/" = false := by
  obtain ⟨stem, hp, -, -⟩ := metricToPath_eq_append m
  rw [Bool.eq_false_iff]
  intro h
  obtain ⟨t, ht⟩ := (endsWith_slash_iff _).1 h
  have hlast := congrArg List.getLast? (hp.symm.trans ht)
  simp [toList_suffix] at hlast

/-! ### Kept parts as components -/

theorem mem_keptParts {path : String} {q : List Char} (h : q ∈ keptParts path) :
    q ≠ [] ∧ '/' ∉ q ∧ q.Sublist path.toList := by
  obtain ⟨hq, hkeep⟩ := List.mem_filter.1 h
  simp only [Bool.and_eq_true, bne_iff_ne] at hkeep
  exact ⟨hkeep.1, not_mem_of_mem_splitOn hq, sublist_of_mem_splitOn hq⟩

/-- A relative path without NUL, `..` parts or a leading `.` part, with a kept part, is written
part by part. -/
theorem normalParts_of_relative {path : String} (hroot : path.toList.head? ≠ some '/')
    (hfirst : (path.toList.splitOn '/').head? ≠ some ['.'])
    (hparent : ∀ p ∈ path.toList.splitOn '/', p ≠ ['.', '.'])
    (hnul : '\x00' ∉ path.toList) (hne : keptParts path ≠ []) :
    NormalParts path ((keptParts path).map String.ofList) where
  components := by
    rw [components_eq_keptParts hroot hfirst hparent, List.map_map]
    rfl
  ne_nil := by simpa using hne
  part := by
    intro p hp
    obtain ⟨q, hq, rfl⟩ := List.mem_map.1 hp
    obtain ⟨hne, hslash, hsub⟩ := mem_keptParts hq
    rw [String.toList_ofList]
    exact ⟨hne, hslash, fun h => hnul (hsub.subset h)⟩

/-- A metric's path is written part by part. -/
theorem normalParts_metricToPath {m : String} (hnul : '\x00' ∉ m.toList) :
    NormalParts (metricToPath m) ((keptParts (metricToPath m)).map String.ofList) := by
  refine normalParts_of_relative (head?_metricToPath m) (fun h => ?_)
    (fun p hp => (ne_dot_of_parts_metricToPath hp).2) (not_mem_nul_metricToPath hnul) ?_
  · exact (ne_dot_of_parts_metricToPath (List.mem_of_mem_head? h)).1 rfl
  · -- the last part, which ends in the suffix, is kept
    obtain ⟨init, last, hsplit, -⟩ := splitOn_metricToPath m
    have hkept : last ++ suffix.toList ∈ keptParts (metricToPath m) := by
      refine List.mem_filter.2 ⟨hsplit ▸ List.mem_append_right _ (List.mem_singleton_self _), ?_⟩
      simp only [Bool.and_eq_true, bne_iff_ne, ne_eq, toList_suffix]
      constructor <;> intro he <;> simpa using congrArg List.length he
    exact List.ne_nil_of_mem hkept

/-! ### Writing a metric's path -/

variable {h : Header} {m : String}

/-- A metric's path whose recorded form fits is written as that form. -/
theorem setPath_metricToPath_of_fits (hnul : '\x00' ∉ m.toList)
    (hfit : (recordedPath (metricToPath m)).toUTF8.toList.length ≤ h.name.length) :
    h.setPath (metricToPath m) =
      .ok { h with name := fill h.name (recordedPath (metricToPath m)).toUTF8.toList } := by
  have hp := normalParts_metricToPath hnul
  rw [← joinedBytes_keptParts] at hfit ⊢
  simp only [Header.setPath, writeName_of_fits hp hfit, endsWith_metricToPath, Bool.false_eq_true,
    if_false]
  rfl

/-- A metric's path whose recorded form does not fit stops with a field of the same width. -/
theorem setPath_metricToPath_of_too_long (hnul : '\x00' ∉ m.toList)
    (hlong : h.name.length < (recordedPath (metricToPath m)).toUTF8.toList.length) :
    ∃ e, h.setPath (metricToPath m) = .error e ∧ e.field.length = h.name.length := by
  rw [← joinedBytes_keptParts] at hlong
  obtain ⟨e, he, -, hfield⟩ := writeName_of_too_long (normalParts_metricToPath hnul) hlong
  refine ⟨e, ?_, hfield⟩
  simp only [Header.setPath, he]
  rfl

/-! ### The cut path -/

theorem isPrefix_utf8Prefix_go : ∀ (l : List Char) (n : Nat), (utf8Prefix.go l n).IsPrefix l
  | [], _ => List.nil_prefix
  | c :: cs, n => by
    rw [utf8Prefix.go]
    split
    · exact (List.prefix_cons_inj c).2 (isPrefix_utf8Prefix_go cs _)
    · exact List.nil_prefix

/-- The cut takes at most the budget of bytes. -/
theorem length_flatMap_utf8Prefix_go : ∀ (l : List Char) (n : Nat),
    ((utf8Prefix.go l n).flatMap String.utf8EncodeChar).length ≤ n
  | [], _ => by simp [utf8Prefix.go]
  | c :: cs, n => by
    rw [utf8Prefix.go]
    split
    · have ih := length_flatMap_utf8Prefix_go cs (n - c.utf8Size)
      rw [List.flatMap_cons, List.length_append, String.length_utf8EncodeChar]
      omega
    · simp

/-- A budget of four bytes takes the first character. -/
theorem utf8Prefix_go_cons (c : Char) (cs : List Char) {n : Nat} (hn : 4 ≤ n) :
    ∃ t, utf8Prefix.go (c :: cs) n = c :: t := by
  rw [utf8Prefix.go, if_pos (Nat.le_trans (Char.utf8Size_le_four c) hn)]
  exact ⟨_, rfl⟩

theorem toList_utf8Prefix (s : String) (n : Nat) :
    (utf8Prefix s n).toList = utf8Prefix.go s.toList n := by
  simp [utf8Prefix]

/-- The one dot of a metric's path is the suffix's. -/
theorem count_dot_metricToPath (m : String) : (metricToPath m).toList.count '.' = 1 := by
  obtain ⟨stem, hp, hdot, -⟩ := metricToPath_eq_append m
  rw [hp, List.count_append, List.count_eq_zero.2 hdot, toList_suffix]
  decide

/-- A metric's path starting with a dot is the suffix alone. -/
theorem metricToPath_eq_suffix_of_head? (h : (metricToPath m).toList.head? = some '.') :
    (metricToPath m).toList = suffix.toList := by
  obtain ⟨stem, hp, hdot, -⟩ := metricToPath_eq_append m
  rw [hp] at h ⊢
  cases stem with
  | nil => rfl
  | cons c stem =>
    simp only [List.cons_append, List.head?_cons, Option.some.injEq] at h
    exact absurd (h ▸ List.mem_cons_self) hdot

/-- The cut of a metric's path whose recorded form does not fit is written part by part. -/
theorem normalParts_utf8Prefix (hnul : '\x00' ∉ m.toList)
    (hlong : 100 < (recordedPath (metricToPath m)).toUTF8.toList.length) :
    NormalParts (utf8Prefix (metricToPath m) 100)
      ((keptParts (utf8Prefix (metricToPath m) 100)).map String.ofList) := by
  set P := metricToPath m with hP
  have hprefix : (utf8Prefix P 100).toList.IsPrefix P.toList := by
    rw [toList_utf8Prefix]
    exact isPrefix_utf8Prefix_go _ _
  -- the cut starts with the path's first character
  obtain ⟨c, cs, hcs⟩ : ∃ c cs, P.toList = c :: cs := by
    obtain ⟨stem, hp, -, -⟩ := metricToPath_eq_append m
    cases hstem : stem ++ suffix.toList with
    | nil => simp [toList_suffix] at hstem
    | cons c cs => exact ⟨c, cs, hp.trans hstem⟩
  obtain ⟨t, ht⟩ := utf8Prefix_go_cons c cs (n := 100) (by decide)
  rw [hcs] at hprefix
  have hcut : (utf8Prefix P 100).toList = c :: t := by rw [toList_utf8Prefix, hcs, ht]
  have hc : c ≠ '/' := fun h => head?_metricToPath m (by rw [← hP, hcs, h]; rfl)
  -- the first part is not `.`: else the path would be the suffix alone, which fits
  have hfirst : ((utf8Prefix P 100).toList.splitOn '/').head? ≠ some ['.'] := by
    intro h
    have hdot := List.singleton_prefix_iff_head?_eq_some.1 (prefix_of_head?_splitOn h)
    rw [hcut] at hdot
    have hsuf := metricToPath_eq_suffix_of_head? (m := m) (by rw [← hP, hcs]; exact hdot)
    have hle := length_recordedPath_le P
    have hfour : (suffix.toList.flatMap String.utf8EncodeChar).length = 4 := by
      rw [toList_suffix]
      rfl
    rw [toList_toUTF8 P, hsuf, hfour] at hle
    omega
  refine normalParts_of_relative (by rw [hcut]; simpa using hc) hfirst (fun p hp he => ?_) ?_ ?_
  · -- a part `..` would hold two of the path's one dot
    have hcount := ((sublist_of_mem_splitOn hp).trans hprefix.sublist).count_le '.'
    rw [he, ← hcs, count_dot_metricToPath] at hcount
    simp at hcount
  · exact fun h => not_mem_nul_metricToPath hnul (hcs ▸ hprefix.subset h)
  · -- the first part is kept
    obtain ⟨r, rs, -, hcr⟩ := splitOn_cons_of_ne hc t
    rw [hcut, hcr] at hfirst
    have hmem : c :: r ∈ keptParts (utf8Prefix P 100) := by
      refine List.mem_filter.2 ⟨?_, ?_⟩
      · rw [hcut, hcr]
        exact List.mem_cons_self
      · simpa using hfirst
    exact List.ne_nil_of_mem hmem

/-- Writing the cut path into a field of 100 bytes succeeds and leaves a field of 100 bytes. -/
theorem setPath_utf8Prefix (hnul : '\x00' ∉ m.toList)
    (hlong : 100 < (recordedPath (metricToPath m)).toUTF8.toList.length) {slot : Bytes}
    (hslot : slot.length = 100) :
    ∃ name, { h with name := slot }.setPath (utf8Prefix (metricToPath m) 100) =
      .ok { h with name := name } ∧ name.length = 100 := by
  set T := utf8Prefix (metricToPath m) 100
  have hp : NormalParts T ((keptParts T).map String.ofList) := normalParts_utf8Prefix hnul hlong
  -- the cut is at most 100 bytes, and its recorded form no longer
  have hcut : T.toUTF8.toList.length ≤ 100 := by
    rw [toList_toUTF8, toList_utf8Prefix]
    exact length_flatMap_utf8Prefix_go _ _
  have hfit : (joinedBytes ((keptParts T).map String.ofList)).length ≤ slot.length := by
    rw [joinedBytes_keptParts, hslot]
    exact (length_recordedPath_le T).trans hcut
  simp only [Header.setPath, writeName_of_fits hp hfit]
  split
  · rename_i hend
    have hlt := length_recordedPath_lt_of_endsWith hend
    rw [← joinedBytes_keptParts] at hlt
    rw [if_pos (by omega)]
    refine ⟨_, rfl, (length_fill ?_).trans hslot⟩
    rw [List.length_append, List.length_singleton]
    omega
  · exact ⟨_, rfl, (length_fill hfit).trans hslot⟩

end MetricRing.Archive
