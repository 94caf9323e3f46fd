import Mathlib.Data.List.DropRight
import Mathlib.Data.List.TakeWhile
import MetricRing.Ring.Node
/-!
# Reading back a written member

`Node.parse` trims blanks around a text and splits it at its first colon; `Node.render` writes
`server` or `server:instance`, leaving the colon out when there is no instance. A text is read
as a member exactly when, trimmed, it is non-empty and does not begin with a colon.

Writing a member read from a text and reading it again gives the member back, with one
exception: a member without instance whose server ends in blanks. Such a member comes from a
text like `a :`, whose blank stands before a final colon; its written form `a ` is trimmed when
read again, so the second reading has the server `a`, another identity and other ring positions.

## Main statements

* `Text.head?_trimBlank`, `Text.getLast?_trimBlank` : a trimmed text starts and ends with
  characters that are not blank, and `Text.trimBlank_eq_self_iff` : trimming keeps a text that
  starts with such a character exactly when it ends with one;
* `Node.eq_splitColon` : a text is the part before its first colon, followed by that colon and
  the rest when there is one;
* `Node.Trimmed` : the parts of every member read from a text (`Node.Trimmed.of_parse`), and
  `Node.Trimmed.parse_render` : what reading such a member's written form gives;
* `Node.written_form_reads_back` : **what a member read from a text is, and when its written
  form reads back as itself**; `Node.written_form_loses_blank_before_colon` : the member read
  from `a :` does not.
-/

namespace MetricRing

namespace Text

/-! ### Trimming -/

/-- Trimming drops the blanks at the front, then those at the back. -/
theorem toList_trimBlank (s : String) :
    (trimBlank s).toList = (s.toList.dropWhile isBlank).rdropWhile isBlank := by
  rw [trimBlank_toList]
  rfl

theorem head?_trimBlank {s : String} {c : Char} (h : (trimBlank s).toList.head? = some c) :
    isBlank c = false := by
  rw [toList_trimBlank] at h
  -- the trimmed text is a prefix of the text with its leading blanks dropped
  obtain ⟨rest, hrest⟩ := List.rdropWhile_prefix isBlank (s.toList.dropWhile isBlank)
  have hhead : (s.toList.dropWhile isBlank).head? = some c := by
    rw [← hrest, List.head?_append, h]
    rfl
  simpa [hhead] using List.head?_dropWhile_not isBlank s.toList

theorem getLast?_trimBlank {s : String} {c : Char} (h : (trimBlank s).toList.getLast? = some c) :
    isBlank c = false := by
  rw [toList_trimBlank] at h
  have hne : (s.toList.dropWhile isBlank).rdropWhile isBlank ≠ [] := by
    rintro hnil
    simp [hnil] at h
  have hlast := List.rdropWhile_last_not isBlank _ hne
  rw [List.getLast?_eq_some_getLast hne, Option.some.injEq] at h
  simpa [h] using hlast

theorem mem_of_mem_trimBlank {s : String} {c : Char} (h : c ∈ (trimBlank s).toList) :
    c ∈ s.toList := by
  rw [toList_trimBlank] at h
  exact ((List.rdropWhile_prefix _ _).sublist.trans (List.dropWhile_sublist _)).subset h

/-- Trimming a text that starts with a character that is not blank keeps that character in
front. -/
theorem head?_trimBlank_of_head? {s : String} {c : Char} (h : s.toList.head? = some c)
    (hc : isBlank c = false) : (trimBlank s).toList.head? = some c := by
  have hfront : s.toList.dropWhile isBlank = s.toList := by
    obtain ⟨rest, hrest⟩ := List.head?_eq_some_iff.1 h
    rw [hrest, List.dropWhile_cons_of_neg (by simp [hc])]
  rw [toList_trimBlank, hfront]
  -- the back is trimmed to a prefix that keeps the first character, which is not blank
  have hne : s.toList.rdropWhile isBlank ≠ [] := by
    rw [ne_eq, List.rdropWhile_eq_nil_iff]
    intro hall
    simp [hall c (List.mem_of_head? h)] at hc
  obtain ⟨rest, hrest⟩ := List.rdropWhile_prefix isBlank s.toList
  obtain ⟨d, ds, hds⟩ := List.exists_cons_of_ne_nil hne
  rw [← hrest, hds] at h
  rw [hds]
  simpa using h

/-- A text that starts with a character that is not blank is its own trimming exactly when it
ends with such a character too. -/
theorem trimBlank_eq_self_iff {s : String}
    (hhead : ∀ c, s.toList.head? = some c → isBlank c = false) :
    trimBlank s = s ↔ ∀ c, s.toList.getLast? = some c → isBlank c = false := by
  constructor
  · intro h c hc
    exact getLast?_trimBlank (c := c) (h ▸ hc)
  · intro hlast
    rw [← String.toList_inj, toList_trimBlank, List.dropWhile_eq_self_iff.2, List.rdropWhile_eq_self_iff.2]
    · intro hne
      simp [hlast _ (List.getLast?_eq_some_getLast hne)]
    · intro hlen
      simp [hhead _ (by rw [List.head?_eq_getElem?, List.getElem?_eq_getElem hlen])]

end Text

namespace Node

open Text

/-! ### The first colon -/

theorem colon_not_mem_splitColon (cs : List Char) : ':' ∉ (splitColon cs).1 := by
  intro h
  simpa using List.mem_takeWhile_imp h

/-- A text is the part before its first colon, followed, when it has a colon, by that colon and
the part after it. -/
theorem eq_splitColon (cs : List Char) :
    cs = (splitColon cs).1 ∧ (splitColon cs).2 = [] ∨
      cs = (splitColon cs).1 ++ ':' :: (splitColon cs).2 := by
  have hsplit := (List.takeWhile_append_dropWhile (p := (· != ':')) (l := cs)).symm
  have hhead := List.head?_dropWhile_not (· != ':') cs
  simp only [splitColon]
  -- what follows the part before the first colon is empty or starts with that colon
  cases hd : cs.dropWhile (· != ':') with
  | nil => exact .inl ⟨by rwa [hd, List.append_nil] at hsplit, rfl⟩
  | cons c rest =>
    rw [hd] at hsplit hhead
    simp only [List.head?_cons, bne_eq_false_iff_eq] at hhead
    subst hhead
    exact .inr hsplit

theorem bne_colon_of_not_mem {cs : List Char} (h : ':' ∉ cs) : ∀ c ∈ cs, (c != ':') = true := by
  intro c hc
  rw [bne_iff_ne]
  rintro rfl
  exact h hc

theorem splitColon_of_colon_not_mem {cs : List Char} (h : ':' ∉ cs) : splitColon cs = (cs, []) := by
  have hall := bne_colon_of_not_mem h
  simp [splitColon, List.takeWhile_eq_self_iff.2 hall, List.dropWhile_eq_nil_iff.2 hall]

theorem splitColon_append_colon {cs : List Char} (h : ':' ∉ cs) (rest : List Char) :
    splitColon (cs ++ ':' :: rest) = (cs, rest) := by
  have hall := bne_colon_of_not_mem h
  simp [splitColon, List.takeWhile_append_of_pos hall, List.dropWhile_append_of_pos hall]

/-! ### Reading a text -/

/-- A text is read as a member exactly when the part before its first colon, once trimmed, is
not empty. -/
theorem exists_parse_eq_ok_iff_splitColon (s : String) :
    (∃ n, parse s = .ok n) ↔ (splitColon (trimBlank s).toList).1 ≠ [] := by
  dsimp only [parse]
  split
  · rename_i h
    simp only [reduceCtorEq, exists_false, false_iff, not_not]
    exact String.ofList_eq_empty_iff.1 h
  · rename_i h
    exact ⟨fun _ => mt String.ofList_eq_empty_iff.2 h, fun _ => ⟨_, rfl⟩⟩

theorem splitColon_ne_nil_iff (cs : List Char) :
    (splitColon cs).1 ≠ [] ↔ cs ≠ [] ∧ cs.head? ≠ some ':' := by
  cases cs with
  | nil => simp [splitColon]
  | cons c rest =>
    by_cases hc : c = ':'
    · simp [splitColon, hc]
    · simp [splitColon, hc]

/-- A text is read as a member exactly when, trimmed, it is not empty and does not begin with a
colon. -/
theorem exists_parse_eq_ok_iff (s : String) :
    (∃ n, parse s = .ok n) ↔ (trimBlank s).toList ≠ [] ∧ (trimBlank s).toList.head? ≠ some ':' := by
  rw [exists_parse_eq_ok_iff_splitColon, splitColon_ne_nil_iff]

/-- The member read from a text has the part of the trimmed text before its first colon as
server, and the part after that colon, if there is one, as instance. -/
theorem parse_eq_ok_split {s : String} {n : Node} (h : parse s = .ok n) :
    ':' ∉ n.server.toList ∧
      ((trimBlank s).toList = n.server.toList ∧ n.instanceName = "" ∨
        (trimBlank s).toList = n.server.toList ++ ':' :: n.instanceName.toList) := by
  obtain ⟨hserver, hinst⟩ := (parse_eq_ok_iff s n).1 h
  refine ⟨by simpa [hserver] using colon_not_mem_splitColon _, ?_⟩
  rcases eq_splitColon (trimBlank s).toList with ⟨hcs, hnil⟩ | hcs
  · exact .inl ⟨by simpa [hserver] using hcs, by simp [hinst, hnil]⟩
  · exact .inr (by simpa [hserver, hinst] using hcs)

/-! ### Members as reading leaves them -/

/-- The parts of a member read from a text: the server starts with a character that is not
blank and holds no colon, and the instance, when there is one, ends with a character that is
not blank. -/
structure Trimmed (n : Node) : Prop where
  head_server : ∀ c, n.server.toList.head? = some c → isBlank c = false
  colon_not_mem : ':' ∉ n.server.toList
  last_instance : ∀ c, n.instanceName.toList.getLast? = some c → isBlank c = false

theorem server_toList_ne_nil (n : Node) : n.server.toList ≠ [] :=
  mt String.toList_eq_nil_iff.1 n.server_ne

/-- A text that starts with a member's server starts as the server does. -/
theorem head?_server_append (n : Node) (rest : List Char) :
    (n.server.toList ++ rest).head? = n.server.toList.head? := by
  obtain ⟨d, ds, hd⟩ := List.exists_cons_of_ne_nil (server_toList_ne_nil n)
  rw [hd, List.cons_append, List.head?_cons, List.head?_cons]

/-- Every member read from a text has trimmed parts. -/
theorem Trimmed.of_parse {s : String} {n : Node} (h : parse s = .ok n) : n.Trimmed := by
  obtain ⟨hcolon, hsplit⟩ := parse_eq_ok_split h
  refine ⟨fun c hc => head?_trimBlank (s := s) ?_, hcolon, fun c hc => getLast?_trimBlank (s := s) ?_⟩
  · -- the server is a non-empty prefix of the trimmed text
    rcases hsplit with ⟨ht, -⟩ | ht
    · rw [ht, hc]
    · rw [ht, head?_server_append, hc]
  · -- an instance is a suffix of the trimmed text
    rcases hsplit with ⟨-, hi⟩ | ht
    · simp [hi] at hc
    · have hne : n.instanceName.toList ≠ [] := by
        rintro hnil
        simp [hnil] at hc
      rw [ht, List.append_cons, List.getLast?_append_of_ne_nil _ hne, hc]

theorem toList_render_of_instance {n : Node} (h : n.instanceName ≠ "") :
    n.render.toList = n.server.toList ++ ':' :: n.instanceName.toList := by
  simp [render, instance?, h]

/-- Reading a trimmed member's written form again gives its instance back, and its server
back unless it has no instance: then the server's trailing blanks are trimmed off. -/
theorem Trimmed.parse_render {n : Node} (hn : n.Trimmed) :
    ∃ m, parse n.render = .ok m ∧ m.instanceName = n.instanceName ∧
      m.server = if n.instanceName = "" then trimBlank n.server else n.server := by
  by_cases hi : n.instanceName = ""
  · -- the written form is the server alone, which reads as its trimming
    rw [render_of_instance_empty n hi, if_pos hi]
    obtain ⟨c, rest, hc⟩ := List.exists_cons_of_ne_nil (server_toList_ne_nil n)
    have hhead : (trimBlank n.server).toList.head? = some c :=
      head?_trimBlank_of_head? (by simp [hc]) (hn.head_server c (by simp [hc]))
    have hcolon : ':' ∉ (trimBlank n.server).toList :=
      fun h => hn.colon_not_mem (mem_of_mem_trimBlank h)
    have hsplit := splitColon_of_colon_not_mem hcolon
    obtain ⟨m, hm⟩ := (exists_parse_eq_ok_iff n.server).2
      ⟨fun h => by simp [h] at hhead, fun h => hcolon (List.mem_of_head? h)⟩
    obtain ⟨hms, hmi⟩ := (parse_eq_ok_iff _ m).1 hm
    exact ⟨m, hm, by simp [hmi, hsplit, hi], by simp [hms, hsplit]⟩
  · -- the written form is already trimmed, and its first colon follows the server
    rw [if_neg hi]
    have hne : n.instanceName.toList ≠ [] := mt String.toList_eq_nil_iff.1 hi
    have htrim : trimBlank n.render = n.render := by
      refine (trimBlank_eq_self_iff fun c hc => hn.head_server c ?_).2 fun c hc => hn.last_instance c ?_
      · rwa [toList_render_of_instance hi, head?_server_append] at hc
      · rwa [toList_render_of_instance hi, List.append_cons, List.getLast?_append_of_ne_nil _ hne] at hc
    have hsplit : splitColon (trimBlank n.render).toList = (n.server.toList, n.instanceName.toList) := by
      rw [htrim, toList_render_of_instance hi, splitColon_append_colon hn.colon_not_mem]
    refine ⟨n, (parse_eq_ok_iff _ n).2 ⟨by simp [hsplit], by simp [hsplit]⟩, rfl, rfl⟩

/-- **Writing a member read from a text and reading it again.** A text is read as a member
exactly when, trimmed, it is not empty and does not begin with a colon. The member's server is
the part of the trimmed text before its first colon, and its instance the part after that colon
(empty when there is none). Its written form is read again as a member with the same instance,
and with the same server except when there is no instance: the server's trailing blanks are then
dropped. So the member reads back as itself exactly when it has an instance or its server does
not end in a blank. -/
theorem written_form_reads_back (s : String) :
    ((∃ n, parse s = .ok n) ↔
        (trimBlank s).toList ≠ [] ∧ (trimBlank s).toList.head? ≠ some ':') ∧
      ∀ n, parse s = .ok n →
        ':' ∉ n.server.toList ∧
        ((trimBlank s).toList = n.server.toList ∧ n.instanceName = "" ∨
          (trimBlank s).toList = n.server.toList ++ ':' :: n.instanceName.toList) ∧
        ∃ m, parse n.render = .ok m ∧ m.instanceName = n.instanceName ∧
          m.server = (if n.instanceName = "" then trimBlank n.server else n.server) ∧
          (m = n ↔ n.instanceName ≠ "" ∨
            ∀ c, n.server.toList.getLast? = some c → isBlank c = false) := by
  refine ⟨exists_parse_eq_ok_iff s, fun n hn => ⟨(parse_eq_ok_split hn).1, (parse_eq_ok_split hn).2, ?_⟩⟩
  have htrimmed := Trimmed.of_parse hn
  obtain ⟨m, hm, hmi, hms⟩ := htrimmed.parse_render
  refine ⟨m, hm, hmi, hms, ?_⟩
  -- the two members share their instance, so they are equal exactly when their servers are
  have heq : m = n ↔ m.server = n.server := by
    obtain ⟨ms, mi, _⟩ := m
    obtain ⟨ns, ni, _⟩ := n
    simp only at hmi
    simp [hmi]
  rw [heq, hms]
  by_cases hi : n.instanceName = ""
  · simp only [hi, if_true, ne_eq, not_true_eq_false, false_or]
    exact trimBlank_eq_self_iff htrimmed.head_server
  · simp [hi]

/-- The member read from `a :` has the server `a ` and no instance; it is written `a `, which
reads as the member with server `a`: another server, identity and key value. -/
theorem written_form_loses_blank_before_colon :
    ∃ n, parse "a :" = .ok n ∧ ∃ m, parse n.render = .ok m ∧
      m.server ≠ n.server ∧ m.identity ≠ n.identity ∧ m.keyValue ≠ n.keyValue := by
  have hn : parse "a :" = .ok ⟨"a ", "", by decide⟩ := rfl
  have hm : parse (render ⟨"a ", "", by decide⟩) = .ok ⟨"a", "", by decide⟩ := rfl
  exact ⟨_, hn, _, hm, by decide, by decide, by decide⟩

end Node

end MetricRing
