import Mathlib
import MetricRing.Archive.Header
/-!
# Writing a path into a name field

`writeName` writes a path into the 100-byte name field of a header one component at a time,
each after a single `/`. While everything fits, the field after the components `J` is
`fill slot J`: `J`, then a NUL if there is room, then what the field held before. A component
that does not fit stops the write with `tooLong` and leaves a field of the same width.

The bytes are the UTF-8 encoding of the components: no encoded character other than NUL holds
a zero byte, and no character other than `/` holds the byte of `/`, since every byte of a
multi-byte encoding has its top bit set.

## Main statements

* `Archive.toList_toUTF8` : the bytes of a text are its characters' encodings;
* `Archive.foldlM_push_of_fits`, `Archive.foldlM_push_of_too_long` : the component loop;
* `Archive.writeName_of_fits`, `Archive.writeName_of_too_long` : **what writing a path of
  normal components gives**, by the length of its components joined with single `/`.
-/

namespace MetricRing.Archive

/-! ### UTF-8 bytes -/

theorem toList_loop_eq (bs : ByteArray) (i : Nat) (r : List UInt8) :
    ByteArray.toList.loop bs i r = r.reverse ++ bs.data.toList.drop i := by
  fun_induction ByteArray.toList.loop bs i r with
  | case1 i r hi ih =>
    rw [ih, List.reverse_cons, List.append_assoc, List.singleton_append]
    congr 1
    have hlt : i < bs.data.toList.length := by simpa using hi
    rw [List.drop_eq_getElem_cons hlt]
    simp [ByteArray.get!, hi]
  | case2 i r hi =>
    rw [List.drop_eq_nil_of_le (by simp; omega), List.append_nil]

theorem ByteArray.toList_eq_data (bs : ByteArray) : bs.toList = bs.data.toList := by
  rw [ByteArray.toList, toList_loop_eq]
  simp

theorem toList_toUTF8 (s : String) :
    s.toUTF8.toList = s.toList.flatMap String.utf8EncodeChar := by
  rw [ByteArray.toList_eq_data, String.toUTF8_eq_toByteArray, ← String.ofList_toList (s := s),
    String.toByteArray_ofList, String.toList_ofList]
  simp [List.utf8Encode]

/-- An ASCII byte occurs in the encoding of only its own character. -/
theorem toNat_eq_of_mem_utf8EncodeChar {c : Char} {b : UInt8} (hb : b.toNat < 128)
    (h : b ∈ String.utf8EncodeChar c) : c.toNat = b.toNat := by
  unfold String.utf8EncodeChar at h
  dsimp only at h
  -- the one-byte case is the character; the bytes of the others all have their top bit set
  split_ifs at h <;> simp_all [UInt8.ext_iff] <;> omega

theorem not_mem_flatMap_utf8EncodeChar {l : List Char} {c : Char} (hc : c.toNat < 128)
    (h : c ∉ l) : c.toNat.toUInt8 ∉ l.flatMap String.utf8EncodeChar := by
  intro hmem
  obtain ⟨d, hd, hb⟩ := List.mem_flatMap.1 hmem
  have hbyte : c.toNat.toUInt8.toNat = c.toNat := by simp [Nat.toUInt8]; omega
  have hdc := toNat_eq_of_mem_utf8EncodeChar (by rw [hbyte]; exact hc) hb
  rw [hbyte] at hdc
  exact h (Char.ext (UInt32.toNat_inj.1 hdc) ▸ hd)

/-! ### Components joined by separators -/

/-- A list joined by a separator: its first element, then each other one after the separator. -/
theorem intercalate_cons_eq_append_flatMap {α : Type} (sep a : List α) (rest : List (List α)) :
    sep.intercalate (a :: rest) = a ++ rest.flatMap (sep ++ ·) := by
  induction rest generalizing a with
  | nil => simp
  | cons b rest ih =>
    rw [List.intercalate_cons_cons, ih b, List.flatMap_cons]
    simp

/-! ### The name field after some components -/

/-- The name field after `J` was written into `slot`: `J`, a NUL if there is room, and the rest
of what the field held. -/
def fill (slot J : Bytes) : Bytes := J ++ (slot.drop J.length).modifyHead fun _ => 0

variable {S J : Bytes}

theorem take_fill (S J : Bytes) : (fill S J).take J.length = J := List.take_left

theorem length_fill (hJ : J.length ≤ S.length) : (fill S J).length = S.length := by
  rw [fill, List.length_append, List.length_modifyHead, List.length_drop]
  omega

theorem drop_fill (S J : Bytes) : (fill S J).drop (J.length + 1) = S.drop (J.length + 1) := by
  rw [fill, ← List.drop_drop, List.drop_left, List.drop_one, List.tail_modifyHead, ← List.drop_one,
    List.drop_drop]

/-- A reader stops at the NUL after the components. -/
theorem takeWhile_fill (S : Bytes) {J : Bytes} (hJ : 0 ∉ J) : (fill S J).takeWhile (· != 0) = J := by
  have hall : ∀ x ∈ J, (x != 0) = true := fun x hx => bne_iff_ne.2 fun h => hJ (h ▸ hx)
  rw [fill, List.takeWhile_append_of_pos hall]
  cases S.drop J.length <;> simp

/-- Writing `b` after `J` into a field that holds `J` and, past the byte after it, what `S`
held. -/
theorem place_of_prefix {X b : Bytes} (htake : X.take J.length = J)
    (hlen : X.length = S.length) (hdrop : X.drop (J.length + 1) = S.drop (J.length + 1))
    (hb : b ≠ []) :
    place X J.length b =
      if S.length - J.length < b.length then .error .tooLong
      else if b.contains 0 then .error .nulByte else .ok (fill S (J ++ b)) := by
  have hrest : X.drop (J.length + b.length) = S.drop (J ++ b).length := by
    obtain ⟨c, b', rfl⟩ := List.exists_cons_of_ne_nil hb
    rw [List.length_append, List.length_cons,
      show J.length + (b'.length + 1) = (J.length + 1) + b'.length by omega, ← List.drop_drop,
      hdrop, List.drop_drop]
  simp only [place, hlen, fill, htake, hrest, List.append_assoc]
  -- the byte after the written ones becomes a NUL, if there is one
  cases S.drop (J ++ b).length <;> rfl

/-! ### Pushing components -/

@[simp] theorem ok_bind {ε α β : Type} (a : α) (f : α → Except ε β) :
    (Except.ok a >>= f) = f a := rfl

/-- The first component goes to the start of the field. -/
theorem push_first (S b : Bytes) (hb : b ≠ []) (hslash : b ≠ [byteOf '/']) :
    NameWrite.push { slot := S } b =
      if S.length < b.length then .error ⟨.tooLong, S⟩
      else if b.contains 0 then .error ⟨.nulByte, S⟩
      else .ok { slot := fill S b, offset := b.length, needsSlash := true, emitted := true } := by
  have h := place_of_prefix (S := S) (X := S) (J := []) rfl rfl rfl hb
  simp only [List.length_nil, Nat.sub_zero, List.nil_append] at h
  simp only [NameWrite.push, Bool.false_eq_true, if_false, pure_bind, h]
  split_ifs
  · rfl
  · rfl
  · rw [bne_iff_ne.2 hslash]
    simp only [Nat.zero_add, Bool.false_or]
    rfl

/-- Every later component goes after a separator. -/
theorem push_next (S J b : Bytes) (hJ : J.length ≤ S.length) (hb : b ≠ [])
    (hslash : b ≠ [byteOf '/']) :
    NameWrite.push { slot := fill S J, offset := J.length, needsSlash := true, emitted := true } b =
      if S.length - J.length < 1 then .error ⟨.tooLong, fill S J⟩
      else if S.length - (J.length + 1) < b.length then .error ⟨.tooLong, fill S (J ++ [byteOf '/'])⟩
      else if b.contains 0 then .error ⟨.nulByte, fill S (J ++ [byteOf '/'])⟩
      else .ok { slot := fill S (J ++ [byteOf '/'] ++ b), offset := J.length + 1 + b.length,
                 needsSlash := true, emitted := true } := by
  have hsep := place_of_prefix (take_fill S J) (length_fill hJ) (drop_fill S J)
    (List.cons_ne_nil (byteOf '/') [])
  have hnul : [byteOf '/'].contains 0 = false := by decide
  simp only [NameWrite.push, if_true, hsep, hnul, List.length_singleton, Bool.false_eq_true,
    if_false]
  by_cases h1 : S.length - J.length < 1
  · rw [if_pos h1, if_pos h1]
    rfl
  · rw [if_neg h1, if_neg h1]
    -- the separator fits: the component goes after it
    have hJ' : (J ++ [byteOf '/']).length ≤ S.length := by simp; omega
    have hpart := place_of_prefix (take_fill S _) (length_fill hJ') (drop_fill S _) hb
    simp only [List.length_append, List.length_singleton] at hpart
    simp only [pure_bind, hpart]
    split_ifs
    · rfl
    · rfl
    · rw [bne_iff_ne.2 hslash]
      rfl

/-- What a component must be for the loop: not empty, not a lone separator, and without NUL. -/
def Writable (b : Bytes) : Prop := b ≠ [] ∧ b ≠ [byteOf '/'] ∧ 0 ∉ b

theorem Writable.contains_zero {b : Bytes} (hb : Writable b) : b.contains 0 = false := by
  simpa using hb.2.2

/-- The components after the first, each after a separator, all fit: the loop ends with the
field filled with all of them. -/
theorem foldlM_push_of_fits (S : Bytes) :
    ∀ (bs : List Bytes) (J : Bytes), (∀ b ∈ bs, Writable b) →
      (J ++ bs.flatMap ([byteOf '/'] ++ ·)).length ≤ S.length →
      bs.foldlM NameWrite.push
          { slot := fill S J, offset := J.length, needsSlash := true, emitted := true } =
        .ok { slot := fill S (J ++ bs.flatMap ([byteOf '/'] ++ ·)),
              offset := (J ++ bs.flatMap ([byteOf '/'] ++ ·)).length,
              needsSlash := true, emitted := true }
  | [], J, _, _ => by simp; rfl
  | b :: bs, J, hw, hlen => by
    have hb := hw b List.mem_cons_self
    have hlen' : (J ++ [byteOf '/'] ++ b ++ bs.flatMap ([byteOf '/'] ++ ·)).length ≤ S.length := by
      simpa using hlen
    have hstep := push_next S J b (by simp at hlen'; omega) hb.1 hb.2.1
    rw [if_neg (by simp at hlen'; omega), if_neg (by simp at hlen'; omega)] at hstep
    simp only [hb.contains_zero, Bool.false_eq_true, if_false] at hstep
    have hoff : J.length + 1 + b.length = (J ++ [byteOf '/'] ++ b).length := by simp; omega
    rw [List.foldlM_cons, hstep, hoff, ok_bind,
      foldlM_push_of_fits S bs _ (fun x hx => hw x (List.mem_cons_of_mem b hx)) hlen']
    simp

/-- A component that does not fit stops the loop with `tooLong`, leaving a field of the same
width. -/
theorem foldlM_push_of_too_long (S : Bytes) :
    ∀ (bs : List Bytes) (J : Bytes), (∀ b ∈ bs, Writable b) → J.length ≤ S.length →
      S.length < (J ++ bs.flatMap ([byteOf '/'] ++ ·)).length →
      ∃ e, bs.foldlM NameWrite.push
          { slot := fill S J, offset := J.length, needsSlash := true, emitted := true } =
        .error e ∧ e.fault = .tooLong ∧ e.field.length = S.length
  | [], J, _, hJ, hlen => by simp at hlen; omega
  | b :: bs, J, hw, hJ, hlen => by
    have hb := hw b List.mem_cons_self
    have hstep := push_next S J b hJ hb.1 hb.2.1
    simp only [hb.contains_zero, Bool.false_eq_true, if_false] at hstep
    rw [List.foldlM_cons, hstep]
    by_cases h1 : S.length - J.length < 1
    · exact ⟨_, by rw [if_pos h1]; rfl, rfl, length_fill hJ⟩
    · by_cases h2 : S.length - (J.length + 1) < b.length
      · have hJ' : (J ++ [byteOf '/']).length ≤ S.length := by simp; omega
        exact ⟨_, by rw [if_neg h1, if_pos h2]; rfl, rfl, length_fill hJ'⟩
      · -- the component fits: the rest of the loop overflows
        rw [if_neg h1, if_neg h2, ok_bind,
          show J.length + 1 + b.length = (J ++ [byteOf '/'] ++ b).length by simp; omega]
        refine foldlM_push_of_too_long S bs _ (fun x hx => hw x (List.mem_cons_of_mem b hx))
          (by simp; omega) ?_
        simpa using hlen

/-! ### Writing a path -/

section WriteName

variable {slot : Bytes} {path : String}

/-- The components joined by single separators, as bytes. -/
def joinedBytes (parts : List String) : Bytes :=
  [byteOf '/'].intercalate (parts.map fun p => p.toUTF8.toList)

theorem writable_of_chars {p : String} (hne : p.toList ≠ []) (hslash : '/' ∉ p.toList)
    (hnul : '\x00' ∉ p.toList) : Writable p.toUTF8.toList := by
  rw [toList_toUTF8]
  refine ⟨fun h => ?_, fun h => ?_, not_mem_flatMap_utf8EncodeChar (c := '\x00') (by decide) hnul⟩
  · obtain ⟨c, hc⟩ := List.exists_mem_of_ne_nil _ hne
    exact String.utf8EncodeChar_ne_nil (List.flatMap_eq_nil_iff.1 h c hc)
  · exact not_mem_flatMap_utf8EncodeChar (c := '/') (by decide) hslash
      (h ▸ List.mem_singleton_self _)

/-- The path's components are all normal, and are texts a name field can hold piece by piece. -/
structure NormalParts (path : String) (parts : List String) : Prop where
  components : Text.components path = parts.map .normal
  ne_nil : parts ≠ []
  part : ∀ p ∈ parts, p.toList ≠ [] ∧ '/' ∉ p.toList ∧ '\x00' ∉ p.toList

theorem NormalParts.writable {parts : List String} (hp : NormalParts path parts) :
    ∀ p ∈ parts, Writable p.toUTF8.toList := fun p hp' =>
  writable_of_chars (hp.part p hp').1 (hp.part p hp').2.1 (hp.part p hp').2.2

theorem joinedBytes_cons (s : String) (rest : List String) :
    joinedBytes (s :: rest) =
      s.toUTF8.toList ++ (rest.map fun p => p.toUTF8.toList).flatMap ([byteOf '/'] ++ ·) := by
  rw [joinedBytes, List.map_cons, intercalate_cons_eq_append_flatMap]

/-- Writing a path whose components all fit: the field holds them joined by single separators,
and a trailing separator of the path after them when there is room for it. -/
theorem writeName_of_fits {parts : List String} (hp : NormalParts path parts)
    (hfit : (joinedBytes parts).length ≤ slot.length) :
    writeName slot path =
      if path.endsWith "/" then
        if (joinedBytes parts).length < slot.length then
          .ok (fill slot (joinedBytes parts ++ [byteOf '/']))
        else .error ⟨.tooLong, fill slot (joinedBytes parts)⟩
      else .ok (fill slot (joinedBytes parts)) := by
  obtain ⟨s, rest, rfl⟩ := List.exists_cons_of_ne_nil hp.ne_nil
  have hw := hp.writable
  have hs := hw s List.mem_cons_self
  rw [joinedBytes_cons] at hfit ⊢
  have hfirst : s.toUTF8.toList.length ≤ slot.length := by
    rw [List.length_append] at hfit
    omega
  have hloop := foldlM_push_of_fits slot (rest.map fun p => p.toUTF8.toList) s.toUTF8.toList
    (by simpa using fun p hp' => hw p (List.mem_cons_of_mem s hp')) hfit
  rw [List.foldlM_map] at hloop
  simp only [writeName, hp.components, List.foldlM_map, List.foldlM_cons, push_first _ _ hs.1 hs.2.1,
    if_neg (Nat.not_lt.2 hfirst), hs.contains_zero, Bool.false_eq_true, if_false, ok_bind, hloop,
    Bool.not_true]
  split
  · -- a trailing separator goes after the components when there is room
    have htrail := place_of_prefix (take_fill slot _) (length_fill hfit) (drop_fill slot _)
      (List.cons_ne_nil (byteOf '/') [])
    simp only [List.length_singleton, show [byteOf '/'].contains 0 = false by decide,
      Bool.false_eq_true, if_false] at htrail
    rw [htrail]
    split_ifs <;> first | omega | rfl
  · rfl

/-- Writing a path whose components do not fit stops with `tooLong`, leaving a field of the
same width. -/
theorem writeName_of_too_long {parts : List String} (hp : NormalParts path parts)
    (hlong : slot.length < (joinedBytes parts).length) :
    ∃ e, writeName slot path = .error e ∧ e.fault = .tooLong ∧ e.field.length = slot.length := by
  obtain ⟨s, rest, rfl⟩ := List.exists_cons_of_ne_nil hp.ne_nil
  have hw := hp.writable
  have hs := hw s List.mem_cons_self
  rw [joinedBytes_cons] at hlong
  simp only [writeName, hp.components, List.foldlM_map, List.foldlM_cons, push_first _ _ hs.1 hs.2.1,
    hs.contains_zero, Bool.false_eq_true, if_false]
  by_cases hfirst : slot.length < s.toUTF8.toList.length
  · -- the first component alone overflows the untouched field
    exact ⟨_, by rw [if_pos hfirst]; rfl, rfl, rfl⟩
  · rw [if_neg hfirst, ok_bind]
    obtain ⟨e, he, hfault, hfield⟩ := foldlM_push_of_too_long slot
      (rest.map fun p => p.toUTF8.toList) s.toUTF8.toList
      (by simpa using fun p hp' => hw p (List.mem_cons_of_mem s hp')) (by omega) hlong
    rw [List.foldlM_map] at he
    exact ⟨e, by rw [he]; rfl, hfault, hfield⟩

end WriteName

end MetricRing.Archive
