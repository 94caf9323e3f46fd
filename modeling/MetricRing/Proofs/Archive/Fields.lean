import Mathlib
import MetricRing.Archive.Reader
import MetricRing.Archive.Header
/-!
# Header fields read back

A reader gets back what a header field holds: an octal field of width `w` the number modulo
`8 ^ (w - 1)` (the digits that do not fit are dropped), a base-256 field the number modulo
`2 ^ 64`, so a numeric field of twelve bytes every number below `2 ^ 64`. A header whose fields
have their widths is one block with each field at its offset, and it is never all zeros.

## Main statements

* `Archive.readNumeric_octal`, `Archive.readNumeric_numeric` : numeric fields read back;
* `Archive.Header.take_toBytes_name` and its neighbours : where a header's fields sit in its
  block, the offsets a reader takes them from.
-/

namespace MetricRing.Archive

/-! ### Digits -/

/-- The digits `Nat.toDigits 8` writes are `0` to `7`. -/
theorem exists_digitChar_of_mem_toDigits {n : Nat} {c : Char} (hc : c ∈ Nat.toDigits 8 n) :
    ∃ d < 8, c = Nat.digitChar d := by
  induction n using Nat.base_induction 8 (by decide) with
  | single m hm =>
    rw [Nat.toDigits_of_lt_base hm, List.mem_singleton] at hc
    exact ⟨m, hm, hc⟩
  | digit m k hk hm ih =>
    rw [← Nat.toDigits_append_toDigits (by decide) hm hk, List.mem_append,
      Nat.toDigits_of_lt_base hk, List.mem_singleton] at hc
    rcases hc with hc | hc
    · exact ih hc
    · exact ⟨k, hk, hc⟩

/-- What a reader needs of the byte of an octal digit: its top bit is clear, it is no blank, it
passes the octal test and it stands for the digit. -/
theorem octal_digit_byte : ∀ d < 8,
    byteOf d.digitChar &&& 0x80 = 0 ∧ (byteOf d.digitChar == byteOf ' ') = false ∧
      (byteOf '0' ≤ byteOf d.digitChar && byteOf d.digitChar ≤ byteOf '7') = true ∧
      (byteOf d.digitChar - byteOf '0').toNat = d ∧ d.digitChar.toNat - 48 = d := by
  decide

theorem ofDigitChars_eq_add (b : Nat) (l : List Char) (init : Nat) :
    Nat.ofDigitChars b l init = b ^ l.length * init + Nat.ofDigitChars b l 0 := by
  induction l generalizing init with
  | nil => simp
  | cons c l ih =>
    rw [Nat.ofDigitChars_cons, Nat.ofDigitChars_cons, ih, ih (_ + _)]
    simp only [List.length_cons, Nat.pow_succ]
    ring

theorem ofDigitChars_lt {b : Nat} {l : List Char} (hl : ∀ c ∈ l, c.toNat - 48 < b) :
    Nat.ofDigitChars b l 0 < b ^ l.length := by
  induction l with
  | nil => simp
  | cons c l ih =>
    have hc := hl c List.mem_cons_self
    have hrest := ih fun x hx => hl x (List.mem_cons_of_mem c hx)
    rw [Nat.ofDigitChars_cons, ofDigitChars_eq_add, List.length_cons, Nat.pow_succ]
    -- the leading digit times the weight of the rest, plus the rest, stays below the next weight
    calc b ^ l.length * (b * 0 + (c.toNat - '0'.toNat)) + Nat.ofDigitChars b l 0
        < b ^ l.length * (c.toNat - 48) + b ^ l.length := by simp; omega
      _ = b ^ l.length * (c.toNat - 48 + 1) := by ring
      _ ≤ b ^ l.length * b := Nat.mul_le_mul_left _ hc

/-- The digits after the first `j` stand for the number modulo the weight of what is left. -/
theorem ofDigitChars_drop {b : Nat} {l : List Char} (hl : ∀ c ∈ l, c.toNat - 48 < b) (j : Nat) :
    Nat.ofDigitChars b (l.drop j) 0 = Nat.ofDigitChars b l 0 % b ^ (l.length - j) := by
  have hsplit : Nat.ofDigitChars b l 0 =
      b ^ (l.drop j).length * Nat.ofDigitChars b (l.take j) 0 + Nat.ofDigitChars b (l.drop j) 0 := by
    conv_lhs => rw [← List.take_append_drop j l]
    rw [Nat.ofDigitChars_append, ofDigitChars_eq_add]
  have hlt : Nat.ofDigitChars b (l.drop j) 0 < b ^ (l.drop j).length :=
    ofDigitChars_lt fun c hc => hl c (List.mem_of_mem_drop hc)
  rw [hsplit, ← List.length_drop, Nat.mul_add_mod, Nat.mod_eq_of_lt hlt]

/-! ### Octal fields -/

/-- A field whose first byte has its top bit clear is read as octal digits. -/
theorem readNumeric_of_top_clear {b : UInt8} (hb : b &&& 0x80 = 0) (rest : Bytes) :
    readNumeric (b :: rest) =
      (((b :: rest).dropWhile (· == byteOf ' ')).takeWhile
        fun x => byteOf '0' ≤ x && x ≤ byteOf '7').foldl
          (fun acc x => acc * 8 + (x - byteOf '0').toNat) 0 := by
  simp only [readNumeric, hb, bne_self_eq_false, Bool.false_eq_true, if_false]

/-- Folding the bytes of octal digits is reading the digits. -/
theorem foldl_octal_bytes {l : List Char} (hl : ∀ c ∈ l, ∃ d < 8, c = Nat.digitChar d) (acc : Nat) :
    (l.map byteOf).foldl (fun acc x => acc * 8 + (x - byteOf '0').toNat) acc =
      Nat.ofDigitChars 8 l acc := by
  induction l generalizing acc with
  | nil => rfl
  | cons c l ih =>
    obtain ⟨d, hd, rfl⟩ := hl c List.mem_cons_self
    have hbyte := octal_digit_byte d hd
    rw [List.map_cons, List.foldl_cons, Nat.ofDigitChars_cons, hbyte.2.2.2.1,
      ih fun x hx => hl x (List.mem_cons_of_mem _ hx)]
    simp only [Char.reduceToNat, hbyte.2.2.2.2, Nat.mul_comm acc 8]

/-- Reading octal digit bytes followed by a NUL gives the number they stand for. -/
theorem readNumeric_digits {cs : List Char} (hcs : ∀ c ∈ cs, ∃ d < 8, c = Nat.digitChar d)
    (hne : cs ≠ []) (rest : Bytes) :
    readNumeric (cs.map byteOf ++ 0 :: rest) = Nat.ofDigitChars 8 cs 0 := by
  obtain ⟨c, cs', rfl⟩ := List.exists_cons_of_ne_nil hne
  obtain ⟨d, hd, rfl⟩ := hcs c List.mem_cons_self
  have hbyte := octal_digit_byte d hd
  -- no blank to skip; the digits pass the octal test and the NUL stops it
  have hdrop : ((Nat.digitChar d :: cs').map byteOf ++ 0 :: rest).dropWhile (· == byteOf ' ') =
      (Nat.digitChar d :: cs').map byteOf ++ 0 :: rest := by
    simp [hbyte.2.1]
  have htake : (((Nat.digitChar d :: cs').map byteOf ++ 0 :: rest).takeWhile
      fun x => byteOf '0' ≤ x && x ≤ byteOf '7') = (Nat.digitChar d :: cs').map byteOf := by
    rw [List.takeWhile_append_of_pos]
    · simp [byteOf]
    · intro x hx
      obtain ⟨c', hc', rfl⟩ := List.mem_map.1 hx
      obtain ⟨d', hd', rfl⟩ := hcs c' hc'
      exact (octal_digit_byte d' hd').2.2.1
  rw [List.map_cons, List.cons_append, readNumeric_of_top_clear hbyte.1, ← List.cons_append,
    ← List.map_cons, hdrop, htake, foldl_octal_bytes hcs]

/-- An octal field of width `w` reads back as the number modulo `8 ^ (w - 1)`. -/
theorem readNumeric_octal (w n : Nat) (hw : 2 ≤ w) : readNumeric (octal w n) = n % 8 ^ (w - 1) := by
  set ds := Nat.toDigits 8 n with hds
  have hdigits : ∀ c ∈ ds, ∃ d < 8, c = Nat.digitChar d := fun c hc =>
    exists_digitChar_of_mem_toDigits hc
  -- the field is `w - 1` digit characters, zeros in front of the last digits, and a NUL
  set cs := List.replicate (w - 1 - ds.length) '0' ++ ds.drop (ds.length - (w - 1)) with hcs
  have hfield : octal w n = cs.map byteOf ++ [0] := by
    simp [octal, octalDigits, hcs, hds, List.map_replicate, List.map_drop]
  have hcs_digits : ∀ c ∈ cs, ∃ d < 8, c = Nat.digitChar d := by
    intro c hc
    rcases List.mem_append.1 hc with hc | hc
    · exact ⟨0, by decide, (List.eq_of_mem_replicate hc).trans (by decide)⟩
    · exact hdigits c (List.mem_of_mem_drop hc)
  have hlen : cs.length = w - 1 := by
    simp only [hcs, List.length_append, List.length_replicate, List.length_drop]
    omega
  have hne : cs ≠ [] := by
    intro h
    rw [h, List.length_nil] at hlen
    omega
  have hsmall : ∀ c ∈ ds, c.toNat - 48 < 8 := by
    intro c hc
    obtain ⟨d, hd, rfl⟩ := hdigits c hc
    rw [(octal_digit_byte d hd).2.2.2.2]
    exact hd
  have hval : Nat.ofDigitChars 8 ds 0 = n := Nat.ofDigitChars_toDigits (by decide) (by decide)
  rw [hfield, readNumeric_digits hcs_digits hne, hcs, Nat.ofDigitChars_append,
    Nat.ofDigitChars_replicate_zero, Nat.mul_zero, ofDigitChars_drop hsmall, hval]
  by_cases hfit : ds.length ≤ w - 1
  · -- every digit fits: the number is below the field's weight
    have hlt : n < 8 ^ (w - 1) := (Nat.length_toDigits_le_iff (by decide) (by omega)).1 hfit
    rw [show ds.length - (ds.length - (w - 1)) = ds.length by omega, Nat.mod_eq_of_lt hlt,
      Nat.mod_eq_of_lt ((Nat.length_toDigits_le_iff (by decide) (List.length_pos_iff.2
        Nat.toDigits_ne_nil)).1 le_rfl)]
  · rw [show ds.length - (ds.length - (w - 1)) = w - 1 by omega]

/-! ### Base-256 fields -/

/-- Folding `k` big-endian bytes of a number shifts the accumulator and adds the number modulo
`256 ^ k`. -/
theorem foldl_bigEndian (k n acc : Nat) :
    ((List.range k).reverse.map fun i => (n / Nat.pow 256 i % 256).toUInt8).foldl
      (fun acc x => acc * 256 + x.toNat) acc = acc * 256 ^ k + n % 256 ^ k := by
  induction k generalizing acc with
  | zero => simp [Nat.mod_one]
  | succ k ih =>
    rw [List.range_succ, List.reverse_append, List.reverse_singleton, List.singleton_append,
      List.map_cons, List.foldl_cons, ih]
    have hbyte : (n / Nat.pow 256 k % 256).toUInt8.toNat = n / 256 ^ k % 256 := by
      simp [Nat.toUInt8, Nat.pow_eq]
    -- the byte of weight `256 ^ k` on top of the number modulo `256 ^ k`
    rw [hbyte, Nat.pow_succ, Nat.mod_mul, Nat.add_mul]
    ring

theorem binary_twelve (n : Nat) : binary 12 n = 0x80 :: 0 :: 0 :: 0 :: bigEndian64 n := by
  have htop : (0 : UInt8) ||| 0x80 = 0x80 := by decide
  simp [binary, zeros, List.replicate_succ, htop]

/-- A base-256 field of twelve bytes reads back as the number modulo `2 ^ 64`. -/
theorem readNumeric_binary (n : Nat) : readNumeric (binary 12 n) = n % 2 ^ 64 := by
  have hread : readNumeric (binary 12 n) =
      (bigEndian64 n).foldl (fun acc x => acc * 256 + x.toNat) 0 := by
    have htop : ((0x80 : UInt8) &&& 0x80 != 0) = true := by decide
    have hlow : ((0x80 : UInt8) &&& 0x7f).toNat = 0 := by decide
    simp only [binary_twelve, readNumeric, htop, if_true, List.foldl_cons, hlow, UInt8.toNat_zero,
      Nat.zero_mul, Nat.add_zero]
  rw [hread, bigEndian64, foldl_bigEndian]
  norm_num

/-- A numeric field of twelve bytes reads back as any number below `2 ^ 64`. -/
theorem readNumeric_numeric (n : Nat) (h : n < 2 ^ 64) : readNumeric (numeric 12 n) = n := by
  unfold numeric
  split
  · rw [readNumeric_binary, Nat.mod_eq_of_lt h]
  · -- below `8589934592 = 8 ^ 11` the octal digits all fit
    rename_i hsmall
    have hlt : n < 8 ^ 11 := by
      simp only [Bool.or_eq_true, decide_eq_true_eq, Bool.and_eq_true, beq_iff_eq] at hsmall
      norm_num
      omega
    rw [readNumeric_octal 12 n (by decide), Nat.mod_eq_of_lt hlt]

theorem numeric_length (n : Nat) : (numeric 12 n).length = 12 := by
  unfold numeric
  split
  · exact binary_length 12 n (by decide)
  · exact octal_length 12 n (by decide)

/-! ### Where the fields sit -/

namespace Header

variable {h : Header}

theorem take_toBytes_name (hs : h.Shaped) : h.toBytes.take 100 = h.name := by
  have hsplit : h.toBytes = h.name ++ (h.mode ++ h.uid ++ h.gid ++ h.size ++ h.mtime ++
      octal 8 h.checksum ++ h.tail) := by
    simp [toBytes, head]
  rw [hsplit, List.take_left' hs.name]

theorem mode_toBytes (hs : h.Shaped) : (h.toBytes.drop 100).take 8 = h.mode := by
  have hsplit : h.toBytes = h.name ++ (h.mode ++ (h.uid ++ h.gid ++ h.size ++ h.mtime ++
      octal 8 h.checksum ++ h.tail)) := by
    simp [toBytes, head]
  rw [hsplit, List.drop_left' hs.name, List.take_left' hs.mode]

theorem headerSize_toBytes (hs : h.Shaped) : headerSize h.toBytes = readNumeric h.size := by
  have hsplit : h.toBytes = (h.name ++ h.mode ++ h.uid ++ h.gid) ++ (h.size ++ (h.mtime ++
      octal 8 h.checksum ++ h.tail)) := by
    simp [toBytes, head]
  have hpre : (h.name ++ h.mode ++ h.uid ++ h.gid).length = 124 := by
    simp [hs.name, hs.mode, hs.uid, hs.gid]
  rw [headerSize, hsplit, List.drop_left' hpre, List.take_left' hs.size]

theorem mtime_toBytes (hs : h.Shaped) : (h.toBytes.drop 136).take 12 = h.mtime := by
  have hsplit : h.toBytes = (h.name ++ h.mode ++ h.uid ++ h.gid ++ h.size) ++ (h.mtime ++
      (octal 8 h.checksum ++ h.tail)) := by
    simp [toBytes, head]
  have hpre : (h.name ++ h.mode ++ h.uid ++ h.gid ++ h.size).length = 136 := by
    simp [hs.name, hs.mode, hs.uid, hs.gid, hs.size]
  rw [hsplit, List.drop_left' hpre, List.take_left' hs.mtime]

theorem headerKind_toBytes (hs : h.Shaped) : headerKind h.toBytes = h.kind := by
  have hsplit : h.toBytes = (h.head ++ octal 8 h.checksum) ++ (h.kind ::
      (zeros 100 ++ asciiBytes "ustar " ++ [byteOf ' ', 0] ++ zeros 247)) := by
    simp [toBytes, tail]
  have hpre : (h.head ++ octal 8 h.checksum).length = 156 := by
    simp [head, hs.name, hs.mode, hs.uid, hs.gid, hs.size, hs.mtime, octal_length]
  rw [headerKind, hsplit, List.drop_left' hpre]
  rfl

/-- The magic makes every header block non-zero. -/
theorem all_toBytes_eq_false (h : Header) : h.toBytes.all (· == 0) = false := by
  have hu : byteOf 'u' ∈ h.toBytes := by
    simp [toBytes, tail, asciiBytes]
  exact List.all_eq_false.2 ⟨_, hu, by decide⟩

end Header

end MetricRing.Archive
