import Mathlib
import MetricRing.Proofs.Archive.Fields
import MetricRing.Proofs.Archive.NameField
import MetricRing.Archive.Writer
/-!
# Entries written and cut back

`appendEntry` writes a block: a header, the data, and zeros up to whole blocks. Into an output
without a limit every write succeeds and appends. A reader cuts a stream that starts with such
a block at the block's end, since the size it reads from the header is the data's length; a
long-name block stays pending until the block of the file it names. Reading the cut entry gives
back the header's fields and the data.

## Main statements

* `Archive.appendEntry_of_unlimited` : writing a block appends it;
* `Archive.cutEntries_block`, `Archive.cutEntries_longName_block` : cutting at a block;
* `Archive.ofEntry_block`, `Archive.ofEntry_longName` : reading an entry back.
-/

namespace MetricRing.Archive

/-! ### Writing blocks -/

/-- The bytes `appendEntry` writes: the header, the data, and the zeros that pad it. -/
def block (header data : Bytes) : Bytes := header ++ data ++ padding data.length

theorem emit_of_unlimited {o : Output} (hl : o.limit = none) (c : Bytes) :
    ∃ o', o.emit c = .ok o' ∧ o'.contents = o.contents ++ c ∧ o'.limit = none := by
  have hok : ∃ o', o.emit c = .ok o' ∧ o'.limit = none := by
    unfold Output.emit
    split
    · exact ⟨o, rfl, hl⟩
    · rw [if_pos (by simp [Output.fits, hl])]
      exact ⟨_, rfl, hl⟩
  obtain ⟨o', he, hl'⟩ := hok
  exact ⟨o', he, Output.contents_emit o o' c he, hl'⟩

/-- Writing a block into an output without a limit appends it. -/
theorem appendEntry_of_unlimited {o : Output} (hl : o.limit = none) (header data : Bytes) :
    ∃ o', appendEntry o header data = .ok o' ∧ o'.contents = o.contents ++ block header data ∧
      o'.limit = none := by
  obtain ⟨o₁, h₁, hc₁, hl₁⟩ := emit_of_unlimited hl header
  obtain ⟨o₂, h₂, hc₂, hl₂⟩ := emit_of_unlimited hl₁ data
  obtain ⟨o₃, h₃, hc₃, hl₃⟩ := emit_of_unlimited hl₂ (padding data.length)
  refine ⟨o₃, ?_, by rw [hc₃, hc₂, hc₁, block]; simp, hl₃⟩
  simp only [appendEntry, h₁, ok_bind, h₂, h₃]

/-! ### Cutting a stream at a block -/

section Cut

variable {H : Header} {data : Bytes}

theorem length_block (hs : H.Shaped) (data : Bytes) :
    (block H.toBytes data).length = 512 + (data.length + 511) / 512 * 512 := by
  simp only [block, padding, zeros, List.length_append, List.length_replicate,
    Header.toBytes_length hs]
  omega

/-- The size a reader takes from the header spans the block. -/
theorem entryLength_block (hs : H.Shaped) (hsize : readNumeric H.size = data.length) :
    entryLength H.toBytes = (block H.toBytes data).length := by
  rw [entryLength, Header.headerSize_toBytes hs, hsize, length_block hs]

theorem take_block_append (hs : H.Shaped) (data rest : Bytes) :
    (block H.toBytes data ++ rest).take 512 = H.toBytes := by
  rw [block, List.append_assoc, List.append_assoc, List.take_left' (Header.toBytes_length hs)]

/-- A block starts with a full header that is not all zeros. -/
theorem cut_test_block (hs : H.Shaped) (rest : Bytes) :
    ((block H.toBytes data ++ rest).length < 512 ||
      ((block H.toBytes data ++ rest).take 512).all (· == 0)) = false := by
  rw [take_block_append hs, Header.all_toBytes_eq_false, Bool.or_false, decide_eq_false_iff_not]
  simp only [block, List.length_append, Header.toBytes_length hs]
  omega

/-- A file's block ends an entry: the pending bytes and the block. -/
theorem cutEntries_block (hs : H.Shaped) (hsize : readNumeric H.size = data.length)
    (hkind : H.kind ≠ byteOf 'L' ∧ H.kind ≠ byteOf 'K') (fuel : Nat) (rest pending : Bytes) :
    cutEntries (fuel + 1) (block H.toBytes data ++ rest) pending =
      ((pending ++ block H.toBytes data) :: (cutEntries fuel rest []).1,
        (cutEntries fuel rest []).2) := by
  have hk : (headerKind H.toBytes == byteOf 'L' || headerKind H.toBytes == byteOf 'K') = false := by
    simp [Header.headerKind_toBytes hs, hkind.1, hkind.2]
  rw [cutEntries, cut_test_block hs, take_block_append hs, entryLength_block hs hsize]
  simp only [Bool.false_eq_true, if_false, hk, List.take_left, List.drop_left]

/-- A long-name block stays pending. -/
theorem cutEntries_longName_block (hs : H.Shaped) (hsize : readNumeric H.size = data.length)
    (hkind : H.kind = byteOf 'L') (fuel : Nat) (rest pending : Bytes) :
    cutEntries (fuel + 1) (block H.toBytes data ++ rest) pending =
      cutEntries fuel rest (pending ++ block H.toBytes data) := by
  have hk : (headerKind H.toBytes == byteOf 'L' || headerKind H.toBytes == byteOf 'K') = true := by
    simp [Header.headerKind_toBytes hs, hkind]
  rw [cutEntries, cut_test_block hs, take_block_append hs, entryLength_block hs hsize]
  simp only [Bool.false_eq_true, if_false, hk, if_true, List.take_left, List.drop_left]

/-- A stream whose blocks give the fuel: cutting off a file's block leaves the fuel the rest's
blocks give. -/
theorem cutEntries_block_of_fuel (hs : H.Shaped) (hsize : readNumeric H.size = data.length)
    (hkind : H.kind ≠ byteOf 'L' ∧ H.kind ≠ byteOf 'K') (rest : Bytes) {fuel : Nat}
    (hfuel : (block H.toBytes data ++ rest).length / 512 ≤ fuel) :
    ∃ f, rest.length / 512 ≤ f ∧ cutEntries fuel (block H.toBytes data ++ rest) [] =
      (block H.toBytes data :: (cutEntries f rest []).1, (cutEntries f rest []).2) := by
  have hlen := length_block hs data
  rw [List.length_append] at hfuel
  obtain ⟨f, rfl⟩ : ∃ f, fuel = f + 1 := ⟨fuel - 1, by omega⟩
  refine ⟨f, by omega, ?_⟩
  rw [cutEntries_block hs hsize hkind, List.nil_append]

/-- Likewise for a long-name block and the file's block after it. -/
theorem cutEntries_longName_of_fuel {L : Header} (hL : L.Shaped) {name : Bytes}
    (hsizeL : readNumeric L.size = name.length) (hkindL : L.kind = byteOf 'L') (hs : H.Shaped)
    (hsize : readNumeric H.size = data.length) (hkind : H.kind ≠ byteOf 'L' ∧ H.kind ≠ byteOf 'K')
    (rest : Bytes) {fuel : Nat}
    (hfuel : (block L.toBytes name ++ block H.toBytes data ++ rest).length / 512 ≤ fuel) :
    ∃ f, rest.length / 512 ≤ f ∧
      cutEntries fuel (block L.toBytes name ++ block H.toBytes data ++ rest) [] =
        ((block L.toBytes name ++ block H.toBytes data) :: (cutEntries f rest []).1,
          (cutEntries f rest []).2) := by
  have hlenL := length_block hL name
  have hlen := length_block hs data
  simp only [List.length_append] at hfuel
  obtain ⟨f, rfl⟩ : ∃ f, fuel = f + 2 := ⟨fuel - 2, by omega⟩
  refine ⟨f, by omega, ?_⟩
  rw [List.append_assoc, cutEntries_longName_block hL hsizeL hkindL, cutEntries_block hs hsize hkind,
    List.nil_append]

/-- Cutting stops at the two zero blocks that end an archive. -/
theorem cutEntries_zeros : ∀ fuel : Nat, cutEntries fuel (zeros 1024) [] = ([], zeros 1024)
  | 0 => rfl
  | _ + 1 => by
    have hzero : ((zeros 1024).length < 512 || ((zeros 1024).take 512).all (· == 0)) = true := by
      simp only [zeros, List.length_replicate, List.take_replicate, List.all_replicate]
      decide
    rw [cutEntries, if_pos hzero]
    rfl

end Cut

/-! ### Reading an entry -/

section Read

variable {H : Header} {data : Bytes}

theorem take_block (hs : H.Shaped) (data : Bytes) : (block H.toBytes data).take 512 = H.toBytes := by
  simpa using take_block_append hs data []

theorem data_block (hs : H.Shaped) (data : Bytes) :
    ((block H.toBytes data).drop 512).take data.length = data := by
  rw [block, List.append_assoc, List.drop_left' (Header.toBytes_length hs), List.take_left]

/-- A file's entry reads back as its header's fields and its data. -/
theorem ofEntry_block (hs : H.Shaped) (hsize : readNumeric H.size = data.length)
    (hkind : H.kind ≠ byteOf 'L') :
    Member.ofEntry (block H.toBytes data) =
      { path := H.name.takeWhile (· != 0), longName := false, kind := H.kind,
        size := data.length, mode := readNumeric H.mode, mtime := readNumeric H.mtime, data } := by
  have hk : (H.kind == byteOf 'L') = false := by simpa using hkind
  simp only [Member.ofEntry, take_block hs, hk, Bool.false_eq_true, if_false,
    Header.take_toBytes_name hs, Header.headerKind_toBytes hs, Header.headerSize_toBytes hs, hsize,
    Header.mode_toBytes hs, Header.mtime_toBytes hs, data_block hs]

theorem dropTrailingNul_append_zero (bs : Bytes) : dropTrailingNul (bs ++ [0]) = bs := by
  simp [dropTrailingNul]

/-- A long-name entry reads back as the file it precedes, at the path its data holds. -/
theorem ofEntry_longName {L : Header} (hL : L.Shaped) (path : Bytes)
    (hsizeL : readNumeric L.size = (path ++ [0]).length) (hkindL : L.kind = byteOf 'L')
    (hs : H.Shaped) (hsize : readNumeric H.size = data.length) :
    Member.ofEntry (block L.toBytes (path ++ [0]) ++ block H.toBytes data) =
      { path, longName := true, kind := H.kind, size := data.length, mode := readNumeric H.mode,
        mtime := readNumeric H.mtime, data } := by
  have hk : (L.kind == byteOf 'L') = true := by simp [hkindL]
  have hname : ((block L.toBytes (path ++ [0]) ++ block H.toBytes data).drop 512).take
      (headerSize L.toBytes) = path ++ [0] := by
    rw [Header.headerSize_toBytes hL, hsizeL, block, List.append_assoc, List.append_assoc,
      List.drop_left' (Header.toBytes_length hL), List.take_left]
  simp only [Member.ofEntry, take_block_append hL, Header.headerKind_toBytes hL, hk, if_true,
    entryLength_block hL hsizeL,
    List.drop_left, hname, dropTrailingNul_append_zero, take_block hs,
    Header.headerKind_toBytes hs, Header.headerSize_toBytes hs, hsize, Header.mode_toBytes hs,
    Header.mtime_toBytes hs, data_block hs]

end Read

end MetricRing.Archive
