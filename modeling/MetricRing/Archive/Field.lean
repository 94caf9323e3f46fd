import MetricRing.Metric
/-!
# Numeric fields of tar headers

Tar headers write numbers into fixed-width fields. `octal` writes the last `width - 1` octal
digits, padded with `0` on the left, and a NUL byte; digits that do not fit are dropped from
the front. `binary` is the GNU base-256 form: the eight big-endian bytes of the number at the
end of the field, zeros before them, and the top bit of the first byte set. `numeric` picks
base-256 for numbers that eleven octal digits cannot hold, and for numbers of eight or more
octal digits in an eight-byte field.

* `octal_length` and `binary_length` say every field has its width.
-/

namespace MetricRing.Archive

/-- The ASCII byte of a character. -/
def byteOf (c : Char) : UInt8 := c.toNat.toUInt8

/-- The ASCII bytes of a text. -/
def asciiBytes (s : String) : Bytes := s.toList.map byteOf

/-- `n` zero bytes. -/
def zeros (n : Nat) : Bytes := List.replicate n 0

/-- The octal digits of `n`, most significant first. -/
def octalDigits (n : Nat) : Bytes := (Nat.toDigits 8 n).map byteOf

/-- An octal field of `width` bytes holding the last `width - 1` octal digits of `n`. -/
def octal (width n : Nat) : Bytes :=
  let ds := octalDigits n
  let w := width - 1
  List.replicate (w - ds.length) (byteOf '0') ++ ds.drop (ds.length - w) ++ [0]

/-- The eight big-endian bytes of `n` modulo `2⁶⁴`. -/
def bigEndian64 (n : Nat) : Bytes :=
  (List.range 8).reverse.map fun k => (n / Nat.pow 256 k % 256).toUInt8

/-- A base-256 field of `width ≥ 8` bytes holding `n` modulo `2⁶⁴`. -/
def binary (width n : Nat) : Bytes :=
  match zeros (width - 8) ++ bigEndian64 n with
  | b :: rest => (b ||| 0x80) :: rest
  | [] => []

/-- A numeric field: octal when the number fits, base-256 otherwise. -/
def numeric (width n : Nat) : Bytes :=
  if 8589934592 ≤ n || (2097152 ≤ n && width == 8) then binary width n else octal width n

theorem octal_length (width n : Nat) (h : 0 < width) : (octal width n).length = width := by
  simp only [octal, List.length_append, List.length_replicate, List.length_drop,
    List.length_singleton]
  omega

theorem bigEndian64_length (n : Nat) : (bigEndian64 n).length = 8 := by
  simp [bigEndian64]

theorem binary_length (width n : Nat) (h : 8 ≤ width) : (binary width n).length = width := by
  unfold binary
  split
  · rename_i b rest heq
    have := congrArg List.length heq
    simp only [List.length_append, zeros, List.length_replicate, bigEndian64_length,
      List.length_cons] at this
    simp only [List.length_cons]
    omega
  · rename_i heq
    have := congrArg List.length heq
    simp [zeros, bigEndian64_length] at this

example : octal 8 420 = asciiBytes "0000644" ++ [0] := by decide
example : octal 8 2097152 = asciiBytes "0000000" ++ [0] := by decide

end MetricRing.Archive
