/-!
# The MD5 message digest

`Md5.digest` is the sixteen-byte MD5 digest of a byte list (RFC 1321): the message is padded
with a one bit, zeros and its bit length to a multiple of 64 bytes, and each 64-byte block is
folded into four 32-bit words by 64 rounds of mixing. Words are `UInt32`, so every addition
wraps as the standard requires.

* `Md5.pad_length` says the padded message fills whole blocks;
* `Md5.digest_length` says a digest is sixteen bytes.
-/

namespace MetricRing.Md5

/-- The four chaining words of the digest. -/
structure Words where
  a : UInt32
  b : UInt32
  c : UInt32
  d : UInt32
deriving Inhabited, DecidableEq

/-- The chaining words every message starts from. -/
def initial : Words := ⟨0x67452301, 0xefcdab89, 0x98badcfe, 0x10325476⟩

/-- Left rotation of a 32-bit word by `s` places, `s < 32`. -/
def rotl (x s : UInt32) : UInt32 := (x <<< s) ||| (x >>> (32 - s))

/-- Rotation amounts, sixteen per round group. -/
def shifts : Array UInt32 := #[
  7, 12, 17, 22, 7, 12, 17, 22, 7, 12, 17, 22, 7, 12, 17, 22,
  5, 9, 14, 20, 5, 9, 14, 20, 5, 9, 14, 20, 5, 9, 14, 20,
  4, 11, 16, 23, 4, 11, 16, 23, 4, 11, 16, 23, 4, 11, 16, 23,
  6, 10, 15, 21, 6, 10, 15, 21, 6, 10, 15, 21, 6, 10, 15, 21]

/-- The additive constants: the integer part of `2³² · |sin (i + 1)|`. -/
def sines : Array UInt32 := #[
  0xd76aa478, 0xe8c7b756, 0x242070db, 0xc1bdceee, 0xf57c0faf, 0x4787c62a, 0xa8304613, 0xfd469501,
  0x698098d8, 0x8b44f7af, 0xffff5bb1, 0x895cd7be, 0x6b901122, 0xfd987193, 0xa679438e, 0x49b40821,
  0xf61e2562, 0xc040b340, 0x265e5a51, 0xe9b6c7aa, 0xd62f105d, 0x02441453, 0xd8a1e681, 0xe7d3fbc8,
  0x21e1cde6, 0xc33707d6, 0xf4d50d87, 0x455a14ed, 0xa9e3e905, 0xfcefa3f8, 0x676f02d9, 0x8d2a4c8a,
  0xfffa3942, 0x8771f681, 0x6d9d6122, 0xfde5380c, 0xa4beea44, 0x4bdecfa9, 0xf6bb4b60, 0xbebfbc70,
  0x289b7ec6, 0xeaa127fa, 0xd4ef3085, 0x04881d05, 0xd9d4d039, 0xe6db99e5, 0x1fa27cf8, 0xc4ac5665,
  0xf4292244, 0x432aff97, 0xab9423a7, 0xfc93a039, 0x655b59c3, 0x8f0ccc92, 0xffeff47d, 0x85845dd1,
  0x6fa87e4f, 0xfe2ce6e0, 0xa3014314, 0x4e0811a1, 0xf7537e82, 0xbd3af235, 0x2ad7d2bb, 0xeb86d391]

/-- The little-endian word at word index `j` of a 64-byte block. -/
def wordAt (block : Array UInt8) (j : Nat) : UInt32 :=
  let byte := fun k => (block.getD (4 * j + k) 0).toUInt32
  byte 0 ||| (byte 1 <<< 8) ||| (byte 2 <<< 16) ||| (byte 3 <<< 24)

/-- Round `i` of the 64 applied to one block: the mixing function and message word of its
group, then the rotation of the first word into the second place. -/
def round (block : Array UInt8) (w : Words) (i : Nat) : Words :=
  let (f, g) :=
    if i < 16 then ((w.b &&& w.c) ||| (~~~w.b &&& w.d), i)
    else if i < 32 then ((w.d &&& w.b) ||| (~~~w.d &&& w.c), (5 * i + 1) % 16)
    else if i < 48 then (w.b ^^^ w.c ^^^ w.d, (3 * i + 5) % 16)
    else (w.c ^^^ (w.b ||| ~~~w.d), (7 * i) % 16)
  let mixed := f + w.a + sines.getD i 0 + wordAt block g
  ⟨w.d, w.b + rotl mixed (shifts.getD i 0), w.b, w.c⟩

/-- Folds one 64-byte block into the chaining words. -/
def compress (w : Words) (block : Array UInt8) : Words :=
  let r := (List.range 64).foldl (round block) w
  ⟨w.a + r.a, w.b + r.b, w.c + r.c, w.d + r.d⟩

/-- The eight little-endian bytes of a 64-bit count. -/
def lengthBytes (n : Nat) : List UInt8 :=
  (List.range 8).map fun k => (n / Nat.pow 256 k % 256).toUInt8

/-- The message followed by the marker byte `0x80`, zeros up to 56 bytes modulo 64, and the
message length in bits. -/
def pad (msg : List UInt8) : List UInt8 :=
  msg ++ [0x80] ++ List.replicate ((119 - msg.length % 64) % 64) 0 ++ lengthBytes (8 * msg.length)

/-- Folds every whole 64-byte block of `bytes` into the chaining words, in order. -/
def absorb (w : Words) (bytes : List UInt8) : Words :=
  if _ : 64 ≤ bytes.length then
    absorb (compress w (bytes.take 64).toArray) (bytes.drop 64)
  else
    w
termination_by bytes.length
decreasing_by simp only [List.length_drop]; omega

/-- The bytes of a word, least significant first. -/
def Words.bytesOf (x : UInt32) : List UInt8 :=
  [x.toUInt8, (x >>> 8).toUInt8, (x >>> 16).toUInt8, (x >>> 24).toUInt8]

/-- The sixteen-byte digest of a message. -/
def digest (msg : List UInt8) : List UInt8 :=
  let w := absorb initial (pad msg)
  Words.bytesOf w.a ++ Words.bytesOf w.b ++ Words.bytesOf w.c ++ Words.bytesOf w.d

theorem lengthBytes_length (n : Nat) : (lengthBytes n).length = 8 := by
  simp [lengthBytes]

/-- Padding fills whole blocks. -/
theorem pad_length (msg : List UInt8) : (pad msg).length % 64 = 0 := by
  simp only [pad, List.length_append, List.length_singleton, List.length_replicate,
    lengthBytes_length]
  omega

/-- A digest is sixteen bytes. -/
theorem digest_length (msg : List UInt8) : (digest msg).length = 16 := by
  simp [digest, Words.bytesOf]

end MetricRing.Md5
