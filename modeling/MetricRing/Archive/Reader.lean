import MetricRing.Archive.Field
/-!
# Reading a tar stream back

`View.ofBytes` cuts a tar stream into entries: each entry is its 512-byte header and its data
padded to whole blocks, the size read from the header's size field (octal, or base-256 when
the field's top bit is set). A GNU long-name or long-link header (type `L` or `K`) stays in
one entry with the header it precedes. Cutting stops at the first all-zero block; the bytes
from there on are the tail, which for a finished archive is two zero blocks.

`Member.ofEntry` reads an entry the way a tar reader lists it, a long name honoured.
-/

namespace MetricRing.Archive

/-- Reads a numeric header field: base-256 when the top bit of its first byte is set, else the
octal digits after any leading spaces. -/
def readNumeric (field : Bytes) : Nat :=
  match field with
  | [] => 0
  | b :: rest =>
    if b &&& 0x80 != 0 then
      ((b &&& 0x7f) :: rest).foldl (fun acc x => acc * 256 + x.toNat) 0
    else
      let digits := (field.dropWhile (· == byteOf ' ')).takeWhile fun x => byteOf '0' ≤ x && x ≤ byteOf '7'
      digits.foldl (fun acc x => acc * 8 + (x - byteOf '0').toNat) 0

/-- The size recorded in a header block. -/
def headerSize (header : Bytes) : Nat := readNumeric ((header.drop 124).take 12)

/-- The type byte of a header block. -/
def headerKind (header : Bytes) : UInt8 := (header.drop 156).headD 0

/-- The bytes a header block and its padded data take in the stream. -/
def entryLength (header : Bytes) : Nat := 512 + (headerSize header + 511) / 512 * 512

/-- A tar stream cut into entries, and the tail from the first zero block on. -/
structure View where
  entries : List Bytes
  tail : Bytes

/-- Cuts a stream into entries, at most `fuel` of them; the pending bytes are long-name
entries waiting for their header. -/
def cutEntries : Nat → Bytes → Bytes → List Bytes × Bytes
  | 0, bs, pending => (if pending.isEmpty then [] else [pending], bs)
  | fuel + 1, bs, pending =>
    let header := bs.take 512
    if bs.length < 512 || header.all (· == 0) then
      (if pending.isEmpty then [] else [pending], bs)
    else
      let used := entryLength header
      let entry := pending ++ bs.take used
      let kind := headerKind header
      if kind == byteOf 'L' || kind == byteOf 'K' then cutEntries fuel (bs.drop used) entry
      else
        let (es, tail) := cutEntries fuel (bs.drop used) []
        (entry :: es, tail)

namespace View

/-- The view of a tar stream. -/
def ofBytes (bs : Bytes) : View :=
  let (entries, tail) := cutEntries (bs.length / 512 + 1) bs []
  ⟨entries, tail⟩

end View

/-- What a reader lists for one entry of a view: the path, whether a long-name entry gave it,
and the type, size, mode, modification time and data of the file's header. -/
structure Member where
  path : Bytes
  longName : Bool
  kind : UInt8
  size : Nat
  mode : Nat
  mtime : Nat
  data : Bytes
deriving DecidableEq, Repr

/-- The bytes without one trailing NUL. -/
def dropTrailingNul (bs : Bytes) : Bytes :=
  if bs.getLast? = some 0 then bs.dropLast else bs

namespace Member

/-- Reads one entry of a view. After a long-name header (type `L`) the path is that entry's
data less a trailing NUL, and the next header describes the file; otherwise the path is the
name field up to its first NUL. -/
def ofEntry (entry : Bytes) : Member :=
  let first := entry.take 512
  let long := headerKind first == byteOf 'L'
  let file := if long then entry.drop (entryLength first) else entry
  let header := file.take 512
  { path := if long then dropTrailingNul ((entry.drop 512).take (headerSize first))
      else (header.take 100).takeWhile (· != 0)
    longName := long
    kind := headerKind header
    size := headerSize header
    mode := readNumeric ((header.drop 100).take 8)
    mtime := readNumeric ((header.drop 136).take 12)
    data := (file.drop 512).take (headerSize header) }

end Member

/-- The members a view lists, in stream order. -/
def View.members (v : View) : List Member := v.entries.map Member.ofEntry

end MetricRing.Archive
