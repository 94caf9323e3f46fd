import MetricRing.Archive.Field
import MetricRing.Text.PathName
/-!
# GNU tar headers

A header is one 512-byte block: the entry's name (100 bytes), mode, owner and group ids, size,
modification time, checksum, type, an empty link name, the GNU magic `ustar ` with version
` \0`, and zeros. The checksum is the byte sum of the block with the checksum field read as
eight spaces, written as seven octal digits and a NUL.

A path goes into the name field component by component, separated by single `/`; a path whose
written form does not fit is announced by a GNU long-name header of type `L` (named
`././@LongLink`) whose data is the path and a NUL, and the first 100 bytes of the path, cut at
a character boundary, are then written over what the failed write left in the name field.

* `Header.toBytes_length` says a header is one block.
-/

namespace MetricRing.Archive

/-- Why a path cannot be written into a name field. -/
inductive PathFault where
  | absolute
  | parent
  | noComponent
  | slashInComponent
  | tooLong
  | nulByte
deriving DecidableEq, Repr

namespace PathFault

/-- The description of the fault. -/
def text : PathFault → String
  | absolute => "paths in archives must be relative"
  | parent => "paths in archives must not have `..`"
  | noComponent => "paths in archives must have at least one component"
  | slashInComponent => "path component in archive cannot contain `/`"
  | tooLong => "provided value is too long"
  | nulByte => "provided value contains a nul byte"

end PathFault

/-- The text of a name field: its bytes up to the first NUL. -/
def fieldText (slot : Bytes) : String :=
  (String.fromUTF8? (slot.takeWhile (· != 0)).toByteArray).getD ""

/-- A path that could not be written, and the name field as the failed write left it: the
components written before the fault stay in it. -/
structure NameError where
  fault : PathFault
  field : Bytes
deriving DecidableEq, Repr

namespace NameError

/-- The description of the error, naming what the field held when writing stopped. -/
def message (e : NameError) : String :=
  e.fault.text ++ " when setting path for " ++ fieldText e.field

end NameError

/-- The fields of a header that an entry sets; the rest of the block is fixed. -/
structure Header where
  name : Bytes := zeros 100
  mode : Bytes := zeros 8
  uid : Bytes := zeros 8
  gid : Bytes := zeros 8
  size : Bytes := zeros 12
  mtime : Bytes := octal 12 0
  kind : UInt8 := 0

/-- Writes `bytes` into the name field at `offset`, followed by a NUL when there is room. -/
def place (slot : Bytes) (offset : Nat) (bytes : Bytes) : Except PathFault Bytes :=
  if slot.length - offset < bytes.length then .error .tooLong
  else if bytes.contains 0 then .error .nulByte
  else
    let rest := slot.drop (offset + bytes.length)
    .ok (slot.take offset ++ bytes ++ match rest with
      | [] => []
      | _ :: tail => 0 :: tail)

/-- State of writing a path into a name field: the field, the next offset, whether a separator
is due, and whether a component was written. -/
structure NameWrite where
  slot : Bytes
  offset : Nat := 0
  needsSlash : Bool := false
  emitted : Bool := false

/-- Writes one component into the name field. -/
def NameWrite.push (w : NameWrite) (bytes : Bytes) : Except NameError NameWrite := do
  let fail (f : PathFault) (slot : Bytes) : NameError := ⟨f, slot⟩
  let (slot, offset) ← if w.needsSlash then
      match place w.slot w.offset [byteOf '/'] with
      | .ok s => pure (s, w.offset + 1)
      | .error f => throw (fail f w.slot)
    else pure (w.slot, w.offset)
  match place slot offset bytes with
  | .ok s =>
    let slash := bytes != [byteOf '/']
    pure { slot := s, offset := offset + bytes.length, needsSlash := w.needsSlash || slash,
           emitted := true }
  | .error f => throw (fail f slot)

/-- Writes a path into a name field that already holds `slot`. -/
def writeName (slot : Bytes) (path : String) : Except NameError Bytes := do
  let cs := Text.components path
  let fail (f : PathFault) (w : NameWrite) : NameError := ⟨f, w.slot⟩
  let step (w : NameWrite) : Text.Component → Except NameError NameWrite
    | .root => throw (fail .absolute w)
    | .parent => throw (fail .parent w)
    | .current => if cs.length == 1 then w.push (asciiBytes ".") else pure w
    | .normal s => w.push s.toUTF8.toList
  let w ← cs.foldlM step { slot := slot }
  if !w.emitted then throw (fail .noComponent w)
  if path.endsWith "/" then
    match place w.slot w.offset [byteOf '/'] with
    | .ok s => pure s
    | .error f => throw (fail f w)
  else pure w.slot

namespace Header

/-- A fresh GNU header: everything zero but the magic and a zero modification time. -/
def gnu : Header := {}

/-- The fields before the checksum. -/
def head (h : Header) : Bytes := h.name ++ h.mode ++ h.uid ++ h.gid ++ h.size ++ h.mtime

/-- The fields after the checksum. -/
def tail (h : Header) : Bytes :=
  [h.kind] ++ zeros 100 ++ asciiBytes "ustar " ++ [byteOf ' ', 0] ++ zeros 247

/-- The byte sum of the block with the checksum field read as eight spaces. -/
def checksum (h : Header) : Nat :=
  (h.head ++ List.replicate 8 (byteOf ' ') ++ h.tail).foldl (fun acc b => acc + b.toNat) 0

/-- The 512-byte block. -/
def toBytes (h : Header) : Bytes := h.head ++ octal 8 h.checksum ++ h.tail

/-- Every field has its width. -/
structure Shaped (h : Header) : Prop where
  name : h.name.length = 100
  mode : h.mode.length = 8
  uid : h.uid.length = 8
  gid : h.gid.length = 8
  size : h.size.length = 12
  mtime : h.mtime.length = 12

theorem toBytes_length {h : Header} (hs : h.Shaped) : h.toBytes.length = 512 := by
  have hmagic : (asciiBytes "ustar ").length = 6 := rfl
  simp only [toBytes, head, tail, zeros, List.length_append, List.length_replicate,
    List.length_cons, List.length_nil, octal_length 8 _ (by decide), hmagic, hs.name, hs.mode,
    hs.uid, hs.gid, hs.size, hs.mtime]

/-- Sets the name field to a path. -/
def setPath (h : Header) (path : String) : Except NameError Header := do
  pure { h with name := ← writeName h.name path }

/-- The header announcing a long name of `n` bytes. -/
def longName (n : Nat) : Header :=
  { name := asciiBytes "././@LongLink" ++ zeros 87, mode := octal 8 0o644, uid := octal 8 0,
    gid := octal 8 0, size := numeric 12 (n + 1), kind := byteOf 'L' }

end Header

/-- The longest prefix of a text that is at most `n` bytes and ends at a character boundary. -/
def utf8Prefix (s : String) (n : Nat) : String :=
  let rec go : List Char → Nat → List Char
    | [], _ => []
    | c :: cs, budget =>
      if c.utf8Size ≤ budget then c :: go cs (budget - c.utf8Size) else []
  String.ofList (go s.toList n)

end MetricRing.Archive
