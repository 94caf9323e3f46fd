import MetricRing.Number.Binary64
import MetricRing.Text.Quoted
/-!
# Reading JSON

A strict JSON reader over bytes whose errors name the place they were found as a line and a
column, counted in bytes from the start of the line.

Two ways of counting that place are modelled, as they differ by one byte when a byte has been
looked at but not consumed:

* reading text held in memory (`Mode.text`), the place is the index of the next byte, or one
  past it for errors found by looking ahead;
* reading a stream (`Mode.stream`), the place is every byte taken from the stream so far,
  including one looked at but not yet consumed.

Numbers are read as unsigned or negative 64-bit integers when they fit; otherwise, and for
fractions and exponents, as a binary64 float built from the digits the way a fast reader does
it: the significand (up to 64 bits; further digits only move the exponent) converted to a float
and then multiplied or divided once by a power of ten. Magnitudes that overflow are refused
with `number out of range`; nesting deeper than 127 arrays or objects is refused with
`recursion limit exceeded`.

Two readings are offered: `readDocument` reads any value, with objects as sorted maps in which
a repeated key keeps its last value; `readStringList` reads an array of strings and refuses
anything else with an `invalid type` error naming what it found.
-/

namespace MetricRing.Json

/-- A number as the reader classifies it. -/
inductive Number where
  /-- A non-negative integer below `2 ^ 64`. -/
  | nat (n : Nat)
  /-- A negative integer at or above `-2 ^ 63`. -/
  | neg (i : Int)
  /-- Any other number. -/
  | float (f : Float)

/-- A JSON value; object entries are sorted by key, keys unique. -/
inductive Value where
  | null
  | bool (b : Bool)
  | num (n : Number)
  | str (s : String)
  | arr (items : List Value)
  | obj (entries : List (String × Value))

/-- How the place of an error is counted. -/
inductive Mode where
  | text
  | stream
deriving DecidableEq, Repr

/-- A reading error: its message and place; line 0 means no place. -/
structure JsonError where
  message : String
  line : Nat
  column : Nat
deriving DecidableEq, Repr

namespace JsonError

/-- The error's text: the message, then `at line L column C` when it has a place. -/
def text (e : JsonError) : String :=
  if e.line == 0 then e.message
  else e.message ++ " at line " ++ toString e.line ++ " column " ++ toString e.column

end JsonError

/-- The state of a reading. -/
structure Reader where
  input : ByteArray
  mode : Mode
  /-- Bytes consumed. -/
  pos : Nat := 0
  /-- A byte has been looked at and not consumed. -/
  held : Bool := false
  /-- Arrays and objects that may still be opened. -/
  depth : Nat := 128

/-- Reading with errors. -/
abbrev ReadM := StateT Reader (Except JsonError)

/-- The line and column after the first `n` bytes. -/
def lineColumn (input : ByteArray) (n : Nat) : Nat × Nat :=
  (input.toList.take n).foldl
    (fun (acc : Nat × Nat) (b : UInt8) => if b == 10 then (acc.1 + 1, 0) else (acc.1, acc.2 + 1))
    (1, 0)

namespace Reader

/-- The place of an error found at the current byte. -/
def position (r : Reader) : Nat :=
  match r.mode with
  | .text => r.pos
  | .stream => r.pos + (if r.held then 1 else 0)

/-- The place of an error found by looking at the next byte. -/
def peekPosition (r : Reader) : Nat :=
  match r.mode with
  | .text => min r.input.size (r.pos + 1)
  | .stream => r.position

end Reader

/-- An error with a message at a place. -/
def errorAt (r : Reader) (n : Nat) (message : String) : JsonError :=
  let (l, c) := lineColumn r.input n
  ⟨message, l, c⟩

/-- Fails with a message at the current place. -/
def fail {α : Type} (message : String) : ReadM α := do
  let r ← get
  throw (errorAt r r.position message)

/-- Fails with a message at the place of the next byte. -/
def failPeek {α : Type} (message : String) : ReadM α := do
  let r ← get
  throw (errorAt r r.peekPosition message)

/-- Looks at the next byte without consuming it. -/
def peek : ReadM (Option UInt8) := do
  let r ← get
  if h : r.pos < r.input.size then
    set { r with held := true }
    pure (some r.input[r.pos])
  else pure none

/-- Looks at the next byte, or NUL at the end. -/
def peekOrNull : ReadM UInt8 := do
  pure ((← peek).getD 0)

/-- Consumes and returns the next byte. -/
def next : ReadM (Option UInt8) := do
  let r ← get
  if h : r.pos < r.input.size then
    set { r with pos := r.pos + 1, held := false }
    pure (some r.input[r.pos])
  else pure none

/-- Consumes the byte looked at. -/
def eat : ReadM Unit :=
  modify fun r => { r with pos := r.pos + 1, held := false }

/-- Skips blanks and returns the next byte, not consumed. -/
def skipBlanks : ReadM (Option UInt8) := do
  let r ← get
  let rest := (r.input.toList.drop r.pos).takeWhile fun b => b == 32 || b == 10 || b == 9 || b == 13
  set { r with pos := r.pos + rest.length, held := false }
  peek

/-- Expects the remaining bytes of a keyword. -/
def expectIdent (rest : List UInt8) : ReadM Unit :=
  rest.forM fun b => do
    match ← next with
    | none => fail "EOF while parsing a value"
    | some c => if c != b then fail "expected ident" else pure ()

/-- The byte is a decimal digit. -/
def isDigitByte (b : UInt8) : Bool := 48 ≤ b && b ≤ 57

/-- The digit's value. -/
def digitOf (b : UInt8) : Nat := (b - 48).toNat

/-- The greatest 64-bit unsigned and 32-bit signed integers. -/
def u64Max : Nat := 18446744073709551615

/-- The greatest 32-bit signed integer. -/
def i32Max : Int := 2147483647

/-- Clamps to the 32-bit signed range, as saturating arithmetic does. -/
def saturate32 (i : Int) : Int := max (-2147483648) (min i32Max i)

/-- `a * 10 + d` would pass `limit`. -/
def overflows (a : Nat) (d : Nat) (limit : Nat) : Bool :=
  a ≥ limit / 10 && (a > limit / 10 || d > limit % 10)

/-- Ten to the power `k`, correctly rounded. -/
def pow10 (k : Nat) : Float := Binary64.ofRatio false (Nat.pow 10 k) 1

/-- Builds a float from a significand and a decimal exponent: one multiplication or division
by a power of ten up to `10 ^ 308`, dividing by `10 ^ 308` first while the exponent is below
that. -/
def floatOfParts (positive : Bool) (significand : Nat) (exponent : Int) : ReadM Float := do
  let rec go : Nat → Float → Int → ReadM Float
    | 0, f, _ => pure f
    | fuel + 1, f, e =>
      if e.natAbs ≤ 308 then
        if 0 ≤ e then
          let g := f * pow10 e.natAbs
          if g.isInf then fail "number out of range" else pure g
        else pure (f / pow10 e.natAbs)
      else if f == 0.0 then pure f
      else if 0 ≤ e then fail "number out of range"
      else go fuel (f / pow10 308) (e + 308)
  let f ← go 8 significand.toUInt64.toFloat exponent
  pure (if positive then f else -f)

/-- Consumes the digits that follow. -/
def skipDigits : ReadM Unit := do
  let r ← get
  let rest := (r.input.toList.drop r.pos).takeWhile isDigitByte
  set { r with pos := r.pos + rest.length, held := false }
  let _ ← peek

/-- Reads an exponent after `e` or `E`, then builds the float. -/
def readExponent (positive : Bool) (significand : Nat) (start : Int) : ReadM Float := do
  eat
  let positiveExp ← match ← peekOrNull with
    | 43 => do eat; pure true
    | 45 => do eat; pure false
    | _ => pure true
  let first ← match ← next with
    | none => fail "EOF while parsing a value"
    | some c => if isDigitByte c then pure (digitOf c) else fail "invalid number"
  let r ← get
  let digits := (r.input.toList.drop r.pos).takeWhile isDigitByte
  let rec go : List UInt8 → Nat → ReadM (Option Nat)
    | [], e => pure (some e)
    | c :: cs, e => do
      eat
      if overflows e (digitOf c) i32Max.toNat then pure none
      else go cs (e * 10 + digitOf c)
  match ← go digits first with
  | some e =>
    let _ ← peek
    let final := saturate32 (if positiveExp then start + e else start - e)
    floatOfParts positive significand final
  | none =>
    if significand != 0 && positiveExp then fail "number out of range"
    else
      skipDigits
      pure (if positive then 0.0 else -0.0)

/-- Reads the digits after a decimal point, then any exponent, and builds the float. -/
def readFraction (positive : Bool) (significand : Nat) (start : Int) : ReadM Float := do
  eat
  let r ← get
  let digits := (r.input.toList.drop r.pos).takeWhile isDigitByte
  let rec go : List UInt8 → Nat → Int → ReadM (Nat × Int × Bool)
    | [], s, e => pure (s, e, false)
    | c :: cs, s, e =>
      if overflows s (digitOf c) u64Max then pure (s, e, true)
      else do
        eat
        go cs (s * 10 + digitOf c) (e - 1)
  let (s, e, overflowed) ← go digits significand 0
  if overflowed then
    skipDigits
    match ← peekOrNull with
    | 101 | 69 => readExponent positive s (start + e)
    | _ => floatOfParts positive s (start + e)
  else
    if e == 0 then
      match ← peek with
      | some _ => failPeek "invalid number"
      | none => failPeek "EOF while parsing a value"
    else
      match ← peekOrNull with
      | 101 | 69 => readExponent positive s (start + e)
      | _ => floatOfParts positive s (start + e)

/-- Reads the digits of an integer too long for 64 bits: they only raise the exponent. -/
def readLongInteger (positive : Bool) (significand : Nat) : ReadM Float := do
  let r ← get
  let extra := ((r.input.toList.drop r.pos).takeWhile isDigitByte).length
  set { r with pos := r.pos + extra, held := false }
  match ← peekOrNull with
  | 46 => readFraction positive significand extra
  | 101 | 69 => readExponent positive significand extra
  | _ => floatOfParts positive significand extra

/-- Finishes a number after its integer digits. -/
def readNumberTail (positive : Bool) (significand : Nat) : ReadM Number := do
  match ← peekOrNull with
  | 46 => pure (.float (← readFraction positive significand 0))
  | 101 | 69 => pure (.float (← readExponent positive significand 0))
  | _ =>
    if positive then pure (.nat significand)
    else
      let signed : Int :=
        if significand ≥ Nat.pow 2 63 then (significand : Int) - (Nat.pow 2 64 : Nat) else significand
      let negated : Int := if signed == -((Nat.pow 2 63 : Nat) : Int) then signed else -signed
      if 0 ≤ negated then pure (.float (-(significand.toUInt64.toFloat)))
      else pure (.neg negated)

/-- Reads a number whose sign, if any, has been consumed. -/
def readNumber (positive : Bool) : ReadM Number := do
  match ← next with
  | none => fail "EOF while parsing a value"
  | some 48 =>
    if isDigitByte (← peekOrNull) then failPeek "invalid number"
    else readNumberTail positive 0
  | some c =>
    if !isDigitByte c then fail "invalid number"
    else
      let r ← get
      let digits := (r.input.toList.drop r.pos).takeWhile isDigitByte
      let rec go : List UInt8 → Nat → ReadM (Nat × Bool)
        | [], s => pure (s, false)
        | d :: ds, s =>
          if overflows s (digitOf d) u64Max then pure (s, true)
          else do
            eat
            go ds (s * 10 + digitOf d)
      let (s, long) ← go digits (digitOf c)
      if long then pure (.float (← readLongInteger positive s))
      else readNumberTail positive s

/-- The value of four hexadecimal digits. -/
def hexValue (bs : List UInt8) : Option Nat :=
  bs.foldlM (fun acc b =>
    if 48 ≤ b && b ≤ 57 then some (acc * 16 + (b - 48).toNat)
    else if 97 ≤ b && b ≤ 102 then some (acc * 16 + (b - 87).toNat)
    else if 65 ≤ b && b ≤ 70 then some (acc * 16 + (b - 55).toNat)
    else none) 0

/-- Reads the four hexadecimal digits of a `\u` escape. -/
def readHex4 : ReadM Nat := do
  let r ← get
  if r.pos + 4 ≤ r.input.size then
    let bs := (r.input.toList.drop r.pos).take 4
    set { r with pos := r.pos + 4, held := false }
    match hexValue bs with
    | some v => pure v
    | none => fail "invalid escape"
  else
    set { r with pos := r.input.size, held := false }
    fail "EOF while parsing a string"

/-- The UTF-8 bytes of a code point. -/
def utf8Of (n : Nat) : List UInt8 := (Char.ofNat n).toString.toUTF8.toList

/-- Reads the rest of a `\u` escape, joining a surrogate pair. -/
def readUnicodeEscape : ReadM (List UInt8) := do
  let n ← readHex4
  if 0xDC00 ≤ n && n ≤ 0xDFFF then fail "lone leading surrogate in hex escape"
  else if n < 0xD800 || n > 0xDBFF then pure (utf8Of n)
  else
    match ← peek with
    | none => fail "EOF while parsing a string"
    | some 92 => eat
    | some _ => do eat; fail "unexpected end of hex escape"
    match ← peek with
    | none => fail "EOF while parsing a string"
    | some 117 => eat
    | some _ => do eat; fail "unexpected end of hex escape"
    let n2 ← readHex4
    if n2 < 0xDC00 || n2 > 0xDFFF then fail "lone leading surrogate in hex escape"
    else pure (utf8Of ((n - 0xD800) * 1024 + (n2 - 0xDC00) + 0x10000))

/-- Reads an escape after its backslash. -/
def readEscape : ReadM (List UInt8) := do
  match ← next with
  | none => fail "EOF while parsing a string"
  | some 34 => pure [34]
  | some 92 => pure [92]
  | some 47 => pure [47]
  | some 98 => pure [8]
  | some 102 => pure [12]
  | some 110 => pure [10]
  | some 114 => pure [13]
  | some 116 => pure [9]
  | some 117 => readUnicodeEscape
  | some _ => fail "invalid escape"

/-- Reads the rest of a string after its opening quote, for at most `fuel` bytes. -/
def readStringBody : Nat → List UInt8 → ReadM String
  | 0, _ => fail "EOF while parsing a string"
  | fuel + 1, acc => do
    match ← next with
    | none => fail "EOF while parsing a string"
    | some 34 =>
      match String.fromUTF8? (ByteArray.mk acc.reverse.toArray) with
      | some s => pure s
      | none => fail "invalid unicode code point"
    | some 92 => readStringBody fuel ((← readEscape).reverse ++ acc)
    | some c =>
      if c < 32 then fail "control character (\\u0000-\\u001F) found while parsing a string"
      else readStringBody fuel (c :: acc)

/-- Reads a string after its opening quote. -/
def readString : ReadM String := do
  let r ← get
  readStringBody (r.input.size + 1) []

/-- Inserts an entry into a sorted map, replacing an entry of the same key. -/
def insertSorted (k : String) (v : Value) : List (String × Value) → List (String × Value)
  | [] => [(k, v)]
  | (k2, v2) :: rest =>
    if k == k2 then (k, v) :: rest
    else if k < k2 then (k, v) :: (k2, v2) :: rest
    else (k2, v2) :: insertSorted k v rest

/-- Opens an array or object: one level of nesting is used up. -/
def enterNesting : ReadM Unit := do
  let r ← get
  if r.depth ≤ 1 then failPeek "recursion limit exceeded"
  else
    set { r with depth := r.depth - 1 }
    eat

/-- Closes an array or object. -/
def leaveNesting : ReadM Unit :=
  modify fun r => { r with depth := r.depth + 1 }

/-- Consumes the closing bracket of an array whose elements were all read. -/
def endArray : ReadM Unit := do
  match ← skipBlanks with
  | some 93 => eat
  | some 44 =>
    eat
    match ← skipBlanks with
    | some 93 => failPeek "trailing comma"
    | _ => failPeek "trailing characters"
  | some _ => failPeek "trailing characters"
  | none => failPeek "EOF while parsing a list"

/-- Consumes the closing brace of an object whose entries were all read. -/
def endObject : ReadM Unit := do
  match ← skipBlanks with
  | some 125 => eat
  | some 44 => failPeek "trailing comma"
  | some _ => failPeek "trailing characters"
  | none => failPeek "EOF while parsing an object"

/-- Moves to the next array element: `true` when there is one, after a comma when not first. -/
def nextElement (first : Bool) : ReadM Bool := do
  let peeked ← match ← skipBlanks with
    | some 93 => pure none
    | some 44 =>
      if first then failPeek "expected value" else do
        eat
        pure (some (← skipBlanks))
    | some b =>
      if first then pure (some (some b)) else failPeek "expected `,` or `]`"
    | none => failPeek "EOF while parsing a list"
  match peeked with
  | none => pure false
  | some (some 93) => failPeek "trailing comma"
  | some (some _) => pure true
  | some none => failPeek "EOF while parsing a value"

/-- Moves to the next object key: `true` when there is one, its opening quote not consumed. -/
def nextKey (first : Bool) : ReadM Bool := do
  let peeked ← match ← skipBlanks with
    | some 125 => pure none
    | some 44 =>
      if first then failPeek "key must be a string" else do
        eat
        pure (some (← skipBlanks))
    | some b =>
      if first then pure (some (some b)) else failPeek "expected `,` or `\x7d`"
    | none => failPeek "EOF while parsing an object"
  match peeked with
  | none => pure false
  | some (some 34) => pure true
  | some (some 125) => failPeek "trailing comma"
  | some (some _) => failPeek "key must be a string"
  | some none => failPeek "EOF while parsing a value"

/-- Consumes the colon after an object key. -/
def readColon : ReadM Unit := do
  match ← skipBlanks with
  | some 58 => eat
  | some _ => failPeek "expected `:`"
  | none => failPeek "EOF while parsing an object"

mutual

/-- Reads any value; `fuel` bounds the nesting of the calls. -/
def readValue : Nat → ReadM Value
  | 0 => fail "recursion limit exceeded"
  | fuel + 1 => do
    match ← skipBlanks with
    | none => failPeek "EOF while parsing a value"
    | some 110 => do eat; expectIdent [117, 108, 108]; pure .null
    | some 116 => do eat; expectIdent [114, 117, 101]; pure (.bool true)
    | some 102 => do eat; expectIdent [97, 108, 115, 101]; pure (.bool false)
    | some 45 => do eat; pure (.num (← readNumber false))
    | some 34 => do eat; pure (.str (← readString))
    | some 91 =>
      enterNesting
      let items ← readElements fuel true []
      leaveNesting
      endArray
      pure (.arr items)
    | some 123 =>
      enterNesting
      let entries ← readEntries fuel true []
      leaveNesting
      endObject
      pure (.obj entries)
    | some b =>
      if isDigitByte b then pure (.num (← readNumber true))
      else failPeek "expected value"

/-- Reads array elements up to the closing bracket, which is left in place. -/
def readElements : Nat → Bool → List Value → ReadM (List Value)
  | 0, _, acc => pure acc.reverse
  | fuel + 1, first, acc => do
    if ← nextElement first then
      let v ← readValue fuel
      readElements fuel false (v :: acc)
    else pure acc.reverse

/-- Reads object entries up to the closing brace, which is left in place. -/
def readEntries : Nat → Bool → List (String × Value) → ReadM (List (String × Value))
  | 0, _, acc => pure acc
  | fuel + 1, first, acc => do
    if ← nextKey first then
      eat
      let k ← readString
      readColon
      let v ← readValue fuel
      readEntries fuel false (insertSorted k v acc)
    else pure acc

end

/-- Fails unless only blanks remain. -/
def expectEnd : ReadM Unit := do
  match ← skipBlanks with
  | some _ => failPeek "trailing characters"
  | none => pure ()

/-- A fresh reading of bytes. -/
def Reader.start (input : ByteArray) (mode : Mode) : Reader := { input, mode }

/-- Reads one JSON value filling the whole input. -/
def readDocument (mode : Mode) (input : ByteArray) : Except JsonError Value :=
  let go : ReadM Value := do
    let v ← readValue (2 * input.size + 2)
    expectEnd
    pure v
  (go.run' (Reader.start input mode))

/-- Reads a value of the wrong type far enough to name it, and fails naming it. -/
def refuseValue {α : Type} (expected : String) : ReadM α := do
  let describe : ReadM String := do
    match ← peekOrNull with
    | 110 => do eat; expectIdent [117, 108, 108]; pure "null"
    | 116 => do eat; expectIdent [114, 117, 101]; pure "boolean `true`"
    | 102 => do eat; expectIdent [97, 108, 115, 101]; pure "boolean `false`"
    | 45 => do
      eat
      match ← readNumber false with
      | .nat n => pure ("integer `" ++ toString n ++ "`")
      | .neg i => pure ("integer `" ++ toString i ++ "`")
      | .float f => pure ("floating point `" ++ Binary64.compactText f ++ "`")
    | 34 => do eat; pure ("string " ++ Text.quote (← readString))
    | 91 => pure "sequence"
    | 123 => pure "map"
    | b =>
      if isDigitByte b then
        match ← readNumber true with
        | .nat n => pure ("integer `" ++ toString n ++ "`")
        | .neg i => pure ("integer `" ++ toString i ++ "`")
        | .float f => pure ("floating point `" ++ Binary64.compactText f ++ "`")
      else failPeek "expected value"
  let found ← describe
  fail ("invalid type: " ++ found ++ ", expected " ++ expected)

/-- Reads a string value, refusing any other value. -/
def readStringValue : ReadM String := do
  match ← skipBlanks with
  | none => failPeek "EOF while parsing a value"
  | some 34 => do eat; readString
  | some _ => refuseValue "a string"

/-- Reads the strings of an array up to its closing bracket. -/
def readStringItems : Nat → Bool → List String → ReadM (List String)
  | 0, _, acc => pure acc.reverse
  | fuel + 1, first, acc => do
    if ← nextElement first then
      let s ← readStringValue
      readStringItems fuel false (s :: acc)
    else pure acc.reverse

/-- Reads an array of strings filling the whole input. -/
def readStringList (mode : Mode) (input : ByteArray) : Except JsonError (List String) :=
  let go : ReadM (List String) := do
    let items ← match ← skipBlanks with
      | none => failPeek "EOF while parsing a value"
      | some 91 => do
        enterNesting
        let items ← readStringItems (input.size + 1) true []
        leaveNesting
        endArray
        pure items
      | some _ => refuseValue "a sequence"
    expectEnd
    pure items
  go.run' (Reader.start input mode)

end MetricRing.Json
