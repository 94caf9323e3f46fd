import MetricRing.Config.Toml.Lexer
import MetricRing.Number.Binary64
/-!
# Reading a TOML document into sections

The document is read line by line into sections: the key/value lines before the first header,
then each `[table]` or `[[array of tables]]` header with the lines under it. Values are read in
full (strings, integers with `_` separators and `0x`/`0o`/`0b` prefixes, floats whose exponent
has no leading zero, booleans, date-times, arrays of one kind of value, inline tables);
date-times are kept as their text, a date and a time possibly joined by one space, and checked
when the tables are assembled.

A key may be dotted, `a.b.c = 1`: each part before the last names a table that the dotted keys
of one section or inline table build together. Such a table is made when its name is first
met; a name already holding another kind of value is an error at the line of that value.

A header is checked when its line is reached, after the rest of its line has been skipped;
errors found on the way stop the reading with the offset where they were found.
-/

namespace MetricRing.Config.Toml

/-- A value as written in the document. The pairs of a table written inline, and of a table
that dotted keys build, are each a key, the offset where its value starts, and the value. -/
inductive Item where
  | str (s : String)
  | int (i : Int)
  | float (f : Float)
  | bool (b : Bool)
  | datetime (text : String)
  | array (items : List Item)
  | inline (pairs : List (String × Nat × Item))
  | dotted (pairs : List (String × Nat × Item))

namespace Item

/-- The kind of a value, which the elements of an array must share. -/
def kind : Item → Nat
  | str _ => 0
  | int _ => 1
  | float _ => 2
  | bool _ => 3
  | datetime _ => 4
  | array _ => 5
  | inline _ => 6
  | dotted _ => 7

end Item

/-- The pairs of a table: keys, the offsets where their values start, and the values. -/
abbrev Pairs := List (String × Nat × Item)

/-- Gives the first pair under the key `k` the value `v`, keeping its offset. -/
def setFirst (k : String) (v : Item) : Pairs → Pairs
  | [] => []
  | (k2, pos, w) :: rest => if k2 == k then (k2, pos, v) :: rest else (k2, pos, w) :: setFirst k v rest

/-- Adds the value `v`, starting at offset `start`, to the pairs under the parts of a dotted
key. The last part names the value; each part before it names a dotted table, the first pair of
that name if there is one, else a new one at the end. A pair of that name holding anything but
a dotted table is an error at the start of its value. -/
def addDotted (start : Nat) (v : Item) : List String → Pairs → Except TomlError Pairs
  | [], pairs => .ok pairs
  | [k], pairs => .ok (pairs ++ [(k, start, v)])
  | k :: k2 :: ks, pairs =>
    match pairs.find? (·.1 == k) with
    | some (_, _, .dotted inner) =>
      (addDotted start v (k2 :: ks) inner).map fun inner => setFirst k (.dotted inner) pairs
    | some (_, pos, _) => .error (.located pos "dotted key attempted to extend non-table type")
    | none => (addDotted start v (k2 :: ks) []).map fun inner => pairs ++ [(k, start, .dotted inner)]

/-- A header and the key/value lines under it; the lines before any header form a section with
no header. `values` is `none` for a section with neither header nor lines. -/
structure Section where
  offset : Nat
  header : List String
  values : Option Pairs
  array : Bool

/-- Reading with a cursor. -/
abbrev ParseM := StateT Cursor (Except TomlError)

/-- Fails with an error at an offset. -/
def failAt {α : Type} (offset : Nat) (message : String) : ParseM α :=
  throw (.located offset message)

/-- The offset of the next character. -/
def current : ParseM Nat := do pure (← get).pos

/-- Reads the next token without consuming it. -/
def peekToken : ParseM (Option (Nat × Token)) := do
  match nextToken (← get) with
  | .ok (some (start, t, _)) => pure (some (start, t))
  | .ok none => pure none
  | .error e => throw e

/-- Consumes the next token. -/
def takeToken : ParseM (Option (Nat × Token)) := do
  match nextToken (← get) with
  | .ok (some (start, t, c)) => set c; pure (some (start, t))
  | .ok none => pure none
  | .error e => throw e

/-- Consumes the next token if it is `t`. -/
def eatToken (t : Token) : ParseM Bool := do
  match nextToken (← get) with
  | .ok (some (_, found, c)) => if found == t then (do set c; pure true) else pure false
  | .ok none => pure false
  | .error e => throw e

/-- Consumes the token `t`, or fails naming what was found instead. -/
def expectToken (t : Token) : ParseM Unit := do
  let at0 ← current
  match ← takeToken with
  | some (_, found) =>
    if found == t then pure ()
    else failAt at0 ("expected " ++ t.describe ++ ", found " ++ found.describe)
  | none => failAt at0 ("expected " ++ t.describe ++ ", found eof")

/-- Skips spaces and tabs. -/
def eatBlanks : ParseM Unit := modify Cursor.skipBlanks

/-- Consumes a line feed, or accepts the end of the input. -/
def eatNewlineOrEof : ParseM Unit := do
  let at0 ← current
  match ← takeToken with
  | none | some (_, .newline) => pure ()
  | some (_, found) => failAt at0 ("expected newline, found " ++ found.describe)

/-- Consumes a comment and the line feed or end after it, if a comment comes next. -/
def eatComment : ParseM Bool := do
  match (← get).eatc '#' with
  | some c =>
    set (c.skipWhile isCommentChar)
    eatNewlineOrEof
    pure true
  | none => pure false

/-- Reads a key: a bare word, or a one-line string that is not empty. -/
def tableKey : ParseM String := do
  let at0 ← current
  match ← takeToken with
  | some (_, .keylike k) => pure k
  | some (start, .str src val multiline) =>
    if multiline then failAt start "multiline strings are not allowed for key"
    else if val == "" then failAt start "empty table key found"
    else if src.toList.contains '\n' then
      let before := String.ofList (src.toList.takeWhile (· != '\n'))
      failAt (start + before.utf8ByteSize) "found newline in table key"
    else pure val
  | some (_, found) => failAt at0 ("expected a table key, found " ++ found.describe)
  | none => failAt at0 "expected a table key, found eof"

/-- Reads a key of one or more parts joined by periods, blanks allowed around each period;
`fuel` bounds the parts. -/
def dottedKey (fuel : Nat) : ParseM (List String) := do
  let first ← tableKey
  eatBlanks
  let rec more : Nat → List String → ParseM (List String)
    | 0, acc => pure acc.reverse
    | n + 1, acc => do
      if ← eatToken .period then
        eatBlanks
        let k ← tableKey
        eatBlanks
        more n (k :: acc)
      else pure acc.reverse
  more fuel [first]

/-- A character is a digit in the radix. -/
def isRadixDigit (radix : Nat) (c : Char) : Bool :=
  if radix ≤ 10 then '0' ≤ c && c.toNat < '0'.toNat + radix
  else ('0' ≤ c && c ≤ '9') || ('a' ≤ c && c ≤ 'f') || ('A' ≤ c && c ≤ 'F')

/-- The value of a digit in radix up to 16. -/
def digitValue (c : Char) : Nat :=
  if '0' ≤ c && c ≤ '9' then c.toNat - 48
  else if 'a' ≤ c && c ≤ 'f' then c.toNat - 87
  else c.toNat - 55

/-- Scans the digits of an integer: where they end, whether none was seen, and whether the last
was an underscore; leading zeros and misplaced underscores are errors at their offset. -/
def scanDigits (allowSign allowLeadingZeros : Bool) (radix start : Nat) :
    Nat → List Char → Bool → Bool → Bool → Except TomlError (Nat × Bool × Bool)
  | i, [], first, _, underscore => .ok (i, first, underscore)
  | i, c :: cs, first, firstZero, underscore =>
    if i == 0 && (c == '+' || c == '-') && allowSign then
      scanDigits allowSign allowLeadingZeros radix start (i + 1) cs first firstZero underscore
    else if c == '0' && first then
      scanDigits allowSign allowLeadingZeros radix start (i + 1) cs false true underscore
    else if isRadixDigit radix c then
      if !first && firstZero && !allowLeadingZeros then .error (.located (start + i) "invalid number")
      else scanDigits allowSign allowLeadingZeros radix start (i + 1) cs false firstZero false
    else if c == '_' && first then .error (.located (start + i) "invalid number")
    else if c == '_' && !underscore then
      scanDigits allowSign allowLeadingZeros radix start (i + 1) cs false firstZero true
    else .ok (i, first, underscore)

/-- Splits a bare word at `start` into the integer at its front and the rest. -/
def splitInteger (s : String) (start : Nat) (allowSign allowLeadingZeros : Bool) (radix : Nat) :
    Except TomlError (String × String) := do
  let (stop, first, underscore) ← scanDigits allowSign allowLeadingZeros radix start 0 s.toList
    true false false
  if first || underscore then throw (.located start "invalid number")
  pure (String.ofList (s.toList.take stop), String.ofList (s.toList.drop stop))

/-- Reads an integer in a radix from the bare word at `start`: the whole word must be digits,
and the value must fit in 64 signed bits. -/
def readInteger (s : String) (start radix : Nat) : ParseM Int := do
  match splitInteger s start (radix == 10) (radix != 10) radix with
  | .error e => throw e
  | .ok (front, rest) =>
    if rest != "" then failAt start "invalid number"
    let cs := (front.toList.filter (· != '_')).dropWhile (· == '+')
    let (neg, ds) := match cs with
      | '-' :: t => (true, t)
      | '+' :: t => (false, t)
      | t => (false, t)
    if ds.isEmpty || !ds.all (isRadixDigit radix) then failAt start "invalid number"
    let mag := ds.foldl (fun acc c => acc * radix + digitValue c) 0
    let v : Int := if neg then -(mag : Int) else mag
    if v < -9223372036854775808 || 9223372036854775807 < v then failAt start "invalid number"
    pure v

/-- The float with the given sign, integer digits, fraction digits and decimal exponent. -/
def decimalFloat (integral fraction : List Char) (exponent : Int) : Float :=
  let neg := integral.head? == some '-'
  let intDigits := integral.filter Char.isDigit
  let digits := (intDigits ++ fraction).foldl (fun acc c => acc * 10 + (c.toNat - 48)) 0
  Binary64.ofDecimal neg digits (exponent - fraction.length)

/-- The value of a signed decimal exponent. -/
def exponentValue (cs : List Char) : Int :=
  let (neg, ds) := match cs with
    | '-' :: t => (true, t)
    | '+' :: t => (false, t)
    | t => (false, t)
  let mag : Int := ds.foldl (fun acc c => acc * 10 + (c.toNat - 48)) 0
  if neg then -mag else mag

/-- Reads a float from the bare word `s` at `start`, with the word after a decimal point if
there was one; an exponent written `1e+5` continues after the plus. -/
def readFloat (s : String) (start : Nat) (after : Option (String × Nat)) : ParseM Float := do
  let (integral, suffix0) ← match splitInteger s start true false 10 with
    | .ok r => pure r
    | .error e => throw e
  let (fraction, suffix, suffixStart) ← match after with
    | none => pure ("", suffix0, start + integral.length)
    | some (a, aStart) =>
      if suffix0 != "" then failAt start "invalid number"
      else match splitInteger a aStart false true 10 with
        | .ok (fa, fb) => pure (fa, fb, aStart + fa.length)
        | .error e => throw e
  let exponent ← if suffix.startsWith "e" || suffix.startsWith "E" then do
      let (ea, eb) ← if suffix.length == 1 then do
          let _ ← eatToken .plus
          match ← takeToken with
          | some (kStart, .keylike k) =>
            match splitInteger k kStart false false 10 with
            | .ok r => pure r
            | .error e => throw e
          | _ => failAt start "invalid number"
        else
          match splitInteger (String.ofList (suffix.toList.drop 1)) (suffixStart + 1) true false 10 with
          | .ok r => pure r
          | .error e => throw e
      if eb != "" then failAt start "invalid number"
      pure (exponentValue (ea.toList.filter (· != '_')))
    else if suffix != "" then failAt start "invalid number"
    else pure 0
  let integralDigits := (integral.toList.filter (· != '_')).dropWhile (· == '+')
  let f := decimalFloat integralDigits (fraction.toList.filter (· != '_')) exponent
  if f.isNaN || f.isInf then failAt start "invalid number"
  pure f

/-- A single space followed by a bare word, consumed and given as text; nothing when the next
characters are not that. It joins the hour of a date-time to its date. -/
def spacedWord : ParseM String := do
  let c ← get
  match c.rest with
  | ' ' :: rest =>
    if rest.head? == some ' ' || rest.head? == some '\t' then pure ""
    else match nextToken ⟨rest, c.pos + 1⟩ with
      | .ok (some (_, .keylike k, c2)) => set c2; pure (" " ++ k)
      | _ => pure ""
  | _ => pure ""

/-- Reads the rest of a date-time after its first word `s` at `start`: a spaced hour, then
minutes, seconds, fraction and offset, each a bare word after its separator; the text read is
returned. -/
def readDatetime (s : String) (start : Nat) (colonEaten : Bool) : ParseM String := do
  let word (sep : String) : ParseM String := do
    match ← takeToken with
    | some (_, .keylike k) => pure (sep ++ k)
    | _ => failAt start "invalid date"
  let hour ← spacedWord
  if colonEaten || (← eatToken .colon) then
    let minutes ← word ":"
    expectToken .colon
    let seconds ← word ":"
    let fraction ← if ← eatToken .period then word "." else pure ""
    let offset ← if ← eatToken .plus then word "+" else pure ""
    let offsetMinutes ← if ← eatToken .colon then word ":" else pure ""
    pure (s ++ hour ++ minutes ++ seconds ++ fraction ++ offset ++ offsetMinutes)
  else pure (s ++ hour)

/-- Reads a value that starts with the bare word `s` at `start`: a number. -/
def readNumber (s : String) (start : Nat) : ParseM Item := do
  if s.startsWith "0x" then pure (.int (← readInteger (String.ofList (s.toList.drop 2)) (start + 2) 16))
  else if s.startsWith "0o" then pure (.int (← readInteger (String.ofList (s.toList.drop 2)) (start + 2) 8))
  else if s.startsWith "0b" then pure (.int (← readInteger (String.ofList (s.toList.drop 2)) (start + 2) 2))
  else if s.contains 'e' || s.contains 'E' then pure (.float (← readFloat s start none))
  else if ← eatToken .period then
    let at0 ← current
    match ← takeToken with
    | some (aStart, .keylike after) => pure (.float (← readFloat s start (some (after, aStart))))
    | _ => failAt at0 "invalid number"
  else if s == "inf" then pure (.float (1.0 / 0.0))
  else if s == "-inf" then pure (.float (-1.0 / 0.0))
  else if s == "nan" then pure (.float (0.0 / 0.0))
  else if s == "-nan" then pure (.float (-(0.0 / 0.0)))
  else pure (.int (← readInteger s start 10))

/-- Reads a value that starts with the bare word `s` at `start`: a date-time or a number. -/
def readNumberOrDate (s : String) (start : Nat) : ParseM Item := do
  let cs := s.toList
  let dateLike := cs.contains 'T' || cs.contains 't' ||
    (cs.length > 1 && (cs.drop 1).contains '-' && !(s.splitOn "e-").length > 1)
  if dateLike then pure (.datetime (← readDatetime s start false))
  else if ← eatToken .colon then pure (.datetime (← readDatetime s start true))
  else readNumber s start

/-- Skips blanks, line feeds and comments between array elements. -/
def skipArrayGaps : Nat → ParseM Unit
  | 0 => pure ()
  | fuel + 1 => do
    eatBlanks
    if (← eatToken .newline) || (← eatComment) then skipArrayGaps fuel else pure ()

mutual

/-- Reads a value; `fuel` bounds the nesting. -/
def readValue : Nat → ParseM Item
  | 0 => do failAt (← current) "unexpected eof encountered"
  | fuel + 1 => do
    let at0 ← current
    match ← takeToken with
    | some (_, .str _ v _) => pure (.str v)
    | some (_, .keylike "true") => pure (.bool true)
    | some (_, .keylike "false") => pure (.bool false)
    | some (start, .keylike k) => readNumberOrDate k start
    | some (_, .plus) =>
      let at1 ← current
      match ← takeToken with
      | some (kStart, .keylike k) => readNumber k kStart
      | _ => failAt at1 "invalid number"
    | some (_, .leftBrace) => pure (.inline (← readInline fuel))
    | some (_, .leftBracket) => pure (.array (← readArray fuel fuel []))
    | some (_, t) => failAt at0 ("expected a value, found " ++ t.describe)
    | none => failAt at0 "unexpected eof encountered"

/-- Reads array elements after the opening bracket, through the closing bracket. -/
def readArray : Nat → Nat → List Item → ParseM (List Item)
  | _, 0, acc => pure acc.reverse
  | depth, steps + 1, acc => do
    let size := (← get).rest.length + 1
    skipArrayGaps size
    if ← eatToken .rightBracket then pure acc.reverse
    else
      let at0 ← current
      let v ← readValue depth
      match acc with
      | last :: _ =>
        if last.kind != v.kind then failAt at0 "mixed types in an array" else pure ()
      | [] => pure ()
      skipArrayGaps size
      if ← eatToken .comma then readArray depth steps (v :: acc)
      else
        skipArrayGaps size
        expectToken .rightBracket
        pure (v :: acc).reverse

/-- Reads an inline table after the opening brace, through the closing brace. -/
def readInline : Nat → ParseM Pairs
  | fuel => do
    eatBlanks
    if ← eatToken .rightBrace then pure []
    else
      let size := (← get).rest.length + 1
      readInlinePairs fuel size []

/-- Reads the key/value pairs of an inline table, adding each under its dotted key. -/
def readInlinePairs : Nat → Nat → Pairs → ParseM Pairs
  | _, 0, acc => pure acc
  | depth, steps + 1, acc => do
    let ks ← dottedKey (steps + 1)
    eatBlanks
    expectToken .equals
    eatBlanks
    let start ← current
    let v ← readValue depth
    let acc ← match addDotted start v ks acc with
      | .ok pairs => pure pairs
      | .error e => throw e
    eatBlanks
    if ← eatToken .rightBrace then pure acc
    else
      expectToken .comma
      eatBlanks
      readInlinePairs depth steps acc

end

/-- What one line of the document holds. -/
inductive Line where
  /-- A header: its offset, a cursor at the start of its name, and whether it is an array. -/
  | header (offset : Nat) (name : Cursor) (array : Bool)
  /-- A key/value line: the parts of its key, the offset where its value starts, the value. -/
  | keyValue (key : List String) (start : Nat) (value : Item)

/-- Reads the next line that holds something, skipping blank and comment lines. -/
def readLine (fuel : Nat) : ParseM (Option Line) := do
  let rec skip : Nat → ParseM Unit
    | 0 => pure ()
    | n + 1 => do
      eatBlanks
      if (← eatComment) || (← eatToken .newline) then skip n else pure ()
  skip fuel
  match ← peekToken with
  | some (_, .leftBracket) =>
    let start ← current
    expectToken .leftBracket
    let array ← eatToken .leftBracket
    let name ← get
    set (name.skipLine)
    pure (some (.header start name array))
  | some _ =>
    let ks ← dottedKey fuel
    eatBlanks
    expectToken .equals
    eatBlanks
    let start ← current
    let v ← readValue fuel
    eatBlanks
    if !(← eatComment) then eatNewlineOrEof
    pure (some (.keyValue ks start v))
  | none => pure none

/-- Reads the dotted name of a header up to its closing bracket or brackets and the end of its
line. -/
def readHeaderName (array : Bool) : Nat → Bool → List String → ParseM (List String)
  | 0, _, acc => pure acc.reverse
  | fuel + 1, first, acc => do
    eatBlanks
    if first || (← eatToken .period) then
      eatBlanks
      let k ← tableKey
      readHeaderName array fuel false (k :: acc)
    else
      expectToken .rightBracket
      if array then expectToken .rightBracket
      eatBlanks
      if !(← eatComment) then eatNewlineOrEof
      pure acc.reverse

/-- A section is kept when it has a header or lines. -/
def Section.isKept (s : Section) : Bool := !s.header.isEmpty || s.values.isSome

/-- Reads every line of the document into sections. -/
def readSections (fuel : Nat) : ParseM (List Section) := do
  let rec go : Nat → Section → List Section → ParseM (List Section)
    | 0, cur, done => pure (if cur.isKept then (cur :: done).reverse else done.reverse)
    | n + 1, cur, done => do
      match ← readLine fuel with
      | none => pure (if cur.isKept then (cur :: done).reverse else done.reverse)
      | some (.header offset name array) =>
        let done := if cur.isKept then cur :: done else done
        let header ← match (readHeaderName array fuel true []).run' name with
          | .ok h => pure h
          | .error e => throw e
        go n ⟨offset, header, some [], array⟩ done
      | some (.keyValue ks start v) =>
        match addDotted start v ks (cur.values.getD []) with
        | .ok pairs => go n { cur with values := some pairs } done
        | .error e => throw e
  go fuel ⟨0, [], none, false⟩ []

/-- Reads a document into sections, skipping a leading byte order mark. -/
def parseSections (text : String) : Except TomlError (List Section) :=
  let cs := text.toList
  let start : Cursor := match cs with
    | '﻿' :: rest => ⟨rest, 3⟩
    | _ => ⟨cs, 0⟩
  (readSections (cs.length + 2)).run' start

end MetricRing.Config.Toml
