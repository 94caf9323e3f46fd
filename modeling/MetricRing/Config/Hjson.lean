import MetricRing.Config.Value
import MetricRing.Config.Error
import MetricRing.Number.Reading
import MetricRing.Text.Blank
/-!
# Hjson configuration files

Hjson is JSON for people: keys need no quotes, commas between members and items may be line
breaks, `#`, `//` and `/* */` comments are allowed, and a value that is not an object, an array
or a quoted string is a quoteless string running to the end of its line, unless the text before
a comma, closing bracket, comment or line end is `true`, `false`, `null` or a number. `'''`
opens a multi-line string whose lines lose the indentation of the opening quotes.

A document is read twice if need be. It is first read as an object whose root braces may be
left out; if that fails, it is read again as any value, and the fault of that second reading is
the one reported, as `<fault> at line L column C` with the column counted in bytes taken from
the input (looked-at bytes included). A fault of the reader's own is written in double quotes;
the three faults about key names are written as they are. The first fault ends the reading.

Three details decide what some documents mean:

* A keyword or number is recognised only once the character after it has been read; that
  character is then put back. At the end of the input the character read is a NUL, and it is
  put back too, so it stands as one more character of the input. A brace-less document whose
  last value is a keyword or a number with no line break after it is therefore not an object
  (the NUL is read as a key), and is read again as a single value: usually one quoteless
  string.
* Every number is read as a binary64 float, correctly rounded, integers included.
* Keys of an object keep their first place; a repeated key takes the last place with its last
  value.
-/

namespace MetricRing.Config.Hjson

/-- A parsed Hjson value; every number is a float. -/
inductive Node where
  | null
  | bool (b : Bool)
  | float (f : Float)
  | str (s : String)
  | arr (items : List Node)
  | obj (entries : List (String × Node))

/-- Why a document is refused. -/
inductive Fault where
  | eofInList
  | eofInObject
  | eofInString
  | eofInValue
  | expectedColon
  | expectedValue
  | invalidEscape
  | loneSurrogate
  | trailing
  | hexEscapeEnd
  | punctuator
  | emptyKey
  | keySpace
  | keyPunctuator
deriving DecidableEq, Repr

/-- The words of a fault. -/
def Fault.words : Fault → String
  | .eofInList => "EOF while parsing a list"
  | .eofInObject => "EOF while parsing an object"
  | .eofInString => "EOF while parsing a string"
  | .eofInValue => "EOF while parsing a value"
  | .expectedColon => "expected \x60:\x60"
  | .expectedValue => "expected value"
  | .invalidEscape => "invalid escape"
  | .loneSurrogate => "lone leading surrogate in hex escape"
  | .trailing => "trailing characters"
  | .hexEscapeEnd => "unexpected end of hex escape"
  | .punctuator => "found a punctuator character when expecting a quoteless string"
  | .emptyKey => "Found ':' but no key name (for an empty key name use quotes)"
  | .keySpace => "Found whitespace in your key name (use quotes to include)"
  | .keyPunctuator =>
    "Found a punctuator where a key name was expected (check your syntax or use quotes if " ++
      "the key name includes \x7b\x7d[],: or whitespace)"

/-- The fault is about a key name; its words are written without quotes. -/
def Fault.aboutKey : Fault → Bool
  | .emptyKey | .keySpace | .keyPunctuator => true
  | _ => false

/-- The text of a fault: its words, in double quotes unless it is about a key name. -/
def Fault.text (f : Fault) : String :=
  if f.aboutKey then f.words else "\"" ++ f.words ++ "\""

/-- The reading place. The input is held as one character per byte. `ahead` holds bytes taken
from the input but not yet consumed, front first; the line and column count every byte taken,
the column from the last line break. -/
structure Cursor where
  rest : List Char
  ahead : List Char
  line : Nat
  col : Nat

/-- How reading stops short of a value: refused with a fault at a place, or stopping the
program with a report. -/
inductive Stop where
  | refused (fault : Fault) (place : Cursor)
  | abort (report : String)

/-- The text of a refusal. -/
def refusalText (f : Fault) (place : Cursor) : String :=
  f.text ++ " at line " ++ toString place.line ++ " column " ++ toString place.col

/-- Reading from a cursor. -/
abbrev ReadM := StateT Cursor (Except Stop)

namespace Cursor

/-- The start of an input. -/
def start (bytes : List Char) : Cursor := ⟨bytes, [], 1, 0⟩

/-- The place after taking a byte from the input. -/
def moved (c : Cursor) (b : Char) : Cursor :=
  if b == '\n' then { c with line := c.line + 1, col := 0 } else { c with col := c.col + 1 }

/-- Takes up to `n` bytes from the input into the look-ahead. -/
def takeAhead : Nat → Cursor → Cursor
  | 0, c => c
  | n + 1, c =>
    match c.rest with
    | [] => c
    | b :: t => takeAhead n { c.moved b with rest := t, ahead := c.ahead ++ [b] }

end Cursor

/-- The look-ahead byte at `idx`, taking bytes from the input as needed. -/
def peekAt (idx : Nat) : ReadM (Option Char) := do
  let c ← get
  let c := c.takeAhead (idx + 1 - c.ahead.length)
  set c
  pure c.ahead[idx]?

/-- The next byte, not consumed. -/
def peek : ReadM (Option Char) := peekAt 0

/-- The next byte, NUL at the end. -/
def peekOrNull : ReadM Char := do pure ((← peek).getD '\x00')

/-- Consumes the first look-ahead byte; with none, the program stops. -/
def eat : ReadM Unit := do
  let c ← get
  match c.ahead with
  | _ :: t => set { c with ahead := t }
  | [] => throw (.abort "removal index (is 0) should be < len (is 0)")

/-- Puts a byte back in front of the look-ahead. -/
def uneat (b : Char) : ReadM Unit := modify fun c => { c with ahead := b :: c.ahead }

/-- Consumes the next byte. -/
def next : ReadM (Option Char) := do
  let c ← get
  match c.ahead, c.rest with
  | b :: t, _ => set { c with ahead := t }; pure (some b)
  | [], b :: t => set { c.moved b with rest := t }; pure (some b)
  | [], [] => pure none

/-- Consumes the next byte, NUL at the end. -/
def nextOrNull : ReadM Char := do pure ((← next).getD '\x00')

/-- Refuses the document at the place reached. -/
def fail {α : Type} (f : Fault) : ReadM α := do throw (.refused f (← get))

/-- Consumes bytes up to a line break or the end, leaving the line break. -/
def skipLine : Nat → ReadM Unit
  | 0 => pure ()
  | n + 1 => do
    match ← peek with
    | some '\n' | none => pure ()
    | some _ => eat; skipLine n

/-- Consumes bytes up to a closing `*/` or the end, leaving the closing pair. -/
def skipCommentBody : Nat → ReadM Unit
  | 0 => pure ()
  | n + 1 => do
    let a := (← peek).getD '*'
    let b := (← peekAt 1).getD '/'
    if a == '*' && b == '/' then pure () else do eat; skipCommentBody n

/-- Skips blanks and comments. A `/` that starts no comment is skipped; one at the very end
refuses the document. A block comment's closing pair is consumed even when missing, which
stops the program. -/
def skipBlank : Nat → ReadM Unit
  | 0 => pure ()
  | n + 1 => do
    let b ← peekOrNull
    if b == ' ' || b == '\n' || b == '\t' || b == '\r' then do eat; skipBlank n
    else if b == '#' then do skipLine n; skipBlank n
    else if b == '/' then
      match ← peekAt 1 with
      | some '/' => do skipLine n; skipBlank n
      | some '*' => do eat; eat; skipCommentBody n; eat; eat; skipBlank n
      | some _ => do eat; skipBlank n
      | none => fail .trailing
    else pure ()

/-- No byte is left to read. -/
def atEnd : ReadM Bool := do pure (← peek).isNone

/-- A byte that cannot start a quoteless string or appear in a key name. -/
def isPunctuator (c : Char) : Bool := "\x7b\x7d[],:".toList.contains c

/-- The text of bytes held one per character. -/
def bytesText (cs : List Char) : String :=
  (String.fromUTF8? (ByteArray.mk (cs.map fun c => c.toNat.toUInt8).toArray)).getD ""

/-- The bytes of a text, one per character. -/
def textBytes (s : String) : List Char :=
  s.toUTF8.toList.map fun b => Char.ofNat b.toNat

/-- The digits at the front of a list, and what follows them. -/
def spanDigits (cs : List Char) : List Char × List Char :=
  (cs.takeWhile Char.isDigit, cs.dropWhile Char.isDigit)

/-- The exponent of a number after its `e`: an optional sign and at least one digit; gives the
number's text so far with the exponent added, and what follows. -/
def exponentPart (text cs : List Char) : Option (List Char × List Char) :=
  let (sign, cs) := match cs with
    | '+' :: t => (['+'], t)
    | '-' :: t => (['-'], t)
    | t => ([], t)
  let (ds, cs) := spanDigits cs
  if ds.isEmpty then none else some (text ++ 'e' :: sign ++ ds, cs)

/-- The number at the front of a list: an optional `-`, then `0` or digits not starting with
`0`, then an optional fraction with at least one digit, then an optional exponent; gives its
text, the exponent marked `e`, and what follows. -/
def numberText (cs : List Char) : Option (List Char × List Char) :=
  let (sign, cs) := match cs with
    | '-' :: t => (['-'], t)
    | t => ([], t)
  let (whole, cs) := spanDigits cs
  if whole.isEmpty || (whole.length > 1 && whole.head? == some '0') then none
  else
    let text := sign ++ whole
    match cs with
    | '.' :: t =>
      let (frac, t) := spanDigits t
      if frac.isEmpty then none
      else
        let text := text ++ '.' :: frac
        match t with
        | e :: u => if e == 'e' || e == 'E' then exponentPart text u else some (text, t)
        | [] => some (text, [])
    | e :: t => if e == 'e' || e == 'E' then exponentPart text t else some (text, cs)
    | [] => some (text, [])

/-- Drops what may follow a number: blanks, and a `/` followed by anything; a `/` at the very
end means no number. -/
def dropNumberTail : List Char → Option (List Char)
  | [] => some []
  | c :: t =>
    if c == ' ' || c == '\n' || c == '\t' || c == '\r' then dropNumberTail t
    else if c == '/' then (if t.isEmpty then none else dropNumberTail t)
    else some (c :: t)

/-- The number a quoteless text stands for, if it is one, as a float. -/
def numberValue (cs : List Char) : Option Node :=
  match numberText cs with
  | none => none
  | some (text, tail) =>
    match dropNumberTail tail with
    | some [] => (Number.readFloat (String.ofList text)).map .float
    | _ => none

/-- What a quoteless text that has reached a terminator stands for: `true`, `false`, `null` or
a number, or nothing yet. -/
def quotelessValue (buf : List Char) : Option Node :=
  let trimmed := Text.trimBlank (bytesText buf)
  match buf.head? with
  | some 'f' => if trimmed == "false" then some (.bool false) else none
  | some 'n' => if trimmed == "null" then some .null else none
  | some 't' => if trimmed == "true" then some (.bool true) else none
  | some c => if c == '-' || c.isDigit then numberValue buf else none
  | none => none

/-- A blank of a multi-line string's indentation: space, tab or carriage return. -/
def isIndentBlank (c : Char) : Bool := c == ' ' || c == '\t' || c == '\r'

/-- Consumes indentation blanks, up to `n` of them. -/
def skipIndent : Nat → ReadM Unit
  | 0 => pure ()
  | n + 1 => do
    match ← peek with
    | some c => if isIndentBlank c then do eat; skipIndent n else pure ()
    | none => pure ()

/-- Consumes blanks after the opening quotes of a multi-line string, and the line break ending
them with the next line's indentation. -/
def skipOpening : Nat → Nat → ReadM Unit
  | 0, _ => pure ()
  | n + 1, indent => do
    match ← peek with
    | some '\n' => do eat; skipIndent indent
    | some c => if isIndentBlank c then do eat; skipOpening n indent else pure ()
    | none => pure ()

/-- Reads the lines of a multi-line string up to its closing quotes, dropping carriage returns
and up to `indent` blanks at the start of each line; a line break just before the closing
quotes is dropped. -/
def multilineBody : Nat → Nat → Nat → List Char → ReadM String
  | 0, _, _, _ => fail .eofInString
  | n + 1, indent, quotes, acc => do
    match ← next with
    | none => fail .eofInString
    | some '\'' =>
      if quotes + 1 == 3 then
        let acc := match acc with
          | '\n' :: t => t
          | t => t
        pure (bytesText acc.reverse)
      else multilineBody n indent (quotes + 1) acc
    | some c =>
      let acc := List.replicate quotes '\'' ++ acc
      if c == '\n' then do skipIndent indent; multilineBody n indent 0 ('\n' :: acc)
      else if c == '\r' then multilineBody n indent 0 acc
      else multilineBody n indent 0 (c :: acc)

/-- Reads a multi-line string whose three opening quotes have just been consumed; the first of
them stands at the indentation the string's lines lose. -/
def readMultiline (fuel : Nat) : ReadM Node := do
  let indent := (← get).col - 3
  skipOpening fuel indent
  pure (.str (← multilineBody fuel indent 0 []))

/-- Reads a quoteless value; `acc` holds the bytes read so far, last first. -/
def readQuoteless : Nat → List Char → ReadM Node
  | 0, _ => fail .eofInValue
  | n + 1, acc => do
    let ch ← nextOrNull
    let isEol := ch == '\r' || ch == '\n' || ch == '\x00'
    let isComment ← if ch == '#' then pure true
      else if ch == '/' then do
        let d ← peekOrNull
        pure (d == '/' || d == '*')
      else pure false
    let stop := isEol || isComment || ch == ',' || ch == '\x7d' || ch == ']'
    let known := if stop then quotelessValue acc.reverse else none
    match known with
    | some v => do uneat ch; pure v
    | none =>
      if stop && isEol then pure (.str (Text.trimBlank (bytesText acc.reverse)))
      else
        let acc := ch :: acc
        if acc == ['\'', '\'', '\''] then readMultiline n else readQuoteless n acc

/-- Reads a key name without quotes up to its colon, which is left to be read. Blanks may
follow the name but not split it. -/
def readKeyName : Nat → List Char → Option Nat → ReadM String
  | 0, _, _ => fail .eofInObject
  | n + 1, acc, space => do
    let ch ← nextOrNull
    if ch == ':' then
      if acc.isEmpty then fail .emptyKey
      else if space.any (· != acc.length) then fail .keySpace
      else do uneat ':'; pure (bytesText acc.reverse)
    else if ch.toNat ≤ 32 then
      if ch == '\x00' then fail .eofInObject
      else readKeyName n acc (space <|> some acc.length)
    else if isPunctuator ch then fail .keyPunctuator
    else readKeyName n (ch :: acc) space

/-- Reads four hexadecimal digits of a `\u` escape. -/
def readHexDigits : Nat → Nat → ReadM Nat
  | 0, v => pure v
  | k + 1, v => do
    if ← atEnd then fail .invalidEscape
    let c ← nextOrNull
    let d := Number.digitValue c
    if d < 16 then readHexDigits k (v * 16 + d) else fail .invalidEscape

/-- Reads the code point of a `\u` escape, joining a surrogate pair written as two escapes. -/
def readEscapedPoint : ReadM Nat := do
  let n1 ← readHexDigits 4 0
  if 0xDC00 ≤ n1 && n1 ≤ 0xDFFF then fail .loneSurrogate
  else if 0xD800 ≤ n1 && n1 ≤ 0xDBFF then
    let a ← next
    let b ← next
    if a != some '\\' || b != some 'u' then fail .hexEscapeEnd
    let n2 ← readHexDigits 4 0
    if n2 < 0xDC00 || n2 > 0xDFFF then fail .loneSurrogate
    pure ((n1 - 0xD800) * 1024 + (n2 - 0xDC00) + 0x10000)
  else pure n1

/-- The bytes of a code point, one per character. -/
def pointBytes (n : Nat) : List Char := textBytes (String.singleton (Char.ofNat n))

/-- Reads a quoted string after its opening quote; `acc` holds its bytes so far, last first. -/
def readQuoted : Nat → List Char → ReadM String
  | 0, _ => fail .eofInString
  | n + 1, acc => do
    match ← next with
    | none => fail .eofInString
    | some '"' => pure (bytesText acc.reverse)
    | some '\\' =>
      match ← next with
      | none => fail .eofInString
      | some e =>
        match e with
        | '"' => readQuoted n ('"' :: acc)
        | '\\' => readQuoted n ('\\' :: acc)
        | '/' => readQuoted n ('/' :: acc)
        | 'b' => readQuoted n ('\x08' :: acc)
        | 'f' => readQuoted n ('\x0c' :: acc)
        | 'n' => readQuoted n ('\n' :: acc)
        | 'r' => readQuoted n ('\r' :: acc)
        | 't' => readQuoted n ('\t' :: acc)
        | 'u' => do
          let p ← readEscapedPoint
          readQuoted n ((pointBytes p).reverse ++ acc)
        | _ => fail .invalidEscape
    | some c => readQuoted n (c :: acc)

/-- Reads a key of an object: quoted, or a key name. -/
def readKey (fuel : Nat) (quoted : Bool) : ReadM String := do
  skipBlank fuel
  if ← atEnd then fail .eofInValue
  if quoted then do eat; readQuoted fuel [] else readKeyName fuel [] none

/-- Sets an object's entry: the entry goes last, replacing an earlier one with the same key. -/
def insertEntry (entries : List (String × Node)) (k : String) (v : Node) :
    List (String × Node) :=
  entries.filter (·.1 != k) ++ [(k, v)]

/-- Where reading a value starts: at the root of a document read as a brace-less object, or
anywhere else. -/
inductive Start where
  | root
  | value

mutual

/-- Reads a value. -/
def readValue : Nat → Start → ReadM Node
  | 0, _ => fail .eofInValue
  | n + 1, start => do
    skipBlank n
    if ← atEnd then fail .eofInValue
    match start with
    | .root => readObject n true
    | .value =>
      match ← peekOrNull with
      | '"' => do eat; pure (.str (← readQuoted n []))
      | '[' => do
        eat
        let items ← readItems n []
        skipBlank n
        match ← next with
        | some ']' => pure items
        | some _ => fail .trailing
        | none => fail .eofInList
      | '\x7b' => do eat; readObject n false
      | '\x00' => fail .expectedValue
      | c => if isPunctuator c then fail .punctuator else readQuoteless n []

/-- Reads the members of an object and then its closing brace, or the end of the input for a
brace-less root. -/
def readObject : Nat → Bool → ReadM Node
  | 0, _ => fail .eofInObject
  | n + 1, root => do
    let members ← readMembers n root true []
    skipBlank n
    match ← next with
    | some '\x7d' => if root then fail .trailing else pure members
    | some _ => fail .trailing
    | none => if root then pure members else fail .eofInObject

/-- Reads object members up to a closing brace (left to be read) or, at the root, the end. -/
def readMembers : Nat → Bool → Bool → List (String × Node) → ReadM Node
  | 0, _, _, _ => fail .eofInObject
  | n + 1, root, first, acc => do
    skipBlank n
    if !first && (← peek) == some ',' then do eat; skipBlank n
    match ← peek with
    | some '\x7d' => pure (.obj acc)
    | none => if root then pure (.obj acc) else fail .eofInObject
    | some ch =>
      let k ← readKey n (ch == '"')
      skipBlank n
      match ← next with
      | some ':' => pure ()
      | some _ => fail .expectedColon
      | none => fail .eofInObject
      let v ← readValue n .value
      readMembers n root false (insertEntry acc k v)

/-- Reads array items up to the closing bracket, left to be read. -/
def readItems : Nat → List Node → ReadM Node
  | 0, _ => fail .eofInList
  | n + 1, acc => do
    skipBlank n
    match ← peek with
    | some ']' => pure (.arr acc)
    | none => fail .eofInList
    | some _ =>
      let v ← readValue n .value
      skipBlank n
      if (← peek) == some ',' then do eat; skipBlank n
      readItems n (acc ++ [v])

end

/-- Reads a whole input from a start: a value and nothing after it but blanks and comments. -/
def readWhole (bytes : List Char) (start : Start) : Except Stop Node :=
  let fuel := 8 * (bytes.length + 4)
  (do
    let v ← readValue fuel start
    skipBlank fuel
    if !(← atEnd) then fail .trailing
    pure v).run' (Cursor.start bytes)

/-- Reads a document: first as a brace-less object, then, if that is refused, as any value. -/
def readDocument (text : String) : Except Stop Node :=
  let bytes := textBytes text
  match readWhole bytes .root with
  | .ok v => .ok v
  | .error (.abort r) => .error (.abort r)
  | .error (.refused _ _) => readWhole bytes .value

mutual

/-- An Hjson value as a configuration value. -/
def nodeValue (uri : Origin) : Node → Value
  | .null => .leaf uri .nil
  | .bool b => .leaf uri (.bool b)
  | .float f => .leaf uri (.float f)
  | .str s => .leaf uri (.str s)
  | .arr items => .array uri (nodeValues uri items)
  | .obj entries => .table uri (objEntries uri entries [])

/-- Array items as configuration values. -/
def nodeValues (uri : Origin) : List Node → List Value
  | [] => []
  | n :: rest => nodeValue uri n :: nodeValues uri rest

/-- Object entries as configuration entries with lowercased keys. -/
def objEntries (uri : Origin) : List (String × Node) → Entries → Entries
  | [], acc => acc
  | e :: rest, acc => objEntries uri rest (setEntry acc (Text.lowercase e.1) (entryValue uri e))

/-- One entry's value. -/
def entryValue (uri : Origin) : String × Node → Value
  | (_, n) => nodeValue uri n

end

/-- Reads an Hjson document into configuration entries. -/
def readHjson (uri : Origin) (text : String) : Except ConfigError Entries :=
  match readDocument text with
  | .error (.abort r) => .error (.abort r)
  | .error (.refused f place) => .error (.parse uri (refusalText f place))
  | .ok root =>
    match nodeValue uri root with
    | .table _ entries => .ok entries
    | _ => .ok []

end MetricRing.Config.Hjson
