/-!
# TOML tokens

The lexical layer of the TOML reader: a cursor over the characters of the document that knows
its byte offset, and the tokens it reads. A carriage return directly before a line feed reads
as one line feed. Tokens are blanks, line feeds, comments, the punctuation
`= . , : + { } [ ]`, bare words of ASCII letters, digits, `-` and `_`, and strings: basic
(`"…"`, with escapes), literal (`'…'`), and their three-quote multi-line forms.

Every error carries the byte offset where it was found; the reader turns offsets into line
numbers only when it prints the error.
-/

namespace MetricRing.Config.Toml

/-- A TOML error: its description, the keys of the tables it was found in (outermost first),
and the byte offset it was found at, if known. -/
structure TomlError where
  message : String
  keys : List String
  offset : Option Nat
deriving DecidableEq, Repr

/-- An error at a byte offset. -/
def TomlError.located (offset : Nat) (message : String) : TomlError := ⟨message, [], some offset⟩

/-- An error with no place, such as a repeated key found while assembling tables. -/
def TomlError.unplaced (message : String) : TomlError := ⟨message, [], none⟩

/-- The lowercase hexadecimal digits of a number. -/
def hexDigits (n : Nat) : String := String.ofList (Nat.toDigits 16 n)

/-- A character as an escape-everything writer shows it: ASCII printables as themselves, the
usual backslash escapes, and `\u` with braces around hexadecimal digits for the rest. -/
def escapeDefault (c : Char) : String :=
  let n := c.toNat
  if c == '\t' then "\\t"
  else if c == '\r' then "\\r"
  else if c == '\n' then "\\n"
  else if n == 39 then "\\" ++ (Char.ofNat 39).toString
  else if c == '"' then "\\\""
  else if c == '\\' then "\\\\"
  else if 0x20 ≤ n && n ≤ 0x7e then c.toString
  else "\\u\x7b" ++ hexDigits n ++ "\x7d"

/-- Characters still to read and the byte offset of the first of them. -/
structure Cursor where
  rest : List Char
  pos : Nat

namespace Cursor

/-- The next character with its offset, a carriage return and line feed read as one line
feed. -/
def one (c : Cursor) : Option (Nat × Char × Cursor) :=
  match c.rest with
  | '\r' :: '\n' :: t => some (c.pos, '\n', ⟨t, c.pos + 2⟩)
  | ch :: t => some (c.pos, ch, ⟨t, c.pos + ch.utf8Size⟩)
  | [] => none

/-- The cursor past the next character if it is `ch`. -/
def eatc (c : Cursor) (ch : Char) : Option Cursor :=
  match c.one with
  | some (_, x, c') => if x == ch then some c' else none
  | none => none

/-- Skips characters while they satisfy `p`. -/
def skipWhile (p : Char → Bool) : Cursor → Cursor
  | ⟨[], pos⟩ => ⟨[], pos⟩
  | ⟨ch :: t, pos⟩ =>
    if ch == '\r' && t.head? == some '\n' then
      if p '\n' then skipWhile p ⟨t.drop 1, pos + 2⟩ else ⟨ch :: t, pos⟩
    else if p ch then skipWhile p ⟨t, pos + ch.utf8Size⟩ else ⟨ch :: t, pos⟩
termination_by c => c.rest.length
decreasing_by
  · simp only [List.length_cons, List.length_drop]; omega
  · simp only [List.length_cons]; omega

/-- Skips blanks: spaces and tabs. -/
def skipBlanks (c : Cursor) : Cursor := c.skipWhile fun ch => ch == ' ' || ch == '\t'

/-- Skips the rest of a line, line feed included. -/
def skipLine (c : Cursor) : Cursor :=
  let c := c.skipWhile (· != '\n')
  match c.one with
  | some (_, _, c') => c'
  | none => c

end Cursor

/-- A TOML token. -/
inductive Token where
  | whitespace
  | newline
  | comment
  | equals
  | period
  | comma
  | colon
  | plus
  | leftBrace
  | rightBrace
  | leftBracket
  | rightBracket
  | keylike (s : String)
  /-- A string: its source text, its value, and whether it was multi-line. -/
  | str (src : String) (val : String) (multiline : Bool)
deriving DecidableEq, Repr

namespace Token

/-- How an error names the token. -/
def describe : Token → String
  | whitespace => "whitespace"
  | newline => "a newline"
  | comment => "a comment"
  | equals => "an equals"
  | period => "a period"
  | comma => "a comma"
  | colon => "a colon"
  | plus => "a plus"
  | leftBrace => "a left brace"
  | rightBrace => "a right brace"
  | leftBracket => "a left bracket"
  | rightBracket => "a right bracket"
  | keylike _ => "an identifier"
  | str _ _ multiline => if multiline then "a multiline string" else "a string"

end Token

/-- A character of a bare word. -/
def isKeylike (c : Char) : Bool :=
  ('A' ≤ c && c ≤ 'Z') || ('a' ≤ c && c ≤ 'z') || ('0' ≤ c && c ≤ '9') || c == '-' || c == '_'

/-- A character allowed in a string: tab, or not a control character. -/
def isStringChar (c : Char) : Bool :=
  c == '\t' || (0x20 ≤ c.toNat && c.toNat != 0x7f)

/-- A character allowed in a comment: tab, or anything from the space up. -/
def isCommentChar (c : Char) : Bool := c == '\t' || 0x20 ≤ c.toNat

/-- A string being read: its characters so far, newest first, and whether it is still a plain
slice of the source (no escape or folded line ending seen yet). -/
structure StringBuf where
  acc : List Char
  raw : Bool

/-- Adds one character the string's value gets. -/
def StringBuf.push (b : StringBuf) (c : Char) : StringBuf := { b with acc := c :: b.acc }

/-- The value of four or eight hexadecimal digits of an escape. -/
def readHexEscape (start uAt : Nat) : Nat → Nat → Cursor → Except TomlError (Char × Cursor)
  | 0, v, c =>
    if v < 0xD800 || (0xDFFF < v && v ≤ 0x10FFFF) then .ok (Char.ofNat v, c)
    else .error (.located uAt ("invalid escape value: `" ++ toString v ++ "`"))
  | k + 1, v, c =>
    match c.one with
    | none => .error (.located start "unterminated string")
    | some (i, ch, c') =>
      let n := ch.toNat
      let d := if '0' ≤ ch && ch ≤ '9' then some (n - 48)
        else if 'a' ≤ ch && ch ≤ 'f' then some (n - 87)
        else if 'A' ≤ ch && ch ≤ 'F' then some (n - 55) else none
      match d with
      | some d => readHexEscape start uAt k (v * 16 + d) c'
      | none =>
        .error (.located i ("invalid hex escape character in string: `" ++ escapeDefault ch ++ "`"))

/-- Skips the blank characters and line feeds after a line-ending backslash, which must be
followed by a line feed when it was followed by a blank. -/
def skipLineEnding (i : Nat) (c0 : Char) (c : Cursor) : Except TomlError Cursor :=
  let afterBlanks := c.skipWhile fun ch => ch == ' ' || ch == '\t'
  let checked : Except TomlError Cursor :=
    if c0 == '\n' then .ok c
    else match afterBlanks.one with
      | some (_, '\n', c') => .ok c'
      | some _ => .error (.located i ("invalid escape character in string: `" ++ escapeDefault c0 ++ "`"))
      | none => .ok afterBlanks
  checked.map fun c => c.skipWhile fun ch => ch == ' ' || ch == '\t' || ch == '\n'

/-- Reads an escape after its backslash in a basic string that started at `start`. -/
def readEscape (start : Nat) (multiline : Bool) (b : StringBuf) (c : Cursor) :
    Except TomlError (StringBuf × Cursor) :=
  let b := { b with raw := false }
  match c.one with
  | none => .error (.located start "unterminated string")
  | some (i, ch, c') =>
    if ch == '"' then .ok (b.push '"', c')
    else if ch == '\\' then .ok (b.push '\\', c')
    else if ch == 'b' then .ok (b.push (Char.ofNat 8), c')
    else if ch == 'f' then .ok (b.push (Char.ofNat 12), c')
    else if ch == 'n' then .ok (b.push '\n', c')
    else if ch == 'r' then .ok (b.push '\r', c')
    else if ch == 't' then .ok (b.push '\t', c')
    else if ch == 'u' || ch == 'U' then
      (readHexEscape start i (if ch == 'u' then 4 else 8) 0 c').map fun (x, c2) => (b.push x, c2)
    else if multiline && (ch == ' ' || ch == '\t' || ch == '\n') then
      (skipLineEnding i ch c').map fun c2 => (b, c2)
    else .error (.located i ("invalid escape character in string: `" ++ escapeDefault ch ++ "`"))

/-- Reads the body of a string after its opening quotes, up to and including the closing
quotes; `fuel` bounds the characters read. -/
def readBody (delim : Char) (basic multiline : Bool) (start : Nat) :
    Nat → Bool → StringBuf → Cursor → Except TomlError (String × Cursor)
  | 0, _, _, _ => .error (.located start "unterminated string")
  | fuel + 1, first, b, c =>
    match c.one with
    | none => .error (.located start "unterminated string")
    | some (i, ch, c') =>
      if ch == '\n' then
        if multiline then
          let folded := c.rest.head? == some '\r'
          let b := if folded then { b with raw := false } else b
          if first then readBody delim basic multiline start fuel false ⟨[], true⟩ c'
          else readBody delim basic multiline start fuel false (b.push '\n') c'
        else .error (.located i "newline in string found")
      else if ch == delim then
        if multiline then
          match c'.eatc delim with
          | none => readBody delim basic multiline start fuel false (b.push delim) c'
          | some c2 =>
            match c2.eatc delim with
            | none =>
              let b := if b.raw then (b.push delim).push delim else b.push delim
              readBody delim basic multiline start fuel false b c2
            | some c3 => .ok (String.ofList b.acc.reverse, c3)
        else .ok (String.ofList b.acc.reverse, c')
      else if basic && ch == '\\' then
        match readEscape start multiline b c' with
        | .ok (b2, c2) => readBody delim basic multiline start fuel false b2 c2
        | .error e => .error e
      else if isStringChar ch then readBody delim basic multiline start fuel false (b.push ch) c'
      else .error (.located i ("invalid character in string: `" ++ escapeDefault ch ++ "`"))

/-- Reads a string whose opening quote at `start` has been consumed. -/
def readString (delim : Char) (start : Nat) (c : Cursor) : Except TomlError (Token × Cursor) :=
  let basic := delim == '"'
  let fuel := c.rest.length + 1
  let source (c2 : Cursor) : String := String.ofList (c.rest.take (c.rest.length - c2.rest.length))
  match c.eatc delim with
  | some c1 =>
    match c1.eatc delim with
    | some c2 =>
      (readBody delim basic true start fuel true ⟨[], true⟩ c2).map fun (v, c3) =>
        (.str (delim.toString ++ source c3) v true, c3)
    | none => .ok (.str (delim.toString ++ delim.toString) "" false, c1)
  | none =>
    (readBody delim basic false start fuel true ⟨[], true⟩ c).map fun (v, c3) =>
      (.str (delim.toString ++ source c3) v false, c3)

/-- Reads the next token: its start offset, the token and the cursor after it; `none` at the
end of the input. -/
def nextToken (c : Cursor) : Except TomlError (Option (Nat × Token × Cursor)) :=
  match c.one with
  | none => .ok none
  | some (start, ch, c') =>
    let simple (t : Token) : Except TomlError (Option (Nat × Token × Cursor)) :=
      .ok (some (start, t, c'))
    if ch == '\n' then simple .newline
    else if ch == ' ' || ch == '\t' then .ok (some (start, .whitespace, c'.skipBlanks))
    else if ch == '#' then .ok (some (start, .comment, c'.skipWhile isCommentChar))
    else if ch == '=' then simple .equals
    else if ch == '.' then simple .period
    else if ch == ',' then simple .comma
    else if ch == ':' then simple .colon
    else if ch == '+' then simple .plus
    else if ch == '\x7b' then simple .leftBrace
    else if ch == '\x7d' then simple .rightBrace
    else if ch == '[' then simple .leftBracket
    else if ch == ']' then simple .rightBracket
    else if ch.toNat == 39 || ch == '"' then
      (readString ch start c').map fun (t, c2) => some (start, t, c2)
    else if isKeylike ch then
      let word := c'.rest.takeWhile isKeylike
      .ok (some (start, .keylike (String.ofList (ch :: word)),
        ⟨c'.rest.drop word.length, c'.pos + word.length⟩))
    else .error (.located start ("unexpected character found: `" ++ escapeDefault ch ++ "`"))

end MetricRing.Config.Toml
