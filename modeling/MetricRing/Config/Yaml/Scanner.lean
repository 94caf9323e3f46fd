/-!
# YAML tokens

The first stage of reading YAML: the text becomes a stream of tokens, each with the place it
starts at. The scanner is pulled one token at a time (`Scanner.next`), because a token may only
be known once later text has been read: a scalar followed by `:` turns out to have been a key,
and a `key` token (with a `block mapping start` before it when the key opens a new
indentation level) is then inserted in front of it. Such a possible key is remembered until
the line ends, 1024 characters pass, or something else settles it.

Block structure comes from indentation: a sequence entry `- ` or a key at a column deeper
than the current indentation opens a block collection, and going back to a shallower column
closes them with `block end` tokens. Inside `[...]` and `{...}` indentation does not count.

Scalars come in five styles: plain, single quoted (with `''` for a quote), double quoted (with
backslash escapes), literal `|` and folded `>` block scalars (with chomping `+`/`-` and an
explicit indentation digit). Line breaks inside flow and plain scalars fold to spaces, empty
lines to line breaks.

Errors carry the place they were found at and read `<what> at line <l> column <c>`, lines
and columns counted from 1.
-/

namespace MetricRing.Config.Yaml

/-- A place in the text: the characters before it, its line (from 1) and column (from 0). -/
structure Mark where
  index : Nat
  line : Nat
  col : Nat
deriving DecidableEq, Repr, Inhabited

/-- A reading error: where it was found and what was wrong. -/
structure ScanError where
  mark : Mark
  info : String
deriving DecidableEq, Repr

/-- The error's text, with its line and its column counted from 1. -/
def ScanError.text (e : ScanError) : String :=
  e.info ++ " at line " ++ toString e.mark.line ++ " column " ++ toString (e.mark.col + 1)

/-- How a scalar was written. -/
inductive ScalarStyle where
  | plain
  | singleQuoted
  | doubleQuoted
  | literal
  | folded
deriving DecidableEq, Repr

/-- What a token is. -/
inductive TokenKind where
  | streamStart
  | streamEnd
  | versionDirective (major minor : Nat)
  | tagDirective (handle pfx : String)
  | documentStart
  | documentEnd
  | blockSequenceStart
  | blockMappingStart
  | blockEnd
  | flowSequenceStart
  | flowSequenceEnd
  | flowMappingStart
  | flowMappingEnd
  | blockEntry
  | flowEntry
  | key
  | value
  | alias (name : String)
  | anchor (name : String)
  | tag (handle suffix : String)
  | scalar (style : ScalarStyle) (text : String)
deriving DecidableEq, Repr

/-- A token and the place it starts at. -/
structure Token where
  mark : Mark
  kind : TokenKind
deriving DecidableEq, Repr

/-- A scalar or collection start that may turn out to be a key: whether it still may, whether
it must (an error otherwise), the number of the token it would precede, and where it is. -/
structure SimpleKey where
  possible : Bool
  required : Bool
  tokenNumber : Nat
  mark : Mark
deriving DecidableEq, Repr

/-- A possible key that is not possible. -/
def SimpleKey.unset : SimpleKey := ⟨false, false, 0, ⟨0, 0, 0⟩⟩

/-- The scanner's state: the text and the place reached, the tokens found but not yet handed
out, the possible keys (one per flow level, innermost first), the indentation levels
(innermost first), the flow nesting depth and how many tokens were handed out. -/
structure Scanner where
  input : Array Char
  mark : Mark
  tokens : List Token
  streamStartProduced : Bool
  streamEndProduced : Bool
  adjacentValueAllowedAt : Nat
  simpleKeyAllowed : Bool
  simpleKeys : List SimpleKey
  indent : Int
  indents : List Int
  flowLevel : Nat
  tokensParsed : Nat
  tokenAvailable : Bool

/-- A scanner at the start of a text. -/
def Scanner.start (text : String) : Scanner :=
  { input := text.toList.toArray, mark := ⟨0, 1, 0⟩, tokens := [], streamStartProduced := false,
    streamEndProduced := false, adjacentValueAllowedAt := 0, simpleKeyAllowed := true,
    simpleKeys := [], indent := -1, indents := [], flowLevel := 0, tokensParsed := 0,
    tokenAvailable := false }

/-- The character `k` places ahead, NUL past the end. -/
def Scanner.charAt (s : Scanner) (k : Nat) : Char := s.input.getD (s.mark.index + k) '\x00'

/-- The innermost possible key. -/
def Scanner.topKey (s : Scanner) : SimpleKey := s.simpleKeys.headD SimpleKey.unset

/-- Scanning with an error. -/
abbrev ScanM := StateT Scanner (Except ScanError)

/-- The end of the text. -/
def isZ (c : Char) : Bool := c == '\x00'

/-- A line break. -/
def isBreak (c : Char) : Bool := c == '\n' || c == '\r'

/-- A line break or the end. -/
def isBreakz (c : Char) : Bool := isBreak c || isZ c

/-- A space or a tab. -/
def isBlank (c : Char) : Bool := c == ' ' || c == '\t'

/-- A space, a tab, a line break or the end. -/
def isBlankz (c : Char) : Bool := isBlank c || isBreakz c

/-- A decimal digit. -/
def isDigit (c : Char) : Bool := '0' ≤ c && c ≤ '9'

/-- A character of anchor names, tag handles and directive names: ASCII letters and digits,
`_` and `-`. -/
def isAlpha (c : Char) : Bool :=
  ('0' ≤ c && c ≤ '9') || ('a' ≤ c && c ≤ 'z') || ('A' ≤ c && c ≤ 'Z') || c == '_' || c == '-'

/-- A hexadecimal digit. -/
def isHex (c : Char) : Bool :=
  ('0' ≤ c && c ≤ '9') || ('a' ≤ c && c ≤ 'f') || ('A' ≤ c && c ≤ 'F')

/-- The value of a hexadecimal digit. -/
def asHex (c : Char) : Nat :=
  if '0' ≤ c && c ≤ '9' then c.toNat - 48
  else if 'a' ≤ c && c ≤ 'f' then c.toNat - 87
  else if 'A' ≤ c && c ≤ 'F' then c.toNat - 55
  else 0

/-- A flow indicator: `,`, `[`, `]`, `{` or `}`. -/
def isFlow (c : Char) : Bool :=
  c == ',' || c == '[' || c == ']' || c == '\x7b' || c == '\x7d'

/-- The character with a code point, if it is one. -/
def charOfCode (n : Nat) : Option Char :=
  if n.isValidChar then some (Char.ofNat n) else none

namespace Scan

/-- Fails at a place. -/
def fail {α : Type} (mark : Mark) (info : String) : ScanM α := throw ⟨mark, info⟩

/-- The character `k` places ahead. -/
def ahead (k : Nat) : ScanM Char := return (← get).charAt k

/-- The current character. -/
def ch : ScanM Char := ahead 0

/-- The current place. -/
def here : ScanM Mark := return (← get).mark

/-- A bound on the steps of any loop over the rest of the text. -/
def budget : ScanM Nat := return (← get).input.size + 4

/-- Moves past the current character. -/
def skip : ScanM Unit := modify fun s =>
  let m := s.mark
  { s with mark := if s.charAt 0 == '\n' then ⟨m.index + 1, m.line + 1, 0⟩
      else ⟨m.index + 1, m.line, m.col + 1⟩ }

/-- Moves past a line break, `\r\n` counting as one. -/
def skipLine : ScanM Unit := do
  if (← ahead 0) == '\r' && (← ahead 1) == '\n' then
    skip
    skip
  else if isBreak (← ahead 0) then skip

/-- Reads a line break, giving `\n`. -/
def readBreak : ScanM String := do
  if (← ahead 0) == '\r' && (← ahead 1) == '\n' then
    skip
    skip
    pure "\n"
  else if isBreak (← ahead 0) then
    skip
    pure "\n"
  else pure ""

/-- Moves past characters while they satisfy `p`. -/
def skipWhile (p : Char → Bool) : ScanM Unit := do
  for _ in [0:(← budget)] do
    if p (← ch) then skip else break

/-- Reads characters while they satisfy `p`. -/
def takeWhile (p : Char → Bool) : ScanM String := do
  let mut out := ""
  for _ in [0:(← budget)] do
    let c ← ch
    if p c then
      out := out.push c
      skip
    else break
  pure out

/-- Appends a token. -/
def pushToken (t : Token) : ScanM Unit := modify fun s => { s with tokens := s.tokens ++ [t] }

/-- Inserts a token at a position of the waiting tokens. -/
def insertToken (pos : Nat) (t : Token) : ScanM Unit :=
  modify fun s => { s with tokens := s.tokens.take pos ++ t :: s.tokens.drop pos }

/-- Keys may start here. -/
def allowSimpleKey : ScanM Unit := modify fun s => { s with simpleKeyAllowed := true }

/-- Keys may not start here. -/
def disallowSimpleKey : ScanM Unit := modify fun s => { s with simpleKeyAllowed := false }

/-- Replaces the innermost possible key. -/
def setTopKey (k : SimpleKey) : ScanM Unit :=
  modify fun s => { s with simpleKeys := match s.simpleKeys with
    | [] => []
    | _ :: rest => k :: rest }

/-- Drops the innermost possible key; a required one is an error. -/
def removeSimpleKey : ScanM Unit := do
  let s ← get
  let k := s.topKey
  if k.possible && k.required then fail s.mark "simple key expected"
  setTopKey { k with possible := false }

/-- Remembers that what starts here may be a key. -/
def saveSimpleKey : ScanM Unit := do
  let s ← get
  let required := s.flowLevel > 0 && s.indent == (s.mark.col : Int)
  if s.simpleKeyAllowed then
    let sk : SimpleKey := ⟨true, required, s.tokensParsed + s.tokens.length, s.mark⟩
    removeSimpleKey
    modify fun s => { s with simpleKeys := match s.simpleKeys with
      | [] => [sk]
      | _ :: rest => sk :: rest }

/-- Possible keys from an earlier line or more than 1024 characters back are keys no more; a
required one is an error. -/
def staleSimpleKeys : ScanM Unit := do
  let s ← get
  let stale (k : SimpleKey) : Bool :=
    k.possible && (k.mark.line < s.mark.line || k.mark.index + 1024 < s.mark.index)
  if s.simpleKeys.any fun k => stale k && k.required then fail s.mark "simple key expect ':'"
  set { s with simpleKeys := s.simpleKeys.map fun k => if stale k then { k with possible := false } else k }

/-- Opens an indentation level at `col` if it is deeper than the current one, with a token
placed at the token number `number` (or appended). Nothing happens inside flow collections. -/
def rollIndent (col : Nat) (number : Option Nat) (kind : TokenKind) (mark : Mark) : ScanM Unit := do
  let s ← get
  if s.flowLevel == 0 && s.indent < (col : Int) then
    set { s with indents := s.indent :: s.indents, indent := col }
    match number with
    | some n => insertToken (n - s.tokensParsed) ⟨mark, kind⟩
    | none => pushToken ⟨mark, kind⟩

/-- Closes the indentation levels deeper than `col`, a `block end` token each. -/
def unrollIndent (col : Int) : ScanM Unit :=
  modify fun s =>
    if s.flowLevel > 0 then s
    else
      let rec go : Int → List Int → List Token → Int × List Int × List Token
        | indent, i :: rest, acc =>
          if indent > col then go i rest (acc ++ [⟨s.mark, .blockEnd⟩]) else (indent, i :: rest, acc)
        | indent, [], acc => (indent, [], acc)
      let (indent, indents, ends) := go s.indent s.indents []
      { s with indent, indents, tokens := s.tokens ++ ends }

/-- Moves past blanks, line breaks and comments up to the next token. A tab counts as a blank
only where no key may start or inside flow collections. -/
def skipToNextToken : ScanM Unit := do
  for _ in [0:(← budget)] do
    let s ← get
    let c := s.charAt 0
    if c == ' ' then skip
    else if c == '\t' && (s.flowLevel > 0 || !s.simpleKeyAllowed) then skip
    else if isBreak c then
      skipLine
      if s.flowLevel == 0 then allowSimpleKey
    else if c == '#' then skipWhile fun c => !isBreakz c
    else break

/-- The stream start token. -/
def fetchStreamStart : ScanM Unit := modify fun s =>
  { s with indent := -1, streamStartProduced := true, simpleKeyAllowed := true,
           tokens := s.tokens ++ [⟨s.mark, .streamStart⟩],
           simpleKeys := SimpleKey.unset :: s.simpleKeys }

/-- The stream end token, on a line of its own; every indentation level closes. -/
def fetchStreamEnd : ScanM Unit := do
  modify fun s => if s.mark.col != 0 then { s with mark := { s.mark with col := 0, line := s.mark.line + 1 } } else s
  unrollIndent (-1)
  removeSimpleKey
  disallowSimpleKey
  pushToken ⟨(← here), .streamEnd⟩

/-- Reads a directive's name. -/
def scanDirectiveName : ScanM String := do
  let start ← here
  let name ← takeWhile isAlpha
  if name.isEmpty then fail start "while scanning a directive, could not find expected directive name"
  if !isBlankz (← ch) then
    fail start "while scanning a directive, found unexpected non-alphabetical character"
  pure name

/-- Reads one number of a `%YAML` version. -/
def scanVersionDirectiveNumber (mark : Mark) : ScanM Nat := do
  let mut value := 0
  let mut length := 0
  for _ in [0:(← budget)] do
    let c ← ch
    if !isDigit c then break
    if length + 1 > 9 then
      fail mark "while scanning a YAML directive, found extremely long version number"
    length := length + 1
    value := value * 10 + (c.toNat - 48)
    skip
  if length == 0 then fail mark "while scanning a YAML directive, did not find expected version number"
  pure value

/-- Reads the value of a `%YAML` directive. -/
def scanVersionDirectiveValue (mark : Mark) : ScanM Token := do
  skipWhile isBlank
  let major ← scanVersionDirectiveNumber mark
  if (← ch) != '.' then
    fail mark "while scanning a YAML directive, did not find expected digit or '.' character"
  skip
  let minor ← scanVersionDirectiveNumber mark
  pure ⟨mark, .versionDirective major minor⟩

/-- Reads a tag handle: `!`, `!!` or `!name!`. -/
def scanTagHandle (directive : Bool) (mark : Mark) : ScanM String := do
  if (← ch) != '!' then fail mark "while scanning a tag, did not find expected '!'"
  skip
  let mut handle := "!" ++ (← takeWhile isAlpha)
  if (← ch) == '!' then
    handle := handle.push '!'
    skip
  else if directive && handle != "!" then
    fail mark "while parsing a tag directive, did not find expected '!'"
  pure handle

/-- A character that may appear in a tag URI. -/
def isUriChar (c : Char) : Bool :=
  ";/?:@&=+$,.!~*'()[]%".toList.contains c || isAlpha c

/-- Reads a `%XX` escaped UTF-8 sequence of a tag URI; the octets are joined into one code,
which must be a character. -/
def scanUriEscapes (mark : Mark) : ScanM Char := do
  let mut width := 0
  let mut code := 0
  for _ in [0:(← budget)] do
    let c0 ← ahead 0
    let c1 ← ahead 1
    let c2 ← ahead 2
    if !(c0 == '%' && isHex c1 && isHex c2) then
      fail mark "while parsing a tag, did not find URI escaped octet"
    let octet := asHex c1 * 16 + asHex c2
    if width == 0 then
      width ← if octet &&& 0x80 == 0 then pure 1
        else if octet &&& 0xE0 == 0xC0 then pure 2
        else if octet &&& 0xF0 == 0xE0 then pure 3
        else if octet &&& 0xF8 == 0xF0 then pure 4
        else fail mark "while parsing a tag, found an incorrect leading UTF-8 octet"
      code := octet
    else
      if octet &&& 0xC0 != 0x80 then
        fail mark "while parsing a tag, found an incorrect trailing UTF-8 octet"
      code := code * 256 + octet
    skip
    skip
    skip
    width := width - 1
    if width == 0 then break
  match charOfCode code with
  | some c => pure c
  | none => fail mark "while parsing a tag, found an invalid UTF-8 codepoint"

/-- Reads a tag URI, after `head` (whose first character is dropped). -/
def scanTagUri (head : String) (mark : Mark) : ScanM String := do
  let mut length := head.length
  let mut out := if length > 1 then String.ofList (head.toList.drop 1) else ""
  for _ in [0:(← budget)] do
    let c ← ch
    if !isUriChar c then break
    if c == '%' then out := out.push (← scanUriEscapes mark)
    else
      out := out.push c
      skip
    length := length + 1
  if length == 0 then fail mark "while parsing a tag, did not find expected tag URI"
  pure out

/-- Reads the value of a `%TAG` directive. -/
def scanTagDirectiveValue (mark : Mark) : ScanM Token := do
  skipWhile isBlank
  let handle ← scanTagHandle true mark
  skipWhile isBlank
  let pfx ← scanTagUri "" mark
  if isBlankz (← ch) then pure ⟨mark, .tagDirective handle pfx⟩
  else fail mark "while scanning TAG, did not find expected whitespace or line break"

/-- Reads a directive line; an unknown directive is skipped. -/
def scanDirective : ScanM Token := do
  let start ← here
  skip
  let name ← scanDirectiveName
  let tok ← match name with
    | "YAML" => scanVersionDirectiveValue start
    | "TAG" => scanTagDirectiveValue start
    | _ => do
      skipWhile fun c => !isBreakz c
      pure ⟨start, .tagDirective "" ""⟩
  skipWhile isBlank
  if (← ch) == '#' then skipWhile fun c => !isBreakz c
  if !isBreakz (← ch) then
    fail start "while scanning a directive, did not find expected comment or line break"
  if isBreak (← ch) then skipLine
  pure tok

/-- A directive. -/
def fetchDirective : ScanM Unit := do
  unrollIndent (-1)
  removeSimpleKey
  disallowSimpleKey
  pushToken (← scanDirective)

/-- A `---` or `...` document marker. -/
def fetchDocumentIndicator (kind : TokenKind) : ScanM Unit := do
  unrollIndent (-1)
  removeSimpleKey
  disallowSimpleKey
  let m ← here
  skip
  skip
  skip
  pushToken ⟨m, kind⟩

/-- One more level of flow nesting, at most 255. -/
def increaseFlowLevel : ScanM Unit := do
  modify fun s => { s with simpleKeys := SimpleKey.unset :: s.simpleKeys }
  let s ← get
  if s.flowLevel ≥ 255 then fail s.mark "recursion limit exceeded"
  set { s with flowLevel := s.flowLevel + 1 }

/-- One level of flow nesting less. -/
def decreaseFlowLevel : ScanM Unit := modify fun s =>
  if s.flowLevel > 0 then { s with flowLevel := s.flowLevel - 1, simpleKeys := s.simpleKeys.drop 1 }
  else s

/-- A `[` or `{`. -/
def fetchFlowCollectionStart (kind : TokenKind) : ScanM Unit := do
  saveSimpleKey
  increaseFlowLevel
  allowSimpleKey
  let m ← here
  skip
  pushToken ⟨m, kind⟩

/-- A `]` or `}`. -/
def fetchFlowCollectionEnd (kind : TokenKind) : ScanM Unit := do
  removeSimpleKey
  decreaseFlowLevel
  disallowSimpleKey
  let m ← here
  skip
  pushToken ⟨m, kind⟩

/-- A `,`. -/
def fetchFlowEntry : ScanM Unit := do
  removeSimpleKey
  allowSimpleKey
  let m ← here
  skip
  pushToken ⟨m, .flowEntry⟩

/-- A `- ` sequence entry, opening a block sequence at a deeper column. -/
def fetchBlockEntry : ScanM Unit := do
  let s ← get
  if s.flowLevel == 0 then
    if !s.simpleKeyAllowed then
      fail s.mark "block sequence entries are not allowed in this context"
    rollIndent s.mark.col none .blockSequenceStart s.mark
  else fail s.mark "\"-\" is only valid inside a block"
  removeSimpleKey
  allowSimpleKey
  let m ← here
  skip
  pushToken ⟨m, .blockEntry⟩

/-- Moves past the spaces and empty lines before a block scalar's next content line, and fixes
its indentation from the deepest of them when it was not given. -/
def blockScalarBreaks (indent : Nat) (breaks : String) : ScanM (Nat × String) := do
  let mut indent := indent
  let mut breaks := breaks
  let mut maxIndent := 0
  let n ← budget
  for _ in [0:n] do
    for _ in [0:n] do
      if (indent == 0 || (← here).col < indent) && (← ch) == ' ' then skip else break
    let col := (← here).col
    if col > maxIndent then maxIndent := col
    if (indent == 0 || col < indent) && (← ch) == '\t' then
      fail (← here) "while scanning a block scalar, found a tab character where an indentation space is expected"
    if !isBreak (← ch) then break
    breaks := breaks ++ (← readBreak)
  if indent == 0 then
    indent := maxIndent
    let si := (← get).indent
    if (indent : Int) < si + 1 then indent := (si + 1).toNat
    if indent < 1 then indent := 1
  pure (indent, breaks)

/-- Reads a literal (`|`) or folded (`>`) block scalar. -/
def scanBlockScalar (literal : Bool) : ScanM Token := do
  let start ← here
  let mut chomping : Int := 0
  let mut increment := 0
  let mut indent := 0
  let mut leadingBlank := false
  let mut out := ""
  let mut leadingBreak := ""
  let mut trailingBreaks := ""
  skip
  let c ← ch
  if c == '+' || c == '-' then
    chomping := if c == '+' then 1 else -1
    skip
    let d ← ch
    if isDigit d then
      if d == '0' then
        fail start "while scanning a block scalar, found an indentation indicator equal to 0"
      increment := d.toNat - 48
      skip
  else if isDigit c then
    if c == '0' then
      fail start "while scanning a block scalar, found an indentation indicator equal to 0"
    increment := c.toNat - 48
    skip
    let e ← ch
    if e == '+' || e == '-' then
      chomping := if e == '+' then 1 else -1
      skip
  skipWhile isBlank
  if (← ch) == '#' then skipWhile fun c => !isBreakz c
  if !isBreakz (← ch) then
    fail start "while scanning a block scalar, did not find expected comment or line break"
  if isBreak (← ch) then skipLine
  if increment > 0 then
    let si := (← get).indent
    indent := if si ≥ 0 then (si + increment).toNat else increment
  let (i, tb) ← blockScalarBreaks indent trailingBreaks
  indent := i
  trailingBreaks := tb
  let contentStart ← here
  let n ← budget
  for _ in [0:n] do
    if !((← here).col == indent && !isZ (← ch)) then break
    let trailingBlank := isBlank (← ch)
    if !literal && !leadingBreak.isEmpty && !leadingBlank && !trailingBlank then
      if trailingBreaks.isEmpty then out := out.push ' '
      leadingBreak := ""
    else
      out := out ++ leadingBreak
      leadingBreak := ""
    out := out ++ trailingBreaks
    trailingBreaks := ""
    leadingBlank := isBlank (← ch)
    out := out ++ (← takeWhile fun c => !isBreakz c)
    if isZ (← ch) then break
    leadingBreak := leadingBreak ++ (← readBreak)
    let (i, tb) ← blockScalarBreaks indent trailingBreaks
    indent := i
    trailingBreaks := tb
  if chomping != -1 then out := out ++ leadingBreak
  if chomping == 1 then out := out ++ trailingBreaks
  pure ⟨contentStart, .scalar (if literal then .literal else .folded) out⟩

/-- A block scalar. -/
def fetchBlockScalar (literal : Bool) : ScanM Unit := do
  saveSimpleKey
  allowSimpleKey
  pushToken (← scanBlockScalar literal)

/-- The character a double-quoted escape letter stands for, or the number of hexadecimal
digits of a code escape (`none` for an unknown escape). -/
def escapeOf (c : Char) : Option (Char ⊕ Nat) :=
  match c with
  | '0' => some (.inl '\x00')
  | 'a' => some (.inl '\x07')
  | 'b' => some (.inl '\x08')
  | 't' => some (.inl '\t')
  | '\t' => some (.inl '\t')
  | 'n' => some (.inl '\n')
  | 'v' => some (.inl '\x0b')
  | 'f' => some (.inl '\x0c')
  | 'r' => some (.inl '\r')
  | 'e' => some (.inl '\x1b')
  | ' ' => some (.inl ' ')
  | '"' => some (.inl '"')
  | '\'' => some (.inl '\'')
  | '\\' => some (.inl '\\')
  | 'N' => some (.inl '\u0085')
  | '_' => some (.inl ' ')
  | 'L' => some (.inl ' ')
  | 'P' => some (.inl ' ')
  | 'x' => some (.inr 2)
  | 'u' => some (.inr 4)
  | 'U' => some (.inr 8)
  | _ => none

/-- A `---` or `...` at the start of a line, followed by a blank or the end. -/
def atDocumentIndicator : ScanM Bool := do
  let c0 ← ahead 0
  let c1 ← ahead 1
  let c2 ← ahead 2
  let c3 ← ahead 3
  pure ((← here).col == 0 &&
    ((c0 == '-' && c1 == '-' && c2 == '-') || (c0 == '.' && c1 == '.' && c2 == '.')) && isBlankz c3)

/-- Reads a single- or double-quoted scalar. -/
def scanFlowScalar (single : Bool) : ScanM Token := do
  let start ← here
  let mut out := ""
  let mut leadingBreak := ""
  let mut trailingBreaks := ""
  let mut whitespaces := ""
  let mut leadingBlanks := false
  skip
  let n ← budget
  for _ in [0:n] do
    if ← atDocumentIndicator then
      fail start "while scanning a quoted scalar, found unexpected document indicator"
    if isZ (← ch) then fail start "while scanning a quoted scalar, found unexpected end of stream"
    leadingBlanks := false
    for _ in [0:n] do
      let c ← ch
      if isBlankz c then break
      let next ← ahead 1
      if c == '\'' && next == '\'' && single then
        out := out.push '\''
        skip
        skip
      else if c == '\'' && single then break
      else if c == '"' && !single then break
      else if c == '\\' && !single && isBreak next then
        skip
        skipLine
        leadingBlanks := true
        break
      else if c == '\\' && !single then
        match escapeOf next with
        | none => fail start "while parsing a quoted scalar, found unknown escape character"
        | some (.inl e) =>
          out := out.push e
          skip
          skip
        | some (.inr len) =>
          skip
          skip
          let mut value := 0
          for i in [0:len] do
            let d ← ahead i
            if !isHex d then
              fail start "while parsing a quoted scalar, did not find expected hexadecimal number"
            value := value * 16 + asHex d
          match charOfCode value with
          | some e => out := out.push e
          | none =>
            fail start "while parsing a quoted scalar, found invalid Unicode character escape code"
          for _ in [0:len] do skip
      else
        out := out.push c
        skip
    let c ← ch
    if (c == '\'' && single) || (c == '"' && !single) then break
    for _ in [0:n] do
      let c ← ch
      if !(isBlank c || isBreak c) then break
      if isBlank c then
        if !leadingBlanks then whitespaces := whitespaces.push c
        skip
      else if leadingBlanks then trailingBreaks := trailingBreaks ++ (← readBreak)
      else
        whitespaces := ""
        leadingBreak := leadingBreak ++ (← readBreak)
        leadingBlanks := true
    if leadingBlanks then
      if leadingBreak.isEmpty then
        out := out ++ leadingBreak ++ trailingBreaks
        trailingBreaks := ""
        leadingBreak := ""
      else
        if trailingBreaks.isEmpty then out := out.push ' '
        else
          out := out ++ trailingBreaks
          trailingBreaks := ""
        leadingBreak := ""
    else
      out := out ++ whitespaces
      whitespaces := ""
  skip
  pure ⟨start, .scalar (if single then .singleQuoted else .doubleQuoted) out⟩

/-- A quoted scalar; a value indicator may follow it directly inside a flow collection. -/
def fetchFlowScalar (single : Bool) : ScanM Unit := do
  saveSimpleKey
  disallowSimpleKey
  let t ← scanFlowScalar single
  modify fun s => { s with adjacentValueAllowedAt := s.mark.index }
  pushToken t

/-- Reads a plain scalar: it ends at `: ` (or `:` before a flow indicator inside flow
collections), at ` #`, at flow indicators inside flow collections, at a document marker, and
at a line less indented than the block it belongs to. -/
def scanPlainScalar : ScanM Token := do
  let s0 ← get
  let indent : Int := s0.indent + 1
  let start := s0.mark
  let mut out := ""
  let mut leadingBreak := ""
  let mut trailingBreaks := ""
  let mut whitespaces := ""
  let mut leadingBlanks := false
  let n ← budget
  for _ in [0:n] do
    if ← atDocumentIndicator then break
    if (← ch) == '#' then break
    for _ in [0:n] do
      let c ← ch
      if isBlankz c then break
      let next ← ahead 1
      let inFlow := (← get).flowLevel > 0
      if c == ':' && (isBlankz next || (inFlow && isFlow next)) then break
      if inFlow && isFlow c then break
      if leadingBlanks || !whitespaces.isEmpty then
        if leadingBlanks then
          if leadingBreak.isEmpty then
            out := out ++ leadingBreak ++ trailingBreaks
            trailingBreaks := ""
            leadingBreak := ""
          else
            if trailingBreaks.isEmpty then out := out.push ' '
            else
              out := out ++ trailingBreaks
              trailingBreaks := ""
            leadingBreak := ""
          leadingBlanks := false
        else
          out := out ++ whitespaces
          whitespaces := ""
      out := out.push c
      skip
    let c ← ch
    if !(isBlank c || isBreak c) then break
    for _ in [0:n] do
      let c ← ch
      if !(isBlank c || isBreak c) then break
      if isBlank c then
        if leadingBlanks && ((← here).col : Int) < indent && c == '\t' then
          fail start "while scanning a plain scalar, found a tab"
        if !leadingBlanks then whitespaces := whitespaces.push c
        skip
      else if leadingBlanks then trailingBreaks := trailingBreaks ++ (← readBreak)
      else
        whitespaces := ""
        leadingBreak := leadingBreak ++ (← readBreak)
        leadingBlanks := true
    if (← get).flowLevel == 0 && ((← here).col : Int) < indent then break
  if leadingBlanks then allowSimpleKey
  pure ⟨start, .scalar .plain out⟩

/-- A plain scalar. -/
def fetchPlainScalar : ScanM Unit := do
  saveSimpleKey
  disallowSimpleKey
  pushToken (← scanPlainScalar)

/-- A `? ` complex key indicator. -/
def fetchKey : ScanM Unit := do
  let s ← get
  let start := s.mark
  if s.flowLevel == 0 then
    if !s.simpleKeyAllowed then fail start "mapping keys are not allowed in this context"
    rollIndent start.col none .blockMappingStart start
  removeSimpleKey
  if (← get).flowLevel == 0 then allowSimpleKey else disallowSimpleKey
  skip
  pushToken ⟨start, .key⟩

/-- A `:` value indicator: the possible key before it becomes a key, opening a block mapping
at its column when deeper. -/
def fetchValue : ScanM Unit := do
  let s ← get
  let sk := s.topKey
  let start := s.mark
  if sk.possible then
    insertToken (sk.tokenNumber - s.tokensParsed) ⟨sk.mark, .key⟩
    rollIndent sk.mark.col (some sk.tokenNumber) .blockMappingStart start
    setTopKey { sk with possible := false }
    disallowSimpleKey
  else
    if s.flowLevel == 0 then
      if !s.simpleKeyAllowed then fail start "mapping values are not allowed in this context"
      rollIndent start.col none .blockMappingStart start
    if s.flowLevel == 0 then allowSimpleKey else disallowSimpleKey
  skip
  pushToken ⟨start, .value⟩

/-- Reads an anchor `&name` or alias `*name`. -/
def scanAnchor (isAlias : Bool) : ScanM Token := do
  let start ← here
  skip
  let name ← takeWhile isAlpha
  let c ← ch
  let ends := isBlankz c || ['?', ':', ',', ']', '\x7d', '%', '@', '\x60'].contains c
  if name.isEmpty || !ends then
    fail start "while scanning an anchor or alias, did not find expected alphabetic or numeric character"
  pure ⟨start, if isAlias then .alias name else .anchor name⟩

/-- An anchor or alias. -/
def fetchAnchor (isAlias : Bool) : ScanM Unit := do
  saveSimpleKey
  disallowSimpleKey
  pushToken (← scanAnchor isAlias)

/-- Reads a tag: `!<uri>`, `!suffix`, `!!suffix` or `!handle!suffix`. -/
def scanTag : ScanM Token := do
  let start ← here
  let (handle, suffix) ← if (← ahead 1) == '<' then do
      skip
      skip
      let suffix ← scanTagUri "" start
      if (← ch) != '>' then fail start "while scanning a tag, did not find the expected '>'"
      skip
      pure ("", suffix)
    else do
      let handle ← scanTagHandle false start
      if handle.length ≥ 2 && handle.startsWith "!" && handle.endsWith "!" then
        pure (handle, ← scanTagUri "" start)
      else
        let suffix ← scanTagUri handle start
        if suffix.isEmpty then pure ("", "!") else pure ("!", suffix)
  if isBlankz (← ch) then pure ⟨start, .tag handle suffix⟩
  else fail start "while scanning a tag, did not find expected whitespace or line break"

/-- A tag. -/
def fetchTag : ScanM Unit := do
  saveSimpleKey
  disallowSimpleKey
  pushToken (← scanTag)

/-- Finds the next token (or tokens) at the place reached. -/
def fetchNextToken : ScanM Unit := do
  if !(← get).streamStartProduced then
    fetchStreamStart
    return
  skipToNextToken
  staleSimpleKeys
  unrollIndent ((← here).col : Int)
  let s ← get
  let c := s.charAt 0
  let next := s.charAt 1
  let col := s.mark.col
  if isZ c then fetchStreamEnd
  else if col == 0 && c == '%' then fetchDirective
  else if col == 0 && c == '-' && next == '-' && s.charAt 2 == '-' && isBlankz (s.charAt 3) then
    fetchDocumentIndicator .documentStart
  else if col == 0 && c == '.' && next == '.' && s.charAt 2 == '.' && isBlankz (s.charAt 3) then
    fetchDocumentIndicator .documentEnd
  else if c == '[' then fetchFlowCollectionStart .flowSequenceStart
  else if c == '\x7b' then fetchFlowCollectionStart .flowMappingStart
  else if c == ']' then fetchFlowCollectionEnd .flowSequenceEnd
  else if c == '\x7d' then fetchFlowCollectionEnd .flowMappingEnd
  else if c == ',' then fetchFlowEntry
  else if c == '-' && isBlankz next then fetchBlockEntry
  else if c == '?' && isBlankz next then fetchKey
  else if c == ':' && (isBlankz next ||
      (s.flowLevel > 0 && (isFlow next || s.mark.index == s.adjacentValueAllowedAt))) then
    fetchValue
  else if c == '*' then fetchAnchor true
  else if c == '&' then fetchAnchor false
  else if c == '!' then fetchTag
  else if c == '|' && s.flowLevel == 0 then fetchBlockScalar true
  else if c == '>' && s.flowLevel == 0 then fetchBlockScalar false
  else if c == '\'' then fetchFlowScalar true
  else if c == '"' then fetchFlowScalar false
  else if c == '%' || c == '@' || c == '\x60' then
    fail s.mark ("unexpected character: \x60" ++ c.toString ++ "'")
  else fetchPlainScalar

/-- Finds tokens until the first waiting one can no longer become part of a key. -/
def fetchMoreTokens : ScanM Unit := do
  for _ in [0:(← budget)] do
    let needMore ← if (← get).tokens.isEmpty then pure true else do
      staleSimpleKeys
      let s ← get
      pure (s.simpleKeys.any fun k => k.possible && k.tokenNumber == s.tokensParsed)
    if !needMore then break
    fetchNextToken
  modify fun s => { s with tokenAvailable := true }

end Scan

/-- Hands out the next token, `none` once the stream end has been handed out. -/
def Scanner.next : ScanM (Option Token) := do
  let s ← get
  if s.streamEndProduced then return none
  if !s.tokenAvailable then Scan.fetchMoreTokens
  let s ← get
  match s.tokens with
  | [] => return none
  | t :: rest =>
    set { s with tokens := rest, tokenAvailable := false, tokensParsed := s.tokensParsed + 1,
                 streamEndProduced := t.kind == TokenKind.streamEnd }
    return some t

end MetricRing.Config.Yaml
