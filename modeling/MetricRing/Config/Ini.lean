import MetricRing.Config.Value
import MetricRing.Config.Error
import MetricRing.Text.Blank
import MetricRing.Text.Quoted
/-!
# INI configuration files

An INI document is a list of `key = value` (or `key: value`) lines, grouped by `[section]`
headers; `;` and `#` start comments, also after a value. Keys, values and section names are
trimmed; a value may be quoted with `"` or `'`, and backslash escapes `\0 \a \b \t \r \n` and
`\x` with four characters read as a hexadecimal number (a leading `+` allowed) are understood, a
backslash before a line feed joining the lines; an `\x` escape naming a surrogate code point
stops the program. All values are strings. Keys before the first section are top-level entries; each
section becomes a table. Errors name the line, counted from 0, and the column, the number of
characters read on that line, where the reading stopped. A backslash at the very end of the
input is an error, and inside the four characters of an `\x` escape a backslash must be
followed by a line feed, which then stands as one of the four.
-/

namespace MetricRing.Config.Ini

/-- The reading state: the current character, the characters after it, and the line and
column of the current character. -/
structure Reading where
  ch : Option Char
  rest : List Char
  line : Nat
  col : Nat

namespace Reading

/-- Moves to the next character. -/
def bump (r : Reading) : Reading :=
  match r.rest with
  | [] => { r with ch := none }
  | c :: t =>
    if c == '\n' then { ch := some c, rest := t, line := r.line + 1, col := 0 }
    else { ch := some c, rest := t, line := r.line, col := r.col + 1 }

/-- The error text at the current character. -/
def error (r : Reading) (msg : String) : String :=
  toString r.line ++ ":" ++ toString r.col ++ " " ++ msg

end Reading

/-- How reading stops short of a document: an error text, or a report stopping the program. -/
inductive Halt where
  | error (text : String)
  | abort (report : String)

/-- Reading with an error. -/
abbrev IniM := StateT Reading (Except Halt)

/-- Fails at the current character. -/
def fail {α : Type} (msg : String) : IniM α := do throw (.error ((← get).error msg))

/-- Moves to the next character. -/
def bump : IniM Unit := modify Reading.bump

/-- The current character. -/
def current : IniM (Option Char) := do pure (← get).ch

/-- Skips whitespace, line breaks included, for at most `fuel` characters. -/
def skipSpace (fuel : Nat) (keepBreaks : Bool) : IniM Unit := do
  let rec go : Nat → IniM Unit
    | 0 => pure ()
    | n + 1 => do
      match ← current with
      | some c =>
        let stop := if keepBreaks then (c == '\n' || c == '\r' || !Text.isBlank c) && c != '\t'
          else !Text.isBlank c && c != '\n' && c != '\t' && c != '\r'
        if stop then pure () else do bump; go n
      | none => pure ()
  go fuel

/-- Skips a comment through its line feed. -/
def skipComment (fuel : Nat) : IniM Unit := do
  let rec go : Nat → IniM Unit
    | 0 => pure ()
    | n + 1 => do
      match ← current with
      | some c => do bump; if c == '\n' then pure () else go n
      | none => pure ()
  go fuel

/-- How a character that may be missing is written in an error: `Some('=')` or `None`. -/
def optionText : Option Char → String
  | some c => "Some(" ++ Text.quoteChar c ++ ")"
  | none => "None"

/-- How a list of stop characters is written in an error: `[Some('='), Some(':')]`. -/
def stopsText (stops : List (Option Char)) : String :=
  "[" ++ ", ".intercalate (stops.map optionText) ++ "]"

/-- The value of hexadecimal digits. -/
def hexDigits (cs : List Char) : Option Nat :=
  cs.foldlM (fun acc c =>
    if '0' ≤ c && c ≤ '9' then some (acc * 16 + (c.toNat - 48))
    else if 'a' ≤ c && c ≤ 'f' then some (acc * 16 + (c.toNat - 87))
    else if 'A' ≤ c && c ≤ 'F' then some (acc * 16 + (c.toNat - 55))
    else none) 0

/-- The value of a hexadecimal number: digits, with an optional leading `+`, at least one. -/
def hexValue (cs : List Char) : Option Nat :=
  let ds := match cs with
    | '+' :: t => t
    | t => t
  if ds.isEmpty then none else hexDigits ds

/-- Reads the characters of an `\x` escape, `k` more after `acc`; a backslash among them must
be followed by a line feed, which is taken in its place. -/
def hexCode (eofError : String) : Nat → List Char → IniM (List Char)
  | 0, acc => pure acc
  | k + 1, acc => do
    bump
    match ← current with
    | none => fail eofError
    | some '\\' => do
      bump
      match ← current with
      | some '\n' => hexCode eofError k (acc ++ ['\n'])
      | other => fail ("Expecting \"\\\\n\" but found \"" ++ optionText other ++ "\".")
    | some c => hexCode eofError k (acc ++ [c])

/-- Reads characters up to one of the stop characters (`none` standing for the end), which is
left current; escapes are decoded. -/
def readUntil (stops : List (Option Char)) (fuel : Nat) : IniM String := do
  let eofError := "Expecting \"" ++ stopsText stops ++ "\" but found EOF."
  let rec go : Nat → List Char → IniM (List Char)
    | 0, acc => pure acc
    | n + 1, acc => do
      let ch ← current
      if stops.contains ch then pure acc
      else match ch with
        | none => fail eofError
        | some '\\' => do
          bump
          match ← current with
          | none => fail eofError
          | some e =>
            let simple (x : Char) : IniM (List Char) := do bump; go n (x :: acc)
            if e == '0' then simple (Char.ofNat 0)
            else if e == 'a' then simple (Char.ofNat 7)
            else if e == 'b' then simple (Char.ofNat 8)
            else if e == 't' then simple '\t'
            else if e == 'r' then simple '\r'
            else if e == 'n' then simple '\n'
            else if e == '\n' then do bump; go n acc
            else if e == 'x' then do
              let code ← hexCode eofError 4 []
              match hexValue code with
              | some v =>
                if 0xD800 ≤ v && v ≤ 0xDFFF then
                  throw (.abort "called \x60Option::unwrap()\x60 on a \x60None\x60 value")
                else do bump; go n (Char.ofNat v :: acc)
              | none => fail "Unknown character."
            else simple e
        | some c => do bump; go n (c :: acc)
  let cs ← go fuel []
  pure (String.ofList cs.reverse)

/-- The line-ending stop characters of a value. -/
def valueStops : List (Option Char) := [some '\n', some '\r', some ';', some '#', none]

/-- Reads a value after its `=` or `:`. -/
def readValue (fuel : Nat) : IniM String := do
  bump
  skipSpace fuel true
  match ← current with
  | none => pure ""
  | some '"' => do
    bump
    let s ← readUntil [some '"'] fuel
    bump
    pure (s ++ (← readUntil valueStops fuel))
  | some c =>
    if c.toNat == 39 then do
      bump
      let s ← readUntil [some c] fuel
      bump
      pure (s ++ (← readUntil valueStops fuel))
    else readUntil valueStops fuel

/-- The document as sections: the unnamed section first if it has keys, then each named one in
the order first seen; a key set twice keeps its last value. -/
abbrev Sections := List (Option String × List (String × String))

/-- Stores a key's value in a section. -/
def store (secs : Sections) (sec : Option String) (k v : String) : Sections :=
  let put (props : List (String × String)) : List (String × String) :=
    if props.any (·.1 == k) then props.map fun p => if p.1 == k then (k, v) else p
    else props ++ [(k, v)]
  if secs.any (·.1 == sec) then secs.map fun s => if s.1 == sec then (s.1, put s.2) else s
  else secs ++ [(sec, put [])]

/-- Reads a whole document. -/
def readSections (fuel : Nat) : IniM Sections := do
  let rec go : Nat → Sections → Option String → String → IniM Sections
    | 0, secs, _, _ => pure secs
    | n + 1, secs, sec, key => do
      match ← current with
      | none => pure secs
      | some c =>
        if c == ';' || c == '#' then
          skipComment fuel
          skipSpace fuel false
          go n secs sec key
        else if c == '[' then
          bump
          let name ← readUntil [some ']'] fuel
          let name := Text.trimBlank name
          let secs := if secs.any (·.1 == some name) then secs else secs ++ [(some name, [])]
          bump
          skipSpace fuel false
          go n secs (some name) key
        else if c == '=' || c == ':' then
          if key.isEmpty then fail "Missing key"
          else
            let v ← readValue fuel
            skipSpace fuel false
            go n (store secs sec key (Text.trimBlank v)) sec ""
        else
          let k ← readUntil [some '=', some ':'] fuel
          skipSpace fuel false
          go n secs sec (Text.trimBlank k)
  skipSpace fuel false
  go fuel [] none ""

/-- Reads an INI document into configuration entries. -/
def readIni (uri : Origin) (text : String) : Except ConfigError Entries := do
  let cs := text.toList
  let start : Reading := Reading.bump ⟨none, cs, 0, 0⟩
  let secs ← match (readSections (cs.length + 2)).run' start with
    | .ok secs => pure secs
    | .error (.error e) => throw (ConfigError.parse uri e)
    | .error (.abort r) => throw (ConfigError.abort r)
  let strings (props : List (String × String)) : Entries :=
    props.foldl (fun acc (k, v) => setEntry acc (Text.lowercase k) (.leaf uri (.str v))) []
  pure (secs.foldl (fun acc (sec, props) =>
    match sec with
    | none => (strings props).foldl (fun acc2 (k, v) => setEntry acc2 k v) acc
    | some name => setEntry acc (Text.lowercase name) (.table uri (strings props))) [])

end MetricRing.Config.Ini
