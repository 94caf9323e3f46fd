import MetricRing.Config.Toml.Parser
import MetricRing.Config.Value
/-!
# Assembling TOML tables

The sections of a document are assembled into one tree of tables the way a lazy table walker
does it: starting from the root, the keys of a table are the key/value lines of its own
section, then, for every later section whose header extends the table's name, the next part of
that header. A section is consumed when its lines are used, so each is used once; meeting a
second section with exactly the name of the table being filled is a redefinition, and a
`[[name]]` section met where a plain table is being filled is an array redefinition. The
sections of an array of tables `[[name]]` each make one element.

A key met twice in one table is a `duplicate key` error. Date-times are checked here and
become their normalised text. A table whose first key is `$__toml_private_datetime` stands for
the date-time string under that key, whatever else it holds; so does a whole document. Errors
met inside a table name the keys leading to it; inside an inline or dotted table they name only
the keys of the sections above it.

`readToml` turns a document into configuration entries: keys are lowercased (when two keys
lowercase alike, the one sorting last wins) and every node gets the document's origin.
-/

namespace MetricRing.Config.Toml

/-- An assembled TOML value; table entries are sorted by key, keys unique. -/
inductive Node where
  | scalar (s : Scalar)
  | array (items : List Node)
  | table (entries : List (String × Node))

/-- Inserts an entry into a sorted table. -/
def insertSorted (k : String) (n : Node) : List (String × Node) → List (String × Node)
  | [] => [(k, n)]
  | (k2, n2) :: rest =>
    if k == k2 then (k, n) :: rest
    else if k < k2 then (k, n) :: (k2, n2) :: rest
    else (k2, n2) :: insertSorted k n rest

/-- Reads a decimal digit from the front of a character list. -/
def takeDigit : List Char → Option (Nat × List Char)
  | c :: rest => if '0' ≤ c && c ≤ '9' then some (c.toNat - 48, rest) else none
  | [] => none

/-- Reads `n` decimal digits as a number. -/
def takeDigits : Nat → List Char → Option (Nat × List Char)
  | 0, cs => some (0, cs)
  | n + 1, cs => do
    let (d, rest) ← takeDigit cs
    let (v, rest) ← takeDigits n rest
    pure (d * Nat.pow 10 n + v, rest)

/-- A number in at least `width` digits, with leading zeros. -/
def padded (width v : Nat) : String :=
  let s := toString v
  String.ofList (List.replicate (width - s.length) '0') ++ s

/-- Reads a time `hh:mm:ss` with optional fraction: its normalised text and the rest. -/
def readTime (cs : List Char) : Option (String × List Char) := do
  let (h, cs) ← takeDigits 2 cs
  let cs ← match cs with | ':' :: r => some r | _ => none
  let (m, cs) ← takeDigits 2 cs
  let cs ← match cs with | ':' :: r => some r | _ => none
  let (s, cs) ← takeDigits 2 cs
  let (nanos, cs) ← match cs with
    | '.' :: r =>
      let ds := r.takeWhile fun c => '0' ≤ c && c ≤ '9'
      if ds.isEmpty then none
      else
        let nine := (ds.take 9) ++ List.replicate (9 - min 9 ds.length) '0'
        some (nine.foldl (fun acc c => acc * 10 + (c.toNat - 48)) 0, r.drop ds.length)
    | _ => some (0, cs)
  if h > 24 || m > 59 || s > 59 then none
  let frac := if nanos == 0 then ""
    else "." ++ String.ofList ((padded 9 nanos).toList.reverse.dropWhile (· == '0')).reverse
  pure (padded 2 h ++ ":" ++ padded 2 m ++ ":" ++ padded 2 s ++ frac, cs)

/-- Checks the text of a date-time and gives its normalised form: a date `yyyy-mm-dd`,
optionally followed by `T`, `t` or a space, a time and then `Z`, `z` or an offset `±hh:mm`; or a
time alone. The normalised form writes the separator `T` and the offset `Z`. -/
def normaliseDatetime (text : String) : Option String := do
  let cs := text.toList
  if text.utf8ByteSize < 3 then none
  if cs.getD 2 ' ' == ':' then
    let (t, rest) ← readTime cs
    if rest.isEmpty then some t else none
  else
    let (y, cs) ← takeDigits 4 cs
    let cs ← match cs with | '-' :: r => some r | _ => none
    let (mo, cs) ← takeDigits 2 cs
    let cs ← match cs with | '-' :: r => some r | _ => none
    let (d, cs) ← takeDigits 2 cs
    if mo < 1 || mo > 12 || d < 1 || d > 31 then none
    let date := padded 4 y ++ "-" ++ padded 2 mo ++ "-" ++ padded 2 d
    match cs with
    | sep :: rest =>
      if sep != 'T' && sep != 't' && sep != ' ' then none
      let (t, rest) ← readTime rest
      let (off, rest) ← match rest with
        | [] => some ("", [])
        | 'Z' :: r | 'z' :: r => some ("Z", r)
        | c :: r =>
          if c != '+' && c != '-' then none
          else do
            let (oh, r) ← takeDigits 2 r
            let r ← match r with | ':' :: r2 => some r2 | _ => none
            let (om, r) ← takeDigits 2 r
            let sign := if c == '-' && oh != 0 then "-" else "+"
            some (sign ++ padded 2 oh ++ ":" ++ padded 2 om, r)
      if rest.isEmpty then some (date ++ "T" ++ t ++ off) else none
    | [] => some date

/-- The key that, first in a table, makes the table stand for a date-time. -/
def datetimeKey : String := "$__toml_private_datetime"

/-- A float as an error names it: its shortest decimal text, with `.0` when that has no
point. -/
def floatText (f : Float) : String :=
  let t := Binary64.displayText f
  if f.isNaN || f.isInf || t.toList.contains '.' then t else t ++ ".0"

/-- How a written value is named when a date-time string was expected instead. -/
def Item.unexpected : Item → String
  | .str s => "string " ++ Text.quote s
  | .int i => "integer `" ++ toString i ++ "`"
  | .float f => "floating point `" ++ floatText f ++ "`"
  | .bool b => "boolean `" ++ toString b ++ "`"
  | .array _ => "sequence"
  | .datetime _ | .inline _ | .dotted _ => "map"

/-- The refusal of a value that is not a date-time string. -/
def notDatetime (found : String) : TomlError :=
  .unplaced ("invalid type: " ++ found ++ ", expected string containing a datetime")

/-- Reads a written value as a date-time: it must be a string holding one. -/
def itemDatetime : Item → Except TomlError Node
  | .str s =>
    match normaliseDatetime s with
    | some t => .ok (.scalar (.str t))
    | none => .error (.unplaced "failed to parse datetime")
  | other => .error (notDatetime other.unexpected)

/-- A repeated key in one table. -/
def duplicateKey (k : String) : TomlError := .unplaced ("duplicate key: `" ++ k ++ "`")

/-- The error, found inside the table under `k`. -/
def TomlError.under (k : String) (e : TomlError) : TomlError := { e with keys := k :: e.keys }

mutual

/-- Assembles a value written in a key/value line. -/
def itemNode : Item → Except TomlError Node
  | .str s => .ok (.scalar (.str s))
  | .int i => .ok (.scalar (.int i))
  | .float f => .ok (.scalar (.float f))
  | .bool b => .ok (.scalar (.bool b))
  | .datetime t =>
    match normaliseDatetime t with
    | some s => .ok (.scalar (.str s))
    | none => .error (.unplaced "failed to parse datetime")
  | .array items => (itemNodes items).map Node.array
  | .inline pairs => pairNodes pairs []
  | .dotted pairs => pairNodes pairs []

/-- Assembles the elements of an array. -/
def itemNodes : List Item → Except TomlError (List Node)
  | [] => .ok []
  | it :: rest => do
    let n ← itemNode it
    let ns ← itemNodes rest
    pure (n :: ns)

/-- Assembles the pairs of an inline or dotted table into a sorted table, or into the
date-time its first pair gives. -/
def pairNodes : Pairs → List (String × Node) → Except TomlError Node
  | [], acc => .ok (.table acc)
  | p :: rest, acc =>
    if acc.isEmpty && p.1 == datetimeKey then itemDatetime p.2.2
    else do
      if acc.any (·.1 == p.1) then throw (duplicateKey p.1)
      let n ← pairNode p
      pairNodes rest (insertSorted p.1 n acc)

/-- Assembles one pair's value. -/
def pairNode : String × Nat × Item → Except TomlError Node
  | (_, _, it) => itemNode it

end

/-- A section with nothing in it. -/
def Section.blank : Section := ⟨0, [], none, false⟩

/-- Where a table walker stands: the key/value lines still to give, a value read but not yet
given, how deep in the headers it is, the next section to look at, the section it fills, the
end of the sections it may use, and whether it fills an array of tables. -/
structure Walker where
  values : Pairs
  pending : Option Item
  depth : Nat
  cur : Nat
  parent : Nat
  max : Nat
  array : Bool

/-- Assembling over the sections, which are consumed as they are used. -/
abbrev WalkM := StateT (Array Section) (Except TomlError)

/-- A section by index. -/
def sectionAt (i : Nat) : WalkM Section := do
  pure ((← get)[i]?.getD Section.blank)

/-- The first index from `lo` below `hi` satisfying `p`. -/
def findIndex (lo hi : Nat) (p : Nat → Bool) : Option Nat :=
  ((List.range (hi - lo)).map (· + lo)).find? p

/-- The next key of the table a walker fills, from its lines or from the next section under
it; `fuel` bounds the sections consumed on the way. -/
def nextKey : Nat → Walker → WalkM (Option String × Walker)
  | 0, w => pure (none, w)
  | fuel + 1, w => do
    if w.parent == w.max || w.cur == w.max then return (none, w)
    match w.values with
    | (k, _, it) :: rest => pure (some k, { w with values := rest, pending := some it })
    | [] =>
      let secs ← get
      let parentHeader := (← sectionAt w.parent).header
      let pfx := parentHeader.take w.depth
      let found := findIndex w.cur w.max fun i =>
        let t := secs[i]?.getD Section.blank
        t.values.isSome && w.depth ≤ t.header.length && t.header.take w.depth == pfx
      match found with
      | none => pure (none, w)
      | some pos =>
        let w := { w with cur := pos }
        let t ← sectionAt pos
        if w.parent != pos && parentHeader == t.header then
          throw (.located t.offset ("redefinition of table `" ++ ".".intercalate t.header ++ "`"))
        if w.depth != t.header.length then
          pure (some (t.header.getD w.depth ""), w)
        else if t.array then throw (.located t.offset "table redefined as array")
        else
          modify fun s => s.modify pos fun t => { t with values := none }
          nextKey fuel { w with values := t.values.getD [] }

mutual

/-- Gives the value for the key `k` just read: a line's value, or the table or array of tables
the next header part opens. -/
def nextValue : Nat → String → Walker → WalkM (Node × Walker)
  | 0, _, w => pure (.table [], w)
  | fuel + 1, k, w => do
    match w.pending with
    | some it =>
      match itemNode it with
      | .ok n => pure (n, { w with pending := none })
      | .error e => throw (e.under k)
    | none =>
      let t ← sectionAt w.cur
      let array := t.array && w.depth == t.header.length - 1
      let inner : Walker := ⟨[], none, w.depth + (if array then 0 else 1), 0, w.cur, w.max, array⟩
      let result ← tryCatch (if array then walkArray fuel inner [] else walkTable fuel inner [])
        fun e => throw (e.under k)
      pure (result, { w with cur := w.cur + 1 })

/-- Fills a table from a walker, refusing repeated keys; a first key `datetimeKey` makes the
table the date-time its value gives, and the rest is left unread. -/
def walkTable : Nat → Walker → List (String × Node) → WalkM Node
  | 0, _, acc => pure (.table acc)
  | fuel + 1, w, acc => do
    let n := (← get).size + 1
    match ← nextKey n w with
    | (none, _) => pure (.table acc)
    | (some k, w) =>
      if acc.isEmpty && k == datetimeKey then
        match w.pending with
        | some it =>
          match itemDatetime it with
          | .ok d => pure d
          | .error e => throw (e.under k)
        | none =>
          let t ← sectionAt w.cur
          let array := t.array && w.depth == t.header.length - 1
          throw ((notDatetime (if array then "sequence" else "map")).under k)
      else
        if acc.any (·.1 == k) then throw (duplicateKey k)
        let (v, w) ← nextValue fuel k w
        walkTable fuel w (insertSorted k v acc)

/-- Fills an array of tables: one element per `[[name]]` section of the same name. -/
def walkArray : Nat → Walker → List Node → WalkM Node
  | 0, _, acc => pure (.array acc.reverse)
  | fuel + 1, w, acc => do
    if w.parent == w.max then return .array acc.reverse
    let secs ← get
    let parent ← sectionAt w.parent
    let next := (findIndex (w.parent + 1) w.max fun i =>
      let t := secs[i]?.getD Section.blank
      t.array && t.header == parent.header).getD w.max
    modify fun s => s.modify w.parent fun t => { t with values := none }
    let inner : Walker := ⟨parent.values.getD [], none, w.depth + 1, 0, w.parent, next, false⟩
    let elem ← walkTable fuel inner []
    walkArray fuel { w with parent := next } (elem :: acc)

end

/-- Assembles the sections of a document into its root table. -/
def assemble (secs : List Section) : Except TomlError Node :=
  let size := secs.foldl (fun acc s => acc + s.header.length + (s.values.getD []).length + 2) 8
  let root : Walker := ⟨[], none, 0, 0, 0, secs.length, false⟩
  (walkTable (4 * size) root []).run' secs.toArray

/-- The line number, counted from 0, of a byte offset: lines end at line feeds, a carriage
return just before a line feed not counting toward the line's length. -/
def lineOf (text : String) (offset : Nat) : Nat :=
  let parts := text.splitOn "\n"
  let lines := if parts.getLast? == some "" then parts.dropLast else parts
  let lens := lines.zipIdx.map fun (l, i) =>
    let trimmed := if i + 1 < parts.length && l.endsWith "\r" then String.ofList l.toList.dropLast else l
    trimmed.utf8ByteSize
  let rec go : List Nat → Nat → Nat → Nat
    | [], i, _ => i
    | len :: rest, i, cur => if cur + len + 1 > offset then i else go rest (i + 1) (cur + len + 1)
  go lens 0 0

/-- The text of an error: its description, the keys leading to it, and its line. -/
def TomlError.text (input : String) (e : TomlError) : String :=
  let keys := if e.keys.isEmpty then "" else " for key `" ++ ".".intercalate e.keys ++ "`"
  let line := match e.offset with
    | some o => " at line " ++ toString (lineOf input o + 1)
    | none => ""
  e.message ++ keys ++ line

mutual

/-- A TOML value as a configuration value with an origin; keys are lowercased. -/
def Node.toValue (uri : Origin) : Node → Value
  | .scalar s => .leaf uri s
  | .array items => .array uri (nodesToValues uri items)
  | .table entries => .table uri (entriesToValues uri entries [])

/-- The elements of an array as configuration values. -/
def nodesToValues (uri : Origin) : List Node → List Value
  | [] => []
  | n :: rest => n.toValue uri :: nodesToValues uri rest

/-- The entries of a table as configuration entries with lowercased keys, a later key
replacing an earlier one that lowercases alike. -/
def entriesToValues (uri : Origin) : List (String × Node) → Entries → Entries
  | [], acc => acc
  | e :: rest, acc => entriesToValues uri rest (setEntry acc (Text.lowercase e.1) (entryValue uri e))

/-- One entry's value. -/
def entryValue (uri : Origin) : String × Node → Value
  | (_, n) => n.toValue uri

end

/-- Reads a TOML document into configuration entries, or the error text. -/
def readToml (uri : Origin) (text : String) : Except String Entries :=
  match parseSections text >>= assemble with
  | .ok (.table entries) => .ok (entriesToValues uri entries [])
  | .ok _ => .ok []
  | .error e => .error (e.text text)

end MetricRing.Config.Toml
