import MetricRing.Text.CaseMap
import MetricRing.Text.Quoted
/-!
# Configuration values

A configuration is a tree of values: scalars (nothing, booleans, integers, floats, strings),
arrays and tables. Every node remembers where it was read from, so that a value of the wrong
type can be reported with its place: a file's path relative to the working directory, or
`the environment`. Defaults and text given directly have no origin.

Sources are layered by setting each of their top-level entries into the tree: a table merges
key by key into what is there (replacing a non-table), any other value replaces what is there.
Keys of the form `a.b` or `a[0]` name places inside the tree (`Path`).

The typed readings follow the rules of a lenient settings layer: an integer may also be given
as a boolean, a float (rounded half away from zero) or a string (`true`, `on`, `yes` are 1,
`false`, `off`, `no` are 0, and other strings are read as decimal integers); a boolean may be
given as a number (non-zero is true) or as a string (`1`, `true`, `on`, `yes` or `0`, `false`,
`off`, `no`, in any case).

* `setIdent_table` says setting a key always leaves a table.
-/

namespace MetricRing.Config

/-- Where a value was read from, `none` for defaults and text given directly. -/
abbrev Origin := Option String

/-- The content of a leaf of the tree. -/
inductive Scalar where
  | nil
  | bool (b : Bool)
  | int (i : Int)
  | float (f : Float)
  | str (s : String)

/-- A configuration tree whose every node carries its origin. -/
inductive Value where
  | leaf (origin : Origin) (s : Scalar)
  | array (origin : Origin) (items : List Value)
  | table (origin : Origin) (entries : List (String × Value))

/-- The entries of a table, keys unique. -/
abbrev Entries := List (String × Value)

namespace Value

/-- Where the value was read from. -/
def origin : Value → Origin
  | leaf o _ => o
  | array o _ => o
  | table o _ => o

/-- An empty table with no origin. -/
def emptyTable : Value := .table none []

/-- Nothing, with no origin. -/
def nothing : Value := .leaf none .nil

/-- The value is a table. -/
def isTable : Value → Bool
  | table _ _ => true
  | _ => false

end Value

/-- The value stored under a key. -/
def lookup (entries : Entries) (key : String) : Option Value :=
  (entries.find? (·.1 == key)).map (·.2)

/-- Stores a value under a key, in place of the old one if there is one. -/
def setEntry (entries : Entries) (key : String) (v : Value) : Entries :=
  if entries.any (·.1 == key) then entries.map fun e => if e.1 == key then (key, v) else e
  else entries ++ [(key, v)]

mutual

/-- Sets `key` of `root` to `v`: `root` becomes a table if it is not one; a table `v` merges
into the value already under the key, entry by entry, and any other `v` replaces it. -/
def setIdent (root : Value) (key : String) (v : Value) : Value :=
  let (o, entries) := match root with
    | .table o es => (o, es)
    | _ => (none, [])
  match v with
  | .table _ incoming => .table o (setEntry entries key (setAll ((lookup entries key).getD .emptyTable) incoming))
  | _ => .table o (setEntry entries key v)

/-- Sets every entry of an incoming table into `target`. -/
def setAll (target : Value) : Entries → Value
  | [] => target
  | (k, x) :: rest => setAll (setIdent target k x) rest

end

theorem setIdent_table (root : Value) (key : String) (v : Value) : (setIdent root key v).isTable := by
  unfold setIdent
  split <;> rfl

/-- A place in the tree: a key, a key of a place, or an element of a place; negative indices
count from the end. -/
inductive Path where
  | ident (name : String)
  | child (parent : Path) (name : String)
  | index (parent : Path) (i : Int)
deriving DecidableEq, Repr

/-- The position an index names in an array of `n` elements: a negative index counts from the
end, and one reaching before the start stops the program. -/
def resolveIndex (i : Int) (n : Nat) : Except String Nat :=
  if 0 ≤ i then .ok i.toNat
  else if i.natAbs ≤ n then .ok (n - i.natAbs)
  else .error "attempt to subtract with overflow"

/-- The most elements an array of values can be grown to: the largest allocation divided by the
72 bytes a value takes. Growing an array past it stops the program. -/
def maxElements : Nat := 9223372036854775807 / 72

/-- An array padded with nothing up to `n` elements. -/
def padTo (items : List Value) (n : Nat) : List Value :=
  items ++ List.replicate (n - items.length) Value.nothing

namespace Path

/-- Applies `f` at the place a path names inside `root`, creating the place: a missing key is
added holding nothing, a non-table holding a key becomes an empty table, a non-array holding an
index becomes an empty array and a short array is padded. A key of a non-table root names no
place, and then nothing changes. An index before the start of its array, or one past what an
array can grow to, stops the program with the report given. -/
def modify (f : Value → Except String Value) : Path → Value → Except String Value
  | ident name, root =>
    match root with
    | .table o es => do pure (.table o (setEntry es name (← f ((lookup es name).getD .nothing))))
    | other => pure other
  | child p name, root =>
    p.modify (fun parent => match parent with
      | .table o es => do pure (.table o (setEntry es name (← f ((lookup es name).getD .nothing))))
      | _ => do pure (.table none [(name, ← f .nothing)])) root
  | index p i, root =>
    p.modify (fun parent => do
      let (o, items) := match parent with
        | .array o xs => (o, xs)
        | _ => (none, [])
      let k ← resolveIndex i items.length
      if items.length ≤ k && maxElements < k + 1 then throw "capacity overflow"
      let padded := padTo items (k + 1)
      pure (.array o (padded.set k (← f (padded.getD k .nothing))))) root

/-- Sets the place a path names to `v`, merging tables as `setIdent` does. -/
def set (v : Value) : Path → Value → Except String Value
  | ident name, root => pure (setIdent root name v)
  | child p name, root =>
    p.modify (fun parent => pure (setIdent (if parent.isTable then parent else .emptyTable) name v)) root
  | index p i, root => (index p i).modify (fun _ => pure v) root

/-- A character of a key in a path. -/
def isKeyChar (c : Char) : Bool := c.isAlphanum || c == ' ' || c == '_' || c == '-'

/-- Reads a key at the front of the characters: at least one key character. -/
def readKey (cs : List Char) : Option (String × List Char) :=
  let key := cs.takeWhile isKeyChar
  if key.isEmpty then none else some (String.ofList key, cs.drop key.length)

/-- Reads `[n]` after the opening bracket: an optional minus right after the bracket, then
digits with blanks (space, tab, carriage return, line feed) on either side, and the closing
bracket. The digits must fit a signed 64-bit number before the minus applies. -/
def readIndex (cs : List Char) : Option (Int × List Char) :=
  let isSpace (c : Char) : Bool := c == ' ' || c == '\t' || c == '\r' || c == '\n'
  let (neg, cs) := match cs with
    | '-' :: rest => (true, rest)
    | _ => (false, cs)
  let cs := cs.dropWhile isSpace
  let digits := cs.takeWhile Char.isDigit
  let cs := (cs.drop digits.length).dropWhile isSpace
  if digits.isEmpty then none
  else
    let n := digits.foldl (fun acc c => acc * 10 + (c.toNat - 48)) (0 : Nat)
    if 9223372036854775807 < n then none
    else match cs with
      | ']' :: rest => some (if neg then -(n : Int) else n, rest)
      | _ => none

/-- Reads the suffixes `.key` and `[n]` after a path, to the end of the characters; every
suffix takes at least two characters, so `fuel` of the text's length is enough. -/
def readSuffixes : Nat → Path → List Char → Option Path
  | _, p, [] => some p
  | 0, _, _ :: _ => none
  | fuel + 1, p, '.' :: rest => (readKey rest).bind fun (name, more) =>
    readSuffixes fuel (child p name) more
  | fuel + 1, p, '[' :: rest => (readIndex rest).bind fun (i, more) =>
    readSuffixes fuel (index p i) more
  | _ + 1, _, _ :: _ => none

/-- Reads a key with optional suffixes, the whole text. -/
def parse (s : String) : Option Path :=
  (readKey s.toList).bind fun (name, rest) => readSuffixes rest.length (ident name) rest

/-- The place a source key names: its path, or the key itself when it is not one. -/
def ofKey (key : String) : Path := (parse key).getD (ident key)

end Path

end MetricRing.Config
