import MetricRing.Config.Yaml.Events
import MetricRing.Config.Coerce
import MetricRing.Number.Reading
/-!
# YAML documents

The third stage of reading YAML: events become document trees. Collections are built on a
stack; a mapping takes its keys and values alternately, and a later entry with an equal key
replaces the earlier one and moves to the end. An anchored node is remembered once complete,
and an alias stands for a copy of it (an alias of a node still being built is a bad value).

A quoted or block scalar is a string. A plain scalar is resolved by its text (`resolvePlain`):
`0x` hexadecimal and `0o` octal integers, integers with a leading `+`, `~` and `null`,
`true` and `false`, decimal integers, floats, and otherwise a string. A plain scalar tagged
`!!bool`, `!!int`, `!!float` or `!!null` must read as that type (a bad value otherwise); any
other tag makes it a string.
-/

namespace MetricRing.Config.Yaml

/-- A node of a YAML document. A float keeps its text. -/
inductive Node where
  | real (text : String)
  | integer (i : Int)
  | string (s : String)
  | boolean (b : Bool)
  | array (items : List Node)
  | hash (entries : List (Node × Node))
  | null
  | badValue
deriving Repr, Inhabited

mutual

/-- Two nodes are equal: same kind and same content, floats compared by their text, mapping
entries in order. -/
def Node.same : Node → Node → Bool
  | .real a, .real b => a == b
  | .integer a, .integer b => a == b
  | .string a, .string b => a == b
  | .boolean a, .boolean b => a == b
  | .array xs, .array ys => Node.sameItems xs ys
  | .hash xs, .hash ys => Node.sameEntries xs ys
  | .null, .null => true
  | .badValue, .badValue => true
  | _, _ => false

/-- Two item lists are equal item by item. -/
def Node.sameItems : List Node → List Node → Bool
  | [], [] => true
  | x :: xs, y :: ys => Node.same x y && Node.sameItems xs ys
  | _, _ => false

/-- Two entry lists are equal entry by entry. -/
def Node.sameEntries : List (Node × Node) → List (Node × Node) → Bool
  | [], [] => true
  | (a, b) :: xs, (c, d) :: ys => Node.same a c && Node.same b d && Node.sameEntries xs ys
  | _, _ => false

end

/-- Sets a mapping entry: the entry goes last, and an earlier entry with an equal key is
dropped (its key is kept, as the first of the equal keys). -/
def hashInsert (entries : List (Node × Node)) (k v : Node) : List (Node × Node) :=
  match entries.find? fun e => Node.same e.1 k with
  | some (k0, _) => entries.filter (fun e => !Node.same e.1 k) ++ [(k0, v)]
  | none => entries ++ [(k, v)]

/-- The float spellings a plain scalar may take: the YAML infinities and NaNs, or anything
the float reader reads. -/
def floatSpelling (v : String) : Bool :=
  [".inf", ".Inf", ".INF", "+.inf", "+.Inf", "+.INF", "-.inf", "-.Inf", "-.INF",
    ".nan", "NaN", ".NAN"].contains v || (Number.readFloat v).isSome

/-- The node of an untagged plain scalar. -/
def resolvePlain (v : String) : Node :=
  let hex := if v.startsWith "0x" then Number.readRadixInt64 16 (String.ofList (v.toList.drop 2)) else none
  let oct := if v.startsWith "0o" then Number.readRadixInt64 8 (String.ofList (v.toList.drop 2)) else none
  let plus := if v.startsWith "+" then parseInt64 (String.ofList (v.toList.drop 1)) else none
  match hex, oct, plus with
  | some n, _, _ => .integer n
  | none, some n, _ => .integer n
  | none, none, some n => .integer n
  | none, none, none =>
    if v == "~" || v == "null" then .null
    else if v == "true" then .boolean true
    else if v == "false" then .boolean false
    else match parseInt64 v with
      | some n => .integer n
      | none => if floatSpelling v then .real v else .string v

/-- The node of a scalar of a style with an optional tag. -/
def scalarNode (v : String) (style : ScalarStyle) (tag : Option (String × String)) : Node :=
  if style != .plain then .string v
  else match tag with
    | some (handle, suffix) =>
      if handle == "!!" then
        match suffix with
        | "bool" => if v == "true" then .boolean true else if v == "false" then .boolean false else .badValue
        | "int" => match parseInt64 v with
          | some n => .integer n
          | none => .badValue
        | "float" => if floatSpelling v then .real v else .badValue
        | "null" => if v == "~" || v == "null" then .null else .badValue
        | _ => .string v
      else .string v
    | none => resolvePlain v

/-- The state of building documents from events: the finished documents, the collections
being built with their anchor numbers (innermost first), the pending key of each mapping being
built (a bad value when a key is due), and the anchored nodes. -/
structure Loader where
  docs : List Node
  stack : List (Node × Nat)
  keys : List Node
  anchored : List (Nat × Node)

namespace Loader

/-- Nothing built yet. -/
def empty : Loader := ⟨[], [], [], []⟩

/-- Places a finished node: as the document's root, as the next item of a sequence, or as a
mapping's pending key or, with its key, as an entry. -/
def place (l : Loader) (node : Node) (anchor : Nat) : Loader :=
  let l := if anchor > 0 then
      { l with anchored := (anchor, node) :: l.anchored.filter (·.1 != anchor) }
    else l
  match l.stack with
  | [] => { l with stack := [(node, anchor)] }
  | (.array items, a) :: rest => { l with stack := (.array (items ++ [node]), a) :: rest }
  | (.hash entries, a) :: rest =>
    match l.keys with
    | .badValue :: ks => { l with keys := node :: ks }
    | k :: ks => { l with stack := (.hash (hashInsert entries k node), a) :: rest, keys := .badValue :: ks }
    | [] => l
  | _ => l

/-- Takes one event. -/
def take (l : Loader) (ev : Event) : Loader :=
  match ev with
  | .documentEnd =>
    match l.stack with
    | [] => { l with docs := l.docs ++ [.badValue] }
    | [(n, _)] => { l with docs := l.docs ++ [n], stack := [] }
    | _ => l
  | .sequenceStart a => { l with stack := (.array [], a) :: l.stack }
  | .mappingStart a => { l with stack := (.hash [], a) :: l.stack, keys := .badValue :: l.keys }
  | .sequenceEnd =>
    match l.stack with
    | (n, a) :: rest => { l with stack := rest }.place n a
    | [] => l
  | .mappingEnd =>
    match l.stack with
    | (n, a) :: rest => { l with stack := rest, keys := l.keys.drop 1 }.place n a
    | [] => l
  | .scalar v style a tag => l.place (scalarNode v style tag) a
  | .alias id => l.place ((l.anchored.lookup id).getD .badValue) 0
  | _ => l

end Loader

/-- Reads events up to the stream end into the loader. Each document starts with no anchors. -/
def loadEvents : Nat → Loader → ParseM Loader
  | 0, l => pure l
  | fuel + 1, l => do
    let (ev, _) ← Parser.next
    if ev == Event.streamEnd then return l
    if ev == Event.documentStart then modify fun p => { p with anchors := [] }
    loadEvents fuel (l.take ev)

/-- The documents of a YAML stream, or the first error. -/
def loadDocuments (text : String) : Except ScanError (List Node) := do
  let p := Parser.start text
  let fuel := 8 * (p.scanner.input.size + 8)
  let (l, _) ← (do
      let (ev, _) ← Parser.next
      if ev != Event.streamStart then return Loader.empty
      loadEvents fuel Loader.empty).run p
  pure l.docs

end MetricRing.Config.Yaml
