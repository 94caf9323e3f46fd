import MetricRing.Config.Error
import MetricRing.Config.Yaml.Compose
/-!
# YAML configuration files

A YAML configuration file is read in three stages, tokens (`Scanner`), events (`Parser`) and
documents (`loadDocuments`), and must hold at most one document; an empty stream is an empty
table. The document becomes configuration values: strings, integers, booleans and floats as
they are, nulls and bad values as nothing, sequences as arrays and mappings as tables. Only
string keys are kept, lowercased; a document that is not a mapping gives no entries.

A float is read again from its text by the float reader, which refuses the YAML spellings
`.inf`, `.nan` and their variants: such a value stops the program (`floatRefusal`).
-/

namespace MetricRing.Config.Yaml

/-- What the float reader reports about a float spelling it refuses. -/
def floatRefusal : String :=
  "called \x60Result::unwrap()\x60 on an \x60Err\x60 value: ParseFloatError \x7b kind: Invalid \x7d"

mutual

/-- A document node as a configuration value, or the refusal of one of its floats. -/
def nodeValue (uri : Origin) : Node → Except String Value
  | .string s => .ok (.leaf uri (.str s))
  | .real t =>
    match Number.readFloat t with
    | some f => .ok (.leaf uri (.float f))
    | none => .error floatRefusal
  | .integer i => .ok (.leaf uri (.int i))
  | .boolean b => .ok (.leaf uri (.bool b))
  | .hash entries => do pure (.table uri (← hashEntries uri entries []))
  | .array items => do pure (.array uri (← nodeValues uri items))
  | .null => .ok (.leaf uri .nil)
  | .badValue => .ok (.leaf uri .nil)

/-- Sequence items as configuration values. -/
def nodeValues (uri : Origin) : List Node → Except String (List Value)
  | [] => .ok []
  | n :: rest => do pure ((← nodeValue uri n) :: (← nodeValues uri rest))

/-- The entries of a mapping with string keys, keys lowercased; a later key equal after
lowercasing replaces an earlier one. -/
def hashEntries (uri : Origin) : List (Node × Node) → Entries → Except String Entries
  | [], acc => .ok acc
  | e :: rest, acc =>
    match e.1 with
    | .string k => do hashEntries uri rest (setEntry acc (Text.lowercase k) (← entryValue uri e))
    | _ => hashEntries uri rest acc

/-- The value of a mapping entry. -/
def entryValue (uri : Origin) : Node × Node → Except String Value
  | (_, v) => nodeValue uri v

end

/-- Reads a YAML configuration file into entries. -/
def readYaml (uri : Origin) (text : String) : Except ConfigError Entries :=
  match loadDocuments text with
  | .error e => .error (.parse uri e.text)
  | .ok docs =>
    let root : Except ConfigError Node := match docs with
      | [] => .ok (.hash [])
      | [d] => .ok d
      | ds => .error (.parse uri ("Got " ++ toString ds.length ++ " YAML documents, expected 1"))
    root.bind fun r =>
      match nodeValue uri r with
      | .error m => .error (.abort m)
      | .ok (.table _ es) => .ok es
      | .ok _ => .ok []

end MetricRing.Config.Yaml
