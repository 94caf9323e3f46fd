import MetricRing.Config.Toml.Tables
import MetricRing.Config.Yaml
import MetricRing.Config.Ini
import MetricRing.Config.Hjson
import MetricRing.Json.Reader
/-!
# Configuration file formats

The formats a configuration file may be written in, the file extensions that name them, and the
reading of each into configuration entries. Every format's keys are lowercased, and every value
gets the file's origin. A JSON integer beyond the signed 64-bit range becomes a float; a
document whose root is not a table gives no entries.
-/

namespace MetricRing.Config

/-- A configuration file format. -/
inductive Format where
  | toml
  | json
  | yaml
  | ini
  | hjson
deriving DecidableEq, Repr

namespace Format

/-- Every format, in the order file names are tried. -/
def all : List Format := [.toml, .json, .yaml, .ini, .hjson]

/-- The file extensions of a format. -/
def extensions : Format → List String
  | toml => ["toml"]
  | json => ["json"]
  | yaml => ["yaml", "yml"]
  | ini => ["ini"]
  | hjson => ["hjson"]

/-- The format a file extension names. -/
def ofExtension (ext : String) : Option Format := all.find? fun f => f.extensions.contains ext

/-- The format a name such as `toml` or `yaml` names. -/
def ofName (name : String) : Option Format :=
  match name with
  | "toml" => some .toml
  | "json" => some .json
  | "yaml" => some .yaml
  | "ini" => some .ini
  | "hjson" => some .hjson
  | _ => none

end Format

mutual

/-- A JSON value as a configuration value. -/
def jsonValue (uri : Origin) : Json.Value → Value
  | .null => .leaf uri .nil
  | .bool b => .leaf uri (.bool b)
  | .num (.nat n) =>
    if n ≤ 9223372036854775807 then .leaf uri (.int n)
    else .leaf uri (.float (Binary64.ofRatio false n 1))
  | .num (.neg i) => .leaf uri (.int i)
  | .num (.float f) => .leaf uri (.float f)
  | .str s => .leaf uri (.str s)
  | .arr items => .array uri (jsonValues uri items)
  | .obj entries => .table uri (jsonEntries uri entries [])

/-- JSON array elements as configuration values. -/
def jsonValues (uri : Origin) : List Json.Value → List Value
  | [] => []
  | j :: rest => jsonValue uri j :: jsonValues uri rest

/-- JSON object entries, sorted by key, as configuration entries with lowercased keys. -/
def jsonEntries (uri : Origin) : List (String × Json.Value) → Entries → Entries
  | [], acc => acc
  | e :: rest, acc => jsonEntries uri rest (setEntry acc (Text.lowercase e.1) (jsonEntry uri e))

/-- One JSON entry's value. -/
def jsonEntry (uri : Origin) : String × Json.Value → Value
  | (_, j) => jsonValue uri j

end

/-- Reads a JSON document into configuration entries, or the error text. -/
def readJson (uri : Origin) (text : String) : Except String Entries :=
  match Json.readDocument .text text.toUTF8 with
  | .ok (.obj entries) => .ok (jsonEntries uri entries [])
  | .ok _ => .ok []
  | .error e => .error e.text

/-- Reads a document of a format into configuration entries; a document that does not parse
is a parse error naming the origin. -/
def Format.read (f : Format) (uri : Origin) (text : String) : Except ConfigError Entries :=
  let plain (r : Except String Entries) : Except ConfigError Entries := r.mapError (.parse uri)
  match f with
  | .toml => plain (Toml.readToml uri text)
  | .json => plain (readJson uri text)
  | .yaml => Yaml.readYaml uri text
  | .ini => Ini.readIni uri text
  | .hjson => Hjson.readHjson uri text

end MetricRing.Config
