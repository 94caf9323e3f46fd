import MetricRing.Config.Value
/-!
# Configuration errors

What can go wrong while gathering and reading a configuration, and the message each failure
prints:

* a file that cannot be found, or whose name has no format the loader knows;
* a file that does not parse, with the parser's own message and the file's relative path;
* a value of the wrong type, naming what was found, what was wanted, the key it was read for
  and where the value came from;
* a free-form message from reading the schema, such as a list of servers of no known shape;
* a file whose reading stops the program altogether.
-/

namespace MetricRing.Config

/-- What a value of the wrong type turned out to be. -/
inductive Unexpected where
  | bool (b : Bool)
  | int (i : Int)
  | float (text : String)
  | str (s : String)
  | unit
  | seq
  | map
deriving DecidableEq, Repr

namespace Unexpected

/-- The description of the found value; a float carries its decimal text. -/
def text : Unexpected → String
  | bool b => "boolean `" ++ toString b ++ "`"
  | int i => "integer `" ++ toString i ++ "`"
  | float t => "floating point `" ++ t ++ "`"
  | str s => "string " ++ Text.quote s
  | unit => "unit value"
  | seq => "sequence"
  | map => "map"

end Unexpected

/-- A failure to gather or read the configuration. -/
inductive ConfigError where
  /-- No file of the given name, with or without a known extension. -/
  | notFound (name : String)
  /-- A file exists but its extension names no known format; the path is absolute. -/
  | unknownFormat (path : String)
  /-- A file did not parse: the parser's message and the file's relative path. -/
  | parse (uri : Origin) (cause : String)
  /-- A value of the wrong type. -/
  | invalidType (origin : Origin) (found : Unexpected) (expected : String) (key : Option String)
  /-- A message from reading the schema. -/
  | message (text : String)
  /-- Reading a file stopped the program, with this report. -/
  | abort (report : String)
deriving DecidableEq, Repr

namespace ConfigError

/-- The error's text. -/
def text : ConfigError → String
  | notFound name => "configuration file \"" ++ name ++ "\" not found"
  | unknownFormat path =>
    "configuration file \"" ++ path ++ "\" is not of a registered file format"
  | parse uri cause => cause ++ (match uri with | some u => " in " ++ u | none => "")
  | invalidType origin found expected key =>
    "invalid type: " ++ found.text ++ ", expected " ++ expected ++
      (match key with | some k => " for key `" ++ k ++ "`" | none => "") ++
      (match origin with | some o => " in " ++ o | none => "")
  | message t => t
  | abort r => r

/-- Names the key a wrong-typed value was read for; other errors are unchanged. -/
def withKey (key : String) : ConfigError → ConfigError
  | invalidType origin found expected _ => invalidType origin found expected (some key)
  | e => e

end ConfigError

end MetricRing.Config
