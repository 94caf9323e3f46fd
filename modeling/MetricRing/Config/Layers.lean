import MetricRing.Config.Format
import MetricRing.Config.Coerce
import MetricRing.Text.PathName
/-!
# Layered configuration sources

A configuration is gathered from layers, lowest precedence first: defaults, then each source in
turn, every top-level entry of a source set into the tree by `Path.set` (tables merge, anything
else replaces). The first source that fails stops the gathering with its error.

Sources are files found in a workspace, text given directly, and environment variables whose
names start with a tag and an underscore (in any case); the rest of such a name, lowercased, is
the key and the value is a string from `the environment`.

A file named `n` is the file at `n` relative to the working directory if there is one, its
format given by its extension (an unknown extension is an error naming the full path);
otherwise the first of `n` with each known extension put in place of its own. A file that is
not required may be missing. A found file's origin is its path relative to the working
directory.
-/

namespace MetricRing.Config

/-- The files and environment a configuration is gathered from. -/
structure Workspace where
  /-- The absolute path of the working directory. -/
  cwd : String
  /-- Files by path, relative to the working directory unless absolute, with their text. -/
  files : List (String × String)
  /-- Environment variables in order. -/
  env : List (String × String)

/-- The normal parts of a relative path. -/
def relativeParts (path : String) : List String :=
  (Text.components path).filterMap fun
    | .normal s => some s
    | _ => none

namespace Workspace

/-- The parts of the working directory's path. -/
def cwdParts (ws : Workspace) : List String := relativeParts ws.cwd

/-- The files by the parts of their absolute paths; a path not starting with `/` is relative
to the working directory. -/
def fileParts (ws : Workspace) : List (List String × String) :=
  ws.files.map fun (p, text) =>
    (if p.startsWith "/" then relativeParts p else ws.cwdParts ++ relativeParts p, text)

/-- The path parts name an existing directory: an ancestor of the working directory or of a
file, or the working directory itself. -/
def isDirectory (ws : Workspace) (parts : List String) : Bool :=
  ws.cwdParts.take parts.length == parts && parts.length ≤ ws.cwdParts.length ||
    ws.fileParts.any fun (fp, _) => parts.length < fp.length && fp.take parts.length == parts

/-- The text of the file a path names, relative to the working directory unless it starts
with `/`, following `..` through existing directories. -/
def fileAt (ws : Workspace) (path : String) : Option String :=
  let rec walk : List Text.Component → List String → Option (List String)
    | [], acc => some acc
    | .root :: rest, _ => walk rest []
    | .current :: rest, acc => walk rest acc
    | .parent :: rest, acc => if ws.isDirectory acc then walk rest acc.dropLast else none
    | .normal s :: rest, acc => walk rest (acc ++ [s])
  match walk (Text.components path) ws.cwdParts with
  | some parts => (ws.fileParts.find? (·.1 == parts)).map (·.2)
  | none => none

end Workspace

/-- The extension of a file name: the part after its last dot, unless the only dot starts
the name. -/
def extensionOf (name : String) : Option String :=
  let cs := name.toList
  if name == ".." then none
  else
    match (cs.reverse.takeWhile (· != '.')).length, cs.contains '.' with
    | _, false => none
    | n, true =>
      if n + 1 == cs.length then none
      else some (String.ofList (cs.drop (cs.length - n)))

/-- The last part of a path, if it is a normal part. -/
def fileNameOf (path : String) : Option String :=
  match (Text.components path).getLast? with
  | some (.normal s) => some s
  | _ => none

/-- The path with the extension of its last part replaced by `ext`. -/
def withExtension (path : String) (ext : String) : Option String :=
  match fileNameOf path with
  | none => none
  | some name =>
    let stem := match extensionOf name with
      | some e => String.ofList (name.toList.take (name.length - e.length - 1))
      | none => name
    let trimmed := (path.toList.reverse.dropWhile (· == '/')).reverse
    let dir := (trimmed.reverse.drop name.length).reverse
    some (String.ofList dir ++ stem ++ "." ++ ext)

/-- A configuration source. -/
inductive Source where
  /-- A file found by name; a file that is not required may be missing. -/
  | file (name : String) (required : Bool)
  /-- Text given directly, in a format. -/
  | text (content : String) (format : Format)
  /-- Environment variables whose names start with the tag and an underscore. -/
  | environment (tag : String)

/-- The path of a file relative to the working directory, as a relative name writes it:
its parts joined by `/`, `.` parts dropped. -/
def relativeName (name : String) : String :=
  "/".intercalate ((Text.components name).filterMap fun
    | .normal s => some s
    | .parent => some ".."
    | _ => none)

/-- Finds the file a name stands for: its path relative to the working directory, its text
and its format. -/
def findFile (ws : Workspace) (name : String) : Except ConfigError (String × String × Format) :=
  let full := if name.startsWith "/" then name else ws.cwd ++ "/" ++ name
  match ws.fileAt name with
  | some body =>
    match (fileNameOf name).bind extensionOf |>.bind Format.ofExtension with
    | some f => .ok (relativeName name, body, f)
    | none => .error (.unknownFormat full)
  | none =>
    let candidates := Format.all.flatMap fun f => f.extensions.map fun e => (f, e)
    let found := candidates.findSome? fun (f, e) =>
      (withExtension name e).bind fun p => (ws.fileAt p).map fun body => (relativeName p, body, f)
    match found with
    | some r => .ok r
    | none => .error (.notFound name)

/-- The entries of the environment variables under a tag. -/
def environmentEntries (ws : Workspace) (tag : String) : Entries :=
  let lead := Text.lowercase (tag ++ "_")
  ws.env.foldl (fun acc (k, v) =>
    if (Text.lowercase k).startsWith lead then
      let rest := String.fromUTF8? (ByteArray.mk (k.toUTF8.toList.drop (tag.utf8ByteSize + 1)).toArray)
      setEntry acc (Text.lowercase (rest.getD "")) (.leaf (some "the environment") (.str v))
    else acc) []

/-- The entries a source gives. -/
def Source.collect (ws : Workspace) : Source → Except ConfigError Entries
  | .file name required =>
    match findFile ws name with
    | .ok (uri, body, f) => f.read (some uri) body
    | .error e => if required then .error e else .ok []
  | .text content f => f.read none content
  | .environment tag => .ok (environmentEntries ws tag)

/-- Sets a source's entries into the tree, each at the place its key names; a place that
stops the program stops the gathering with its report. -/
def layer (tree : Value) (es : Entries) : Except ConfigError Value :=
  match es.foldlM (fun t (k, v) => (Path.ofKey k).set v t) tree with
  | .ok t => .ok t
  | .error r => .error (.abort r)

/-- Gathers defaults and sources into one tree. -/
def gather (ws : Workspace) (defaults : List (Path × Value)) (sources : List Source) :
    Except ConfigError Value := do
  let start ← match defaults.foldlM (fun t (p, v) => p.set v t) Value.emptyTable with
    | .ok t => pure t
    | .error r => throw (ConfigError.abort r)
  sources.foldlM (fun t src => do layer t (← src.collect ws)) start

end MetricRing.Config
