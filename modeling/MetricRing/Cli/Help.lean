import MetricRing.Cli.Grammar
/-!
# Usage lines and help texts

A command's help is a title (the command's full name, words joined by `-`, and its version),
its description, a usage line, and sections listing its flags, options, positionals and
subcommands:

```
prog 1.0
What prog does

USAGE:
    prog [FLAGS] [OPTIONS] <input>

FLAGS:
    -h, --help       Prints help information
```

Switches are listed by name; their descriptions start four columns after the widest switch of
their section and wrap at column 120, continuation lines aligned with the first. Words are
never broken.

The usage line of a command with nothing used yet shows `[FLAGS]` when it has flags besides
help and version, `[OPTIONS]` when it has options, its required positionals, its optional
positionals as `[name]` (or `[ARGS]` when there are several), and `<SUBCOMMAND>` when it has
subcommands. A usage line for an error about arguments already given lists instead the
required arguments and the given ones (sorted by name, positionals first).
-/

namespace MetricRing.Cli

/-- The text width help is laid out in. -/
def helpWidth : Nat := 120

/-- `n` spaces. -/
def spaces (n : Nat) : String := String.ofList (List.replicate n ' ')

/-- Lines of at most `width` characters holding the words of a text, greedily; a word longer
than the width has a line of its own. -/
def wrapWords (width : Nat) (text : String) : List String :=
  let words := text.splitOn " "
  let (lines, current) := words.foldl (fun (acc : List String × String) w =>
    let (lines, current) := acc
    if current.isEmpty then (lines, w)
    else if current.length + 1 + w.length ≤ width then (lines, current ++ " " ++ w)
    else (current :: lines, w)) ([], "")
  (current :: lines).reverse

/-- Where a command is being read: the command, the name it is called by, the name its usage
lines start with, and its subcommands (with `help`) when it is the program. -/
structure Scope where
  cmd : CommandSpec
  binName : String
  usageName : String
  subcommands : List CommandSpec
  /-- The program needs a subcommand and shows its help without one. -/
  needsSubcommand : Bool

namespace Scope

/-- The names of the required arguments. -/
def requiredNames (sc : Scope) : List String :=
  (sc.cmd.positionals.filter (·.required)).map (·.name)

/-- Sorted without repeats. -/
def sortedNames (names : List String) : List String :=
  (names.mergeSort fun a b => decide (a ≤ b)).eraseDups

/-- How the named arguments are shown in a usage line: positionals in their order, then the
others sorted by name; `skip` names arguments left out. -/
def argumentsShown (sc : Scope) (names : List String) (skip : String → Bool) : List String :=
  let names := sortedNames names
  let pos := sc.cmd.positionals.filter fun p => names.contains p.name && !skip p.name
  let others := names.filter fun n =>
    !sc.cmd.positionals.any (·.name == n) && !skip n
  pos.map (·.display) ++ others.map sc.cmd.displayOf

/-- The command has flags besides help and version. -/
def hasOwnFlags (sc : Scope) : Bool :=
  sc.cmd.flags.any fun f => f.long != some "help" && f.long != some "version"

/-- The usage line of the command with nothing used yet. -/
def helpUsage (sc : Scope) : String :=
  let required := (sc.argumentsShown sc.requiredNames fun _ => false).foldl
    (fun acc s => acc ++ " " ++ s) ""
  let optional := sc.cmd.positionals.filter (!·.required)
  let dashes := sc.cmd.options.any (·.multiple) && !optional.isEmpty && sc.subcommands.isEmpty
  let argsTag := match optional with
    | [] => ""
    | [p] => " [" ++ p.name ++ "]" ++ (if p.multiple then "..." else "")
    | _ => " [ARGS]"
  sc.usageName ++ (if sc.hasOwnFlags then " [FLAGS]" else "") ++
    (if sc.cmd.options.isEmpty then "" else " [OPTIONS]") ++ required ++
    (if dashes then " [--]" else "") ++ argsTag ++
    (if sc.subcommands.isEmpty then "" else if sc.needsSubcommand then " <SUBCOMMAND>"
      else " [SUBCOMMAND]")

/-- The usage line naming the required arguments and the given ones. -/
def usedUsage (sc : Scope) (used : List String) : String :=
  (sc.argumentsShown (sc.requiredNames ++ used) fun _ => false).foldl
    (fun acc s => acc ++ " " ++ s) sc.usageName

/-- The usage block of an error, given the names of the arguments read so far: options and
flags count, positionals do not. -/
def errorUsage (sc : Scope) (given : List String) : String :=
  let used := given.filter fun n => !sc.cmd.positionals.any (·.name == n)
  "USAGE:\n    " ++ (if used.isEmpty then sc.helpUsage else sc.usedUsage used)

/-- A help row: the label, padding to the description column, and the description wrapped,
continuation lines indented by `indent`. -/
def row (label : String) (pad : Nat) (help : String) (widest indent : Nat) : String :=
  let lines := if widest + 12 + help.length ≥ helpWidth then
      wrapWords (helpWidth - (widest + 12)) help
    else [help]
  let body := if help.isEmpty then "" else ("\n" ++ spaces indent).intercalate lines
  label ++ spaces pad ++ body

/-- The width of the widest label, at least 2. -/
def widest (labels : List String) : Nat := labels.foldl (fun m s => max m s.length) 2

/-- The rows of the flags, sorted by name. -/
def flagRows (fs : List FlagSpec) : List String :=
  let fs := fs.mergeSort fun a b => decide (a.name ≤ b.name)
  let w := widest ((fs.filter (·.long.isSome)).map (·.display))
  fs.map fun f =>
    let shortPart := match f.short with | some c => "-" ++ c.toString | none => "    "
    let longPart := match f.long with
      | some l => (if f.short.isSome then ", " else "") ++ "--" ++ l
      | none => ""
    let pad := w - f.display.length + (if f.long.isSome then 4 else 8)
    row ("    " ++ shortPart ++ longPart) pad f.help w (w + 12)

/-- The rows of the options, sorted by name. -/
def optionRows (os : List OptionSpec) : List String :=
  let os := os.mergeSort fun a b => decide (a.name ≤ b.name)
  let w := widest (os.map (·.display))
  os.map fun o =>
    let shortPart := match o.short with | some c => "-" ++ c.toString | none => "    "
    let longPart := match o.long with
      | some l => (if o.short.isSome then ", " else "") ++ "--" ++ l
      | none => ""
    let pad := w - o.display.length + (if o.long.isSome then 4 else 8)
    row ("    " ++ shortPart ++ longPart ++ " " ++ o.placeholder) pad o.help w (w + 12)

/-- The rows of the positionals, in order. -/
def positionalRows (ps : List PositionalSpec) : List String :=
  let w := widest (ps.map (·.display))
  ps.map fun p => row ("    " ++ p.display) (w + 4 - p.display.length) p.help w (w + 8)

/-- The rows of the subcommands, sorted by name, each name once. -/
def subcommandRows (cs : List CommandSpec) : List String :=
  let cs := (cs.mergeSort fun a b => decide (a.name ≤ b.name)).foldr
    (fun c acc => if acc.any (·.name == c.name) then acc else c :: acc) []
  let w := widest (cs.map (·.name))
  cs.map fun c => row ("    " ++ c.name) (w + 4 - c.name.length) (c.about.getD "") w (w + 8)

/-- The help text of the command, without a final line break. -/
def helpText (sc : Scope) : String :=
  let title := (if sc.binName.contains ' ' then sc.binName.replace " " "-" else sc.cmd.name) ++
    " " ++ sc.cmd.version.getD ""
  let about := match sc.cmd.about with
    | some a => "\n".intercalate (if a.length > helpWidth then wrapWords helpWidth a else [a]) ++ "\n"
    | none => ""
  let part (heading : String) (rows : List String) : List String :=
    if rows.isEmpty then [] else [heading ++ ":\n" ++ "\n".intercalate rows]
  let sections := part "FLAGS" (flagRows sc.cmd.flags) ++
    part "OPTIONS" (optionRows sc.cmd.options) ++
    part "ARGS" (positionalRows sc.cmd.positionals) ++
    part "SUBCOMMANDS" (subcommandRows sc.subcommands)
  title ++ "\n" ++ about ++ "\nUSAGE:\n    " ++ sc.helpUsage ++ "\n\n" ++ "\n\n".intercalate sections

end Scope

end MetricRing.Cli
