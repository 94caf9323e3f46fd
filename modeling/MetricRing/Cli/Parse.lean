import MetricRing.Cli.Help
import MetricRing.Cli.Suggest
/-!
# Reading a command line

`parse` reads the arguments of a command line (the program's name excluded) against a
grammar, left to right:

* `--` once makes every later argument a positional value;
* the name of a subcommand, where no option waits for its value, hands the rest of the line
  to that subcommand (`help` shows help instead);
* `--name`, `--name=value`, `-x`, `-xvalue`, `-x=value` and clusters of short flags `-abc`
  are switches; an option given without a value takes the next argument, unless that one
  starts with `-` (a lone `-` is a value);
* anything else is the next positional value, or an error.

After the line is read the subcommand's arguments are checked, then the program's: an option
left waiting for a value, missing required positionals, option values refused by their check,
and switches given twice that may not repeat. `--help` and `--version` answer at once.

Errors carry the message shown to the user: the problem, and for most a usage line and a
pointer to `--help`. A switch close to a known one is suggested (the suggested name is
colored green whatever the terminal); a stray word close to a subcommand is too.

* `Matches.has_occur` says an argument counted is an argument given, and
  `Matches.values_addValue` that a value added comes after the earlier ones.
-/

namespace MetricRing.Cli

/-- What went wrong reading a command line, or what was shown instead of running. -/
inductive ArgErrorKind where
  | helpDisplayed
  | versionDisplayed
  | missingArgumentOrSubcommand
  | unknownArgument
  | invalidSubcommand
  | unrecognizedSubcommand
  | missingRequiredArgument
  | emptyValue
  | valueValidation
  | unexpectedMultipleUsage
deriving DecidableEq, Repr

/-- The kind's name. -/
def ArgErrorKind.name : ArgErrorKind → String
  | .helpDisplayed => "HelpDisplayed"
  | .versionDisplayed => "VersionDisplayed"
  | .missingArgumentOrSubcommand => "MissingArgumentOrSubcommand"
  | .unknownArgument => "UnknownArgument"
  | .invalidSubcommand => "InvalidSubcommand"
  | .unrecognizedSubcommand => "UnrecognizedSubcommand"
  | .missingRequiredArgument => "MissingRequiredArgument"
  | .emptyValue => "EmptyValue"
  | .valueValidation => "ValueValidation"
  | .unexpectedMultipleUsage => "UnexpectedMultipleUsage"

/-- A command line that was not run: why, the message for the user, and what was already
written to standard output (the version line). -/
structure ArgError where
  kind : ArgErrorKind
  message : String
  printed : String
deriving DecidableEq, Repr

/-- Help and version go to standard output and end the program successfully; the others are
errors. -/
def ArgError.isFailure (e : ArgError) : Bool :=
  e.kind != .helpDisplayed && e.kind != .versionDisplayed

/-- What was read for one argument: how often it was given and its values. -/
structure Matched where
  occurs : Nat
  values : List String
deriving DecidableEq, Repr

/-- The arguments read, in the order first seen. -/
abbrev Matches := List (String × Matched)

namespace Matches

/-- What was read for an argument. -/
def get? (m : Matches) (name : String) : Option Matched := (m.find? (·.1 == name)).map (·.2)

/-- The names of the arguments read. -/
def names (m : Matches) : List String := m.map (·.1)

/-- Changes what was read for an argument, starting from nothing. -/
def update (m : Matches) (name : String) (f : Matched → Matched) : Matches :=
  if m.any (·.1 == name) then m.map fun (n, x) => if n == name then (n, f x) else (n, x)
  else m ++ [(name, f ⟨0, []⟩)]

/-- Adds a value. -/
def addValue (m : Matches) (name value : String) : Matches :=
  m.update name fun x => { x with values := x.values ++ [value] }

/-- Counts an occurrence. -/
def occur (m : Matches) (name : String) : Matches :=
  m.update name fun x => { x with occurs := x.occurs + 1 }

/-- The argument was given. -/
def has (m : Matches) (name : String) : Bool := m.any (·.1 == name)

/-- The values of an argument. -/
def values (m : Matches) (name : String) : List String := ((m.get? name).map (·.values)).getD []

theorem has_update (m : Matches) (name : String) (f : Matched → Matched) :
    (m.update name f).has name = true := by
  unfold update has
  split
  · rename_i h
    obtain ⟨x, hx, hn⟩ := List.any_eq_true.mp h
    apply List.any_eq_true.mpr
    refine ⟨(x.1, f x.2), ?_, by simpa using hn⟩
    exact List.mem_map.mpr ⟨x, hx, by simp at hn; simp [hn]⟩
  · simp

theorem has_occur (m : Matches) (name : String) : (m.occur name).has name = true :=
  has_update m name _

theorem get_update (m : Matches) (name : String) (f : Matched → Matched) :
    (m.update name f).get? name = some (f ((m.get? name).getD ⟨0, []⟩)) := by
  induction m with
  | nil => simp [update, get?]
  | cons p rest ih =>
    obtain ⟨n, x⟩ := p
    by_cases h : n = name
    · subst h
      simp [update, get?]
    · have hne : (n == name) = false := by simpa using h
      simp only [update, List.any_cons, hne, Bool.false_or] at ih ⊢
      split
      · rename_i hr
        simp only [hr, if_true] at ih
        simp [List.map_cons, get?, hne, h] at ih ⊢
        exact ih
      · rename_i hr
        simp only [hr] at ih
        simp [get?, hne] at ih ⊢
        exact ih

theorem values_addValue (m : Matches) (name value : String) :
    (m.addValue name value).values name = m.values name ++ [value] := by
  unfold addValue values
  rw [get_update]
  cases m.get? name <;> rfl

end Matches

/-- What the previous argument left open. -/
inductive Pending where
  /-- Nothing was read yet. -/
  | nothing
  /-- A flag was read. -/
  | flag
  /-- An option got its value. -/
  | valuesDone
  /-- The option waits for its value. -/
  | option (name : String)
deriving DecidableEq, Repr

/-- The state of reading a command's arguments. -/
structure Scan where
  given : Matches
  pending : Pending
  /-- The index of the positional the next positional value goes to. -/
  position : Nat
  /-- A `--` was read. -/
  trailing : Bool
deriving DecidableEq, Repr

/-- Nothing read yet. -/
def Scan.start : Scan := ⟨[], .nothing, 0, false⟩

/-- Where reading a command's arguments stopped. -/
inductive Stop where
  /-- At the end of the line. -/
  | finished
  /-- At a subcommand, with the arguments after it. -/
  | subcommand (name : String) (rest : List String)
  /-- At the `help` subcommand, with the arguments after it. -/
  | help (rest : List String)
deriving DecidableEq, Repr

/-- `s` in single quotes. -/
def quoteSingle (s : String) : String := "'" ++ s ++ "'"

/-- Text colored green on a terminal. -/
def green (s : String) : String := "\x1b[32m" ++ s ++ "\x1b[0m"

/-- The closing pointer of most error messages. -/
def moreInfo : String := "\n\nFor more information try --help"

/-- An argument that fits nowhere; `suffix` suggests what was meant. -/
def unknownArgument (arg suffix usage : String) : ArgError :=
  ⟨.unknownArgument, "error: Found argument " ++ quoteSingle arg ++
    " which wasn't expected, or isn't valid in this context" ++ suffix ++ "\n\n" ++ usage ++
    moreInfo, ""⟩

namespace Scope

/-- The help of the command. -/
def helpError (sc : Scope) : ArgError := ⟨.helpDisplayed, sc.helpText, ""⟩

/-- The version of the command, written out by itself. -/
def versionError (sc : Scope) : ArgError :=
  let name := if sc.binName.contains ' ' then sc.binName.replace " " "-" else sc.cmd.name
  ⟨.versionDisplayed, "", name ++ " " ++ sc.cmd.version.getD ""⟩

/-- A word close to a subcommand's name. -/
def invalidSubcommand (sc : Scope) (arg candidate : String) (given : List String) : ArgError :=
  ⟨.invalidSubcommand, "error: The subcommand " ++ quoteSingle arg ++ " wasn't recognized\n\t" ++
    "Did you mean " ++ quoteSingle candidate ++ "?\n\n" ++
    "If you believe you received this message in error, try re-running with " ++
    quoteSingle (sc.binName ++ " -- " ++ arg) ++ "\n\n" ++ sc.errorUsage given ++ moreInfo, ""⟩

/-- The suggestion for an unknown long switch: a switch of this command, else one of a
subcommand named later on the line (the first named). -/
def suggestLong (sc : Scope) (name : String) (later : List String) : String × Option String :=
  match suggest name sc.cmd.longs with
  | some c => ("\n\tDid you mean " ++ green "--" ++ green c ++ "?", some c)
  | none =>
    let hits := sc.subcommands.filterMap fun sub =>
      match suggest name sub.longs, later.idxOf? sub.name with
      | some c, some i => some (i, sub.name, c)
      | _, _ => none
    let first := hits.foldl (fun (acc : Option (Nat × String × String)) h =>
      match acc with
      | some a => if h.1 < a.1 then some h else acc
      | none => some h) none
    match first with
    | some (_, sub, c) =>
      ("\n\tDid you mean to put " ++ quoteSingle (green "--" ++ green c) ++
        " after the subcommand " ++ quoteSingle (green sub) ++ "?", some c)
    | none => ("", none)

/-- Reads an option with the value given with it, or waits for the next argument. -/
def readOption (o : OptionSpec) (value : Option String) (s : Scan) : Scan :=
  match value with
  | some v =>
    let v := String.ofList (v.toList.dropWhile (· == '='))
    { s with given := (s.given.addValue o.name v).occur o.name, pending := .valuesDone }
  | none => { s with given := s.given.occur o.name, pending := .option o.name }

/-- Reads a long switch; `later` are the arguments after it. -/
def readLong (sc : Scope) (arg : String) (later : List String) (s : Scan) :
    Except ArgError Scan :=
  let body := arg.toList.dropWhile (· == '-')
  let nameChars := body.takeWhile (· != '=')
  let name := String.ofList nameChars
  let rest := body.drop nameChars.length
  let value := if rest.isEmpty then none else some (String.ofList rest)
  match sc.cmd.optionByLong name with
  | some o => .ok (readOption o value s)
  | none =>
    match sc.cmd.flagByLong name with
    | some f =>
      if f.name == "help" then .error sc.helpError
      else if f.name == "version" then .error sc.versionError
      else .ok { s with given := s.given.occur f.name, pending := .flag }
    | none =>
      let (suffix, found) := sc.suggestLong name later
      let given := match found with
        | some c =>
          match sc.cmd.optionByLong c, sc.cmd.flagByLong c with
          | some o, _ => s.given.names ++ [o.name]
          | none, some f => s.given.names ++ [f.name]
          | none, none => s.given.names
        | none => s.given.names
      .error (unknownArgument ("--" ++ name) suffix (sc.errorUsage given))

/-- Reads a cluster of short switches: flags, possibly ending in an option with its value. -/
def readShort (sc : Scope) : List Char → Scan → Except ArgError Scan
  | [], s => .ok s
  | c :: more, s =>
    match sc.cmd.optionByShort c with
    | some o => .ok (readOption o (if more.isEmpty then none else some (String.ofList more)) s)
    | none =>
      match sc.cmd.flagByShort c with
      | some f =>
        if f.name == "help" then .error sc.helpError
        else if f.name == "version" then .error sc.versionError
        else readShort sc more { s with given := s.given.occur f.name, pending := .flag }
      | none => .error (unknownArgument ("-" ++ c.toString) "" (sc.errorUsage s.given.names))

/-- The argument starts something new rather than being a value of the previous option. -/
def startsNew (arg : String) (pending : Pending) : Bool :=
  pending == .valuesDone || arg.startsWith "--" || (arg.startsWith "-" && arg.length != 1)

/-- Reads a positional value, or fails on an argument that fits nowhere. -/
def readPositional (sc : Scope) (arg : String) (s : Scan) : Except ArgError Scan :=
  match suggest arg (sc.subcommands.map (·.name)) with
  | some c => .error (sc.invalidSubcommand arg c s.given.names)
  | none =>
    match sc.cmd.positionals[s.position]? with
    | some p =>
      .ok { s with
        given := (s.given.addValue p.name arg).occur p.name
        position := if p.multiple then s.position else s.position + 1 }
    | none => .error (unknownArgument arg "" (sc.errorUsage s.given.names))

/-- Reads the arguments of the command up to the end or a subcommand. -/
def scan (sc : Scope) : List String → Scan → Except ArgError (Scan × Stop)
  | [], s => .ok (s, .finished)
  | a :: rest, s =>
    let fresh := startsNew a s.pending
    let waiting := match s.pending with
      | .option name => some name
      | _ => none
    if !s.trailing && a == "--" then scan sc rest { s with trailing := true }
    else if !s.trailing && waiting.isNone && sc.subcommands.any (·.name == a) then
      .ok (s, if a == "help" then .help rest else .subcommand a rest)
    else if !s.trailing && fresh && a.startsWith "--" then
      match sc.readLong a rest s with
      | .ok s => scan sc rest s
      | .error e => .error e
    else if !s.trailing && fresh && a.startsWith "-" && a.length != 1 then
      match sc.readShort (a.toList.dropWhile (· == '-')) s with
      | .ok s => scan sc rest s
      | .error e => .error e
    else
      match waiting, !s.trailing && !fresh with
      | some name, true =>
        scan sc rest { s with given := s.given.addValue name a, pending := .valuesDone }
      | _, _ =>
        match sc.readPositional a s with
        | .ok s => scan sc rest s
        | .error e => .error e

/-- The required positionals that were not given. -/
def missing (sc : Scope) (m : Matches) : List String :=
  sc.requiredNames.filter fun n => !m.has n

/-- The error for missing required arguments. -/
def missingError (sc : Scope) (m : Matches) : ArgError :=
  let shown := sc.argumentsShown (sc.missing m) fun n => m.has n
  ⟨.missingRequiredArgument, "error: The following required arguments were not provided:" ++
    (shown.foldl (fun acc s => acc ++ "\n    " ++ s) "") ++ "\n\n" ++ sc.errorUsage m.names ++
    moreInfo, ""⟩

/-- The error for an option without a value. -/
def emptyValueError (sc : Scope) (display : String) (m : Matches) : ArgError :=
  ⟨.emptyValue, "error: The argument " ++ quoteSingle display ++
    " requires a value but none was supplied\n\n" ++ sc.errorUsage m.names ++ moreInfo, ""⟩

/-- The error for a switch given twice that may not repeat. -/
def repeatedError (sc : Scope) (display : String) (m : Matches) : ArgError :=
  ⟨.unexpectedMultipleUsage, "error: The argument " ++ quoteSingle display ++
    " was provided more than once, but cannot be used multiple times\n\n" ++
    sc.errorUsage m.names ++ moreInfo, ""⟩

/-- Checks what was read for one argument. -/
def checkMatched (sc : Scope) (m : Matches) (name : String) (x : Matched) :
    Except ArgError Unit :=
  match sc.cmd.options.find? (·.name == name) with
  | some o =>
    if x.values.isEmpty then .error (sc.emptyValueError o.display m)
    else
      match x.values.findSome? fun v => match o.check.run v with
        | .error e => some e
        | .ok _ => none with
      | some e =>
        .error ⟨.valueValidation, "error: Invalid value for " ++ quoteSingle o.display ++ ": " ++ e, ""⟩
      | none =>
        if x.occurs > 1 && !o.multiple then .error (sc.repeatedError o.display m) else .ok ()
  | none =>
    match sc.cmd.flags.find? (·.name == name) with
    | some f => if x.occurs > 1 then .error (sc.repeatedError f.display m) else .ok ()
    | none =>
      match sc.cmd.positionals.find? (·.name == name) with
      | some p =>
        if x.occurs > 1 && !p.multiple then .error (sc.repeatedError p.display m) else .ok ()
      | none => .ok ()

/-- Checks what was read for the command once its arguments are over. -/
def validate (sc : Scope) (s : Scan) : Except ArgError Unit := do
  let m := s.given
  match s.pending with
  | .option name =>
    if !(sc.missing m).isEmpty then throw (sc.missingError m)
    if m.values name |>.isEmpty then throw (sc.emptyValueError (sc.cmd.displayOf name) m)
  | _ => if !(sc.missing m).isEmpty then throw (sc.missingError m)
  m.forM fun (name, x) => sc.checkMatched m name x

end Scope

/-- The scope of the program itself. -/
def Grammar.topScope (g : Grammar) (binName : String) : Scope :=
  ⟨g.top.withStandardFlags, binName, binName, g.allSubcommands, !g.subcommands.isEmpty⟩

/-- Follows the names after `help` down the subcommands: the command reached, the name of its
parent, and whether `help` itself was named. -/
def helpTarget (g : Grammar) : List String → Option CommandSpec → String → Bool →
    Except String (Option CommandSpec × String × Bool)
  | [], cur, bin, asked => .ok (cur, bin, asked)
  | c :: more, cur, bin, asked =>
    let subs := match cur with
      | none => g.allSubcommands
      | some _ => []
    match subs.find? (·.name == c) with
    | some found =>
      if more.isEmpty then .ok (some found, bin, asked || c == "help")
      else helpTarget g more (some found) (bin ++ " " ++ found.name) (asked || c == "help")
    | none => .error c

/-- What `help` followed by the given names shows; for a name that is no subcommand, an error
whose usage line is indented by a tab, not by spaces. -/
def helpRequest (g : Grammar) (top : Scope) (names : List String) : ArgError :=
  match helpTarget g names none top.binName false with
  | .error c =>
    ⟨.unrecognizedSubcommand, "error: The subcommand " ++ quoteSingle c ++ " wasn't recognized\n\n" ++
      "USAGE:\n\t" ++ top.binName ++ " help <subcommands>..." ++ moreInfo, ""⟩
  | .ok (none, _, _) => top.helpError
  | .ok (some found, bin, asked) =>
    let cmd := if asked then { found with positionals := helpCommandSelf.positionals ++ found.positionals }
      else found.withStandardFlags
    let name := bin ++ " " ++ found.name
    (Scope.mk cmd name name [] false).helpError

/-- A command line read: the program's arguments and the subcommand with its arguments. -/
structure Parsed where
  given : Matches
  subcommand : Option (String × Matches)
deriving DecidableEq, Repr

/-- Reads a command line, `binName` being the name the program was called by. -/
def parse (g : Grammar) (binName : String) (args : List String) : Except ArgError Parsed := do
  let top := g.topScope binName
  let (s, stop) ← top.scan args Scan.start
  match stop with
  | .help rest => throw (helpRequest g top rest)
  | .subcommand name rest =>
    match g.subcommands.find? (·.name == name) with
    | some sub =>
      let waiting := top.argumentsShown (top.requiredNames ++ s.given.names) fun n => s.given.has n
      let mid := waiting.foldl (fun acc x => acc ++ " " ++ x) "" ++ " "
      let sc : Scope := ⟨sub.withStandardFlags, binName ++ " " ++ name, binName ++ mid ++ name, [], false⟩
      let (ss, _) ← sc.scan rest Scan.start
      sc.validate ss
      top.validate s
      pure ⟨s.given, some (name, ss.given)⟩
    | none =>
      top.validate s
      pure ⟨s.given, none⟩
  | .finished =>
    if top.needsSubcommand then throw ⟨.missingArgumentOrSubcommand, top.helpText, ""⟩
    top.validate s
    pure ⟨s.given, none⟩

end MetricRing.Cli
