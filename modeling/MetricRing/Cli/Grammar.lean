/-!
# Command-line grammars

A command line is read against a grammar: a program with switches, positional arguments and
subcommands, each subcommand with its own switches and positionals.

* A flag is a switch that takes no value: `-a`, `--all`.
* An option takes one value per occurrence: `-p 81`, `-p81`, `-p=81`, `--port 81`,
  `--port=81`. A multiple option may be given again to add values.
* A positional takes the arguments that are neither switches nor option values, in order; a
  multiple positional takes all the rest.

Every command also understands `-h`/`--help` and `-V`/`--version` (a short letter only when
no switch of the command already uses it), and a program with subcommands has a `help`
subcommand that shows the help of the program or of the subcommands it names.

Option values can be checked: `ValueCheck.unsigned b` accepts decimal integers below `2 ^ b`,
with the messages of the usual integer reader (`cannot parse integer from empty string`,
`invalid digit found in string`, `number too large to fit in target type`).

* `readUnsigned_digits` says a run of digits within range reads as its value.
-/

namespace MetricRing.Cli

/-- How the values of an option are checked. -/
inductive ValueCheck where
  /-- Any text is accepted. -/
  | any
  /-- An unsigned decimal integer below `2 ^ bits`, with an optional `+`. -/
  | unsigned (bits : Nat)
deriving DecidableEq, Repr

/-- A flag: a switch that takes no value. -/
structure FlagSpec where
  /-- The name the flag is recorded under; help lists flags by it. -/
  name : String
  short : Option Char
  long : Option String
  help : String
deriving DecidableEq, Repr

/-- An option: a switch that takes one value per occurrence. -/
structure OptionSpec where
  /-- The name the option is recorded under, also shown as its value's placeholder. -/
  name : String
  short : Option Char
  long : Option String
  help : String
  /-- May be given more than once. -/
  multiple : Bool
  check : ValueCheck
deriving DecidableEq, Repr

/-- A positional argument. -/
structure PositionalSpec where
  name : String
  help : String
  required : Bool
  /-- Takes every remaining positional value. -/
  multiple : Bool
deriving DecidableEq, Repr

/-- A command: the program or one of its subcommands. -/
structure CommandSpec where
  name : String
  version : Option String
  about : Option String
  flags : List FlagSpec
  options : List OptionSpec
  positionals : List PositionalSpec
deriving DecidableEq, Repr

/-- A program: its own command and its subcommands. Without a subcommand on the command line
the program shows its help as an error. -/
structure Grammar where
  top : CommandSpec
  subcommands : List CommandSpec
deriving DecidableEq, Repr

/-- The value of a run of decimal digits, or the first fault met reading it left to right
under the bound `2 ^ bits`. -/
def readDigits (bits : Nat) : List Char → Nat → Except String Nat
  | [], acc => .ok acc
  | c :: rest, acc =>
    if c.isDigit then
      let next := acc * 10 + (c.toNat - '0'.toNat)
      if next < Nat.pow 2 bits then readDigits bits rest next
      else .error "number too large to fit in target type"
    else .error "invalid digit found in string"

/-- Reads an unsigned decimal integer below `2 ^ bits`: an optional `+`, then digits. -/
def readUnsigned (bits : Nat) (s : String) : Except String Nat :=
  match s.toList with
  | [] => .error "cannot parse integer from empty string"
  | ['+'] | ['-'] => .error "invalid digit found in string"
  | '+' :: rest => readDigits bits rest 0
  | cs => readDigits bits cs 0

theorem readDigits_lt (bits : Nat) (cs : List Char) (acc n : Nat) (hacc : acc < Nat.pow 2 bits)
    (h : readDigits bits cs acc = .ok n) : n < Nat.pow 2 bits := by
  induction cs generalizing acc with
  | nil => simp [readDigits] at h; omega
  | cons c rest ih =>
    simp only [readDigits] at h
    split at h
    · split at h
      · exact ih _ (by assumption) h
      · cases h
    · cases h

theorem readUnsigned_lt (bits : Nat) (s : String) (n : Nat) (h : readUnsigned bits s = .ok n) :
    n < Nat.pow 2 bits := by
  unfold readUnsigned at h
  split at h
  · cases h
  · cases h
  · cases h
  · exact readDigits_lt bits _ 0 n (Nat.two_pow_pos bits) h
  · exact readDigits_lt bits _ 0 n (Nat.two_pow_pos bits) h

/-- The value of a run of digits. -/
def digitsValue (cs : List Char) : Nat := cs.foldl (fun acc c => acc * 10 + (c.toNat - '0'.toNat)) 0

theorem readDigits_digits (bits : Nat) (cs : List Char) (acc : Nat) (hd : cs.all Char.isDigit = true)
    (hr : cs.foldl (fun acc c => acc * 10 + (c.toNat - '0'.toNat)) acc < Nat.pow 2 bits) :
    readDigits bits cs acc = .ok (cs.foldl (fun acc c => acc * 10 + (c.toNat - '0'.toNat)) acc) := by
  induction cs generalizing acc with
  | nil => rfl
  | cons c rest ih =>
    simp only [List.all_cons, Bool.and_eq_true] at hd
    simp only [List.foldl_cons] at hr
    have hmono : ∀ (l : List Char) (a : Nat),
        a ≤ l.foldl (fun acc c => acc * 10 + (c.toNat - '0'.toNat)) a := by
      intro l
      induction l with
      | nil => intro a; exact Nat.le_refl a
      | cons x xs ihx =>
        intro a
        simp only [List.foldl_cons]
        exact Nat.le_trans (by omega) (ihx _)
    have hlt := Nat.lt_of_le_of_lt (hmono rest _) hr
    simp only [readDigits, hd.1, if_true, hlt, List.foldl_cons]
    exact ih _ hd.2 hr

theorem readUnsigned_digits (bits : Nat) (cs : List Char) (hne : cs ≠ [])
    (hd : cs.all Char.isDigit = true) (hr : digitsValue cs < Nat.pow 2 bits) :
    readUnsigned bits (String.ofList cs) = .ok (digitsValue cs) := by
  unfold readUnsigned
  simp only [String.toList_ofList]
  match cs, hne, hd with
  | c :: rest, _, hd =>
    have hc : c.isDigit = true := by simp only [List.all_cons, Bool.and_eq_true] at hd; exact hd.1
    have hp : c ≠ '+' := by intro e; subst e; simp [Char.isDigit] at hc
    have hm : c ≠ '-' := by intro e; subst e; simp [Char.isDigit] at hc
    split
    · rename_i h; cases h
    · rename_i h; simp at h; exact absurd h.1 hp
    · rename_i h; simp at h; exact absurd h.1 hm
    · rename_i rest' h; simp at h; exact absurd h.1 hp
    · exact readDigits_digits bits _ 0 hd hr

/-- Checks one value of an option. -/
def ValueCheck.run : ValueCheck → String → Except String Unit
  | .any, _ => .ok ()
  | .unsigned bits, s => (readUnsigned bits s).map fun _ => ()

namespace FlagSpec

/-- How the flag is named in usage lines and errors: its long form, else its short one. -/
def display (f : FlagSpec) : String :=
  match f.long, f.short with
  | some l, _ => "--" ++ l
  | none, some c => "-" ++ c.toString
  | none, none => ""

end FlagSpec

namespace OptionSpec

/-- The value placeholder: `<name>`, with `...` when the option may repeat. -/
def placeholder (o : OptionSpec) : String :=
  "<" ++ o.name ++ ">" ++ (if o.multiple then "..." else "")

/-- How the option is named in usage lines and errors: `--port <port>`. -/
def display (o : OptionSpec) : String :=
  match o.long, o.short with
  | some l, _ => "--" ++ l ++ " " ++ o.placeholder
  | none, some c => "-" ++ c.toString ++ " " ++ o.placeholder
  | none, none => o.placeholder

end OptionSpec

/-- How a positional is named in usage lines and errors: `<metrics>...`. -/
def PositionalSpec.display (p : PositionalSpec) : String :=
  "<" ++ p.name ++ ">" ++ (if p.multiple then "..." else "")

namespace CommandSpec

/-- Some switch of the command uses the short letter. -/
def usesShort (c : CommandSpec) (ch : Char) : Bool :=
  c.flags.any (·.short == some ch) || c.options.any (·.short == some ch)

/-- The `--help` flag a command gets. -/
def helpFlag (c : CommandSpec) : FlagSpec :=
  ⟨"help", if c.usesShort 'h' then none else some 'h', some "help", "Prints help information"⟩

/-- The `--version` flag a command gets. -/
def versionFlag (c : CommandSpec) : FlagSpec :=
  ⟨"version", if c.usesShort 'V' then none else some 'V', some "version",
    "Prints version information"⟩

/-- The command with its `--help` and `--version` flags. -/
def withStandardFlags (c : CommandSpec) : CommandSpec :=
  { c with flags := c.flags ++ [c.helpFlag, c.versionFlag] }

/-- The flag with a long name. -/
def flagByLong (c : CommandSpec) (l : String) : Option FlagSpec := c.flags.find? (·.long == some l)

/-- The option with a long name. -/
def optionByLong (c : CommandSpec) (l : String) : Option OptionSpec :=
  c.options.find? (·.long == some l)

/-- The flag with a short letter. -/
def flagByShort (c : CommandSpec) (ch : Char) : Option FlagSpec :=
  c.flags.find? (·.short == some ch)

/-- The option with a short letter. -/
def optionByShort (c : CommandSpec) (ch : Char) : Option OptionSpec :=
  c.options.find? (·.short == some ch)

/-- The long names of the command's switches, flags first. -/
def longs (c : CommandSpec) : List String :=
  c.flags.filterMap (·.long) ++ c.options.filterMap (·.long)

/-- How an argument of the command is named in usage lines and errors. -/
def displayOf (c : CommandSpec) (name : String) : String :=
  match c.positionals.find? (·.name == name) with
  | some p => p.display
  | none =>
    match c.flags.find? (·.name == name) with
    | some f => f.display
    | none =>
      match c.options.find? (·.name == name) with
      | some o => o.display
      | none => name

end CommandSpec

/-- The `help` subcommand of a program with subcommands. -/
def helpCommand : CommandSpec :=
  ⟨"help", none, some "Prints this message or the help of the given subcommand(s)", [], [], []⟩

/-- The `help` subcommand asked about itself: it takes the names of subcommands. -/
def helpCommandSelf : CommandSpec :=
  { helpCommand with
    positionals := [⟨"subcommand", "The subcommand whose help message to display", false, true⟩] }

/-- The subcommands a program understands, `help` last. -/
def Grammar.allSubcommands (g : Grammar) : List CommandSpec :=
  if g.subcommands.isEmpty then [] else g.subcommands ++ [helpCommand]

end MetricRing.Cli
