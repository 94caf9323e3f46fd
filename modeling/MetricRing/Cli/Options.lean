import MetricRing.Cli.Parse
/-!
# The program's command line

```
bucky-ring [--config <path>] [-s <server>]... [-p <port>] <SUBCOMMAND>
    locate [-a] <metrics>...     the owner (or with -a every replica) of each metric
    ring                         a summary of the ring
    tar [-w <workers>] <metrics>...   an archive of the metrics on standard output
```

`--config` names a configuration file; each `-s` names a cluster member, the members given
replacing the configured ones; `-p` is the metric servers' HTTP port, a 16-bit number; `-w`
the number of download workers. `tar -` reads the metric names as a JSON array from standard
input.

* `read_numbers_fit`: a port read from the command line is a 16-bit number and a worker count a
  64-bit one.
-/

namespace MetricRing.Cli

/-- What the program is asked to do. -/
inductive Action where
  /-- Print the owner of each metric; with `all`, its whole replica set in ring order. -/
  | locate (all : Bool) (metrics : List String)
  /-- Print a summary of the ring. -/
  | ring
  /-- Write an archive of the metrics to standard output. -/
  | tar (workers : Option Nat) (metrics : List String)
deriving DecidableEq, Repr

/-- The program's command line, read. -/
structure Options where
  /-- The configuration file. -/
  configPath : Option String
  /-- Cluster members replacing the configured ones; none given keeps those. -/
  servers : List String
  /-- The metric servers' HTTP port, replacing the configured one. -/
  port : Option Nat
  action : Action
deriving DecidableEq, Repr

/-- The program's version. -/
def programVersion : String := "0.0.1"

/-- The positional metric names of `locate` and `tar`. -/
def metricsArg : PositionalSpec := ⟨"metrics", "", true, true⟩

/-- The program's grammar. -/
def grammar : Grammar where
  top :=
    { name := "bucky-ring"
      version := some programVersion
      about := some "Locate and export metrics on a consistent hashing cluster"
      flags := []
      options :=
        [ ⟨"configuration-path", none, some "config", "application configuration", false, .any⟩,
          ⟨"servers", some 's', some "server",
            "cluster member as `server` or `server:instance`; repeat for each member. " ++
              "Replaces the configured servers", true, .any⟩,
          ⟨"port", some 'p', some "port", "metric server HTTP port", false, .unsigned 16⟩ ]
      positionals := [] }
  subcommands :=
    [ { name := "locate"
        version := some programVersion
        about := some "Print the server owning each metric"
        flags := [⟨"all", some 'a', some "all", "print the full replica set in ring order"⟩]
        options := []
        positionals := [metricsArg] },
      { name := "ring"
        version := some programVersion
        about := some "Print a summary of the ring"
        flags := []
        options := []
        positionals := [] },
      { name := "tar"
        version := some programVersion
        about := some ("Write a tar archive of the given metrics to STDOUT. " ++
          "A lone `-` reads a JSON array of metric names from STDIN")
        flags := []
        options := [⟨"workers", some 'w', some "workers", "downloader threads", false, .unsigned 64⟩]
        positionals := [metricsArg] } ]

/-- The action a subcommand and its arguments ask for. -/
def actionOf : Option (String × Matches) → Option Action
  | some ("locate", m) => some (.locate (m.has "all") (m.values "metrics"))
  | some ("ring", _) => some .ring
  | some ("tar", m) =>
    some (.tar ((m.values "workers").head?.bind fun v => (readUnsigned 64 v).toOption)
      (m.values "metrics"))
  | _ => none

/-- Reads the program's command line; `binName` is the name it was called by. -/
def Options.read (binName : String) (args : List String) : Except ArgError Options := do
  let p ← parse grammar binName args
  match actionOf p.subcommand with
  | some action =>
    pure
      { configPath := (p.given.values "configuration-path").head?
        servers := p.given.values "servers"
        port := (p.given.values "port").head?.bind fun v => (readUnsigned 16 v).toOption
        action }
  | none => throw ⟨.missingArgumentOrSubcommand, (grammar.topScope binName).helpText, ""⟩

theorem lt_of_bind_readUnsigned {bits : Nat} {vs : List String} {n : Nat}
    (h : (vs.head?.bind fun v => (readUnsigned bits v).toOption) = some n) : n < Nat.pow 2 bits := by
  obtain ⟨v, -, hv⟩ := Option.bind_eq_some_iff.1 h
  cases hr : readUnsigned bits v with
  | error e => simp [hr, Except.toOption] at hv
  | ok m =>
    simp only [hr, Except.toOption, Option.some.injEq] at hv
    exact hv ▸ readUnsigned_lt bits v m hr

theorem workers_lt_of_actionOf {sub : Option (String × Matches)} {w : Nat} {ms : List String}
    (h : actionOf sub = some (.tar (some w) ms)) : w < Nat.pow 2 64 := by
  unfold actionOf at h
  split at h
  · simp at h
  · simp at h
  · simp only [Option.some.injEq, Action.tar.injEq] at h
    exact lt_of_bind_readUnsigned h.1
  · simp at h

/-- **Numbers on the command line fit their fields.** Whatever the arguments, a port read from
the command line is a 16-bit number and a worker count a 64-bit one. -/
theorem read_numbers_fit {binName : String} {args : List String} {o : Options}
    (h : Options.read binName args = .ok o) :
    (∀ p, o.port = some p → p < Nat.pow 2 16) ∧
      ∀ w ms, o.action = .tar (some w) ms → w < Nat.pow 2 64 := by
  simp only [Options.read, bind, Except.bind] at h
  split at h
  · cases h
  · -- the command line parsed; the subcommand names an action or the read fails
    split at h
    · rename_i action haction
      cases h
      refine ⟨fun q hq => lt_of_bind_readUnsigned hq, fun w ms hw => ?_⟩
      -- the action is the one the subcommand asks for
      obtain rfl : action = .tar (some w) ms := hw
      exact workers_lt_of_actionOf haction
    · cases h

example :
    (Options.read "bucky-ring" ["-s", "a", "ring"]).toOption = some ⟨none, ["a"], none, .ring⟩ := by
  decide +kernel

end MetricRing.Cli
