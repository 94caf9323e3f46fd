import MetricRing.Cli.Options
import MetricRing.Config.Settings
import MetricRing.Export.Run
import MetricRing.Fetch.Http
import MetricRing.Json.Reader
/-!
# The program

`run` is the whole program as a function: from the command line, the files and environment
it can see, its standard input and the network, to what it writes and its exit status.

1. The command line is read (`Options.read`); help and version go to standard output with
   status 0, other errors to standard error with status 1.
2. The configuration is loaded (`Configuration.load`), command line settings replacing the
   configured ones. A configuration whose reading stops the program ends it with status 101.
3. `locate` prints `metric: owner` lines (with `-a` the whole replica set, separated by
   spaces), `ring` the ring's summary, and `tar` writes an archive of the metrics (read from
   standard input as a JSON array when the only metric is `-`) and fails when some could not
   be fetched, after writing the archive of the others. An archive is never written to a
   terminal.

A failure is reported on standard error as `Error: ` and its message, followed by its causes
under `Caused by:`, numbered when there are several, and the status is 1.

* `report_single` shows how a failure with one cause is reported.
-/

namespace MetricRing.Cli

/-- A failure of the program: its message and the messages of its causes, outermost first. -/
structure Failure where
  message : String
  causes : List String
deriving DecidableEq, Repr

/-- A cause's text indented under `Caused by:`, with its number when there are several. -/
def indentCause (number : Option Nat) (text : String) : String :=
  let lead := match number with
    | some n => let s := toString n; String.ofList (List.replicate (5 - s.length) ' ') ++ s ++ ": "
    | none => "    "
  let follow := if number.isSome then "       " else "    "
  match text.splitOn "\n" with
  | [] => lead
  | first :: rest => rest.foldl (fun acc l => acc ++ "\n" ++ follow ++ l) (lead ++ first)

/-- The report of a failure on standard error. -/
def Failure.report (f : Failure) : String :=
  let causes := match f.causes with
    | [] => ""
    | [c] => "\n\nCaused by:\n" ++ indentCause none c
    | cs => "\n\nCaused by:" ++
      (cs.zipIdx.foldl (fun acc (c, n) => acc ++ "\n" ++ indentCause (some n) c) "")
  "Error: " ++ f.message ++ causes ++ "\n"

theorem report_single (m c : String) (h : c.splitOn "\n" = [c]) :
    (Failure.mk m [c]).report = "Error: " ++ m ++ "\n\nCaused by:\n" ++ "    " ++ c ++ "\n" := by
  simp only [Failure.report, indentCause, h, List.foldl_nil, String.append_assoc]

/-- The report of a program stopped while reading its configuration; its status is 101. -/
def abortReport (m : String) : String :=
  "thread 'main' panicked:\n" ++ m ++
    "\nnote: run with \x60RUST_BACKTRACE=1\x60 environment variable to display a backtrace\n"

/-- What the program wrote and how it ended. -/
structure Exit where
  status : Nat
  stdout : Bytes
  stderr : String

/-- A successful end with output. -/
def Exit.printed (text : String) : Exit := ⟨0, text.toUTF8.toList, ""⟩

/-- A failed end, after writing `out`. -/
def Exit.failed (out : Bytes) (f : Failure) : Exit := ⟨1, out, f.report⟩

/-- What the program runs in: the files and environment it sees, its standard input, whether
its standard output is a terminal, and the network its downloads go through. -/
structure Host where
  workspace : Config.Workspace
  stdin : ByteArray
  terminal : Bool
  transport : Transport

/-- The `locate` lines. -/
def locateLines (ring : HashRing) (all : Bool) (metrics : List String) : Except RingFault String :=
  metrics.foldlM (fun acc m => do
    let owners ← if all then ring.owners m else do pure [← ring.owner m]
    pure (acc ++ m ++ ": " ++ " ".intercalate (owners.map Node.render) ++ "\n")) ""

/-- The metric names of `tar`: the arguments, or a JSON array read from standard input when
the only argument is `-`. -/
def tarMetrics (host : Host) (args : List String) : Except Failure (List String) :=
  if args == ["-"] then
    (Json.readStringList .stream host.stdin).mapError fun e =>
      ⟨"reading JSON metric list from STDIN", [e.text]⟩
  else .ok args

/-- The causes of an export failure. -/
def tarFailure (e : TarError) : Failure :=
  match e with
  | .archive a => ⟨e.message, [a.message, a.source]⟩
  | _ => ⟨e.message, []⟩

/-- Writes the archive of the metrics. -/
def tar (host : Host) (c : Config.Configuration) (ring : HashRing) (args : List String) : Exit :=
  if host.terminal then .failed [] ⟨"refusing to write tar file to terminal", []⟩ else
  match tarMetrics host args with
  | .error f => .failed [] f
  | .ok metrics =>
    match plan ring metrics c.fallback with
    | .error e => .failed [] (tarFailure e)
    | .ok work =>
      let src : HttpSource := ⟨c.port, c.timeoutSecs, host.transport⟩
      match MetricRing.run work src.toSource (Archive.TarSink.new (Archive.Output.withLimit none)) with
      | .error e => .failed [] (tarFailure e)
      | .ok o =>
        match o.report.toResult with
        | .ok _ => ⟨0, o.output.contents, ""⟩
        | .error e => .failed o.output.contents (tarFailure e)

/-- Runs the program; `binName` is the name it was called by. -/
def run (host : Host) (binName : String) (args : List String) : Exit :=
  match Options.read binName args with
  | .error e =>
    if e.isFailure then ⟨1, [], e.message ++ "\n"⟩ else .printed (e.printed ++ e.message ++ "\n")
  | .ok opts =>
    let workers := match opts.action with
      | .tar w _ => w
      | _ => none
    match Config.Configuration.load host.workspace opts.configPath ⟨opts.servers, opts.port, workers⟩ with
    | .error (.configSource (.abort m)) => ⟨101, [], abortReport m⟩
    | .error e => .failed [] ⟨"loading configuration", e.message :: e.source.toList⟩
    | .ok c =>
      let ring := c.ring
      match opts.action with
      | .ring => .printed (ring.render ++ "\n")
      | .locate all metrics =>
        match locateLines ring all metrics with
        | .ok text => .printed text
        | .error f => .failed [] ⟨f.message, []⟩
      | .tar _ metrics => tar host c ring metrics

/-- The command line makes the program read its standard input. -/
def readsInput (args : List String) : Bool :=
  match Options.read "" args with
  | .ok ⟨_, _, _, .tar _ ["-"]⟩ => true
  | _ => false

/-- The files the program may read for a command line: the optional reference configuration
and the configuration file, each with every extension a configuration may have. -/
def filesWanted (args : List String) : List String :=
  let given := match Options.read "" args with
    | .ok opts => opts.configPath.toList
    | .error _ => []
  let names := "config/reference.toml" :: given
  names ++ names.flatMap fun n =>
    Config.Format.all.flatMap fun f => f.extensions.filterMap (Config.withExtension n)

end MetricRing.Cli
