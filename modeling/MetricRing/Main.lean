import MetricRing.Cli.Program
/-!
# The command-line program

Gathers what the program may look at (its configuration files, the `BUCKY_` variables naming
settings, and standard input when it is asked to read metric names from it), runs the program
(`Cli.run`), and writes what it wrote, ending with its status. This build has no network
client: every download goes unanswered.
-/

open MetricRing

/-- The settings an environment variable may carry, as the variable names them. -/
def settingVariables : List String :=
  ["SERVERS", "PORT", "WORKERS", "REPLICAS", "TIMEOUT_SECS", "FALLBACK"].map ("BUCKY_" ++ ·)

/-- A file's path and text, if it can be read. -/
def readIfPresent (path : String) : IO (Option (String × String)) := do
  try
    let text ← IO.FS.readFile path
    pure (some (path, text))
  catch _ => pure none

/-- Everything left on a stream. -/
partial def readAll (stream : IO.FS.Stream) (acc : ByteArray) : IO ByteArray := do
  let chunk ← stream.read 65536
  if chunk.isEmpty then pure acc else readAll stream (acc ++ chunk)

def main (args : List String) : IO UInt32 := do
  let files ← (Cli.filesWanted args).filterMapM readIfPresent
  let env ← settingVariables.filterMapM fun key => do
    pure ((← IO.getEnv key).map fun v => (key, v))
  let cwd := (← IO.currentDir).toString
  let stdin ← if Cli.readsInput args then readAll (← IO.getStdin) ByteArray.empty
    else pure ByteArray.empty
  let out ← IO.getStdout
  let host : Cli.Host := ⟨⟨cwd, files, env⟩, stdin, ← out.isTty, Transport.offline⟩
  let exit := Cli.run host "bucky-ring" args
  out.write (ByteArray.mk exit.stdout.toArray)
  out.flush
  let err ← IO.getStderr
  err.putStr exit.stderr
  err.flush
  pure exit.status.toUInt32
