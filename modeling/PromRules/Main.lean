import PromRules.Cli.Run

/-!
The `rulesmith` program: runs its command line against the real file system and environment,
prints what the run wrote to each stream, and exits with the run's status.
-/

open PromRules PromRules.Cli

/-- A failed file operation's error, as the program reports it. -/
def reportedError : IO.Error → IoError
  | .noFileOrDirectory .. => .notFound
  | .alreadyExists .. => .alreadyExists
  | .inappropriateType _ 21 _ => .isDirectory
  | .inappropriateType _ 20 _ => .notDirectory
  | e => .other (toString e)

/-- Runs a file operation, catching its error. -/
def attempt {α : Type} (action : IO α) : IO (Except IoError α) := do
  try return .ok (← action) catch e => return .error (reportedError e)

instance : FileSystem IO where
  readFile path := attempt (IO.FS.readFile path)
  createDirAll path := attempt (IO.FS.createDirAll path)
  writeFile path text := attempt (IO.FS.writeFile path text)

/-- The environment variables the program reads. -/
def environmentNames : List String :=
  [Config.outputFormatVar, Config.outputPathVar, Config.defaultIntervalVar, Config.logLevelVar,
    Config.logFormatVar, "HOME", "XDG_CONFIG_HOME"]

def main (args : List String) : IO UInt32 := do
  let values ← environmentNames.mapM fun name => do return (name, ← IO.getEnv name)
  let outcome ← runCommandLine (fun name => (values.lookup name).join) args
  IO.print outcome.stdout
  IO.eprint outcome.stderr
  return outcome.status.toUInt32
