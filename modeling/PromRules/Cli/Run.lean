import PromRules.Cli.Parse
import PromRules.Cli.Files
import PromRules.Cli.Example
import PromRules.Config.Read
import PromRules.Duration.Text
import PromRules.Rule.Name
import PromRules.Text.Literal

/-!
Running the program: reading the command line, choosing the configuration, and carrying out
the command against a file system.

The configuration comes from the file named by `--config`, which must be readable and well
formed; or else from the first of the user's configuration file and `./rulesmith.toml` that
can be read and parsed; or else from the defaults. The environment's overrides apply in every
case. A failure ends the run with status 1 and a report `Error: ...` on standard error; a
failure with a cause adds it after `Caused by:`.
-/

namespace PromRules.Cli

open Config Rule Toml

/-- What a run of the program leaves: its exit status and what it wrote to standard output and
standard error. -/
structure Outcome where
  status : Nat
  stdout : String
  stderr : String

/-- A run that printed its result. -/
def Outcome.success (stdout : String) : Outcome := ⟨0, stdout, ""⟩

/-- A run that failed with a report. -/
def Outcome.failure (message : String) : Outcome := ⟨1, "", "Error: " ++ message ++ "\n"⟩

/-- A run that failed with a report and its cause. -/
def Outcome.failureWithCause (message cause : String) : Outcome :=
  .failure (message ++ "\n\nCaused by:\n    " ++ cause)

/-- Why a configuration file could not be used. -/
inductive ConfigError where
  | unreadable (path : String) (cause : IoError)
  | malformed (path : String) (cause : TomlError) (source : String)

/-- The report of a configuration file that could not be used. -/
def ConfigError.message : ConfigError → String
  | .unreadable path cause =>
    "Failed to read config file " ++ Text.quoteLiteral path ++ ": " ++ cause.message
  | .malformed path cause source =>
    "Failed to parse config file " ++ Text.quoteLiteral path ++ ": " ++ cause.render source

/-- A path below a directory. -/
def joinPath (dir name : String) : String :=
  if dir.endsWith "/" then dir ++ name else dir ++ "/" ++ name

/-- The directory of the user's configuration: `XDG_CONFIG_HOME` when it is an absolute path,
else `.config` under a non-empty `HOME`. -/
def configHome (env : String → Option String) : Option String :=
  let fromHome := (env "HOME").bind fun home =>
    if home.isEmpty then none else some (joinPath home ".config")
  match env "XDG_CONFIG_HOME" with
  | some dir => if dir.startsWith "/" then some dir else fromHome
  | none => fromHome

/-- The configuration files searched, in order. -/
def configCandidates (env : String → Option String) : List String :=
  ((configHome env).map fun dir => joinPath (joinPath dir "rulesmith") "config.toml").toList ++
    ["./rulesmith.toml"]

variable {m : Type → Type} [Monad m] [FileSystem m]

/-- The settings of a configuration file, with the environment's overrides. -/
def loadSettings (env : String → Option String) (path : String) :
    m (Except ConfigError Settings) := do
  match ← FileSystem.readFile path with
  | .error cause => pure (.error (.unreadable path cause))
  | .ok source =>
    pure (match Settings.ofToml source with
      | .ok settings => .ok (settings.applyOverrides env)
      | .error cause => .error (.malformed path cause source))

/-- The settings of the first candidate file that can be used, or the defaults, with the
environment's overrides. -/
def searchSettings (env : String → Option String) : List String → m Settings
  | [] => pure (Settings.default.applyOverrides env)
  | path :: more => do
    match ← loadSettings env path with
    | .ok settings => pure settings
    | .error _ => searchSettings env more

/-- Makes the directory that holds a path. -/
def makeParent (path : String) : m (Except IoError Unit) :=
  match parentPath path with
  | some dir => FileSystem.createDirAll dir
  | none => pure (.ok ())

/-- Runs `duration`: the canonical form of a duration. -/
def runDuration (text : String) : Outcome :=
  match Duration.parse? text with
  | some d => .success (d.render ++ "\n")
  | none => .failure ("Invalid duration: " ++ text)

/-- Runs `rename`: the name a rule of a kind gets from an identifier. -/
def runRename (kind : RuleKind) (identifier : String) : Outcome :=
  .success ((match kind with
    | .alert => alertName identifier
    | .record => recordingName identifier) ++ "\n")

/-- Runs `example`: the example manifest, printed or written to a file. The format and path given on
the command line take the place of the configured ones. -/
def runExample (settings : OutputSettings) (format : Option OutputFormat)
    (output : Option String) : m Outcome := do
  let manifest := exampleBundles >>= fun bundles =>
    renderManifest bundles settings.defaultInterval (format.getD settings.format)
  match manifest, output.or settings.path with
  | .error e, _ => pure (.failure e.message)
  | .ok text, none => pure (.success text)
  | .ok text, some path => do
    match ← makeParent path with
    | .error e => pure (.failure e.message)
    | .ok () =>
      match ← FileSystem.writeFile path text with
      | .error e =>
        pure (.failureWithCause ("writing manifest to " ++ Text.quoteLiteral path) e.message)
      | .ok () => pure (.success "")

/-- Runs `config`: the default configuration file, printed or written to a file. -/
def runWriteConfig (output : Option String) : m Outcome :=
  match output with
  | none => pure (.success defaultText)
  | some path => do
    match ← makeParent path with
    | .error e => pure (.failure e.message)
    | .ok () =>
      match ← FileSystem.writeFile path defaultText with
      | .error e => pure (.failure e.message)
      | .ok () => pure (.success ("Config written to " ++ Text.quoteLiteral path ++ "\n"))

/-- Runs the program on a command line, the program's name left out. -/
def runCommandLine (env : String → Option String) (args : List String) : m Outcome := do
  match readCommandLine args with
  | .answer status stdout stderr => pure ⟨status, stdout, stderr⟩
  | .run invocation =>
    let settings ← match invocation.configPath with
      | some path => loadSettings env path
      | none => Except.ok <$> searchSettings env (configCandidates env)
    match settings with
    | .error e => pure (.failure e.message)
    | .ok settings =>
      match invocation.command with
      | .duration text => pure (runDuration text)
      | .rename kind identifier => pure (runRename kind identifier)
      | .example format output => runExample settings.output format output
      | .writeConfig output => runWriteConfig output

end PromRules.Cli
