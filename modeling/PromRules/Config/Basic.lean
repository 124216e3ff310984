import PromRules.Rule.Manifest

/-!
Settings of the command line tool.

Output settings say in which format manifests are written, to which file (standard output when
none is given), and which evaluation interval groups without their own get. Logging settings give
the level and the format of log lines. Every setting has a default, and environment variables
override settings one by one; a variable whose value does not read as its setting is ignored.
-/

namespace PromRules.Config

open Rule

/-- Where and how manifests are written. -/
structure OutputSettings where
  format : OutputFormat
  path : Option String
  defaultInterval : Option Duration

/-- How logging is done. -/
structure LoggingSettings where
  level : String
  format : String

/-- All settings. -/
structure Settings where
  output : OutputSettings
  logging : LoggingSettings

/-- The default output settings: YAML on standard output, no default interval. -/
def OutputSettings.default : OutputSettings := ⟨.yaml, none, none⟩

/-- The default logging settings: level `info`, format `pretty`. -/
def LoggingSettings.default : LoggingSettings := ⟨"info", "pretty"⟩

/-- The default settings. -/
def Settings.default : Settings := ⟨.default, .default⟩

/-- The environment variables that override settings. -/
def outputFormatVar : String := "RULESMITH_OUTPUT_FORMAT"

/-- The variable that sets the output file. -/
def outputPathVar : String := "RULESMITH_OUTPUT_PATH"

/-- The variable that sets the default interval. -/
def defaultIntervalVar : String := "RULESMITH_DEFAULT_INTERVAL"

/-- The variable that sets the log level. -/
def logLevelVar : String := "RULESMITH_LOG_LEVEL"

/-- The variable that sets the log format. -/
def logFormatVar : String := "RULESMITH_LOG_FORMAT"

/-- Applies overrides read by `lookup`: the format through `OutputFormat.parse`, the interval
through duration syntax (each ignored when it does not read), the other settings as given. -/
def Settings.applyOverrides (lookup : String → Option String) (s : Settings) : Settings :=
  let format := match (lookup outputFormatVar).map OutputFormat.parse with
    | some (.ok f) => f
    | _ => s.output.format
  let path := match lookup outputPathVar with
    | some p => some p
    | none => s.output.path
  let interval := match (lookup defaultIntervalVar).bind Duration.parse? with
    | some d => some d
    | none => s.output.defaultInterval
  let level := (lookup logLevelVar).getD s.logging.level
  let logFormat := (lookup logFormatVar).getD s.logging.format
  ⟨⟨format, path, interval⟩, ⟨level, logFormat⟩⟩

/-- No override leaves the settings as they are. -/
theorem applyOverrides_none (s : Settings) : s.applyOverrides (fun _ => none) = s := by
  rfl

/-- The text of a default settings file, with every setting explained. -/
def defaultText : String :=
  "# Rulesmith Configuration\n#\n# Environment variables override these settings:\n" ++
  "# - RULESMITH_OUTPUT_FORMAT\n# - RULESMITH_OUTPUT_PATH\n# - RULESMITH_DEFAULT_INTERVAL\n" ++
  "# - RULESMITH_LOG_LEVEL\n# - RULESMITH_LOG_FORMAT\n\n[output]\n# Manifest format: yaml or json\n" ++
  "format = \"yaml\"\n\n# Write manifests to a file instead of stdout\n# path = \"./rules.yml\"\n\n" ++
  "# Evaluation interval for rule groups that do not set their own\n" ++
  "# default_interval = \"1m\"\n\n[logging]\n# Log level: trace, debug, info, warn, error\n" ++
  "level = \"info\"\n\n# Log format: pretty (for development) or json (for production)\n" ++
  "format = \"pretty\"\n"

end PromRules.Config
