import PromRules.Rule.Manifest

/-!
The command line of `rulesmith`: its subcommands, their arguments and options, and the help
pages and usage lines written from them.

A help page is the command's description, its usage line, and then one section per kind of
argument. Each section lists one argument a line, two spaces in, its label padded to the longest
label of the section and two more spaces before its description.
-/

namespace PromRules.Cli

/-- An option that takes a value, such as `-c, --config <CONFIG>`. -/
structure ValueOption where
  short : Char
  long : String
  valueName : String
  help : String

/-- A positional argument; `choices` lists its possible values, or is empty when any value
goes. -/
structure Positional where
  valueName : String
  help : String
  choices : List String

/-- The commands that run something. -/
inductive CommandKind where
  | duration
  | rename
  | example
  | writeConfig
deriving DecidableEq, Repr

/-- A subcommand's grammar. -/
structure Subcommand where
  kind : CommandKind
  name : String
  about : String
  positionals : List Positional
  options : List ValueOption

/-- The program's name on the command line. -/
def programName : String := "rulesmith"

/-- The program's version. -/
def programVersion : String := "0.1.0"

/-- What the program does, the first line of its help. -/
def programAbout : String := "Build PromQL expressions and rule manifests from typed code"

/-- The configuration option, accepted before and after any subcommand. -/
def configOption : ValueOption :=
  ⟨'c', "config", "CONFIG", "Config file (default: search the standard locations)"⟩

/-- The kinds of rule that `rename` accepts. -/
def ruleKinds : List String := ["alert", "record"]

/-- The command `duration TEXT`, which prints a duration in canonical form. -/
def durationCommand : Subcommand :=
  ⟨.duration, "duration", "Print a duration in canonical form (e.g. 605s -> 10m5s)",
    [⟨"TEXT", "Duration text such as 90s, 1h30m or -5m", []⟩], []⟩

/-- The command `rename KIND NAME`, which shows a rule name. -/
def renameCommand : Subcommand :=
  ⟨.rename, "rename", "Show the rule name derived from an identifier",
    [⟨"KIND", "Rule kind", ruleKinds⟩, ⟨"NAME", "snake_case identifier", []⟩], []⟩

/-- The command `example`, which renders the example bundles. -/
def exampleCommand : Subcommand :=
  ⟨.example, "example", "Render the example rule bundles as a manifest", [],
    [⟨'f', "format", "FORMAT", "Output format (overrides config)"⟩,
      ⟨'o', "output", "OUTPUT", "Output file (overrides config; default stdout)"⟩]⟩

/-- The command `config`, which prints the default configuration file. -/
def configCommand : Subcommand :=
  ⟨.writeConfig, "config", "Print a default config file", [],
    [⟨'o', "output", "OUTPUT", "Output file (default: stdout)"⟩]⟩

/-- The subcommands that run something, in the order of the help page. -/
def subcommands : List Subcommand := [durationCommand, renameCommand, exampleCommand, configCommand]

/-- What the built-in `help` subcommand does. -/
def helpAbout : String := "Print this message or the help of the given subcommand(s)"

/-- Every subcommand name, `help` last. -/
def subcommandNames : List String := subcommands.map (·.name) ++ ["help"]

/-- The subcommand of a name. -/
def findSubcommand (name : String) : Option Subcommand := subcommands.find? (·.name == name)

/-- The options a subcommand accepts: its own, then the configuration option. -/
def Subcommand.allOptions (cmd : Subcommand) : List ValueOption := cmd.options ++ [configOption]

/-- How an option is named in messages: `--config <CONFIG>`. -/
def ValueOption.display (o : ValueOption) : String := "--" ++ o.long ++ " <" ++ o.valueName ++ ">"

/-- How an option is labelled on a help page: `-c, --config <CONFIG>`. -/
def ValueOption.label (o : ValueOption) : String := "-" ++ o.short.toString ++ ", " ++ o.display

/-- How a positional argument is named: `<TEXT>`. -/
def Positional.display (p : Positional) : String := "<" ++ p.valueName ++ ">"

/-- The possible values of a positional argument, as listed after its description. -/
def possibleValues (choices : List String) : String :=
  "[possible values: " ++ ", ".intercalate choices ++ "]"

/-- A positional argument's description, with its possible values. -/
def Positional.describe (p : Positional) : String :=
  if p.choices.isEmpty then p.help else p.help ++ " " ++ possibleValues p.choices

/-- A run of `n` spaces. -/
def padding (n : Nat) : String := String.ofList (List.replicate n ' ')

/-- A help section: a title and its rows, labels aligned to the longest. -/
def helpSection (title : String) (rows : List (String × String)) : String :=
  let width := rows.foldl (fun w r => max w r.1.length) 2
  let line (r : String × String) := "  " ++ r.1 ++ padding (width - r.1.length) ++ "  " ++ r.2
  title ++ ":\n" ++ "\n".intercalate (rows.map line)

/-- A help page from its description, usage line and sections. -/
def helpPage (about usage : String) (sections : List String) : String :=
  about ++ "\n\nUsage: " ++ usage ++ "\n\n" ++ "\n\n".intercalate sections ++ "\n"

/-- The row of the help flag. -/
def helpRow : String × String := ("-h, --help", "Print help")

/-- The usage line of the program itself. -/
def rootUsage : String := programName ++ " [OPTIONS] <COMMAND>"

/-- The help page of the program itself. -/
def rootHelp : String :=
  helpPage programAbout rootUsage
    [helpSection "Commands" (subcommands.map (fun c => (c.name, c.about)) ++ [("help", helpAbout)]),
      helpSection "Options"
        [(configOption.label, configOption.help), helpRow, ("-V, --version", "Print version")]]

/-- The full usage line of a subcommand. -/
def Subcommand.usage (cmd : Subcommand) : String :=
  " ".intercalate ((programName :: cmd.name :: "[OPTIONS]" :: cmd.positionals.map (·.display)))

/-- The help page of a subcommand. -/
def Subcommand.help (cmd : Subcommand) : String :=
  let arguments :=
    if cmd.positionals.isEmpty then []
    else [helpSection "Arguments" (cmd.positionals.map fun p => (p.display, p.describe))]
  let options := cmd.allOptions.map (fun o => (o.label, o.help)) ++ [helpRow]
  helpPage cmd.about cmd.usage (arguments ++ [helpSection "Options" options])

/-- The usage line of the `help` subcommand. -/
def helpUsage : String := programName ++ " help [COMMAND]..."

/-- The help page of the `help` subcommand. -/
def helpHelp : String :=
  helpPage helpAbout helpUsage
    [helpSection "Arguments" [("[COMMAND]...", "Print help for the subcommand(s)")]]

/-- The line printed for `--version`. -/
def versionLine : String := programName ++ " " ++ programVersion ++ "\n"

end PromRules.Cli
