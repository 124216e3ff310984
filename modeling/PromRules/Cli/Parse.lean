import PromRules.Cli.Grammar
import PromRules.Cli.Similar

/-!
Reading the command line.

Arguments are read left to right, one level at a time: first the program's own options up to
the subcommand's name, then the subcommand's arguments. A long option is `--name`, with its
value after `=` or in the next argument; short options are single letters after one dash, and a
letter that takes a value takes the rest of the argument (after an optional `=`) or the next
argument. `--` ends the options; `-` alone is a value.

A value is checked when the argument that carries it is settled: when the next option or value
is met, or at the end. An unknown option or a value too many is reported at once, before the
argument still waiting is settled. A subcommand's name is recognized even where an option of the
program still waits for its value.

Help and the version are printed on standard output with status 0. Usage errors are printed on
standard error with status 2: a first line `error: ...`, tips that suggest what a mistyped word
may have meant, the usage line, and a pointer to `--help`.
-/

namespace PromRules.Cli

open Rule

/-- The kind of rule whose name `rename` shows. -/
inductive RuleKind where
  | alert
  | record
deriving DecidableEq, Repr

/-- The command to run. -/
inductive Command where
  | duration (text : String)
  | rename (kind : RuleKind) (identifier : String)
  | example (format : Option OutputFormat) (output : Option String)
  | writeConfig (output : Option String)

/-- A command line read in full: the configuration file it names, and the command. -/
structure Invocation where
  configPath : Option String
  command : Command

/-- What reading a command line gives: a command to run, or an answer to print at once (help,
the version or a usage error) with its exit status. -/
inductive Parsed where
  | run (invocation : Invocation)
  | answer (status : Nat) (stdout stderr : String)

/-- One level of the command line: the program itself or one subcommand. -/
structure Level where
  path : String
  positionals : List Positional
  options : List ValueOption
  help : String
  usage : String
  isRoot : Bool

/-- The program's own level. -/
def rootLevel : Level := ⟨programName, [], [configOption], rootHelp, rootUsage, true⟩

/-- A subcommand's level. -/
def Subcommand.level (cmd : Subcommand) : Level :=
  ⟨programName ++ " " ++ cmd.name, cmd.positionals, cmd.allOptions, cmd.help, cmd.usage, false⟩

/-- The long options of a level, flags included. -/
def Level.longs (lvl : Level) : List String :=
  lvl.options.map (·.long) ++ ["help"] ++ (if lvl.isRoot then ["version"] else [])

/-- The usage line naming the options given and every required argument. -/
def Level.requiredUsage (lvl : Level) (used : List String) : String :=
  " ".intercalate (lvl.path :: used ++ lvl.positionals.map (·.display) ++
    (if lvl.isRoot then ["<COMMAND>"] else []))

/-- The usage line for an error: the full one when no option has been given, else the one
naming the options given. -/
def Level.usageWith (lvl : Level) (used : List String) : String :=
  if used.isEmpty then lvl.usage else lvl.requiredUsage used

/-- An argument that takes a value: an option or a positional argument by index. -/
inductive Slot where
  | option (o : ValueOption)
  | positional (index : Nat)

/-- The arguments of one level read so far. `pending` is the argument last met, whose value is
still to be checked (`none` while an option still waits for its value); `next` is the index of
the next positional argument; `trailing` says `--` has been met. -/
structure Found where
  options : List (ValueOption × String)
  values : List String
  pending : Option (Slot × Option String)
  next : Nat
  trailing : Bool

/-- Nothing read yet. -/
def Found.empty : Found := ⟨[], [], none, 0, false⟩

/-- The options given, as they are named in usage lines. -/
def Found.used (f : Found) : List String := f.options.map (·.1.display)

/-- The value given to an option. -/
def Found.optionValue (f : Found) (long : String) : Option String :=
  (f.options.find? (·.1.long == long)).map (·.2)

/-- A word in single quotes. -/
def quoted (s : String) : String := "'" ++ s ++ "'"

/-- A usage error, with its tips and usage line. -/
def usageError (body : String) (tips : List String) (usage : Option String) : Parsed :=
  let tipText :=
    if tips.isEmpty then "" else "\n\n" ++ "\n".intercalate (tips.map ("  tip: " ++ ·))
  let usageText := match usage with
    | some line => "\n\nUsage: " ++ line
    | none => ""
  .answer 2 "" ("error: " ++ body ++ tipText ++ usageText ++ "\n\nFor more information, try '--help'.\n")

/-- The list of possible values after an error's first line. -/
def valuesNote (choices : List String) : String :=
  if choices.isEmpty then "" else "\n  " ++ possibleValues choices

/-- The error for an argument given no value. -/
def emptyValue (display : String) (choices : List String) : Parsed :=
  usageError ("a value is required for " ++ quoted display ++ " but none was supplied" ++
    valuesNote choices) [] none

/-- Checks an option's value: a format must be one the program writes, and a path must not be
empty. -/
def checkOption (o : ValueOption) (value : String) : Except Parsed Unit :=
  if o.long == "format" then
    match OutputFormat.parse value with
    | .ok _ => pure ()
    | .error reason =>
      throw (usageError ("invalid value " ++ quoted value ++ " for " ++ quoted o.display ++ ": " ++
        reason) [] none)
  else if value.isEmpty then throw (emptyValue o.display [])
  else pure ()

/-- Checks a positional argument's value against its possible values. -/
def checkPositional (p : Positional) (value : String) : Except Parsed Unit :=
  if p.choices.isEmpty || p.choices.contains value then pure ()
  else if value.isEmpty then throw (emptyValue p.display p.choices)
  else
    let tips := match bestMatch? value p.choices with
      | some choice => ["a similar value exists: " ++ quoted choice]
      | none => []
    throw (usageError ("invalid value " ++ quoted value ++ " for " ++ quoted p.display ++
      valuesNote p.choices) tips none)

/-- Settles the argument waiting for its value: checks the value and records it. -/
def Level.settle (lvl : Level) (f : Found) : Except Parsed Found :=
  match f.pending with
  | none => pure f
  | some (.option o, none) => throw (emptyValue o.display [])
  | some (.option o, some value) =>
    if f.options.any (·.1.long == o.long) then
      throw (usageError ("the argument " ++ quoted o.display ++ " cannot be used multiple times")
        [] (some lvl.usage))
    else do
      checkOption o value
      pure { f with pending := none, options := f.options ++ [(o, value)] }
  | some (.positional index, value) =>
    match lvl.positionals[index]?, value with
    | some p, some v => do
      checkPositional p v
      pure { f with pending := none, values := f.values ++ [v] }
    | _, _ => pure { f with pending := none }

/-- Settles the waiting argument for a usage line, dropping it if its value is wrong. -/
def Level.settleQuietly (lvl : Level) (f : Found) : Found :=
  match lvl.settle f with
  | .ok settled => settled
  | .error _ => { f with pending := none }

/-- The tip that a word starting with a dash can be passed as a value after `--`. -/
def Level.valueTip (lvl : Level) (arg : String) : List String :=
  if lvl.positionals.isEmpty then []
  else ["to pass " ++ quoted arg ++ " as a value, use " ++ quoted ("-- " ++ arg)]

/-- A subcommand with a long option like `name`, named later on the command line: its name and
the option, from the subcommand named first. -/
def subcommandWithFlag (name : String) (rest : List String) : Option (String × String) :=
  let found := subcommands.filterMap fun cmd =>
    match bestMatch? name cmd.level.longs, rest.findIdx? (· == cmd.name) with
    | some flag, some position => some (position, cmd.name, flag)
    | _, _ => none
  let first := found.foldl (fun best x =>
    match best with
    | some b => if x.1 < b.1 then some x else best
    | none => some x) none
  first.map (·.2)

/-- The error for an unknown long option `--name`; `rest` are the arguments after it. -/
def Level.unknownLong (lvl : Level) (f : Found) (name : String) (rest : List String) : Parsed :=
  let f := lvl.settleQuietly f
  let arg := "--" ++ name
  let body := "unexpected argument " ++ quoted arg ++ " found"
  match bestMatch? name lvl.longs with
  | some flag =>
    let display := match lvl.options.find? (·.long == flag) with
      | some o => o.display
      | none => "--" ++ flag
    let used := if f.used.contains display then f.used else f.used ++ [display]
    usageError body ["a similar argument exists: " ++ quoted ("--" ++ flag)]
      (some (lvl.usageWith used))
  | none =>
    let elsewhere := if lvl.isRoot then subcommandWithFlag name rest else none
    match elsewhere with
    | some (sub, flag) =>
      usageError body [quoted (sub ++ " --" ++ flag) ++ " exists"] (some (lvl.usageWith f.used))
    | none => usageError body (lvl.valueTip arg) (some (lvl.usageWith f.used))

/-- The error for an unknown short option `-c`. -/
def Level.unknownShort (lvl : Level) (c : Char) : Parsed :=
  let arg := "-" ++ c.toString
  usageError ("unexpected argument " ++ quoted arg ++ " found") (lvl.valueTip arg) (some lvl.usage)

/-- The error for a word with no place: a value too many, or an unknown subcommand. -/
def Level.unexpected (lvl : Level) (f : Found) (arg : String) : Parsed :=
  if lvl.isRoot then
    if f.trailing && subcommandNames.contains arg then
      usageError ("unexpected argument " ++ quoted "--" ++ " found")
        ["subcommand " ++ quoted arg ++ " exists; to use it, remove the " ++ quoted "--" ++
          " before it"] (some lvl.usage)
    else
      let body := "unrecognized subcommand " ++ quoted arg
      match similarWords arg subcommandNames with
      | [] => usageError body [] (some lvl.usage)
      | [one] => usageError body ["a similar subcommand exists: " ++ quoted one] (some lvl.usage)
      | many =>
        usageError body ["some similar subcommands exist: " ++ ", ".intercalate (many.map quoted)]
          (some lvl.usage)
  else usageError ("unexpected argument " ++ quoted arg ++ " found") [] (some lvl.usage)

/-- Reads a positional value. -/
def Level.positional (lvl : Level) (f : Found) (arg : String) : Except Parsed Found :=
  if f.next < lvl.positionals.length then do
    let f ← lvl.settle f
    pure { f with pending := some (.positional f.next, some arg), next := f.next + 1 }
  else throw (lvl.unexpected (lvl.settleQuietly f) arg)

/-- Starts an option: it waits for its value, or takes the one attached to it. -/
def Level.startOption (lvl : Level) (f : Found) (o : ValueOption) (attached : Option String) :
    Except Parsed Found := do
  let f ← lvl.settle f
  match attached with
  | none => pure { f with pending := some (.option o, none) }
  | some value => lvl.settle { f with pending := some (.option o, some value) }

/-- Reads the letters of a short-option argument. -/
def Level.readShorts (lvl : Level) (f : Found) : List Char → Except Parsed Found
  | [] => pure f
  | c :: cs =>
    if c == 'h' then do
      let _ ← lvl.settle f
      throw (.answer 0 lvl.help "")
    else if c == 'V' && lvl.isRoot then do
      let _ ← lvl.settle f
      throw (.answer 0 versionLine "")
    else
      match lvl.options.find? (·.short == c) with
      | some o =>
        match cs with
        | [] => lvl.startOption f o none
        | '=' :: more => lvl.startOption f o (some (String.ofList more))
        | more => lvl.startOption f o (some (String.ofList more))
      | none => throw (lvl.unknownShort c)

/-- Reads a long-option argument, given without its leading dashes; `rest` are the arguments
after it. -/
def Level.readLong (lvl : Level) (f : Found) (body : String) (rest : List String) :
    Except Parsed Found :=
  let (name, attached) := match body.splitOn "=" with
    | n :: value :: more => (n, some ("=".intercalate (value :: more)))
    | _ => (body, none)
  if name == "help" || (name == "version" && lvl.isRoot) then
    match attached with
    | some value =>
      let f := lvl.settleQuietly f
      throw (usageError ("unexpected value " ++ quoted value ++ " for " ++ quoted ("--" ++ name) ++
        " found; no more were expected") [] (some (lvl.usageWith (f.used ++ ["--" ++ name]))))
    | none => do
      let _ ← lvl.settle f
      throw (if name == "help" then .answer 0 lvl.help "" else .answer 0 versionLine "")
  else
    match lvl.options.find? (·.long == name) with
    | some o => lvl.startOption f o attached
    | none => throw (lvl.unknownLong f name rest)

/-- What a subcommand's name on the program's level leads to: the `help` subcommand, or a
command. -/
inductive Entered where
  | help
  | command (cmd : Subcommand)

/-- The subcommand a word names on the program's level. -/
def enteredBy? (word : String) : Option Entered :=
  if word == "help" then some .help else (findSubcommand word).map .command

/-- How reading one level ends: with its arguments all read, or at a subcommand's name with the
arguments after it. -/
inductive LevelEnd where
  | done (f : Found)
  | enter (f : Found) (target : Entered) (rest : List String)

/-- Reads the arguments of one level. -/
def Level.read (lvl : Level) : Found → List String → Except Parsed LevelEnd
  | f, [] => do return .done (← lvl.settle f)
  | f, arg :: rest =>
    if f.trailing then do lvl.read (← lvl.positional f arg) rest
    else
      match (if lvl.isRoot then enteredBy? arg else none) with
      | some target => pure (.enter f target rest)
      | none =>
        if arg == "--" then lvl.read { f with trailing := true } rest
        else if arg.startsWith "--" then do
          lvl.read (← lvl.readLong f (arg.drop 2).toString rest) rest
        else if arg.startsWith "-" && arg != "-" then do
          lvl.read (← lvl.readShorts f (arg.drop 1).toString.toList) rest
        else
          match f.pending with
          | some (.option o, none) => lvl.read { f with pending := some (.option o, some arg) } rest
          | _ => do lvl.read (← lvl.positional f arg) rest

/-- The answer of the `help` subcommand for the names after it. -/
def helpFor : List String → Parsed
  | [] => .answer 0 rootHelp ""
  | name :: more =>
    let unknown (word usage : String) := usageError ("unrecognized subcommand " ++ quoted word) []
      (some usage)
    if name == "help" then
      match more with
      | [] => .answer 0 helpHelp ""
      | word :: _ => unknown word helpUsage
    else
      match findSubcommand name, more with
      | some cmd, [] => .answer 0 cmd.help ""
      | some cmd, word :: _ => unknown word cmd.usage
      | none, _ => unknown name rootUsage

/-- Reads a subcommand's arguments, all required positional arguments present. -/
def readSubcommand (cmd : Subcommand) (args : List String) : Except Parsed Found := do
  let lvl := cmd.level
  let f := match ← lvl.read Found.empty args with
    | .done f => f
    | .enter f _ _ => f
  if f.next < lvl.positionals.length then
    let missing := (lvl.positionals.drop f.next).map fun p => "\n  " ++ p.display
    throw (usageError ("the following required arguments were not provided:" ++ String.join missing)
      [] (some (lvl.requiredUsage f.used)))
  else pure f

/-- The command a subcommand's arguments ask for. -/
def commandOf (cmd : Subcommand) (f : Found) : Command :=
  match cmd.kind with
  | .duration => .duration (f.values.getD 0 "")
  | .rename => .rename (if f.values.getD 0 "" == "alert" then .alert else .record) (f.values.getD 1 "")
  | .example =>
    .example ((f.optionValue "format").bind fun v => (OutputFormat.parse v).toOption)
      (f.optionValue "output")
  | .writeConfig => .writeConfig (f.optionValue "output")

/-- The error for a command line that names no subcommand. -/
def missingSubcommand : Parsed :=
  usageError ("'" ++ programName ++ "' requires a subcommand but one was not provided\n  [subcommands: " ++
    ", ".intercalate subcommandNames ++ "]") [] (some rootUsage)

/-- Reads a whole command line, the program's name left out. -/
def readCommandLine (args : List String) : Parsed :=
  match rootLevel.read Found.empty args with
  | .error answer => answer
  | .ok (.done f) => if f.options.isEmpty then .answer 2 "" rootHelp else missingSubcommand
  | .ok (.enter _ .help rest) => helpFor rest
  | .ok (.enter root (.command cmd) rest) =>
    match readSubcommand cmd rest, rootLevel.settle root with
    | .error answer, _ => answer
    | .ok _, .error answer => answer
    | .ok f, .ok root =>
      .run ⟨(f.optionValue "config").or (root.optionValue "config"), commandOf cmd f⟩

end PromRules.Cli
