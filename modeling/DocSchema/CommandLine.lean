import DocSchema.Config.Basic
import DocSchema.Server.Session

/-!
# DocSchema.CommandLine

The command line of the program: its options and commands, and what a run prints and ends with.

Options may stand before and after the command, once in each place; the one after it counts. The
configuration of the environment comes first, and options replace parts of it.
-/

namespace DocSchema.CommandLine

open Bootstrap (Command)

/-! ## Arguments -/

/-- What the options of one place say. -/
structure Options where
  uri : Option String
  database : Option String
  schema : Option String
  json : Bool
deriving DecidableEq, Repr

/-- No options. -/
def Options.none : Options := ⟨.none, .none, .none, false⟩

/-- The options of both places together, where the later ones count. -/
def Options.merge (before after : Options) : Options where
  uri := after.uri.or before.uri
  database := after.database.or before.database
  schema := after.schema.or before.schema
  json := after.json || before.json

/-- The name of an option that takes a value. -/
inductive Valued where
  | uri
  | database
  | schema
deriving DecidableEq, Repr

/-- Why a command line is refused. -/
inductive UsageFault where
  | unexpected (argument : String)
  | missingValue (option : String)
  | repeated (option : String)
  | unknownCommand (name : String)
deriving DecidableEq, Repr

/-- What a refused command line is answered with. -/
def UsageFault.message : UsageFault → String
  | .unexpected argument => "error: unexpected argument '" ++ argument ++ "' found"
  | .missingValue option =>
    "error: a value is required for '" ++ option ++ "' but none was supplied"
  | .repeated option => "error: the argument '" ++ option ++ "' cannot be used multiple times"
  | .unknownCommand name => "error: unrecognized subcommand '" ++ name ++ "'"

/-- What a command line asks for. -/
inductive Invocation where
  | run (command : Command) (options : Options)
  /-- Prints a text and does nothing else. -/
  | print (text : String)
  | refuse (fault : UsageFault)
deriving DecidableEq

/-- The place of an argument: before any command, or after one. -/
inductive Place where
  | top
  | after (command : Command)
deriving DecidableEq, Repr

/-! ## Help -/

/-- The name and version of the program. -/
def versionText : String := "autosrt-bootstrap 0.1.0\n"

/-- The lines about the options that both commands share. -/
def optionLines : String :=
  "      --uri <URI>            MongoDB connection string (overrides `MONGO_URI`)\n" ++
  "      --database <DATABASE>  Target database (overrides `MONGO_DB_NAME`)\n" ++
  "      --schema <SCHEMA>      JSON schema table to apply instead of the built-in one " ++
    "(overrides `SCHEMA_FILE`)\n" ++
  "      --json                 Print the report as JSON\n"

def applyAbout : String := "Create missing collections and indexes (default)"
def planAbout : String := "Show what apply would change without changing anything"
def helpAbout : String := "Print this message or the help of the given subcommand(s)"

/-- The help of the program. -/
def topHelp : String :=
  "Idempotent collection and unique index bootstrap for the autosrt database\n\n" ++
  "Usage: autosrt-bootstrap [OPTIONS] [COMMAND]\n\n" ++
  "Commands:\n" ++
  "  apply  " ++ applyAbout ++ "\n" ++
  "  plan   " ++ planAbout ++ "\n" ++
  "  help   " ++ helpAbout ++ "\n\n" ++
  "Options:\n" ++ optionLines ++
  "  -h, --help                 Print help\n" ++
  "  -V, --version              Print version\n"

/-- The help of a command. -/
def commandHelp (name about : String) : String :=
  about ++ "\n\n" ++
  "Usage: autosrt-bootstrap " ++ name ++ " [OPTIONS]\n\n" ++
  "Options:\n" ++ optionLines ++
  "  -h, --help                 Print help\n"

/-- The help of the command that prints help. -/
def helpHelp : String :=
  helpAbout ++ "\n\n" ++
  "Usage: autosrt-bootstrap help [COMMAND]...\n\n" ++
  "Arguments:\n" ++
  "  [COMMAND]...  Print help for the subcommand(s)\n"

/-- The help at a place. -/
def Place.help : Place → String
  | .top => topHelp
  | .after .apply => commandHelp "apply" applyAbout
  | .after .plan => commandHelp "plan" planAbout

/-- What follows the command `help`: nothing, or the names of a command. -/
def helpOn : List String → Invocation
  | [] => .print topHelp
  | "apply" :: [] => .print (Place.after .apply).help
  | "plan" :: [] => .print (Place.after .plan).help
  | "help" :: rest =>
    match rest with
    | [] => .print helpHelp
    | name :: _ => .refuse (.unknownCommand name)
  | "apply" :: name :: _ => .refuse (.unknownCommand name)
  | "plan" :: name :: _ => .refuse (.unknownCommand name)
  | name :: _ => .refuse (.unknownCommand name)

/-! ## Reading arguments -/

/-- What the command line has said so far: the place, the options before the command and those
after it. -/
structure Progress where
  place : Place
  before : Options
  options : Options
deriving DecidableEq, Repr

/-- What the arguments so far amount to. -/
def Progress.finish (p : Progress) : Invocation :=
  match p.place with
  | .top => .run .apply p.options
  | .after command => .run command (p.before.merge p.options)

/-- How an option is called in messages. -/
def Valued.text : Valued → String
  | .uri => "--uri <URI>"
  | .database => "--database <DATABASE>"
  | .schema => "--schema <SCHEMA>"

/-- The option of a name. -/
def Valued.ofName? (name : String) : Option Valued :=
  if name = "uri" then some .uri
  else if name = "database" then some .database
  else if name = "schema" then some .schema
  else none

/-- Sets an option, which may be set once. The path of a schema may not be empty. -/
def Options.set (o : Options) (v : Valued) (value : String) : Except UsageFault Options :=
  let old := match v with
    | .uri => o.uri
    | .database => o.database
    | .schema => o.schema
  if old.isSome then .error (.repeated v.text)
  else if v = .schema ∧ value = "" then .error (.missingValue v.text)
  else .ok (match v with
    | .uri => { o with uri := some value }
    | .database => { o with database := some value }
    | .schema => { o with schema := some value })

/-- Whether an argument looks like an option, so that it is no value of the option before it. -/
def looksLikeOption (argument : String) : Bool :=
  argument.toList.head? == some '-' && argument != "-"

/-- An option with its value in the same argument, or a flag. -/
def splitOption (argument : List Char) : String × Option String :=
  match Text.splitOnce ['='] argument with
  | some (name, value) => (.ofList name, some (.ofList value))
  | none => (.ofList argument, none)

/-- The flag at the first letter after a single dash. -/
def shortFlag (place : Place) (argument : String) : Invocation :=
  match argument.toList.drop 1 with
  | 'h' :: _ => .print place.help
  | 'V' :: _ => if place = .top then .print versionText else .refuse (.unexpected argument)
  | _ => .refuse (.unexpected argument)

/-- What stands after `--`: nothing that the program takes. -/
def afterDashes (p : Progress) : List String → Invocation
  | [] => p.finish
  | argument :: _ => .refuse (.unexpected argument)

/-- Reads the arguments from left to right; the first fault or request for a text ends it. -/
def readArguments (p : Progress) : List String → Invocation
  | [] => p.finish
  | argument :: rest =>
    if argument = "--" then afterDashes p rest
    else if Text.beginsWith ['-', '-'] argument then
      match splitOption (argument.toList.drop 2) with
      | (name, value) =>
        match Valued.ofName? name, value, rest with
        | some v, some value, rest =>
          match p.options.set v value with
          | .ok options => readArguments { p with options } rest
          | .error fault => .refuse fault
        | some v, none, value :: rest =>
          if looksLikeOption value then .refuse (.missingValue v.text)
          else match p.options.set v value with
            | .ok options => readArguments { p with options } rest
            | .error fault => .refuse fault
        | some v, none, [] => .refuse (.missingValue v.text)
        | none, some _, _ => .refuse (.unexpected argument)
        | none, none, rest =>
          if name = "json" then
            if p.options.json then .refuse (.repeated "--json")
            else readArguments { p with options := { p.options with json := true } } rest
          else if name = "help" then .print p.place.help
          else if name = "version" ∧ p.place = .top then .print versionText
          else .refuse (.unexpected argument)
    else if looksLikeOption argument then shortFlag p.place argument
    else match p.place, argument with
      | .top, "apply" =>
        readArguments ⟨.after .apply, p.options, Options.none⟩ rest
      | .top, "plan" =>
        readArguments ⟨.after .plan, p.options, Options.none⟩ rest
      | .top, "help" => helpOn rest
      | .top, name => .refuse (.unknownCommand name)
      | .after _, argument => .refuse (.unexpected argument)

/-- What a list of arguments asks for. -/
def parse (arguments : List String) : Invocation :=
  readArguments ⟨.top, Options.none, Options.none⟩ arguments

/-! ## Runs -/

/-- The configuration with the options in place of its parts. -/
def Options.override (o : Options) (c : Config) : Config :=
  { c with
    uri := o.uri.getD c.uri
    database := o.database.or c.database
    schemaFile := (o.schema.map Text.SystemText.text).or c.schemaFile }

/-- How a run of the program ends. -/
inductive Ending where
  | printed (text : String)
  | refused (fault : UsageFault)
  | failed (e : BootstrapError)
  | reported (command : Command) (json : Bool) (r : Report)

namespace Ending

/-- The exit code. A plan with an index in the way ends like an apply that meets it. -/
def exitCode : Ending → Nat
  | .printed _ => 0
  | .refused _ => 2
  | .failed e => e.exitCode
  | .reported .apply _ _ => 0
  | .reported .plan _ r => if r.conflicts.isEmpty then 0 else 5

/-- What is printed on the output and on the error stream. -/
def output : Ending → Report.Printed
  | .printed text => ⟨text, ""⟩
  | .refused fault => ⟨"", fault.message ++ "\n"⟩
  | .failed e => ⟨"", e.message ++ "\n"⟩
  | .reported _ json r => r.print json

end Ending

/-- The configuration and the schema of a run with options. -/
def prepare (around : Surroundings) (o : Options) : Except BootstrapError (Config × Schema) := do
  let config := o.override (← Config.ofSurroundings around)
  let schema ← (config.loadSchema around.read).mapError .invalidSchema
  .ok (config, schema)

/-- Runs a command against the database of its schema; the commands that the server was sent are
returned as well. -/
def runCommand (around : Surroundings) (network : Server.Network) (clock : Nat)
    (command : Command) (o : Options) : Except BootstrapError Report × List Document :=
  match prepare around o with
  | .error e => (.error e, [])
  | .ok (config, schema) =>
    match Server.connect network config.uri schema.database clock with
    | (.error e, sent) => (.error (.ofStore e), sent)
    | (.ok session, _) =>
      let (result, session) :=
        session.report (.ofSeconds config.declarationSeconds) command schema
      (result, session.sent)

/-- Runs the program with its arguments. -/
def run (around : Surroundings) (network : Server.Network) (clock : Nat)
    (arguments : List String) : Ending × List Document :=
  match parse arguments with
  | .print text => (.printed text, [])
  | .refuse fault => (.refused fault, [])
  | .run command o =>
    match runCommand around network clock command o with
    | (.ok r, sent) => (.reported command o.json r, sent)
    | (.error e, sent) => (.failed e, sent)

end DocSchema.CommandLine
