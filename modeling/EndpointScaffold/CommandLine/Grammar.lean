import EndpointScaffold.Feature.Kind
import EndpointScaffold.Text.Trim

/-!
# The grammar of the command line

A command line is a row of arguments: options, which have names, and operands, which stand at a
place. The program has options of its own and one operand, the command, which has a grammar for
everything that follows it.

* `Parameter` one option or operand;
* `Grammar` the parameters of the program or of a command;
* `program`, `check`, `parse`, `scaffold` the grammars.
-/

namespace EndpointScaffold.CommandLine

open Text

/-- what a parameter says -/
inductive Key where
  | help
  | version
  | config
  | verbose
  | quiet
  | command
  | yes
  | sdk
  | templatePack
  | folder
  | format
  | baseNamespace
  | only
  | noSdk
  | dryRun
  | overwrite
  | noStrict
  deriving DecidableEq, Repr

/-- how many arguments a parameter takes -/
inductive Arity where
  | none
  | one
  | atMostOne
  | atLeastOne
  /-- one argument and everything after it -/
  | rest
  deriving DecidableEq, Repr

structure Parameter where
  key : Key
  /-- names of an option; an operand has none -/
  names : List String := []
  arity : Arity := .none
  /-- stands for an argument in the help -/
  placeholder : String := ""
  /-- the arguments that are allowed, if not all are -/
  choices : List String := []
  help : String := ""
  /-- heading that it stands under in the help -/
  heading : String := "options"
  deriving Repr

def Parameter.isOption (p : Parameter) : Bool := !p.names.isEmpty

def Parameter.name (p : Parameter) : String :=
  if p.isOption then join "/" p.names else p.placeholder

structure Grammar where
  name : String
  description : String := ""
  parameters : List Parameter
  /-- commands with a word on each -/
  commands : List (String × String) := []
  examples : List String := []
  deriving Repr

def Grammar.options (g : Grammar) : List Parameter := g.parameters.filter (·.isOption)

def Grammar.operands (g : Grammar) : List Parameter := g.parameters.filter fun p => !p.isOption

def Grammar.optionNames (g : Grammar) : List (String × Parameter) :=
  g.options.flatMap fun p => p.names.map fun name => (name, p)

/-! ### Parameters that grammars share -/

def helpOption : Parameter :=
  { key := .help, names := ["-h", "--help"], help := "show this help message and exit" }

def folderOperand : Parameter :=
  { key := .folder, arity := .atMostOne, placeholder := "FOLDER", heading := "positional arguments"
    help := "Project root containing Models/ and Data/Configurations/ "
      ++ "(defaults to the current directory)." }

/-! ### The program -/

def programName : String := "fescaffold"

def programVersion : String := "1.0.0"

def commandWords : List (String × String) := [
  ("check", "Check that the SDK and the template pack are installed."),
  ("parse", "Parse entity classes and print the extracted metadata."),
  ("scaffold", "Generate FastEndpoints features for all parsed entities.")]

def program : Grammar where
  name := programName
  description := "fescaffold - FastEndpoints scaffolding from Entity Framework entity classes."
  parameters := [
    helpOption,
    { key := .version, names := ["--version"], help := "show program's version number and exit" },
    { key := .config, names := ["--config"], arity := .one, placeholder := "PATH"
      help := "Configuration file (YAML or JSON). Defaults to fescaffold.yaml "
        ++ "in the project root, if present." },
    { key := .verbose, names := ["-v", "--verbose"], heading := "verbosity"
      help := "Increase verbosity (-v for INFO, -vv for DEBUG)." },
    { key := .quiet, names := ["-q", "--quiet"], heading := "verbosity"
      help := "Suppress all log output except errors." },
    { key := .command, arity := .rest, placeholder := "COMMAND", heading := "positional arguments"
      choices := commandWords.map (·.1) }]
  commands := commandWords
  examples := ["check", "parse ./src/MyApi --format yaml",
    "scaffold ./src/MyApi --namespace MyApi --dry-run"]

/-! ### Commands -/

def check : Grammar where
  name := programName ++ " check"
  parameters := [
    helpOption,
    { key := .yes, names := ["-y", "--yes"]
      help := "Install a missing template pack without asking." },
    { key := .sdk, names := ["--sdk"], arity := .one, placeholder := "CMD"
      help := "SDK executable (default: dotnet)." },
    { key := .templatePack, names := ["--template-pack"], arity := .one, placeholder := "NAME"
      help := "Template pack to look for (default: FastEndpoints.TemplatePack)." }]

def formatNames : List String := ["text", "json", "yaml"]

def parse : Grammar where
  name := programName ++ " parse"
  parameters := [
    helpOption,
    folderOperand,
    { key := .format, names := ["--format"], arity := .one
      placeholder := "\x7b" ++ join "," formatNames ++ "\x7d", choices := formatNames
      help := "Output format (default: text)." }]

def scaffold : Grammar where
  name := programName ++ " scaffold"
  parameters := [
    helpOption,
    folderOperand,
    { key := .baseNamespace, names := ["--namespace"], arity := .one, placeholder := "NS"
      help := "Base namespace of generated features (default: MyProject)." },
    { key := .only, names := ["--only"], arity := .atLeastOne, placeholder := "FEATURE"
      choices := FeatureKind.all.map (·.name)
      help := "Generate only these features: " ++ join ", " (FeatureKind.all.map (·.name)) ++ "." },
    { key := .noSdk, names := ["--no-sdk"]
      help := "Do not invoke 'dotnet new feat'; only write support files." },
    { key := .dryRun, names := ["--dry-run"]
      help := "Show what would be done without running commands or writing files." },
    { key := .overwrite, names := ["--overwrite"]
      help := "Overwrite support files that already exist." },
    { key := .noStrict, names := ["--no-strict"]
      help := "Continue even if validation reports errors." }]

end EndpointScaffold.CommandLine
