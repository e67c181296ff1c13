import EndpointScaffold.CommandLine.Arguments
import EndpointScaffold.CommandLine.Help

/-!
# Invocations

What a command line asks for: how much to say, where the settings are, and one command with its
options.

* `Invocation.ofArguments` the invocation of a command line;
* `Stop.output`, `Stop.errorOutput`, `Stop.code` what is shown of a command line that is not
  followed.
-/

namespace EndpointScaffold.CommandLine

open Text

/-- formats of a listing of entities -/
inductive Format where
  | text
  | json
  | yaml
  deriving DecidableEq, Repr

def Format.ofName (name : String) : Format :=
  if name == "json" then .json else if name == "yaml" then .yaml else .text

structure CheckOptions where
  /-- whether to install without asking -/
  yes : Bool := false
  sdk : Option String := none
  pack : Option String := none
  deriving DecidableEq, Repr

structure ParseOptions where
  folder : Option String := none
  /-- none where the divider stands in place of a format -/
  format : Option Format := some .text
  deriving DecidableEq, Repr

structure ScaffoldOptions where
  folder : Option String := none
  /-- no namespace is in it where the divider stands in its place -/
  baseNamespace : Option (List String) := none
  only : Option (List String) := none
  noSdk : Bool := false
  dryRun : Bool := false
  overwrite : Bool := false
  noStrict : Bool := false
  deriving DecidableEq, Repr

inductive Command where
  | check (o : CheckOptions)
  | parse (o : ParseOptions)
  | scaffold (o : ScaffoldOptions)
  deriving DecidableEq, Repr

def Command.name : Command → String
  | .check _ => "check"
  | .parse _ => "parse"
  | .scaffold _ => "scaffold"

structure Invocation where
  /-- file with settings -/
  config : Option String := none
  verbosity : Nat := 0
  quiet : Bool := false
  command : Command
  deriving DecidableEq, Repr

/-! ### Reading -/

def checkOptions (r : Reading) : CheckOptions :=
  { yes := r.has .yes, sdk := r.argument? .sdk, pack := r.argument? .templatePack }

def parseOptions (r : Reading) : ParseOptions :=
  { folder := r.argument? .folder
    format := ((r.last? .format).getD ["text"]).head?.map Format.ofName }

def scaffoldOptions (r : Reading) : ScaffoldOptions :=
  { folder := r.argument? .folder
    baseNamespace := r.last? .baseNamespace
    only := r.last? .only
    noSdk := r.has .noSdk
    dryRun := r.has .dryRun
    overwrite := r.has .overwrite
    noStrict := r.has .noStrict }

def commandGrammar (name : String) : Grammar × (Reading → Command) :=
  if name == "check" then (check, fun r => .check (checkOptions r))
  else if name == "parse" then (parse, fun r => .parse (parseOptions r))
  else (scaffold, fun r => .scaffold (scaffoldOptions r))

/-- reads a command line -/
def Invocation.ofArguments (arguments : List String) : Except Stop Invocation := do
  let outer ← program.read arguments
  let words := (outer.last? .command).getD []
  let (grammar, make) := commandGrammar (words.headD "")
  let inner ← grammar.read (words.drop 1)
  let unknown := outer.unknown ++ inner.unknown
  if unknown.isEmpty then
    .ok {
      config := outer.argument? .config
      verbosity := outer.count .verbose
      quiet := outer.has .quiet
      command := make inner }
  else .error (.misuse program (.unknown unknown))

/-! ### Command lines that are not followed -/

/-- what is printed -/
def Stop.output : Stop → String
  | .help g => g.help
  | .version => programName ++ " v" ++ programVersion ++ "\n"
  | .misuse _ _ => ""

/-- what is printed as an error -/
def Stop.errorOutput : Stop → String
  | .misuse g m => g.usage ++ g.name ++ ": error: " ++ m.message ++ "\n"
  | _ => ""

def Stop.code : Stop → Nat
  | .misuse _ _ => 2
  | _ => 0

end EndpointScaffold.CommandLine
