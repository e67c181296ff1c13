import EndpointScaffold.CommandLine.Invocation
import EndpointScaffold.CommandLine.Session
import EndpointScaffold.Entity.Basic
import EndpointScaffold.Entity.Schema
import EndpointScaffold.Json.Writer
import EndpointScaffold.Scaffold.Run
import EndpointScaffold.Sdk.Toolchain
import EndpointScaffold.Yaml.Writer

/-!
# Commands

* `ParseCommand` prints the entities of a project with their rules, as a listing or as data;
* `CheckCommand` says whether the SDK and the template pack are there, and offers to install the pack;
* `ScaffoldCommand` runs everything for a project and prints the report. The exit code names the first
  kind of failure: validation in strict mode, then the SDK and the support files, then the export.
-/

namespace EndpointScaffold.CommandLine.ParseCommand

open Data Text

def entitiesText (format : Option Format) (entities : List Entity) : String :=
  let v := Value.list (entities.map Entity.toValue)
  match format with
  | some .json => Json.write v
  | some .yaml => trimEnd (Yaml.write v)
  | _ => Entity.listing entities

/-- what is printed before anything is read -/
def announcement (format : Option Format) (root : Files.Path) : String :=
  match format with
  | some .text => "🔍 Scanning project at: " ++ root.text ++ "\n"
  | _ => ""

def run (w : World) (file : Option String) (o : ParseOptions) : Except Crash Session :=
  let root := projectRoot w.disk o.folder
  withConfig w root file [] fun c entries =>
    let announced := announcement o.format root
    let found := Project.entities w.disk c root
    let entries := entries ++ found.entries
    match found.value with
    | .error (.noModels folder) =>
      .ok (.refused w.disk announced entries (Project.noModelsMessage folder))
    | .error (.unfit issues) => .error (.unfit issues)
    | .error (.unreadable f) => .error (.unreadable f)
    | .ok entities => .ok {
        code := .success
        output := announced ++ entitiesText o.format entities ++ "\n"
        notices := noticesOf entries
        disk := w.disk }

end EndpointScaffold.CommandLine.ParseCommand

namespace EndpointScaffold.CommandLine.CheckCommand

open Log Sdk Text

/-! ### Consent -/

def question : String := "Do you want to install it now? [y/N]: "

/-- first line of what the user types; none at the end of the input -/
def answer? (input : String) : Option String :=
  if input.isEmpty then none else some (String.ofList (input.toList.takeWhile (· != '\n')))

def isYes (answer : String) : Bool := lower (trim answer) == "y"

/-- whether the pack may be installed, and what is printed to find out -/
def consent (o : CheckOptions) (input : String) : Bool × String :=
  if o.yes then (true, "") else ((answer? input).any isYes, question)

/-! ### Steps -/

/-- what a step leaves: exit code, output and an error -/
structure Ending where
  code : ExitCode
  output : String
  error : Option String := none

def install (sdk pack output : String) : Dialogue (Except Sdk.Failure Ending) := do
  let output := output ++ "🔧 Installing " ++ pack ++ "...\n"
  match ← installPack sdk pack with
  | .ok printed =>
    pure (.ok ⟨.success, if isBlankText printed then output else output ++ trimEnd printed ++ "\n",
      none⟩)
  | .error f =>
    if f.isSystem then pure (.ok ⟨.generationFailed, output, some f.message⟩) else pure (.error f)

/-- reports the status, and installs the pack if the user wants it -/
def conclude (o : CheckOptions) (input sdk pack : String) (status : ToolStatus) :
    Dialogue (Except Sdk.Failure Ending) :=
  match status with
  | .unavailable => pure (.ok ⟨.generationFailed,
      "❌ " ++ sdk ++ " SDK is not installed or not in PATH.\n", none⟩)
  | .installed => pure (.ok ⟨.success,
      "✅ " ++ sdk ++ " is installed.\n✅ " ++ pack ++ " is already installed.\n", none⟩)
  | .notInstalled =>
    let (agreed, asked) := consent o input
    let output := "✅ " ++ sdk ++ " is installed.\n⚠️ " ++ pack ++ " is not installed.\n" ++ asked
    if agreed then install sdk pack output
    else pure (.ok ⟨.success, output ++ "🚫 Skipping installation.\n", none⟩)

def dialogue (o : CheckOptions) (input sdk pack : String) :
    Dialogue (Except Sdk.Failure Ending) := do
  match ← Sdk.status sdk pack with
  | .error f => pure (.error f)
  | .ok status =>
    Dialogue.note .info .program ("Toolchain status: " ++ status.name)
    conclude o input sdk pack status

/-! ### The command -/

/-- what was asked for, unless it is empty -/
def given (asked : Option String) (standard : String) : String :=
  (asked.filter fun s => !s.isEmpty).getD standard

def run (w : World) (file : Option String) (o : CheckOptions) : Except Crash Session :=
  withConfig w (.ofPlace w.disk.here) file [] fun c entries =>
    let t := dialogue o w.input (given o.sdk c.sdk) (given o.pack c.templatePack) w.host []
    match t.value with
    | .error f => .error (.sdk f)
    | .ok ending => .ok {
        code := ending.code
        output := ending.output
        notices := noticesOf (entries ++ t.entries) ++ ending.error.toList.map .error
        commands := t.commands
        disk := w.disk }

end EndpointScaffold.CommandLine.CheckCommand

namespace EndpointScaffold.CommandLine.ScaffoldCommand

open Data Log Scaffold

/-- the arguments of an option that takes one, as data -/
def soleText : List String → Value
  | [s] => .text s
  | names => .list (names.map .text)

/-- settings that are asked for on the command line -/
def overrides (o : ScaffoldOptions) : Schema.Entries :=
  [(.text "base_namespace", (o.baseNamespace.map soleText).getD .null),
    (.text "feature_kinds", (o.only.map fun names => .list (names.map .text)).getD .null)]
  ++ (if o.noSdk then [(.text "run_sdk", .bool false)] else [])
  ++ (if o.overwrite then [(.text "overwrite_existing", .bool true)] else [])

def codeOf (r : Report) (isStrict : Bool) : ExitCode :=
  if r.success then .success
  else if !r.validationErrors.isEmpty && isStrict then .invalid
  else if !r.sdkErrors.isEmpty || !r.generationErrors.isEmpty then .generationFailed
  else if !r.exportErrors.isEmpty then .exportFailed
  else .generationFailed

/-- entries before the run starts -/
def openingEntries (o : Options) (c : Config) : List Entry :=
  startEntry o c ::
    (if o.isDryRun then
      [⟨.info, .program, "Dry-run mode: no commands are run and no files are written."⟩]
    else [])

def linesOf (texts : List String) : String := String.join (texts.map (· ++ "\n"))

def run (w : World) (file : Option String) (o : ScaffoldOptions) : Except Crash Session :=
  let root := projectRoot w.disk o.folder
  let options : Options := { isStrict := !o.noStrict, isDryRun := o.dryRun }
  withConfig w root file (overrides o) fun c entries =>
    let t := Scaffold.run options c w.disk root w.host []
    let entries := entries ++ openingEntries options c ++ t.entries
    match t.value with
    | .error (.unread (.noModels folder)) =>
      .ok (.refused w.disk "" entries (Project.noModelsMessage folder))
    | .error (.unread (.unfit issues)) => .error (.unfit issues)
    | .error (.unread (.unreadable f)) => .error (.unreadable f)
    | .error (.unwritten f disk) => .error (.unwritten f disk)
    | .error (.sdkFailed f) => .error (.sdk f)
    | .ok done => .ok {
        code := codeOf done.report options.isStrict
        output := linesOf (done.echoed ++ [done.report.summary])
        notices := noticesOf entries
        commands := t.commands
        disk := done.disk }

end EndpointScaffold.CommandLine.ScaffoldCommand
