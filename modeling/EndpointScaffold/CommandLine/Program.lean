import EndpointScaffold.CommandLine.Commands

/-!
# The program

The program follows a command line: it runs the command, says at the end how it went, and shows the
entries that reach the level that was asked for.
-/

namespace EndpointScaffold.CommandLine

open Files Log

/-- what is left of the program when it is over -/
structure Ending where
  code : Nat
  /-- whether the command line was followed -/
  isFollowed : Bool
  output : String
  errorOutput : String
  commands : List Sdk.Command
  disk : Disk

def closingEntry (command : Command) (code : ExitCode) : Entry :=
  match code with
  | .success => ⟨.info, .program, command.name ++ " completed successfully."⟩
  | code => ⟨.error, .program,
      command.name ++ " failed with exit code " ++ toString code.number ++ "."⟩

def Invocation.run (i : Invocation) (w : World) : Except Crash Session := do
  let s ← match i.command with
    | .check o => CheckCommand.run w i.config o
    | .parse o => ParseCommand.run w i.config o
    | .scaffold o => ScaffoldCommand.run w i.config o
  .ok { s with notices := s.notices ++ [.entry (closingEntry i.command s.code)] }

/-- folder of the project that a command is about, as seen from the working folder -/
def Invocation.root (i : Invocation) (d : Disk) : Path :=
  match i.command with
  | .check _ => .ofPlace d.here
  | .parse o => projectRoot d o.folder
  | .scaffold o => projectRoot d o.folder

def Invocation.configFiles (i : Invocation) (d : Disk) : List Path :=
  i.config.toList.map Path.ofText ++ Config.fileNames.map (i.root d).below

/-- folders that a command works with, once its settings are there -/
def Invocation.folders (i : Invocation) (d : Disk) : List Path :=
  let asked := (i.config.filter fun s => !s.isEmpty).map Path.ofText
  match i.command, (Config.build d (i.root d) asked []).value with
  | .check _, _ => []
  | _, .error _ => []
  | _, .ok c =>
    [c.modelsFolder, c.configurationsFolder, c.featuresFolder].map (i.root d).below

/-- follows a command line at the time of day `clock` -/
def run (clock : String) (w : World) (arguments : List String) : Except Crash Ending :=
  match Invocation.ofArguments arguments with
  | .error stop => .ok {
      code := stop.code, isFollowed := false, output := stop.output
      errorOutput := stop.errorOutput, commands := [], disk := w.disk }
  | .ok i => do
    let s ← i.run w
    .ok {
      code := s.code.number, isFollowed := true, output := s.output
      errorOutput := noticeText clock (threshold i.quiet i.verbosity) s.notices
      commands := s.commands, disk := s.disk }

end EndpointScaffold.CommandLine
