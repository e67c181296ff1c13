import EndpointScaffold.Config.Source
import EndpointScaffold.Project.Entities
import EndpointScaffold.Sdk.Dialogue

/-!
# Sessions

A session is one run of a command: what it printed, what it reported on the side, the SDK commands
it gave, the disk it leaves and its exit code. A crash is a failure that no command can explain to
its user.
-/

namespace EndpointScaffold.CommandLine

open Files Log

/-- exit codes of the program -/
inductive ExitCode where
  | success
  | invalid
  | generationFailed
  | exportFailed
  | badInput
  deriving DecidableEq, Repr

def ExitCode.number : ExitCode → Nat
  | .success => 0
  | .invalid => 1
  | .generationFailed => 2
  | .exportFailed => 3
  | .badInput => 4

/-- what stands beside the output: log entries, and errors that are always shown -/
inductive Notice where
  | entry (e : Entry)
  | error (message : String)
  deriving DecidableEq, Repr

/-- notices as text, from a level on, with the time of day `clock` -/
def noticeText (clock : String) (least : Level) (ns : List Notice) : String :=
  String.join (ns.map fun n =>
    match n with
    | .entry e => if least.rank ≤ e.level.rank then e.line clock else ""
    | .error message => "❌ Error: " ++ message ++ "\n")

/-- everything around the program -/
structure World where
  disk : Disk
  host : Sdk.Host
  /-- what the user types -/
  input : String := ""

inductive Crash where
  | config (problem : Config.Problem)
  | unfit (issues : List Schema.Issue)
  | sdk (failure : Sdk.Failure)
  | unreadable (failure : Files.Failure)
  /-- leaves a disk with some of the files that were to be written -/
  | unwritten (failure : Files.Failure) (disk : Disk)

def Crash.message : Crash → String
  | .config problem => problem.message
  | .unfit issues => Schema.listing "EntityMetadata" issues
  | .sdk failure => failure.message
  | .unreadable failure => failure.message
  | .unwritten failure _ => failure.message

/-- the disk that a crash leaves, if it is not the one that it found -/
def Crash.disk? : Crash → Option Disk
  | .unwritten _ disk => some disk
  | _ => none

structure Session where
  code : ExitCode
  output : String := ""
  notices : List Notice := []
  commands : List Sdk.Command := []
  disk : Disk

def noticesOf (entries : List Entry) : List Notice := entries.map .entry

/-- a session that ends because of what it was given -/
def Session.refused (d : Disk) (output : String) (entries : List Entry) (message : String) :
    Session :=
  { code := .badInput, output := output, notices := noticesOf entries ++ [.error message], disk := d }

/-- goes on with the settings of a project, or ends the session -/
def withConfig (w : World) (root : Path) (file : Option String) (overrides : Schema.Entries)
    (next : Config → List Entry → Except Crash Session) : Except Crash Session :=
  let path := (file.filter fun s => !s.isEmpty).map Path.ofText
  let built := Config.build w.disk root path overrides
  match built.value with
  | .ok c => next c built.entries
  | .error problem =>
    if problem.isExpected then .ok (.refused w.disk "" built.entries problem.message)
    else .error (.config problem)

/-- the folder of a project; without a name it is the working folder -/
def projectRoot (d : Disk) (folder : Option String) : Path :=
  match folder with
  | some s => if Text.isBlankText s then .ofPlace d.here else .ofText s
  | none => .ofPlace d.here

end EndpointScaffold.CommandLine
