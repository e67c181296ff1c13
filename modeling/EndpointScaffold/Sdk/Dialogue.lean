import EndpointScaffold.Decimal.Notation
import EndpointScaffold.Log.Logged
import EndpointScaffold.Text.Quoted

/-!
# Commands of the SDK and dialogues

A command has arguments, the program first, and may name a folder to run in and the seconds it may
take. It ends with what it printed, or it fails.
-/

namespace EndpointScaffold.Sdk

open Text

inductive Seconds where
  | whole (n : Int)
  | float (x : Float)
  /-- a flag in the place of the number one or zero -/
  | flag (b : Bool)

def Seconds.text : Seconds → String
  | .whole n => toString n
  | .float x => Decimal.shortest x
  | .flag b => if b then "True" else "False"

structure Command where
  /-- the program and its arguments -/
  arguments : List String
  /-- folder to run in -/
  folder : Option String := none
  /-- seconds it may take -/
  timeout : Option Seconds := none

def Command.program (c : Command) : String := c.arguments.headD ""

def Command.line (c : Command) : String := join " " c.arguments

/-- why a command has no output -/
inductive Failure where
  | notFound (program : String)
  | denied (program : String)
  /-- any other refusal of the system to run the program -/
  | refused (reason : String)
  | timedOut (arguments : List String) (timeout : Option Seconds)
  /-- the command has no arguments, so there is no program to name -/
  | noProgram

/-- whether the program could not be run at all -/
def Failure.isSystem : Failure → Bool
  | .timedOut _ _ | .noProgram => false
  | _ => true

def Failure.isNotFound : Failure → Bool
  | .notFound _ => true
  | _ => false

def Failure.message : Failure → String
  | .notFound program => "[Errno 2] No such file or directory: " ++ quoted program
  | .denied program => "[Errno 13] Permission denied: " ++ quoted program
  | .refused reason => reason
  | .timedOut arguments timeout =>
    "Command '" ++ quotedList arguments ++ "' timed out after "
      ++ ((timeout.map Seconds.text).getD "None") ++ " seconds"
  | .noProgram => "list index out of range"

/-- what becomes of a command -/
inductive Reply where
  /-- everything it printed, and its exit code -/
  | finished (output : String) (code : Int)
  | failed (failure : Failure)

end EndpointScaffold.Sdk

/-!
## Dialogues with the SDK

A dialogue runs commands one after the other, and a later one may depend on the replies to the
earlier ones. The SDK is a function of the commands that it was given before and the next one, so a
dialogue is a value: its result, its commands in order, and the entries it writes.

* `run` runs one command;
* `value_bind`, `commands_bind` a sequence of dialogues.
-/

namespace EndpointScaffold.Sdk

open Log

/-- replies to a command that follows the commands `before` -/
abbrev Runner := (before : List Command) → Command → Reply

/-- where commands run -/
structure Host where
  runner : Runner
  /-- folder of commands that name none -/
  here : String

structure Transcript (α : Type) where
  value : α
  commands : List Command
  entries : List Entry

/-- a dialogue that follows the commands it is given -/
def Dialogue (α : Type) : Type := Host → List Command → Transcript α

namespace Dialogue

variable {α β : Type}

def pure (a : α) : Dialogue α := fun _ _ => ⟨a, [], []⟩

def bind (d : Dialogue α) (f : α → Dialogue β) : Dialogue β := fun host before =>
  let first := d host before
  let second := f first.value host (before ++ first.commands)
  ⟨second.value, first.commands ++ second.commands, first.entries ++ second.entries⟩

instance : Monad Dialogue where
  pure := Dialogue.pure
  bind := Dialogue.bind

def note (level : Level) (channel : Channel) (message : String) : Dialogue Unit := fun _ _ =>
  ⟨(), [], [⟨level, channel, message⟩]⟩

/-- what a command gives; one that names no program is refused after it is run -/
def output (c : Command) : Reply → Except Failure String
  | .finished text _ => if c.arguments.isEmpty then .error .noProgram else .ok text
  | .failed f => .error f

/-- entries about one command -/
def runEntries (here : String) (c : Command) (r : Reply) : List Entry :=
  ⟨.debug, .toolchain, "Running: " ++ c.line ++ " (cwd=" ++ c.folder.getD here ++ ")"⟩ ::
    match output c r, r with
    | .ok _, .finished _ code =>
      [⟨.debug, .toolchain, c.program ++ " exited with " ++ toString code ++ "."⟩]
    | _, _ => []

def run (c : Command) : Dialogue (Except Failure String) := fun host before =>
  let reply := host.runner before c
  ⟨output c reply, [c], runEntries host.here c reply⟩

@[simp] theorem value_pure (a : α) (s : Host) (cs : List Command) :
    ((Pure.pure a : Dialogue α) s cs).value = a := rfl

@[simp] theorem commands_pure (a : α) (s : Host) (cs : List Command) :
    ((Pure.pure a : Dialogue α) s cs).commands = [] := rfl

@[simp] theorem value_bind (d : Dialogue α) (f : α → Dialogue β) (s : Host) (cs : List Command) :
    ((d >>= f) s cs).value = (f (d s cs).value s (cs ++ (d s cs).commands)).value := rfl

@[simp] theorem commands_bind (d : Dialogue α) (f : α → Dialogue β) (s : Host) (cs : List Command) :
    ((d >>= f) s cs).commands =
      (d s cs).commands ++ (f (d s cs).value s (cs ++ (d s cs).commands)).commands := rfl

@[simp] theorem commands_run (c : Command) (s : Host) (cs : List Command) :
    (run c s cs).commands = [c] := rfl

end Dialogue

end EndpointScaffold.Sdk
