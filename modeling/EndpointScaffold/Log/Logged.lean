import EndpointScaffold.Text.Quoted

/-!
# Log entries and logged values

An entry has a level, the part of the program that wrote it and a message. It is shown as one line,
if its level reaches the threshold that the verbosity sets. A logged value is a value with the entries
written on the way to it. Entries are only ever added, so the value of a sequence of steps does not
depend on them:

* `value_bind` the value of a sequence is the sequence of the values;
* `entries_bind` the entries of a sequence follow each other.
-/

namespace EndpointScaffold.Log

inductive Level where
  | debug
  | info
  | warning
  | error
  deriving DecidableEq, Repr

def Level.name : Level → String
  | .debug => "DEBUG"
  | .info => "INFO"
  | .warning => "WARNING"
  | .error => "ERROR"

def Level.rank : Level → Nat
  | .debug => 0
  | .info => 1
  | .warning => 2
  | .error => 3

/-- parts of the program that write entries -/
inductive Channel where
  | program
  | syntaxReader
  | scanner
  | fluent
  | merge
  | validators
  | generator
  | templates
  | exporters
  | toolchain
  | utils
  deriving DecidableEq, Repr

def Channel.name : Channel → String
  | .program => "fescaffold"
  | .syntaxReader => "fescaffold.syntax"
  | .scanner => "fescaffold.scanner"
  | .fluent => "fescaffold.fluent"
  | .merge => "fescaffold.merge"
  | .validators => "fescaffold.validators"
  | .generator => "fescaffold.generator"
  | .templates => "fescaffold.templates"
  | .exporters => "fescaffold.exporters"
  | .toolchain => "fescaffold.toolchain"
  | .utils => "fescaffold.utils"

structure Entry where
  level : Level
  channel : Channel
  message : String
  deriving DecidableEq, Repr

/-- entry about the time that an activity took. Runs are values here and take no time. -/
def Entry.timed (activity : String) : Entry :=
  ⟨.debug, .utils, "Timer [" ++ activity ++ "]: 0.0000 seconds"⟩

/-- seconds in a message -/
def noTime : String := "0.000s"

/-- the entry as a line that starts with the time of day `clock` -/
def Entry.line (clock : String) (e : Entry) : String :=
  clock ++ " │ " ++ Text.padRight 8 e.level.name ++ " │ " ++ e.channel.name ++ " │ " ++ e.message
    ++ "\n"

/-- lowest level shown for a number of requests for more; with `quiet` only errors are shown -/
def threshold (quiet : Bool) (verbosity : Nat) : Level :=
  if quiet then .error
  else
    match verbosity with
    | 0 => .warning
    | 1 => .info
    | _ => .debug

def shown (least : Level) (entries : List Entry) : List Entry :=
  entries.filter fun e => decide (least.rank ≤ e.level.rank)

/-! ### Logged values -/

/-- a value with the entries written on the way to it, in order -/
structure Logged (α : Type) where
  value : α
  entries : List Entry

namespace Logged

variable {α β : Type}

def bind (x : Logged α) (f : α → Logged β) : Logged β :=
  let y := f x.value
  ⟨y.value, x.entries ++ y.entries⟩

instance : Monad Logged where
  pure a := ⟨a, []⟩
  bind := Logged.bind

/-- writes one entry -/
def note (level : Level) (channel : Channel) (message : String) : Logged Unit :=
  ⟨(), [⟨level, channel, message⟩]⟩

/-- writes one entry if `c` holds -/
def noteIf (c : Bool) (level : Level) (channel : Channel) (message : String) : Logged Unit :=
  ⟨(), if c then [⟨level, channel, message⟩] else []⟩

@[simp] theorem value_pure (a : α) : (pure a : Logged α).value = a := rfl

@[simp] theorem entries_pure (a : α) : (pure a : Logged α).entries = [] := rfl

@[simp] theorem value_bind (x : Logged α) (f : α → Logged β) :
    (x >>= f).value = (f x.value).value := rfl

@[simp] theorem entries_bind (x : Logged α) (f : α → Logged β) :
    (x >>= f).entries = x.entries ++ (f x.value).entries := rfl

/-- logs each item of a list in order -/
def each (f : α → Logged β) : List α → Logged (List β)
  | [] => ⟨[], []⟩
  | a :: as =>
    let b := f a
    let bs := each f as
    ⟨b.value :: bs.value, b.entries ++ bs.entries⟩

@[simp] theorem value_each (f : α → Logged β) (as : List α) :
    (each f as).value = as.map fun a => (f a).value := by
  induction as with
  | nil => rfl
  | cons a as ih => simp [each, ih]

end Logged

end EndpointScaffold.Log
