import EndpointScaffold.Data.Display
import EndpointScaffold.Decimal.Reading
import EndpointScaffold.Encoding.Utf8
import EndpointScaffold.Schema.Checked
import EndpointScaffold.Text.Trim

/-!
# Readers of fields and records

A reader takes a value of a data file to the value of a field. Readers are lenient where the meaning
is clear: flags and numbers may be written as text, a number may be a flag, and bytes may stand for
the text that they encode.

* `text`, `nonEmptyText` texts;
* `flag` a flag, or a text or number for one;
* `positive` a number above zero;
* `list`, `choice`, `optional` combine readers.
-/

namespace EndpointScaffold.Schema

open Data Text

abbrev Reader (α : Type) := Value → Checked α

namespace Reader

variable {α : Type}

/-! ### Texts -/

/-- the text that a value is, or that its bytes encode; none if it is neither text nor bytes -/
def textIn? : Value → Option (Except Encoding.Undecodable String)
  | .text s => some (.ok s)
  | .bytes bs => some (Encoding.decode bs)
  | _ => none

def text : Reader String := fun v =>
  match textIn? v with
  | some (.ok s) => .ok s
  | some (.error _) => .fault .undecodable v
  | none => .fault .noText v

def nonEmptyText : Reader String := fun v =>
  match text v with
  | .ok s => if s.isEmpty then .fault .tooShort v else .ok s
  | .error is => .error is

/-- one of several values by its name -/
def choice (names : List (String × α)) : Reader α := fun v =>
  match (text v).toOption.bind fun s => names.lookup s with
  | some a => .ok a
  | none => .fault (.noChoice (names.map (·.1))) v

/-! ### Flags -/

def falseWords : List String := ["0", "off", "f", "false", "n", "no"]

def trueWords : List String := ["1", "on", "t", "true", "y", "yes"]

/-- flag that a word stands for; case does not matter -/
def flagOfWord? (s : String) : Option Bool :=
  let low := lower s
  if falseWords.contains low then some false
  else if trueWords.contains low then some true
  else none

/-- the largest integer that is looked at where a flag is expected -/
def wordLimit : Nat := 0x7FFFFFFFFFFFFFFF

def integer? : Value → Option Int
  | .int n => if -(wordLimit : Int) - 1 ≤ n && n ≤ wordLimit then some n else none
  | .float x =>
    (Decimal.Binary.ofFloat? x).bind fun b =>
      let (num, den) := b.ratio
      if num % den == 0 && num / den ≤ wordLimit then
        some (if b.negative then -((num / den : Nat) : Int) else (num / den : Nat))
      else none
  | _ => none

def flag : Reader Bool := fun v =>
  match v, textIn? v with
  | .bool b, _ => .ok b
  | v, some word =>
    match word.toOption.bind flagOfWord? with
    | some b => .ok b
    | none => .fault .unreadableFlag v
  | v, none =>
    match integer? v with
    | some 0 => .ok false
    | some 1 => .ok true
    | some _ => .fault .unreadableFlag v
    | none => .fault .noFlag v

/-! ### Numbers -/

def isSpace (c : Char) : Bool := isBlank c && !(28 ≤ c.toNat && c.toNat ≤ 31)

/-- the text without underscores, which may stand singly inside it -/
def withoutUnderscores? (cs : List Char) : Option (List Char) :=
  if cs.head? == some '_' || cs.getLast? == some '_' || occursIn ['_', '_'] cs then none
  else some (cs.filter (· != '_'))

/-- number that a text stands for; there may be either blanks around it or underscores inside -/
def numberOf? (s : String) : Option Float :=
  match Decimal.number? (dropAround isSpace s.toList) with
  | some x => some x
  | none => (withoutUnderscores? s.toList).bind Decimal.number?

def number : Reader Float := fun v =>
  match v, textIn? v with
  | v, some word =>
    match word.toOption.bind numberOf? with
    | some x => .ok x
    | none => .fault .unreadableNumber v
  | .float x, _ => .ok x
  | .bool b, _ => .ok (if b then 1.0 else 0.0)
  | .int n, _ =>
    match Decimal.floatOfInt? n with
    | some x => .ok x
    | none => .fault .noNumber v
  | v, _ => .fault .noNumber v

def positive : Reader Float := fun v =>
  match number v with
  | .ok x => if 0.0 < x then .ok x else .fault .notPositive v
  | .error is => .error is

/-! ### Combinations -/

/-- a value that may be left out by writing null -/
def optional (r : Reader α) : Reader (Option α)
  | .null => .ok none
  | v => (r v).map some

def list (r : Reader α) : Reader (List α)
  | .list vs => .items r 0 (Value.itemsOf vs)
  | .set vs => .items r 0 vs
  | v => .fault .noList v

end Reader

end EndpointScaffold.Schema

/-!
## Records

A record is read from the fields of an object. All fields are checked in the order of the record,
and then every entry that is no field is an issue, in the order of the object.
-/

namespace EndpointScaffold.Schema

open Data

variable {α β : Type}

abbrev Entries := List (Value × Value)

/-- a field that must be there; `whole` is the object it is missing in -/
def required (name : String) (r : Reader α) (es : Entries) : Checked α :=
  match Value.find? name es with
  | some v => .under (.field name) (r v)
  | none => .under (.field name) (.fault .missing (.object es))

/-- a field with a value to use where it is left out -/
def defaulted (name : String) (r : Reader α) (d : α) (es : Entries) : Checked α :=
  match Value.find? name es with
  | some v => .under (.field name) (r v)
  | none => .ok d

/-- step to an entry whose key is no text -/
def stepOfKey : Value → Step
  | .int n => if (Reader.integer? (.int n)).isSome then .index n else .field (toString n)
  | .bool b => .index (if b then 1 else 0)
  | key => .field key.display

def strayEntries (names : List String) (es : Entries) : List Issue :=
  es.filterMap fun e =>
    match e.1 with
    | .text s => if names.contains s then none else some ⟨[.field s], .extraField, e.2⟩
    | key => some ⟨[stepOfKey key], .keyNoText, key⟩

def record (title : String) (names : List String) (fields : Entries → Checked α) : Reader α
  | .object es => (fields es).also (strayEntries names es)
  | v => .fault (.noRecord title) v

end EndpointScaffold.Schema
