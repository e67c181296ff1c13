import EndpointScaffold.Data.Display
import EndpointScaffold.Schema.Issue

/-!
# Checked values and assignments

A checked value is a value, or all the issues that stand in its way. Two checks side by side report
the issues of both.
-/

namespace EndpointScaffold.Schema

open Data

abbrev Checked (α : Type) := Except (List Issue) α

namespace Checked

variable {α β : Type}

/-- one issue at this very place -/
def fault (f : Fault) (input : Value) : Checked α := .error [⟨[], f, input⟩]

def issues : Checked α → List Issue
  | .ok _ => []
  | .error is => is

def under (s : Step) (c : Checked α) : Checked α := c.mapError (·.map (Issue.under s))

/-- applies a checked function to a checked value; the issues of both are reported, those of the
function first -/
def app (f : Checked (α → β)) (c : Checked α) : Checked β :=
  match f, c with
  | .ok g, .ok a => .ok (g a)
  | f, c => .error (f.issues ++ c.issues)

/-- adds issues found elsewhere -/
def also (extra : List Issue) (c : Checked α) : Checked α :=
  match c, extra with
  | .ok a, [] => .ok a
  | c, extra => .error (c.issues ++ extra)

def items (f : Value → Checked α) : Nat → List Value → Checked (List α)
  | _, [] => .ok []
  | n, v :: vs => app ((under (.index n) (f v)).map List.cons) (items f (n + 1) vs)

end Checked

end EndpointScaffold.Schema

/-!
## Assignments

An assignment gives one field of a record that exists a new value, which is checked as it is in
reading. Not every name can be a field: names that start with an underscore are kept for marks beside
the fields, two of them stand for the record as a whole, and some names stand for what is worked out
from the fields.

* `barrier?` what keeps a name from taking a value, whatever the fields are;
* `assigned` the record after an assignment.
-/

namespace EndpointScaffold.Schema

open Data

/-- why a name takes no value -/
inductive Barrier where
  /-- the name stands for the type of the record, and the value is of the type `given` -/
  | recordType (given : String)
  /-- the name stands for all fields together, and the value is no object but of the type `given` -/
  | allFields (given : String)
  /-- the name stands for what is worked out from the fields of the record `title` -/
  | computed (title name : String)
  deriving DecidableEq, Repr

def Barrier.message : Barrier → String
  | .recordType given => "__class__ must be set to a class, not '" ++ given ++ "' object"
  | .allFields given => "__dict__ must be set to a dictionary, not a '" ++ given ++ "'"
  | .computed title name => "property '" ++ name ++ "' of '" ++ title ++ "' object has no setter"

/-- why an assignment leaves a record as it was -/
inductive Refusal where
  | barred (barrier : Barrier)
  | misfit (issues : List Issue)

/-- names of what is worked out from the fields of every record -/
def computedOfAll : List String := ["model_extra", "model_fields_set"]

/-- whether a name is kept for marks beside the fields -/
def isMark (name : String) : Bool := name.toList.head? == some '_'

/-- what keeps `name` from taking the value `v` in a record called `title` -/
def barrier? (title : String) (computed : List String) (name : String) (v : Value) :
    Option Barrier :=
  if name == "__class__" then some (.recordType v.typeName)
  else if name == "__dict__" then
    match v with
    | .object _ => none
    | v => some (.allFields v.typeName)
  else if (computedOfAll ++ computed).contains name then some (.computed title name)
  else none

variable {α : Type}

/-- the record after the assignment of `v` to `name`; `field` assigns a field, and a mark changes no
field -/
def assigned (title : String) (computed : List String) (field : α → String → Value → Checked α)
    (a : α) (name : String) (v : Value) : Except Refusal α :=
  match barrier? title computed name v with
  | some b => .error (.barred b)
  | none => if isMark name then .ok a else (field a name v).mapError .misfit

end EndpointScaffold.Schema
