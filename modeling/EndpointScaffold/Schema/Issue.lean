import EndpointScaffold.Data.Display
import EndpointScaffold.Data.Value

/-!
# Issues of data

When data does not fit a record, every misfit is an issue: where it is, what is wrong, and the value
that was found there. The issues of a record are shown as text: how many there are, and two lines for
each one. Long values are cut in the middle.

* `Issue.lines` the two lines of an issue;
* `heading`, `listing` the first line and the whole text.
-/

namespace EndpointScaffold.Schema

open Data

inductive Step where
  | field (name : String)
  | index (n : Int)
  deriving DecidableEq, Repr

/-- what is wrong with a value -/
inductive Fault where
  | missing
  | extraField
  | noSuchField (name : String)
  | keyNoText
  | noText
  /-- bytes that encode no text -/
  | undecodable
  | tooShort
  | noFlag
  | unreadableFlag
  | noNumber
  | unreadableNumber
  | notPositive
  | noList
  /-- none of the given words -/
  | noChoice (words : List String)
  /-- no object where the fields of the record `name` are expected -/
  | noRecord (name : String)
  deriving DecidableEq, Repr

def Fault.kind : Fault → String
  | .missing => "missing"
  | .extraField => "extra_forbidden"
  | .noSuchField _ => "no_such_attribute"
  | .keyNoText => "invalid_key"
  | .noText => "string_type"
  | .undecodable => "string_unicode"
  | .tooShort => "string_too_short"
  | .noFlag => "bool_type"
  | .unreadableFlag => "bool_parsing"
  | .noNumber => "float_type"
  | .unreadableNumber => "float_parsing"
  | .notPositive => "greater_than"
  | .noList => "list_type"
  | .noChoice _ => "enum"
  | .noRecord _ => "model_type"

/-- words in quotes, with commas and a final `or` -/
def alternatives : List String → String
  | [] => ""
  | [w] => "'" ++ w ++ "'"
  | [v, w] => "'" ++ v ++ "' or '" ++ w ++ "'"
  | w :: ws => "'" ++ w ++ "', " ++ alternatives ws

def Fault.message : Fault → String
  | .missing => "Field required"
  | .extraField => "Extra inputs are not permitted"
  | .noSuchField name => "Object has no attribute '" ++ name ++ "'"
  | .keyNoText => "Keys should be strings"
  | .noText => "Input should be a valid string"
  | .undecodable =>
    "Input should be a valid string, unable to parse raw data as a unicode string"
  | .tooShort => "String should have at least 1 character"
  | .noFlag => "Input should be a valid boolean"
  | .unreadableFlag => "Input should be a valid boolean, unable to interpret input"
  | .noNumber => "Input should be a valid number"
  | .unreadableNumber => "Input should be a valid number, unable to parse string as a number"
  | .notPositive => "Input should be greater than 0"
  | .noList => "Input should be a valid list"
  | .noChoice words => "Input should be " ++ alternatives words
  | .noRecord name => "Input should be a valid dictionary or instance of " ++ name

/-- a misfit at a place inside data; `input` is the value found there -/
structure Issue where
  path : List Step
  fault : Fault
  input : Value

/-- the issue seen from one step further out -/
def Issue.under (s : Step) (i : Issue) : Issue := { i with path := s :: i.path }

/-! ### Listing -/

open Text

/-- most bytes of a value that are shown in full -/
def displayLimit : Nat := 50

/-- the longest start of a text within `n` bytes -/
def startWithin (n : Nat) : List Char → List Char
  | [] => []
  | c :: cs => if c.utf8Size ≤ n then c :: startWithin (n - c.utf8Size) cs else []

def cutText (s : String) : String :=
  if s.utf8ByteSize ≤ displayLimit then s
  else
    let half := displayLimit / 2
    String.ofList (startWithin half s.toList) ++ "..."
      ++ String.ofList (startWithin (half - 1) s.toList.reverse).reverse

def Step.text : Step → String
  | .field name => if name.toList.contains '.' then "`" ++ name ++ "`" else name
  | .index n => toString n

def Issue.lines (i : Issue) : List String := [
  join "." (i.path.map Step.text),
  "  " ++ i.fault.message ++ " [type=" ++ i.fault.kind ++ ", input_value="
    ++ cutText i.input.display ++ ", input_type=" ++ i.input.typeName ++ "]"]

def heading (title : String) (is : List Issue) : String :=
  toString is.length ++ " validation error" ++ (if is.length == 1 then "" else "s") ++ " for " ++ title

def listing (title : String) (is : List Issue) : String :=
  join "\n" (heading title is :: is.flatMap Issue.lines)

end EndpointScaffold.Schema
