import EndpointScaffold.Data.Display
import EndpointScaffold.Text.Trim

/-!
# Writing JSON

Values are written with an item or a field a line, two blanks deeper than the brackets around them.
Characters stand for themselves where JSON allows it.
-/

namespace EndpointScaffold.Json

open Data Text

def charText (c : Char) : List Char :=
  match c with
  | '"' => ['\\', '"']
  | '\\' => ['\\', '\\']
  | '\n' => ['\\', 'n']
  | '\r' => ['\\', 'r']
  | '\t' => ['\\', 't']
  | '\x0c' => ['\\', 'f']
  | '\x08' => ['\\', 'b']
  | c => if c.toNat < 32 then '\\' :: 'u' :: hexDigits 4 c.toNat else [c]

def stringText (s : String) : String :=
  String.ofList ('"' :: s.toList.flatMap charText ++ ['"'])

def floatText (x : Float) : String :=
  if x.isNaN then "NaN"
  else if x.isInf then if x < 0.0 then "-Infinity" else "Infinity"
  else Decimal.shortest x

def bracketed (indent : Nat) (opening closing : String) (parts : List String) : String :=
  if parts.isEmpty then opening ++ closing
  else
    let inner := "\n" ++ blanks (indent + 2)
    opening ++ inner ++ join ("," ++ inner) parts ++ "\n" ++ blanks indent ++ closing

def nameText : Value → String
  | .text s => s
  | .null => "null"
  | .bool b => if b then "true" else "false"
  | .float x => floatText x
  | v => v.display

mutual
/-- the text of a value that stands `indent` blanks deep -/
def valueText (indent : Nat) : Value → String
  | .null => "null"
  | .bool b => if b then "true" else "false"
  | .int n => toString n
  | .float x => floatText x
  | .text s => stringText s
  | .list items => bracketed indent "[" "]" (itemTexts (indent + 2) items)
  | .object entries => bracketed indent "\x7b" "\x7d" (fieldTexts (indent + 2) entries)
  | .date year month day => stringText (dateText year month day)
  | .moment m => stringText m.text
  | v => stringText v.display

def itemTexts (indent : Nat) : List Value → List String
  | [] => []
  | v :: vs => valueText indent v :: itemTexts indent vs

def fieldTexts (indent : Nat) : List (Value × Value) → List String
  | [] => []
  | (key, v) :: es =>
    (stringText (nameText key) ++ ": " ++ valueText indent v) :: fieldTexts indent es
end

def write (v : Value) : String := valueText 0 v

end EndpointScaffold.Json
