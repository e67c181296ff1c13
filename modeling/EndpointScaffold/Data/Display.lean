import EndpointScaffold.Data.Value
import EndpointScaffold.Decimal.Notation
import EndpointScaffold.Text.Quoted

/-!
# Values on display

How messages show a value: the name of its type and a text on one line.

* `Value.typeName` the name of the type;
* `Value.display` the text of a value, texts in quotes;
* `dateText`, `Moment.text` dates and times in the form in which data files write them.
-/

namespace EndpointScaffold.Data

open Text

/-! ### Dates and times -/

/-- a number with zeros in front -/
def zeroPadded (width n : Nat) : String :=
  let digits := Nat.toDigits 10 n
  String.ofList (List.replicate (width - digits.length) '0' ++ digits)

def dateText (year month day : Nat) : String :=
  join "-" [zeroPadded 4 year, zeroPadded 2 month, zeroPadded 2 day]

/-- an offset from UTC -/
def offsetText (seconds : Int) : String :=
  let n := seconds.natAbs
  let parts := [n / 3600, n / 60 % 60] ++ (if n % 60 == 0 then [] else [n % 60])
  (if seconds < 0 then "-" else "+") ++ join ":" (parts.map (zeroPadded 2))

def Moment.text (m : Moment) : String :=
  dateText m.year m.month m.day ++ " " ++ join ":" ([m.hour, m.minute, m.second].map (zeroPadded 2))
    ++ (if m.micros == 0 then "" else "." ++ zeroPadded 6 m.micros)
    ++ (m.offset.map offsetText).getD ""

/-- a span of time as days and the seconds of a day -/
def spanDisplay (seconds : Int) : String :=
  let days := seconds.fdiv 86400
  let rest := seconds.fmod 86400
  let parts := (if days == 0 then [] else ["days=" ++ toString days])
    ++ (if rest == 0 then [] else ["seconds=" ++ toString rest])
  "datetime.timedelta(" ++ (if parts.isEmpty then "0" else join ", " parts) ++ ")"

def zoneDisplay (seconds : Int) : String :=
  if seconds == 0 then "datetime.timezone.utc"
  else "datetime.timezone(" ++ spanDisplay seconds ++ ")"

def Moment.display (m : Moment) : String :=
  let seconds := if m.second == 0 && m.micros == 0 then [] else [m.second]
  let micros := if m.micros == 0 then [] else [m.micros]
  let parts := [m.year, m.month, m.day, m.hour, m.minute] ++ seconds ++ micros
  let zone := m.offset.toList.map fun seconds => "tzinfo=" ++ zoneDisplay seconds
  "datetime.datetime(" ++ join ", " (parts.map toString ++ zone) ++ ")"

/-! ### Bytes -/

def byteDisplay (quote : Char) (b : UInt8) : List Char :=
  let c := Char.ofNat b.toNat
  if c == quote || c == '\\' then ['\\', c]
  else if c == '\n' then ['\\', 'n']
  else if c == '\r' then ['\\', 'r']
  else if c == '\t' then ['\\', 't']
  else if 32 ≤ b.toNat && b.toNat < 127 then [c]
  else escapedCode c

def bytesDisplay (bs : List UInt8) : String :=
  let quote := quoteFor (bs.map fun b => Char.ofNat b.toNat)
  String.ofList ('b' :: quote :: bs.flatMap (byteDisplay quote) ++ [quote])

/-! ### Values -/

namespace Value

def typeName : Value → String
  | .null => "NoneType"
  | .bool _ => "bool"
  | .int _ => "int"
  | .float _ => "float"
  | .text _ => "str"
  | .list _ => "list"
  | .object _ => "dict"
  | .date _ _ _ => "date"
  | .moment _ => "datetime"
  | .bytes _ => "bytes"
  | .set _ => "set"
  | .pair _ _ => "tuple"
  | .again _ isObject => if isObject then "dict" else "list"

mutual
def display : Value → String
  | .null => "None"
  | .bool b => if b then "True" else "False"
  | .int n => toString n
  | .float x => Decimal.shortest x
  | .text s => quoted s
  | .list items => "[" ++ join ", " (displays items) ++ "]"
  | .object entries => "\x7b" ++ join ", " (displayEntries entries) ++ "\x7d"
  | .date year month day =>
    "datetime.date(" ++ join ", " ([year, month, day].map toString) ++ ")"
  | .moment m => m.display
  | .bytes bs => bytesDisplay bs
  | .set items => if items.isEmpty then "set()" else "\x7b" ++ join ", " (displays items) ++ "\x7d"
  | .pair k v => "(" ++ k.display ++ ", " ++ v.display ++ ")"
  | .again _ isObject => if isObject then "\x7b...\x7d" else "[...]"

def displays : List Value → List String
  | [] => []
  | v :: vs => v.display :: displays vs

def displayEntries : List (Value × Value) → List String
  | [] => []
  | (k, v) :: rest => (k.display ++ ": " ++ v.display) :: displayEntries rest
end

end Value

end EndpointScaffold.Data
