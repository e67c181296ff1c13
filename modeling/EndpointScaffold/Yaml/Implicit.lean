import EndpointScaffold.Text.Trim
import EndpointScaffold.Yaml.Cursor

/-!
# Implicit tags

A plain scalar has a type by the way it is written: flags, numbers, nothing, dates and the signs for
merging and for a default value have forms of their own, and everything else is a text. Each form is
a predicate on the characters of a scalar.

* `isFlag`, `isFloat`, `isInteger`, `isMerge`, `isNothing`, `isTimestamp`, `isDefault` the forms;
* `implicitTag` the tag of the first form that fits.
-/

namespace EndpointScaffold.Yaml

/-! ### Tags -/

/-- stem of the tags that every text can use -/
def coreStem : String := "tag:yaml.org,2002:"

def coreTag (name : String) : String := coreStem ++ name

/-! ### Parts of numbers -/

def isDigitOrUnderscore (c : Char) : Bool := isDigit c || c == '_'

def dropSign : List Char → List Char
  | '-' :: cs => cs
  | '+' :: cs => cs
  | cs => cs

/-- an optional exponent, always with a sign -/
def isExponent : List Char → Bool
  | [] => true
  | e :: s :: digits =>
    (e == 'e' || e == 'E') && (s == '-' || s == '+') && !digits.isEmpty && digits.all isDigit
  | _ => false

/-- parts of a number to the base sixty after the first one, each below sixty -/
def isSixtieth (cs : List Char) : Bool :=
  match cs with
  | [a] => isDigit a
  | [a, b] => '0' ≤ a && a ≤ '5' && isDigit b
  | _ => false

def colonPieces : List Char → List (List Char)
  | [] => [[]]
  | ':' :: cs => [] :: colonPieces cs
  | c :: cs =>
    match colonPieces cs with
    | [] => [[c]]
    | p :: ps => (c :: p) :: ps

def startsWithDigit (cs : List Char) : Bool := isDigit (cs.headD endChar)

/-! ### Forms -/

def flagWords : List (String × Bool) := [
  ("yes", true), ("Yes", true), ("YES", true), ("no", false), ("No", false), ("NO", false),
  ("true", true), ("True", true), ("TRUE", true), ("false", false), ("False", false),
  ("FALSE", false), ("on", true), ("On", true), ("ON", true), ("off", false), ("Off", false),
  ("OFF", false)]

def isFlag (cs : List Char) : Bool := flagWords.any fun w => w.1.toList == cs

/-- digits with a point, and an exponent -/
def isPointFloat (cs : List Char) : Bool :=
  startsWithDigit cs &&
    match cs.dropWhile isDigitOrUnderscore with
    | '.' :: rest => isExponent (rest.dropWhile isDigitOrUnderscore)
    | _ => false

/-- digits after a leading point, and an exponent -/
def isFraction : List Char → Bool
  | '.' :: cs => startsWithDigit cs && isExponent (cs.dropWhile isDigitOrUnderscore)
  | _ => false

/-- a number to the base sixty with a point after its last part -/
def isSexagesimalFloat (cs : List Char) : Bool :=
  match colonPieces cs with
  | first :: second :: more =>
    let pieces := second :: more
    let last := pieces.getLast?.getD []
    startsWithDigit first && first.all isDigitOrUnderscore
      && pieces.dropLast.all isSixtieth
      && isSixtieth (last.takeWhile (· != '.'))
      && (match last.dropWhile (· != '.') with
        | '.' :: rest => rest.all isDigitOrUnderscore
        | _ => false)
  | _ => false

def isInfinity (cs : List Char) : Bool := [".inf", ".Inf", ".INF"].any fun w => w.toList == cs

def isNotANumber (cs : List Char) : Bool := [".nan", ".NaN", ".NAN"].any fun w => w.toList == cs

def isFloat (cs : List Char) : Bool :=
  let unsigned := dropSign cs
  isPointFloat unsigned || isFraction cs || isSexagesimalFloat unsigned || isInfinity unsigned
    || isNotANumber cs

/-- digits of one class after a lead, with underscores, and at least one character -/
def isBased (lead : String) (isBaseDigit : Char → Bool) (cs : List Char) : Bool :=
  lead.toList.isPrefixOf cs &&
    (let digits := cs.drop lead.length
    !digits.isEmpty && digits.all fun c => isBaseDigit c || c == '_')

def isDecimal (cs : List Char) : Bool :=
  cs == ['0'] || ('1' ≤ cs.headD endChar && cs.headD endChar ≤ '9' && cs.all isDigitOrUnderscore)

/-- a whole number to the base sixty -/
def isSexagesimal (cs : List Char) : Bool :=
  match colonPieces cs with
  | first :: second :: more =>
    '1' ≤ first.headD endChar && first.headD endChar ≤ '9' && first.all isDigitOrUnderscore
      && (second :: more).all isSixtieth
  | _ => false

def isInteger (cs : List Char) : Bool :=
  let cs := dropSign cs
  isBased "0b" (fun c => c == '0' || c == '1') cs || isBased "0" (fun c => '0' ≤ c && c ≤ '7') cs
    || isDecimal cs || isBased "0x" isHexDigit cs || isSexagesimal cs

def isMerge (cs : List Char) : Bool := cs == "<<".toList

def isNothing (cs : List Char) : Bool :=
  ["~", "null", "Null", "NULL", ""].any fun w => w.toList == cs

def isDefault (cs : List Char) : Bool := cs == ['=']

/-! ### Dates -/

def takeDigits (least most : Nat) (cs : List Char) : Option (List Char × List Char) :=
  let digits := (cs.take most).takeWhile isDigit
  if digits.length < least then none else some (digits, cs.drop digits.length)

def takeChar (c : Char) : List Char → Option (List Char)
  | d :: cs => if d == c then some cs else none
  | [] => none

/-- parts of a point in time as they are written -/
structure TimestampParts where
  year : List Char
  month : List Char
  day : List Char
  /-- hour, minute and second -/
  clock : Option (List Char × List Char × List Char) := none
  fraction : List Char := []
  /-- whether the time is that of the zero meridian -/
  isZulu : Bool := false
  /-- sign, hours and minutes of the offset -/
  offset : Option (Char × List Char × List Char) := none
  deriving DecidableEq, Repr

def takeFraction : List Char → List Char × List Char
  | '.' :: cs => (cs.takeWhile isDigit, cs.dropWhile isDigit)
  | cs => ([], cs)

def readZone (p : TimestampParts) (cs : List Char) : Option TimestampParts :=
  match cs.dropWhile fun c => c == ' ' || c == '\t' with
  | [] => if cs.isEmpty then some p else none
  | ['Z'] => some { p with isZulu := true }
  | sign :: rest =>
    if sign == '-' || sign == '+' then do
      let (hours, rest) ← takeDigits 1 2 rest
      match rest with
      | [] => some { p with offset := some (sign, hours, []) }
      | ':' :: rest => do
        let (minutes, rest) ← takeDigits 2 2 rest
        if rest.isEmpty then some { p with offset := some (sign, hours, minutes) } else none
      | _ => none
    else none

def readClock (p : TimestampParts) (cs : List Char) : Option TimestampParts := do
  let rest ← match cs with
    | 'T' :: rest => some rest
    | 't' :: rest => some rest
    | c :: rest =>
      if c == ' ' || c == '\t' then some (rest.dropWhile fun c => c == ' ' || c == '\t') else none
    | [] => none
  let (hour, rest) ← takeDigits 1 2 rest
  let (minute, rest) ← takeDigits 2 2 (← takeChar ':' rest)
  let (second, rest) ← takeDigits 2 2 (← takeChar ':' rest)
  let (fraction, rest) := takeFraction rest
  readZone { p with clock := some (hour, minute, second), fraction := fraction } rest

/-- reads a date with one or two digits for month and day, and a time of day -/
def timestampParts? (cs : List Char) : Option TimestampParts := do
  let (year, rest) ← takeDigits 4 4 cs
  let (month, rest) ← takeDigits 1 2 (← takeChar '-' rest)
  let (day, rest) ← takeDigits 1 2 (← takeChar '-' rest)
  let p : TimestampParts := { year := year, month := month, day := day }
  if rest.isEmpty then some p else readClock p rest

/-- a date alone needs two digits for month and day -/
def isTimestamp (cs : List Char) : Bool :=
  match timestampParts? cs with
  | some p => p.clock.isSome || (p.month.length == 2 && p.day.length == 2)
  | none => false

/-! ### The tag of a scalar -/

/-- the tag of a text by its form; a line feed at the end of a longer text does not count -/
def implicitTag (s : String) : String :=
  let cs := if s == "\n" then s.toList else Text.dropFinalLineFeed s.toList
  coreTag (
    if isFlag cs then "bool"
    else if isFloat cs then "float"
    else if isInteger cs then "int"
    else if isMerge cs then "merge"
    else if isNothing cs then "null"
    else if isTimestamp cs then "timestamp"
    else if isDefault cs then "value"
    else "str")

end EndpointScaffold.Yaml
