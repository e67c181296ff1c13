import EndpointScaffold.Data.Calendar
import EndpointScaffold.Decimal.Reading
import EndpointScaffold.Encoding.Base64
import EndpointScaffold.Text.Trim
import EndpointScaffold.Yaml.Implicit
import EndpointScaffold.Yaml.Problem

/-!
# Values of scalars

A scalar with a tag of its own gets a value by a rule of its type.

* `flagValue`, `integerValue`, `floatValue`, `timeValue` the rules for texts that have the form of
  their type, with the misfits of texts that have not;
* `bytesValue` bytes to the base 64.
-/

namespace EndpointScaffold.Yaml

open Data Decimal Text

/-- a text that is no value of its type -/
def unfit {α : Type} (message : String) : Result α := .error (.unfit "ValueError" message)

/-! ### Flags -/

def flagValue (s : String) : Result Value :=
  let word := lower s
  match flagWords.lookup word with
  | some b => .ok (.bool b)
  | none => .error (.unfit "KeyError" (quoted word))

/-! ### Numbers -/

/-- sign and digits of a number, underscores left out -/
def signed (cs : List Char) : Result (Bool × List Char) :=
  let cs := cs.filter (· != '_')
  if cs.isEmpty then .error (.unfit "IndexError" "string index out of range") else .ok (takeSign cs)

/-- letter that may follow a zero in front of digits of a base -/
def baseLetter? (base : Nat) : Option Char := [(2, 'b'), (8, 'o'), (16, 'x')].lookup base

def dropBaseLetter (base : Nat) (cs : List Char) : List Char :=
  match cs with
  | '0' :: c :: rest =>
    if (baseLetter? base).isSome && baseLetter? base == (lower (String.ofList [c])).toList.head? then
      rest
    else cs
  | _ => cs

/-- an integer in a base, with blanks around it and a sign -/
def wholeOf (base : Nat) (cs : List Char) : Result Int :=
  let (negative, digits) := takeSign (dropAround isBlank cs)
  let digits := dropBaseLetter base digits
  if digits.isEmpty || !digits.all (fun c => (digitOf? c).any (· < base)) then
    unfit ("invalid literal for int() with base " ++ toString base ++ ": "
      ++ String.ofList ((quoted (String.ofList cs)).toList.take 200))
  else if base == 10 && digitLimit < digits.length then unfit (LongNumber.mk digits.length).message
  else
    let n : Int := digitsValue base digits
    .ok (if negative then -n else n)

def integerValue (s : String) : Result Value := do
  let (negative, cs) ← signed s.toList
  let sign : Int := if negative then -1 else 1
  match cs with
  | ['0'] => .ok (.int 0)
  | '0' :: 'b' :: digits => do .ok (.int (sign * (← wholeOf 2 digits)))
  | '0' :: 'x' :: digits => do .ok (.int (sign * (← wholeOf 16 digits)))
  | '0' :: _ => do .ok (.int (sign * (← wholeOf 8 cs)))
  | [] => .error (.unfit "IndexError" "string index out of range")
  | _ => do
    let parts ← (splitChars ':' cs).mapM (wholeOf 10)
    .ok (.int (sign * parts.foldl (fun n part => 60 * n + part) 0))

/-- a number with blanks around it -/
def floatOf (cs : List Char) : Result Float :=
  let plain := (dropAround isBlank cs).map fun c =>
    match digitValue? c with
    | some n => Char.ofNat (48 + n)
    | none => c
  match number? plain with
  | some x => .ok x
  | none => unfit ("could not convert string to float: " ++ quoted (String.ofList cs))

/-- the value of parts to the base sixty; the last part is the first of `parts` -/
def sexagesimal (parts : List Float) : Float :=
  (parts.foldl (fun (sum, base) part => (sum + part * base, base * 60.0)) (0.0, 1.0)).1

def floatValue (s : String) : Result Value := do
  let (negative, cs) ← signed (lower s).toList
  let withSign := fun (x : Float) => Value.float (if negative then -x else x)
  if isInfinity cs then .ok (withSign infinity)
  else if isNotANumber cs then .ok (.float nan)
  else
    match splitChars ':' cs with
    | [whole] => .ok (withSign (← floatOf whole))
    | parts => .ok (withSign (sexagesimal (← parts.mapM floatOf).reverse))

/-! ### Points in time -/

def microsOf (digits : List Char) : Nat :=
  let kept := digits.take 6
  digitsValue 10 (kept ++ List.replicate (6 - kept.length) '0')

/-- seconds of an offset from UTC, if one is written -/
def offsetOf (p : TimestampParts) : Option Int :=
  match p.offset with
  | some (sign, hours, minutes) =>
    let seconds : Int := digitsValue 10 hours * 3600 + digitsValue 10 minutes * 60
    some (if sign == '-' then -seconds else seconds)
  | none => if p.isZulu then some 0 else none

def momentOf (p : TimestampParts) : Except CalendarFault Value := do
  let year := digitsValue 10 p.year
  let month := digitsValue 10 p.month
  let day := digitsValue 10 p.day
  match p.clock with
  | none => do
    checkDate year month day
    .ok (.date year month day)
  | some (hour, minute, second) => do
    let offset := offsetOf p
    checkOffset (offset.getD 0)
    checkDate year month day
    checkClock (digitsValue 10 hour) (digitsValue 10 minute) (digitsValue 10 second)
    .ok (.moment {
      year := year, month := month, day := day, hour := digitsValue 10 hour,
      minute := digitsValue 10 minute, second := digitsValue 10 second,
      micros := microsOf p.fraction, offset := offset })

def timeValue (s : String) : Result Value :=
  match timestampParts? (dropFinalLineFeed s.toList) with
  | none => .error (.unfit "AttributeError" "'NoneType' object has no attribute 'groupdict'")
  | some p =>
    match momentOf p with
    | .ok v => .ok v
    | .error fault => unfit fault.message

/-! ### Bytes -/

/-- message for the first run of characters that are not ASCII, which starts at `index` -/
def notAscii (index : Nat) (run : List Char) : String :=
  let what := match run with
    | [c] => "character '" ++ String.ofList (escapedCode c) ++ "' in position " ++ toString index
    | _ => "characters in position " ++ toString index ++ "-" ++ toString (index + run.length - 1)
  "'ascii' codec can't encode " ++ what ++ ": ordinal not in range(128)"

/-- bytes to the base 64 of a scalar at `mark` -/
def bytesValue (mark : Mark) (s : String) : Result Value :=
  let isAscii := fun (c : Char) => decide (c.toNat < 128)
  let before := s.toList.takeWhile isAscii
  let run := (s.toList.drop before.length).takeWhile fun c => !isAscii c
  if !run.isEmpty then
    failAt ("failed to convert base64 data into ascii: " ++ notAscii before.length run) mark
  else
    match Encoding.Base64.decode s.toList with
    | .ok bytes => .ok (.bytes bytes)
    | .error fault => failAt ("failed to decode base64 data: " ++ fault.message) mark

end EndpointScaffold.Yaml
