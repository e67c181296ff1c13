import EndpointScaffold.Decimal.Notation
import EndpointScaffold.Text.Character

/-!
# Reading numbers

* `LongNumber` an integer with too many digits;
* `digitsValue` the value of digits;
* `unsigned?` digits with an optional point and exponent;
* `number?` a number with an optional sign, or a word for one that is not finite.
-/

namespace EndpointScaffold.Decimal

open Text

/-! ### Long numbers -/

structure LongNumber where
  digits : Nat
  deriving DecidableEq, Repr

/-- most digits of an integer -/
def digitLimit : Nat := 4300

def LongNumber.message (e : LongNumber) : String :=
  "Exceeds the limit (" ++ toString digitLimit
    ++ " digits) for integer string conversion: value has " ++ toString e.digits
    ++ " digits; use sys.set_int_max_str_digits() to increase the limit"

/-! ### Digits -/

/-- value of a decimal digit of any script, or of a letter that follows the digits -/
def digitOf? (c : Char) : Option Nat :=
  if isAsciiLower c then some (c.toNat - 87)
  else if isAsciiUpper c then some (c.toNat - 55)
  else digitValue? c

/-- value of digits in a base -/
def digitsValue (base : Nat) (cs : List Char) : Nat :=
  cs.foldl (fun n c => base * n + (digitOf? c).getD 0) 0

/-- sign at the start of a number; true if it is negative -/
def takeSign : List Char → Bool × List Char
  | '-' :: cs => (true, cs)
  | '+' :: cs => (false, cs)
  | cs => (false, cs)

/-- exponent after the digits of a number; none if anything else follows them -/
def exponent? : List Char → Option Int
  | [] => some 0
  | c :: cs =>
    if c == 'e' || c == 'E' then
      let (negative, digits) := takeSign cs
      if !digits.isEmpty && digits.all isAsciiDigit then
        some (if negative then -(digitsValue 10 digits : Int) else digitsValue 10 digits)
      else none
    else none

/-- number in digits with an optional point and exponent -/
def unsigned? (negative : Bool) (cs : List Char) : Option Float := do
  let whole := cs.takeWhile isAsciiDigit
  let rest := cs.dropWhile isAsciiDigit
  let (fraction, rest) := match rest with
    | '.' :: more => (more.takeWhile isAsciiDigit, more.dropWhile isAsciiDigit)
    | more => ([], more)
  if whole.isEmpty && fraction.isEmpty then none
  else
    let e ← exponent? rest
    some (floatOfDigits negative (digitsValue 10 (whole ++ fraction)) (e - fraction.length))

/-- number that a text without blanks around it stands for -/
def number? (cs : List Char) : Option Float :=
  let (negative, rest) := takeSign cs
  let word := lower (String.ofList rest)
  if word == "inf" || word == "infinity" then some (if negative then -infinity else infinity)
  else if word == "nan" then some nan
  else unsigned? negative rest

end EndpointScaffold.Decimal
