import EndpointScaffold.Data.Value
import EndpointScaffold.Decimal.Reading

/-!
# Reading JSON

The grammar of JSON with the words `NaN`, `Infinity` and `-Infinity` as numbers. A text that is no
JSON gives the fault and the place where it shows.
-/

namespace EndpointScaffold.Json

open Data Text Decimal

inductive Fault where
  | expectedValue
  | expectedName
  | expectedColon
  | expectedComma
  | extraData
  | openString
  | controlCharacter
  | badEscape
  | badCodeEscape
  | byteOrderMark
  /-- an integer of too many digits -/
  | longInteger (n : LongNumber)
  deriving DecidableEq, Repr

def Fault.message : Fault → String
  | .expectedValue => "Expecting value"
  | .expectedName => "Expecting property name enclosed in double quotes"
  | .expectedColon => "Expecting ':' delimiter"
  | .expectedComma => "Expecting ',' delimiter"
  | .extraData => "Extra data"
  | .openString => "Unterminated string starting at"
  | .controlCharacter => "Invalid control character at"
  | .badEscape => "Invalid \\escape"
  | .badCodeEscape => "Invalid \\uXXXX escape"
  | .byteOrderMark => "Unexpected UTF-8 BOM (decode using utf-8-sig)"
  | .longInteger n => n.message

/-- a fault and the number of characters from its place to the end of the text -/
structure Problem where
  fault : Fault
  left : Nat
  deriving DecidableEq, Repr

abbrev Read (α : Type) := Except Problem (α × List Char)

def fail {α : Type} (fault : Fault) (rest : List Char) : Except Problem α :=
  .error ⟨fault, rest.length⟩

def isJsonBlank (c : Char) : Bool := c == ' ' || c == '\t' || c == '\n' || c == '\r'

def skipBlanks (cs : List Char) : List Char := cs.dropWhile isJsonBlank

/-! ### Strings -/

def isHexDigit (c : Char) : Bool :=
  isAsciiDigit c || ('a' ≤ c && c ≤ 'f') || ('A' ≤ c && c ≤ 'F')

/-- value of four hexadecimal digits -/
def codeUnit? (cs : List Char) : Option Nat :=
  if cs.length == 4 && cs.all isHexDigit then some (digitsValue 16 cs) else none

/-- the trail surrogate written at the start of `cs`, if more follows it -/
def trailSurrogate? : List Char → Option Nat
  | '\\' :: 'u' :: a :: b :: c :: d :: _ :: _ =>
    (codeUnit? [a, b, c, d]).filter fun u => 0xDC00 ≤ u && u < 0xE000
  | _ => none

def escaped? (c : Char) : Option Char :=
  match c with
  | '"' => some '"'
  | '\\' => some '\\'
  | '/' => some '/'
  | 'b' => some '\x08'
  | 'f' => some '\x0c'
  | 'n' => some '\n'
  | 'r' => some '\r'
  | 't' => some '\t'
  | _ => none

/-- reads a string after its opening quote; `start` is the text from that quote on -/
def readString (start : List Char) : Nat → List Char → List Char → Read String
  | 0, _, _ => fail .openString start
  | n + 1, out, cs =>
    match cs with
    | [] => fail .openString start
    | '"' :: rest => .ok (String.ofList out.reverse, rest)
    | '\\' :: rest =>
      match rest with
      | [] => fail .openString start
      | 'u' :: more =>
        let digits := more.take 4
        let after := more.drop 4
        if after.isEmpty then fail .badCodeEscape rest
        else
          match codeUnit? digits with
          | none => fail .badCodeEscape rest
          | some u =>
            if 0xD800 ≤ u && u < 0xDC00 then
              match trailSurrogate? after with
              | some v =>
                let c := Char.ofNat (0x10000 + (u - 0xD800) * 1024 + (v - 0xDC00))
                readString start n (c :: out) (after.drop 6)
              | none => readString start n (Char.ofNat 0xFFFD :: out) after
            else if 0xDC00 ≤ u && u < 0xE000 then
              readString start n (Char.ofNat 0xFFFD :: out) after
            else readString start n (Char.ofNat u :: out) after
      | c :: more =>
        match escaped? c with
        | some d => readString start n (d :: out) more
        | none => fail .badEscape cs
    | c :: rest =>
      if c.toNat < 32 then fail .controlCharacter cs else readString start n (c :: out) rest

/-! ### Numbers -/

def takeFraction : List Char → List Char × List Char
  | '.' :: cs =>
    let digits := cs.takeWhile isAsciiDigit
    if digits.isEmpty then ([], '.' :: cs) else (digits, cs.dropWhile isAsciiDigit)
  | cs => ([], cs)

/-- exponent with its sign, if there is at least one digit -/
def takeExponent (cs : List Char) : Option Int × List Char :=
  match cs with
  | c :: rest =>
    if c == 'e' || c == 'E' then
      let (negative, digits) := takeSign rest
      let taken := digits.takeWhile isAsciiDigit
      if taken.isEmpty then (none, cs)
      else
        let n : Int := digitsValue 10 taken
        (some (if negative then -n else n), digits.dropWhile isAsciiDigit)
    else (none, cs)
  | [] => (none, [])

/-- reads a number without its sign; `start` is the text from the sign on -/
def readNumber (start : List Char) (negative : Bool) (cs : List Char) : Read Value :=
  let whole := match cs with
    | '0' :: _ => ['0']
    | _ => cs.takeWhile isAsciiDigit
  if whole.isEmpty then fail .expectedValue start
  else
    let rest := cs.drop whole.length
    let (fraction, rest) := takeFraction rest
    let (exponent, rest) := takeExponent rest
    if fraction.isEmpty && exponent.isNone then
      if digitLimit < whole.length then fail (.longInteger ⟨whole.length⟩) start
      else
        let n : Int := digitsValue 10 whole
        .ok (.int (if negative then -n else n), rest)
    else
      let digits := digitsValue 10 (whole ++ fraction)
      .ok (.float (floatOfDigits negative digits (exponent.getD 0 - fraction.length)), rest)

/-! ### Values -/

def dropWord? (word : String) (cs : List Char) : Option (List Char) :=
  if word.toList.isPrefixOf cs then some (cs.drop word.length) else none

def constants : List (String × Value) := [
  ("null", .null), ("true", .bool true), ("false", .bool false), ("NaN", .float nan),
  ("Infinity", .float infinity), ("-Infinity", .float (-infinity))]

def readConstant? (cs : List Char) : Option (Value × List Char) :=
  constants.findSome? fun entry => (dropWord? entry.1 cs).map fun rest => (entry.2, rest)

mutual
/-- reads one value; `fuel` bounds the number of steps -/
def readValue (fuel : Nat) (cs : List Char) : Read Value :=
  match fuel with
  | 0 => fail .expectedValue cs
  | n + 1 =>
    match cs with
    | '"' :: rest => (readString cs (rest.length + 1) [] rest).map fun r => (.text r.1, r.2)
    | '{' :: rest =>
      match skipBlanks rest with
      | '}' :: more => .ok (.object [], more)
      | more => (readFields n [] more).map fun r => (.object r.1, r.2)
    | '[' :: rest =>
      match skipBlanks rest with
      | ']' :: more => .ok (.list [], more)
      | more => (readItems n [] more).map fun r => (.list r.1, r.2)
    | _ =>
      match readConstant? cs with
      | some r => .ok r
      | none =>
        match cs with
        | '-' :: rest => readNumber cs true rest
        | _ => readNumber cs false cs

def readItems (fuel : Nat) (out : List Value) (cs : List Char) : Read (List Value) :=
  match fuel with
  | 0 => fail .expectedValue cs
  | n + 1 =>
    match readValue n cs with
    | .error p => .error p
    | .ok (v, rest) =>
      match skipBlanks rest with
      | ']' :: more => .ok ((v :: out).reverse, more)
      | ',' :: more => readItems n (v :: out) (skipBlanks more)
      | other => fail .expectedComma other

def readFields (fuel : Nat) (out : List (Value × Value)) (cs : List Char) :
    Read (List (Value × Value)) :=
  match fuel with
  | 0 => fail .expectedName cs
  | n + 1 =>
    match cs with
    | '"' :: rest =>
      match readString cs (rest.length + 1) [] rest with
      | .error p => .error p
      | .ok (name, rest) =>
        match skipBlanks rest with
        | ':' :: rest =>
          match readValue n (skipBlanks rest) with
          | .error p => .error p
          | .ok (v, rest) =>
            let out := Value.put name v out
            match skipBlanks rest with
            | '}' :: more => .ok (out, more)
            | ',' :: more => readFields n out (skipBlanks more)
            | other => fail .expectedComma other
        | other => fail .expectedColon other
    | _ => fail .expectedName cs
end

def read (s : String) : Except Problem Value :=
  let cs := s.toList
  if cs.head? == some (Char.ofNat 0xFEFF) then fail .byteOrderMark cs
  else
    match readValue (2 * cs.length + 2) (skipBlanks cs) with
    | .error p => .error p
    | .ok (v, rest) =>
      match skipBlanks rest with
      | [] => .ok v
      | rest => fail .extraData rest

/-- message of a problem in the text `s`, with its line, column and index -/
def Problem.message (p : Problem) (s : String) : String :=
  match p.fault with
  | .longInteger n => (Fault.longInteger n).message
  | fault =>
    let before := s.toList.take (s.length - p.left)
    let line := before.count '\n' + 1
    let column := (before.reverse.takeWhile (· != '\n')).length + 1
    s!"{fault.message}: line {line} column {column} (char {before.length})"

end EndpointScaffold.Json
