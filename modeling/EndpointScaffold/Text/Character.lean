import EndpointScaffold.Text.Property.Case
import EndpointScaffold.Text.Property.Word

/-!
# Classes and case of characters

Each class has an ASCII part, decided directly, and a part above it that is read from a table of
the Unicode property.

* `isBlank` white space of every kind, the information separators included;
* `isWordChar` letters, numbers and the underscore;
* `isUpper` upper-case characters;
* `digitValue?` the value of a decimal digit of any script;
* `isAsciiLetter`, `isAsciiDigit`, `isAsciiUpper`, `isAsciiLower` the plain ASCII classes.
-/

namespace EndpointScaffold.Text

def isAsciiUpper (c : Char) : Bool := 'A' ≤ c && c ≤ 'Z'

def isAsciiLower (c : Char) : Bool := 'a' ≤ c && c ≤ 'z'

def isAsciiLetter (c : Char) : Bool := isAsciiUpper c || isAsciiLower c

def isAsciiDigit (c : Char) : Bool := '0' ≤ c && c ≤ '9'

/-- white space: the ASCII blanks and separators, and the Unicode space characters -/
def isBlank (c : Char) : Bool :=
  let n := c.toNat
  n == 32 || (9 ≤ n && n ≤ 13) || (28 ≤ n && n ≤ 31) || n == 0x85 || n == 0xA0 || n == 0x1680
    || (0x2000 ≤ n && n ≤ 0x200A) || n == 0x2028 || n == 0x2029 || n == 0x202F || n == 0x205F
    || n == 0x3000

/-- letters, numbers and the underscore -/
def isWordChar (c : Char) : Bool :=
  if c.toNat < 128 then isAsciiLetter c || isAsciiDigit c || c == '_' else wordChars.contains c

def isUpper (c : Char) : Bool :=
  if c.toNat < 128 then isAsciiUpper c else uppercaseChars.contains c

def digitValue? (c : Char) : Option Nat :=
  if isAsciiDigit c then some (c.toNat - 48)
  else if c.toNat < 128 then none
  else (digitZeros.find? fun z => z ≤ c.toNat && c.toNat < z + 10).map (c.toNat - ·)

def isDecimalDigit (c : Char) : Bool := (digitValue? c).isSome

end EndpointScaffold.Text

/-!
## Lower and upper case

`lower` lowers a whole text with the full Unicode map. Two characters need more than a table: the
dotted capital I becomes two characters, and a capital sigma takes its final form at the end of a
word. `asciiUpper` raises ASCII letters only.
-/

namespace EndpointScaffold.Text

/-- lower-case form of one character, the two special ones aside -/
def lowerChar (c : Char) : Char :=
  if c.toNat < 128 then
    if isAsciiUpper c then Char.ofNat (c.toNat + 32) else c
  else
    match lowercaseRuns.find? fun r =>
        r.first ≤ c.toNat && c.toNat ≤ r.last && (c.toNat - r.first) % r.step == 0 with
    | some r => Char.ofNat (Int.toNat (c.toNat + r.shift))
    | none => c

/-- whether the nearest character that is not looked through has case -/
def nearestIsCased : List Char → Bool
  | [] => false
  | c :: cs =>
    if casedChars.contains c then true
    else if caseIgnorableChars.contains c then nearestIsCased cs
    else false

/-- lowers `cs`; `before` holds the characters already passed, nearest first -/
def lowerFrom (before : List Char) : List Char → List Char
  | [] => []
  | c :: cs =>
    let rest := lowerFrom (c :: before) cs
    if c.toNat == 0x130 then 'i' :: Char.ofNat 0x307 :: rest
    else if c.toNat == 0x3A3 then
      (if nearestIsCased before && !nearestIsCased cs then Char.ofNat 0x3C2
        else Char.ofNat 0x3C3) :: rest
    else lowerChar c :: rest

/-- lower-case form of a text -/
def lower (s : String) : String := String.ofList (lowerFrom [] s.toList)

def asciiUpperChar (c : Char) : Char :=
  if isAsciiLower c then Char.ofNat (c.toNat - 32) else c

/-- raises the ASCII letters of a text -/
def asciiUpper (s : String) : String := String.ofList (s.toList.map asciiUpperChar)

end EndpointScaffold.Text
