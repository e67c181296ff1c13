import EndpointScaffold.Parsing.Source
import EndpointScaffold.Text.Character
import EndpointScaffold.Text.Property.Identifier

/-!
# Lexemes of C#

For each pattern of the grammar, `lexemeEnd` tells where the longest text that matches it at a
position ends. None of them matches the empty text.
-/

namespace EndpointScaffold.CSharp

open Parsing Text

/-- white space between tokens -/
def isSpace (c : Char) : Bool :=
  let n := c.toNat
  n == 32 || (9 ≤ n && n ≤ 13) || n == 0xA0 || n == 0xFEFF || n == 0x3000

def isHexDigit (c : Char) : Bool :=
  isAsciiDigit c || ('a' ≤ c && c ≤ 'f') || ('A' ≤ c && c ≤ 'F')

def isBinaryDigit (c : Char) : Bool := c == '0' || c == '1'

/-- whether a character is none of some; the character of code 0 belongs to no class that is told by
what it lacks -/
def isNoneOf (cs : List Char) (c : Char) : Bool := c != '\x00' && !cs.contains c

def charEnd (s : Source) (p : Char → Bool) (i : Nat) : Option Nat :=
  if s.holds p i then some (i + 1) else none

def textEnd (s : Source) (text : String) (i : Nat) : Option Nat :=
  let cs := text.toList
  if s.hasAt cs i then some (i + cs.length) else none

/-- the position after a nonempty run of a class -/
def runEnd (s : Source) (p : Char → Bool) (i : Nat) : Option Nat :=
  let j := s.skip p i
  if i < j then some j else none

/-- the position after exactly `n` characters of a class -/
def exactly (s : Source) (p : Char → Bool) (n i : Nat) : Option Nat :=
  let j := s.skipAtMost p n i
  if j = i + n then some j else none

/-! ### Identifiers and escapes -/

/-- a character written by its code, as in `\u0041` -/
def codeEnd (s : Source) (i : Nat) : Option Nat :=
  match textEnd s "\\u" i with
  | some j => exactly s isHexDigit 4 j
  | none => (textEnd s "\\U" i).bind (exactly s isHexDigit 8)

def isNameStart (c : Char) : Bool := identifierStarts.contains c

def isNamePart (c : Char) : Bool := identifierParts.contains c

/-- the position after the parts of a name; each takes at least one character -/
def namePartsEnd (s : Source) : Nat → Nat → Nat
  | 0, i => i
  | fuel + 1, i =>
    match (charEnd s isNamePart i).or (codeEnd s i) with
    | some j => namePartsEnd s fuel j
    | none => i

def wordEnd (s : Source) (i : Nat) : Option Nat :=
  let j := if s.isAt i '@' then i + 1 else i
  ((charEnd s isNameStart j).or (codeEnd s j)).map (namePartsEnd s s.size)

/-- letters and signs that a backslash may stand before -/
def escapable : List Char := ['a', 'b', 'e', 'f', 'n', 'r', 't', 'v', '\'', '"', '\\', '?', '0']

def escapeEnd (s : Source) (i : Nat) : Option Nat :=
  match (textEnd s "\\x" i).bind fun j => runEnd s isHexDigit j with
  | some _ => some (s.skipAtMost isHexDigit 4 (i + 2))
  | none => (codeEnd s i).or ((textEnd s "\\" i).bind (charEnd s escapable.contains))

/-! ### Numbers -/

/-- digits with underscores between them, which do not end with one -/
def digitsEnd (s : Source) (p : Char → Bool) (i : Nat) : Option Nat :=
  let j := s.skip (fun c => p c || c == '_') i
  let back := ((s.chars.extract i j).toList.reverse.takeWhile (· == '_')).length
  if i + back < j then some (j - back) else none

/-- decimal digits; the first is no underscore -/
def decimalEnd (s : Source) (i : Nat) : Option Nat :=
  if s.holds isAsciiDigit i then digitsEnd s isAsciiDigit i else none

def isOf (cs : List Char) (c : Char) : Bool := cs.contains c

def afterOptional (s : Source) (cs : List Char) (i : Nat) : Nat :=
  if s.holds (isOf cs) i then i + 1 else i

def exponentEnd (s : Source) (i : Nat) : Option Nat :=
  ((charEnd s (isOf ['e', 'E']) i).bind fun j =>
    charEnd s isAsciiDigit (afterOptional s ['+', '-'] j)).map
      (s.skip fun c => isAsciiDigit c || c == '_')

def integerEnd (s : Source) (i : Nat) : Option Nat :=
  let digits := fun (marks : List Char) p =>
    ((textEnd s "0" i).bind (charEnd s (isOf marks))).bind (digitsEnd s p)
  let body := ((digits ['x', 'X'] isHexDigit).or (digits ['b', 'B'] isBinaryDigit)).or
    (decimalEnd s i)
  body.map fun j =>
    if s.holds (isOf ['u', 'U']) j then afterOptional s ['l', 'L'] (j + 1)
    else if s.holds (isOf ['l', 'L']) j then afterOptional s ['u', 'U'] (j + 1)
    else j

def realEnd (s : Source) (i : Nat) : Option Nat :=
  let suffixes := ['f', 'F', 'd', 'D', 'm', 'M']
  let ending := fun j => afterOptional s suffixes ((exponentEnd s j).getD j)
  let fraction := fun j => (textEnd s "." j).bind (decimalEnd s)
  match (decimalEnd s i).bind fraction with
  | some j => some (ending j)
  | none =>
    match fraction i with
    | some j => some (ending j)
    | none =>
      (decimalEnd s i).bind fun j =>
        match exponentEnd s j with
        | some k => some (afterOptional s suffixes k)
        | none => charEnd s (isOf suffixes) j

/-! ### Texts -/

def stringContentEnd (s : Source) (i : Nat) : Option Nat :=
  (runEnd s (isNoneOf ['"', '\\', '\n']) i).or
    ((textEnd s "\\" i).bind (charEnd s (isNoneOf escapable)))

def encodingEnd (s : Source) (i : Nat) : Option Nat :=
  (charEnd s (isOf ['u', 'U']) i).bind (charEnd s (isOf ['8']))

/-- the end of a verbatim text from `i` on; `last` is the last place where it could have ended -/
def verbatimRest (s : Source) : Nat → Option Nat → Nat → Option Nat
  | 0, last, _ => last
  | fuel + 1, last, i =>
    let j := s.skip (isNoneOf ['"']) i
    if s.isAt j '"' then
      if s.isAt (j + 1) '"' then verbatimRest s fuel (some (j + 1)) (j + 2)
      else some ((encodingEnd s (j + 1)).getD (j + 1))
    else last

def verbatimEnd (s : Source) (i : Nat) : Option Nat :=
  (textEnd s "@\"" i).bind (verbatimRest s s.size none)

/-! ### Comments and directives -/

/-- the position after the next `*/` -/
def blockEnd (s : Source) : Nat → Nat → Option Nat
  | 0, _ => none
  | fuel + 1, i =>
    let j := s.skip (isNoneOf ['*']) i
    if s.isAt j '*' then
      if s.isAt (j + 1) '/' then some (j + 2) else blockEnd s fuel (j + 1)
    else none

def commentEnd (s : Source) (i : Nat) : Option Nat :=
  match textEnd s "//" i with
  | some j => some (s.skip (isNoneOf ['\n', '\r']) j)
  | none => (textEnd s "/*" i).bind (blockEnd s s.size)

/-- the rest of a directive's text; a backslash before a line end goes on with the next line, and a
comment in asterisks ends it -/
def directiveRest (s : Source) : Nat → Nat → Nat
  | 0, i => i
  | fuel + 1, i =>
    let j := s.skip (isNoneOf ['/', '\n', '\\']) i
    match (textEnd s "\\\n" j).or (textEnd s "\\\r\n" j) with
    | some k => directiveRest s fuel k
    | none =>
      if s.isAt j '\\' then directiveRest s fuel (j + 1)
      else if s.isAt j '/' && s.holds (isNoneOf ['*']) (j + 1) then directiveRest s fuel (j + 2)
      else j

def isLineSpace (c : Char) : Bool := c == ' ' || c == '\t'

def directiveTextEnd (s : Source) (i : Nat) : Option Nat :=
  (charEnd s (isNoneOf [' ', '\t', '\n', '\x0b', '\x0c', '\r']) i).map (directiveRest s s.size)

/-- the mark of a directive, with blanks after its sign -/
def directiveMarkEnd (s : Source) (word : List Char) (i : Nat) : Option Nat :=
  (textEnd s "#" i).bind fun j =>
    let k := s.skip isLineSpace j
    if s.hasAt word k then some (k + word.length) else none

def shebangEnd (s : Source) (i : Nat) : Option Nat :=
  (textEnd s "#!" i).map (s.skip (isNoneOf ['\n']))

/-! ### Lexemes that break off -/

/-- how far the code of a character goes that may lack digits -/
def codeReach (s : Source) (i : Nat) : Nat :=
  if s.isAt i '\\' then
    if s.isAt (i + 1) 'u' then s.skipAtMost isHexDigit 4 (i + 2)
    else if s.isAt (i + 1) 'U' then s.skipAtMost isHexDigit 8 (i + 2)
    else i + 1
  else i

/-- how far a text goes that begins like a lexeme of a pattern but is none -/
def lexemeReach (pattern : String) (s : Source) (i : Nat) : Nat :=
  match pattern with
  | "word" => codeReach s (if s.isAt i '@' then i + 1 else i)
  | "escapeSequence" => if s.hasAt ['\\', 'x'] i then i + 2 else codeReach s i
  | "verbatimStringLiteral" =>
    if s.hasAt ['@', '"'] i then s.skip (isNoneOf ['"']) (i + 2) else i
  | _ =>
    match pattern.toList with
    | '#' :: word => if s.isAt i '#' then s.matchEnd word (s.skip isLineSpace (i + 1)) else i
    | _ => i

/-! ### Patterns by name -/

/-- where the longest text of a pattern that starts at a position ends -/
def lexemeEnd (pattern : String) (s : Source) (i : Nat) : Option Nat :=
  match pattern with
  | "word" => wordEnd s i
  | "escapeSequence" => escapeEnd s i
  | "integerLiteral" => integerEnd s i
  | "realLiteral" => realEnd s i
  | "characterLiteralContent" => charEnd s (isNoneOf ['\'', '\\']) i
  | "stringContent" => stringContentEnd s i
  | "verbatimStringLiteral" => verbatimEnd s i
  | "comment" => commentEnd s i
  | "directiveText" => directiveTextEnd s i
  | "shebangDirective" => shebangEnd s i
  | "formatText" => runEnd s (isNoneOf ['}', '"']) i
  | "lineEnd" => charEnd s (· == '\n') i
  | _ =>
    match pattern.toList with
    | '#' :: word => directiveMarkEnd s word i
    | _ => none

end EndpointScaffold.CSharp
