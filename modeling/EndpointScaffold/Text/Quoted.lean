import EndpointScaffold.Text.Property.Printable
import EndpointScaffold.Text.Trim

/-!
# Quoted texts

A text between quotes, on one line, with everything that cannot be seen written as an escape. The
quote is `'`, or `"` if the text holds a `'` and no `"`.
-/

namespace EndpointScaffold.Text

/-- digit of a number below 16 -/
def hexDigit (n : Nat) : Char :=
  if n < 10 then Char.ofNat (48 + n) else Char.ofNat (87 + n)

/-- the last `width` hexadecimal digits of `n` -/
def hexDigits (width : Nat) (n : Nat) : List Char :=
  (List.range width).reverse.map fun k => hexDigit (n / Nat.pow 16 k % 16)

def isPrintable (c : Char) : Bool := printableChars.contains c

/-- the quote that a text is put in -/
def quoteFor (cs : List Char) : Char :=
  if cs.contains '\'' && !cs.contains '"' then '"' else '\''

def escapedCode (c : Char) : List Char :=
  if c.toNat < 0x100 then '\\' :: 'x' :: hexDigits 2 c.toNat
  else if c.toNat < 0x10000 then '\\' :: 'u' :: hexDigits 4 c.toNat
  else '\\' :: 'U' :: hexDigits 8 c.toNat

def quotedChar (quote c : Char) : List Char :=
  if c == quote || c == '\\' then ['\\', c]
  else if c == '\n' then ['\\', 'n']
  else if c == '\r' then ['\\', 'r']
  else if c == '\t' then ['\\', 't']
  else if isPrintable c then [c] else escapedCode c

def quoted (s : String) : String :=
  let cs := s.toList
  let quote := quoteFor cs
  String.ofList (quote :: cs.flatMap (quotedChar quote) ++ [quote])

/-- quoted texts as a list in square brackets -/
def quotedList (parts : List String) : String := "[" ++ join ", " (parts.map quoted) ++ "]"

/-! ### Columns -/

/-- fills a text up to `width` characters with blanks on the right -/
def padRight (width : Nat) (s : String) : String :=
  s ++ String.ofList (List.replicate (width - s.length) ' ')

/-- fills a text up to `width` characters with blanks on the left -/
def padLeft (width : Nat) (s : String) : String :=
  String.ofList (List.replicate (width - s.length) ' ') ++ s

end EndpointScaffold.Text
