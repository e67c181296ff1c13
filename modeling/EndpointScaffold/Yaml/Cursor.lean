

/-!
# Cursors and tokens

A cursor is a place in a text with the characters that follow it. Past the end of the text it shows
the null character, which no text holds.

* `Mark` a place as index, line and column, all counted from zero;
* `Cursor.peek`, `Cursor.skip` looking ahead and going on;
* `Cursor.lineBreak` reads one line break.
-/

namespace EndpointScaffold.Yaml

structure Mark where
  index : Nat
  line : Nat
  column : Nat
  deriving DecidableEq, Repr

structure Cursor where
  mark : Mark
  rest : List Char

/-! ### Characters -/

/-- stands for the end of a text -/
def endChar : Char := Char.ofNat 0

/-- a line break, alone or as part of a longer one -/
def isBreak (c : Char) : Bool :=
  c == '\n' || c == '\r' || c == Char.ofNat 0x85 || c == Char.ofNat 0x2028 || c == Char.ofNat 0x2029

def isBreakOrEnd (c : Char) : Bool := isBreak c || c == endChar

def isSpaceOrBreak (c : Char) : Bool := isBreakOrEnd c || c == ' '

def isBlankOrBreak (c : Char) : Bool := isSpaceOrBreak c || c == '\t'

def isDigit (c : Char) : Bool := '0' ≤ c && c ≤ '9'

def isHexDigit (c : Char) : Bool :=
  isDigit c || ('A' ≤ c && c ≤ 'F') || ('a' ≤ c && c ≤ 'f')

def isNameChar (c : Char) : Bool :=
  isDigit c || ('A' ≤ c && c ≤ 'Z') || ('a' ≤ c && c ≤ 'z') || c == '-' || c == '_'

def among (s : String) (c : Char) : Bool := s.toList.contains c

namespace Cursor

def ofText (s : String) : Cursor := ⟨⟨0, 0, 0⟩, s.toList⟩

/-- the character `k` places on -/
def peek (c : Cursor) (k : Nat) : Char := (c.rest.drop k).headD endChar

def current (c : Cursor) : Char := c.peek 0

/-- the mark after one character; a byte-order mark has no width -/
def advance (m : Mark) (c next : Char) : Mark :=
  if c == '\r' && next == '\n' then ⟨m.index + 1, m.line, m.column + 1⟩
  else if isBreak c then ⟨m.index + 1, m.line + 1, 0⟩
  else if c == Char.ofNat 0xFEFF then ⟨m.index + 1, m.line, m.column⟩
  else ⟨m.index + 1, m.line, m.column + 1⟩

def next (c : Cursor) : Cursor :=
  match c.rest with
  | [] => c
  | x :: rest => ⟨advance c.mark x (rest.headD endChar), rest⟩

def skip (c : Cursor) : Nat → Cursor
  | 0 => c
  | n + 1 => c.next.skip n

/-- the characters of class `p` that follow -/
def run (c : Cursor) (p : Char → Bool) : List Char := c.rest.takeWhile p

def skipWhile (c : Cursor) (p : Char → Bool) : Cursor := c.skip (c.run p).length

def skipSpaces (c : Cursor) : Cursor := c.skipWhile (· == ' ')

def startsWith (c : Cursor) (s : String) : Bool := s.toList.isPrefixOf c.rest

def skipComment (c : Cursor) : Cursor :=
  if c.current == '#' then c.skipWhile fun x => !isBreak x else c

/-- the line break that follows; the common ones are read as a line feed -/
def lineBreak (c : Cursor) : Option (Char × Cursor) :=
  match c.rest with
  | '\r' :: '\n' :: _ => some ('\n', c.skip 2)
  | x :: _ =>
    if !isBreak x then none
    else if x == Char.ofNat 0x2028 || x == Char.ofNat 0x2029 then some (x, c.next)
    else some ('\n', c.next)
  | [] => none

def skipBreak (c : Cursor) : Cursor :=
  match c.lineBreak with
  | some (_, c) => c
  | none => c

/-- whether a document begins or ends here -/
def atSeparator (c : Cursor) : Bool :=
  (c.startsWith "---" || c.startsWith "...") && isBlankOrBreak (c.peek 3)

end Cursor

end EndpointScaffold.Yaml

/-!
## Tokens

A token is a piece of a YAML text with its extent. Indentation shows as tokens of its own: where a
block collection starts and where it ends.
-/

namespace EndpointScaffold.Yaml

inductive Kind where
  /-- `%YAML` with its version -/
  | version (major minor : Nat)
  /-- `%TAG` with a handle and what it stands for -/
  | tagHandle (handle stem : String)
  | otherDirective
  | documentStart
  | documentEnd
  | streamEnd
  | blockSequenceStart
  | blockMappingStart
  | blockEnd
  | flowSequenceStart
  | flowSequenceEnd
  | flowMappingStart
  | flowMappingEnd
  | key
  | value
  | blockEntry
  | flowEntry
  | alias (name : String)
  | anchor (name : String)
  /-- a tag with its handle, if it has one -/
  | tag (handle : Option String) (suffix : String)
  /-- a scalar; `plain` if it is not quoted and no block -/
  | scalar (text : String) (plain : Bool)
  deriving DecidableEq, Repr

/-- the token as messages name it -/
def Kind.name : Kind → String
  | .version _ _ => "<directive>"
  | .tagHandle _ _ => "<directive>"
  | .otherDirective => "<directive>"
  | .documentStart => "<document start>"
  | .documentEnd => "<document end>"
  | .streamEnd => "<stream end>"
  | .blockSequenceStart => "<block sequence start>"
  | .blockMappingStart => "<block mapping start>"
  | .blockEnd => "<block end>"
  | .flowSequenceStart => "["
  | .flowSequenceEnd => "]"
  | .flowMappingStart => "\x7b"
  | .flowMappingEnd => "\x7d"
  | .key => "?"
  | .value => ":"
  | .blockEntry => "-"
  | .flowEntry => ","
  | .alias _ => "<alias>"
  | .anchor _ => "<anchor>"
  | .tag _ _ => "<tag>"
  | .scalar _ _ => "<scalar>"

structure Token where
  kind : Kind
  start : Mark
  stop : Mark
  deriving DecidableEq, Repr

end EndpointScaffold.Yaml
