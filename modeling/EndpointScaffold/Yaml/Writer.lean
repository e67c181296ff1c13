import EndpointScaffold.Data.Display
import EndpointScaffold.Text.Trim
import EndpointScaffold.Yaml.Implicit

/-!
# Styles of scalars and writing YAML

A text is written without quotes if it would be read as the same text. Otherwise it stands between
single quotes, and between double quotes where it holds something that only an escape can write.

* `canBePlain`, `canBeSingle` what a style asks of a text;
* `styleOf` the style of a text.
-/

namespace EndpointScaffold.Yaml

inductive Style where
  | plain
  | single
  | double
  deriving DecidableEq, Repr

/-! ### Classes of characters -/

/-- a line break that a written text can hold -/
def isLineBreak (c : Char) : Bool := isBreak c && c != '\r'

def needsEscape (c : Char) : Bool :=
  let n := c.toNat
  !(c == '\n' || (0x20 ≤ n && n ≤ 0x7E) || n == 0x85 || (0xA0 ≤ n && n ≤ 0xD7FF)
    || (0xE000 ≤ n && n ≤ 0xFFFD && n != 0xFEFF) || (0x10000 ≤ n && n < 0x10FFFF))

/-! ### Properties of texts -/

/-- whether two neighbours of the given classes occur -/
def hasNeighbours (p q : Char → Bool) : List Char → Bool
  | a :: b :: cs => (p a && q b) || hasNeighbours p q (b :: cs)
  | _ => false

def blankFollows (cs : List Char) : Bool := isBlankOrBreak (cs.headD endChar)

def startsWithSign : List Char → Bool
  | [] => false
  | c :: cs => among "#,[]\x7b\x7d&*!|>'\"%@`" c || (among "?:-" c && blankFollows cs)

/-- whether a sign of the language stands inside a text: a colon before a blank, or a number sign
after one -/
def hasInnerSign : List Char → Bool
  | a :: b :: cs => (b == ':' && blankFollows cs) || (b == '#' && isBlankOrBreak a)
    || hasInnerSign (b :: cs)
  | _ => false

def startsLikeDocument (cs : List Char) : Bool :=
  "---".toList.isPrefixOf cs || "...".toList.isPrefixOf cs

def isSpaceOrLineBreak (c : Char) : Bool := c == ' ' || isLineBreak c

/-- whether a text starts or ends with a space or a line break -/
def hasBlankEdge (cs : List Char) : Bool :=
  cs.head?.any isSpaceOrLineBreak || cs.getLast?.any isSpaceOrLineBreak

/-! ### Styles -/

def canBeSingle (cs : List Char) : Bool :=
  !cs.any needsEscape && !hasNeighbours (· == ' ') isLineBreak cs
    && !hasNeighbours isLineBreak (· == ' ') cs

def canBePlain (cs : List Char) : Bool :=
  canBeSingle cs && !cs.any isLineBreak && !hasBlankEdge cs && !startsLikeDocument cs
    && !startsWithSign cs && !hasInnerSign cs

def styleOf (s : String) : Style :=
  let cs := s.toList
  if implicitTag s == coreTag "str" && canBePlain cs then .plain
  else if canBeSingle cs then .single
  else .double

end EndpointScaffold.Yaml

/-!
## Writing YAML

Values are written in blocks: mappings with an entry a line, lists with a dash before each item, and
a list that is the value of an entry as far to the left as the entry. A text is folded at a space
once a line is longer than 80 characters.

* `plainText`, `singleText`, `doubleText` texts in the three styles, from a column on;
* `write` the lines of a value.
-/

namespace EndpointScaffold.Yaml

open Data Text

/-- the column after which lines are folded -/
def lineWidth : Nat := 80

/-- a line break and the blanks at the start of the next line -/
def newLine (indent : Nat) : List Char := '\n' :: List.replicate indent ' '

/-! ### Texts in runs -/

/-- classes of characters that form runs -/
inductive RunKind where
  | spaces
  | breaks
  | word
  deriving DecidableEq, Repr

def runKind (c : Char) : RunKind :=
  if c == ' ' then .spaces else if isLineBreak c then .breaks else .word

/-- the text in runs of one class -/
def runsOf (cs : List Char) : List (List Char) :=
  cs.splitBy fun a b => runKind a == runKind b

/-- what has been written, and the column after it -/
structure Written where
  text : List Char
  column : Nat

def Written.add (w : Written) (cs : List Char) : Written :=
  ⟨w.text ++ cs, w.column + cs.length⟩

/-- goes on in the next line -/
def Written.fold (w : Written) (indent : Nat) : Written := ⟨w.text ++ newLine indent, indent⟩

/-- line breaks inside a text; the first line feed is written twice -/
def brokenLines (cs : List Char) : List Char :=
  (if cs.head? == some '\n' then ['\n'] else []) ++ cs

/-- writes the runs of a text. A single space between two runs may be a fold; `isInner` tells
whether something was written before. -/
def writeRuns (indent : Nat) (word : List Char → List Char) :
    Bool → Written → List (List Char) → Written
  | _, w, [] => w
  | isInner, w, run :: rest =>
    match runKind (run.headD endChar) with
    | .spaces =>
      if run.length == 1 && lineWidth < w.column && isInner && !rest.isEmpty then
        writeRuns indent word true (w.fold indent) rest
      else writeRuns indent word true (w.add run) rest
    | .breaks =>
      let spaces := List.replicate indent ' '
      writeRuns indent word true ⟨w.text ++ brokenLines run ++ spaces, indent⟩ rest
    | .word => writeRuns indent word true (w.add (word run)) rest

def plainText (indent column : Nat) (cs : List Char) : List Char :=
  (writeRuns indent id false ⟨[], column⟩ (runsOf cs)).text

/-- a text between single quotes; a quote inside is written twice -/
def singleText (indent column : Nat) (cs : List Char) : List Char :=
  let doubled := fun run => run.flatMap fun c => if c == '\'' then ['\'', '\''] else [c]
  (writeRuns indent doubled false ⟨['\''], column + 1⟩ (runsOf cs)).text ++ ['\'']

/-! ### Texts with escapes -/

def shortEscapes : List (Nat × Char) := [
  (0, '0'), (7, 'a'), (8, 'b'), (9, 't'), (10, 'n'), (11, 'v'), (12, 'f'), (13, 'r'), (27, 'e'),
  (34, '"'), (92, '\\'), (0x85, 'N'), (0x2028, 'L'), (0x2029, 'P')]

/-- whether a character stands for itself between double quotes -/
def isVerbatim (c : Char) : Bool :=
  let n := c.toNat
  !(shortEscapes.lookup n).isSome
    && ((0x20 ≤ n && n ≤ 0x7E) || (0xA0 ≤ n && n ≤ 0xD7FF) || (0xE000 ≤ n && n ≤ 0xFFFD))
    && n != 0xFEFF

def upperHex (width n : Nat) : List Char := (hexDigits width n).map Char.toUpper

def escapeOf (c : Char) : List Char :=
  let n := c.toNat
  match shortEscapes.lookup n with
  | some letter => ['\\', letter]
  | none =>
    if n ≤ 0xFF then '\\' :: 'x' :: upperHex 2 n
    else if n ≤ 0xFFFF then '\\' :: 'u' :: upperHex 4 n
    else '\\' :: 'U' :: upperHex 8 n

/-- the characters between double quotes from a column on; `isFirst` and `afterEscape` tell what
comes before. A fold ends with a backslash, and a space that follows it needs one of its own. -/
def escapeRest (indent : Nat) (isFirst afterEscape : Bool) (column : Nat) :
    List Char → List Char
  | [] => []
  | c :: cs =>
    let isInner := !isFirst && !cs.isEmpty
    if isVerbatim c then
      if isInner && (c == ' ' || afterEscape) && lineWidth < column then
        let mark := if c == ' ' then ['\\'] else []
        '\\' :: newLine indent ++ mark
          ++ c :: escapeRest indent false false (indent + mark.length + 1) cs
      else c :: escapeRest indent false false (column + 1) cs
    else
      let escape := escapeOf c
      let column := column + escape.length
      if isInner && lineWidth + 1 < column then
        let mark := if cs.head? == some ' ' then ['\\'] else []
        escape ++ '\\' :: newLine indent ++ mark
          ++ escapeRest indent false true (indent + mark.length) cs
      else escape ++ escapeRest indent false true column cs

def doubleText (indent column : Nat) (cs : List Char) : List Char :=
  '"' :: escapeRest indent true false (column + 1) cs ++ ['"']

/-- a text in its style, from a column on; `indent` is that of further lines -/
def textFrom (indent column : Nat) (s : String) : String :=
  String.ofList (match styleOf s with
    | .plain => plainText indent column s.toList
    | .single => singleText indent column s.toList
    | .double => doubleText indent column s.toList)

/-! ### Values -/

def floatText (x : Float) : String :=
  if x.isNaN then ".nan"
  else if x.isInf then if x < 0.0 then "-.inf" else ".inf"
  else Decimal.shortest x

/-- a value on one line, or a text from a column on -/
def leafText (indent column : Nat) : Value → String
  | .null => "null"
  | .bool b => if b then "true" else "false"
  | .int n => toString n
  | .float x => floatText x
  | .text s => textFrom indent column s
  | .date year month day => dateText year month day
  | .moment m => m.text
  | .list _ => "[]"
  | .object _ => "\x7b\x7d"
  | v => v.display

mutual
def itemLines (indent : Nat) : List Value → List String
  | [] => []
  | v :: vs =>
    let lines := match v with
      | .list (w :: ws) => itemLines (indent + 2) (w :: ws)
      | .object (e :: es) => entryLines (indent + 2) (e :: es)
      | v => [blanks (indent + 2) ++ leafText (indent + 2) (indent + 2) v]
    let dashed := match lines with
      | [] => []
      | line :: more => (blanks indent ++ "- " ++ String.ofList (line.toList.drop (indent + 2))) :: more
    dashed ++ itemLines indent vs

def entryLines (indent : Nat) : List (Value × Value) → List String
  | [] => []
  | (key, v) :: es =>
    let head := blanks indent ++ leafText indent indent key ++ ":"
    let lines := match v with
      | .list (w :: ws) => head :: itemLines indent (w :: ws)
      | .object (e :: more) => head :: entryLines (indent + 2) (e :: more)
      | v => [head ++ " " ++ leafText (indent + 2) (head.length + 1) v]
    lines ++ entryLines indent es
end

/-- the text of a value, with a line feed at its end -/
def write (v : Value) : String :=
  let lines := match v with
    | .list (w :: ws) => itemLines 0 (w :: ws)
    | .object (e :: es) => entryLines 0 (e :: es)
    | v => [leafText 0 0 v]
  ofLines lines ++ "\n"

end EndpointScaffold.Yaml
