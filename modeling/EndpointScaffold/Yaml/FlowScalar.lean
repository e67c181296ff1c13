import EndpointScaffold.Yaml.Lexeme

/-!
# Scalars with and without quotes

Both may run over several lines: a single line break is read as a blank, and further ones are kept.

* `readQuoted` a scalar between quotes;
* `readPlain` a scalar without them.
-/

namespace EndpointScaffold.Yaml

/-! ### Quoted scalars

A scalar between quotes may run over several lines: a single line break is read as a blank, and
further ones are kept. Between double quotes, characters can be written as escapes, and a line break
after a backslash is dropped.
-/

def escaped? (c : Char) : Option Char :=
  match c with
  | '0' => some (Char.ofNat 0)
  | 'a' => some (Char.ofNat 7)
  | 'b' => some (Char.ofNat 8)
  | 't' => some '\t'
  | '\t' => some '\t'
  | 'n' => some '\n'
  | 'v' => some (Char.ofNat 11)
  | 'f' => some (Char.ofNat 12)
  | 'r' => some '\r'
  | 'e' => some (Char.ofNat 27)
  | ' ' => some ' '
  | '"' => some '"'
  | '\\' => some '\\'
  | '/' => some '/'
  | 'N' => some (Char.ofNat 0x85)
  | '_' => some (Char.ofNat 0xA0)
  | 'L' => some (Char.ofNat 0x2028)
  | 'P' => some (Char.ofNat 0x2029)
  | _ => none

/-- number of digits after the letter of a longer escape -/
def escapeWidth? (c : Char) : Option Nat :=
  match c with
  | 'x' => some 2
  | 'u' => some 4
  | 'U' => some 8
  | _ => none

/-- the character of a code; halves of surrogate pairs are no characters -/
def charOfCode (n : Nat) : Result Char :=
  if 0x7FFFFFFF < n then
    .error (.unfit "OverflowError" "Python int too large to convert to C int")
  else if 0x10FFFF < n then .error (.unfit "ValueError" "chr() arg not in range(0x110000)")
  else if 0xD800 ≤ n && n < 0xE000 then .ok (Char.ofNat 0xFFFD)
  else .ok (Char.ofNat n)

def quotedContext : String := "while scanning a quoted scalar"

/-- skips blanks and reads line breaks; `n` bounds the number of lines -/
def readQuotedBreaks (start : Mark) : Nat → Cursor → Result (List Char × Cursor)
  | 0, c => .ok ([], c)
  | n + 1, c =>
    if c.atSeparator then
      failIn quotedContext start "found unexpected document separator" c.mark
    else
      let c := c.skipWhile (among " \t")
      match c.lineBreak with
      | none => .ok ([], c)
      | some (b, rest) => do
        let (more, rest) ← readQuotedBreaks start n rest
        .ok (b :: more, rest)

/-- the text that line breaks stand for -/
def folded (first : Char) (more : List Char) : List Char :=
  if first != '\n' then first :: more
  else if more.isEmpty then [' ']
  else more

/-- reads blanks or line breaks inside a quoted scalar -/
def readQuotedGap (start : Mark) (c : Cursor) : Result (List Char × Cursor) :=
  let blanks := c.run (among " \t")
  let after := c.skip blanks.length
  if after.rest.isEmpty then
    failIn quotedContext start "found unexpected end of stream" after.mark
  else
    match after.lineBreak with
    | none => .ok (blanks, after)
    | some (b, rest) => do
      let (more, rest) ← readQuotedBreaks start rest.rest.length rest
      .ok (folded b more, rest)

def readEscape (start : Mark) (c : Cursor) : Result (List Char × Cursor) :=
  let context := "while scanning a double-quoted scalar"
  match escaped? c.current with
  | some x => .ok ([x], c.next)
  | none =>
    match escapeWidth? c.current with
    | some width =>
      let c := c.next
      match ((List.range width).map c.peek).find? fun x => !isHexDigit x with
      | some x => failIn context start ("expected escape sequence of " ++ toString width
          ++ " hexadecimal numbers, but found " ++ shown x) c.mark
      | none => do
        let x ← charOfCode (Decimal.digitsValue 16 (c.rest.take width))
        .ok ([x], c.skip width)
    | none =>
      match c.lineBreak with
      | some (_, rest) => readQuotedBreaks start rest.rest.length rest
      | none => failIn context start ("found unknown escape character " ++ shown c.current) c.mark

/-- characters that stand for themselves in every quoted scalar -/
def isQuotedPlain (c : Char) : Bool :=
  !(isBlankOrBreak c || c == '\'' || c == '"' || c == '\\')

/-- reads up to the closing quote or a gap; `n` bounds the number of pieces -/
def readQuotedRun (double : Bool) (start : Mark) :
    Nat → List Char → Cursor → Result (List Char × Cursor)
  | 0, out, c => .ok (out, c)
  | n + 1, out, c =>
    let plain := c.run isQuotedPlain
    let c := c.skip plain.length
    let out := out ++ plain
    let x := c.current
    if !double && x == '\'' && c.peek 1 == '\'' then
      readQuotedRun double start n (out ++ ['\'']) (c.skip 2)
    else if (double && x == '\'') || (!double && (x == '"' || x == '\\')) then
      readQuotedRun double start n (out ++ [x]) c.next
    else if double && x == '\\' then do
      let (piece, rest) ← readEscape start c.next
      readQuotedRun double start n (out ++ piece) rest
    else .ok (out, c)

/-- reads runs and gaps up to the closing quote; `n` bounds their number -/
def readQuotedRest (quote : Char) (start : Mark) :
    Nat → List Char → Cursor → Result (List Char × Cursor)
  | 0, out, c => .ok (out, c)
  | n + 1, out, c => do
    let (run, c) ← readQuotedRun (quote == '"') start (c.rest.length + 1) [] c
    let out := out ++ run
    if c.current == quote then .ok (out, c.next)
    else
      let (gap, c) ← readQuotedGap start c
      readQuotedRest quote start n (out ++ gap) c

def readQuoted (c : Cursor) : Lexed := do
  let (text, rest) ← readQuotedRest c.current c.mark (c.rest.length + 1) [] c.next
  .ok (⟨.scalar (String.ofList text) false, c.mark, rest.mark⟩, rest)

/-! ### Plain scalars

A plain scalar has no quotes. It ends at a colon before a blank, at a comment, at a sign of the flow
collection that it stands in, and where the indentation of its block ends. Line breaks inside it are
folded like those of a quoted scalar.
-/

/-- whether the character at `k` ends a plain scalar -/
def endsPlain (inFlow : Bool) (x next : Char) : Bool :=
  isBlankOrBreak x
    || (x == ':' && (isBlankOrBreak next || (inFlow && among ",[]\x7b\x7d" next)))
    || (inFlow && among ",?[]\x7b\x7d" x)

/-- characters of a plain scalar up to a blank or its end -/
def plainRun (inFlow : Bool) : List Char → List Char
  | [] => []
  | x :: rest =>
    if endsPlain inFlow x (rest.headD endChar) then [] else x :: plainRun inFlow rest

/-- reads blank lines up to text or the border of a document; `n` bounds the number of lines -/
def readPlainBreaks : Nat → Cursor → Option (List Char) × Cursor
  | 0, c => (some [], c)
  | n + 1, c =>
    if c.atSeparator && c.mark.column == 0 then (none, c)
    else
      let c := c.skipSpaces
      match c.lineBreak with
      | none => (some [], c)
      | some (b, rest) =>
        let (more, rest) := readPlainBreaks n rest
        (more.map (b :: ·), rest)

/-- what stands between two parts of a plain scalar: the text it is read as, which is empty where
the scalar ends, the cursor, and whether a line break was read -/
def readPlainGap (c : Cursor) : List Char × Cursor × Bool :=
  let spaces := c.run (· == ' ')
  let after := c.skip spaces.length
  match after.lineBreak with
  | none => (spaces, after, false)
  | some (b, rest) =>
    match readPlainBreaks (rest.rest.length + 1) rest with
    | (none, rest) => ([], rest, true)
    | (some more, rest) => (folded b more, rest, true)

structure PlainRead where
  text : List Char
  /-- place after its last character -/
  stop : Mark
  /-- cursor after the blanks that follow it -/
  rest : Cursor
  /-- whether the last thing read was a line break -/
  brokeLine : Bool

/-- reads parts of a plain scalar; `n` bounds their number, `gap` stands before the next one -/
def readPlainParts (inFlow : Bool) (indent : Int) :
    Nat → List Char → PlainRead → PlainRead
  | 0, _, r => r
  | n + 1, gap, r =>
    let part := plainRun inFlow r.rest.rest
    if r.rest.current == '#' || part.isEmpty then r
    else
      let after := r.rest.skip part.length
      let (next, rest, brokeLine) := readPlainGap after
      let r : PlainRead := ⟨r.text ++ gap ++ part, after.mark, rest, brokeLine⟩
      if next.isEmpty || rest.current == '#'
          || (!inFlow && (rest.mark.column : Int) < indent) then r
      else readPlainParts inFlow indent n next r

/-- reads a plain scalar inside a block with indentation `outer`; also gives whether a line break
follows it -/
def readPlain (inFlow : Bool) (outer : Int) (c : Cursor) : Token × Cursor × Bool :=
  let r := readPlainParts inFlow (outer + 1) (c.rest.length + 1) [] ⟨[], c.mark, c, false⟩
  (⟨.scalar (String.ofList r.text) true, c.mark, r.stop⟩, r.rest, r.brokeLine)

end EndpointScaffold.Yaml
