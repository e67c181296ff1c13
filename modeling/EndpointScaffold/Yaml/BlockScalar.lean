import EndpointScaffold.Yaml.FlowScalar

/-!
# Block scalars

A block scalar consists of the indented lines after its header. A literal one keeps its line breaks;
in a folded one a line break between two lines of text is read as a blank. The header says what
becomes of the line breaks at the end, and may give the indentation.
-/

namespace EndpointScaffold.Yaml

def blockContext : String := "while scanning a block scalar"

/-- what becomes of the line breaks at the end -/
inductive Chomping where
  /-- one is kept -/
  | clip
  | strip
  | keep
  deriving DecidableEq, Repr

structure BlockHeader where
  chomping : Chomping := .clip
  /-- indentation in addition to that of the surrounding block -/
  increment : Option Nat := none
  deriving DecidableEq, Repr

def chompingOf? (c : Char) : Option Chomping :=
  match c with
  | '+' => some .keep
  | '-' => some .strip
  | _ => none

/-- reads a digit that gives the indentation, if there is one -/
def readIncrement (start : Mark) (c : Cursor) : Result (Option Nat × Cursor) :=
  if !isDigit c.current then .ok (none, c)
  else if c.current == '0' then
    failIn blockContext start "expected indentation indicator in the range 1-9, but found 0" c.mark
  else .ok (some (c.current.toNat - 48), c.next)

/-- reads a sign that says what becomes of the last line breaks, if there is one -/
def readChomping (c : Cursor) : Option Chomping × Cursor :=
  match chompingOf? c.current with
  | some chomping => (some chomping, c.next)
  | none => (none, c)

/-- reads sign and digit in either order -/
def readBlockHeader (start : Mark) (c : Cursor) : Result (BlockHeader × Cursor) := do
  let (before, c) := readChomping c
  let (increment, c) ← readIncrement start c
  let (after, c) := if before.isSome || increment.isNone then (none, c) else readChomping c
  if !isSpaceOrBreak c.current then
    failIn blockContext start
      ("expected chomping or indentation indicators, but found " ++ shown c.current) c.mark
  else
    let chomping := match before, after with
      | some x, _ => x
      | none, some x => x
      | none, none => .clip
    .ok (⟨chomping, increment⟩, c)

/-- skips spaces up to a column -/
def skipIndent (indent : Nat) (c : Cursor) : Cursor :=
  c.skip (min (indent - c.mark.column) (c.run (· == ' ')).length)

/-- reads blank lines; `n` bounds their number -/
def readBlankLines (indent : Nat) : Nat → Cursor → List Char × Cursor
  | 0, c => ([], skipIndent indent c)
  | n + 1, c =>
    let c := skipIndent indent c
    match c.lineBreak with
    | none => ([], c)
    | some (b, rest) =>
      let (more, rest) := readBlankLines indent n rest
      (b :: more, rest)

/-- reads leading blank lines and finds the widest indentation among them and the line that
follows; `n` bounds the number of steps -/
def readLeadingLines : Nat → Nat → Cursor → List Char × Nat × Cursor
  | 0, widest, c => ([], widest, c)
  | n + 1, widest, c =>
    let spaces := c.run (· == ' ')
    let c := c.skip spaces.length
    let widest := if spaces.isEmpty then widest else max widest c.mark.column
    match c.lineBreak with
    | none => ([], widest, c)
    | some (b, rest) =>
      let (more, widest, rest) := readLeadingLines n widest rest
      (b :: more, widest, rest)

def startsWithText (c : Cursor) : Bool := !among " \t" c.current

/-- what the line break between two lines is read as -/
def joint (isFolded : Bool) (first second : Cursor) (lineBreak : List Char) (blank : List Char) :
    List Char :=
  if isFolded && lineBreak == ['\n'] && startsWithText first && startsWithText second then
    (if blank.isEmpty then [' '] else [])
  else lineBreak

/-- reads the lines of a block; gives their text, the last line break, the blank lines after it and
the cursor; `n` bounds the number of lines -/
def readBlockLines (isFolded : Bool) (indent : Nat) :
    Nat → List Char → Cursor → List Char × List Char × List Char × Cursor
  | 0, blank, c => ([], [], blank, c)
  | n + 1, blank, c =>
    if c.mark.column == indent && !c.rest.isEmpty then
      let line := c.run fun x => !isBreak x
      let ended := c.skip line.length
      let (lineBreak, rest) := match ended.lineBreak with
        | some (b, rest) => ([b], rest)
        | none => ([], ended)
      let (more, rest) := readBlankLines indent rest.rest.length rest
      if rest.mark.column == indent && !rest.rest.isEmpty then
        let (text, last, tail, final) := readBlockLines isFolded indent n more rest
        (blank ++ line ++ joint isFolded c rest lineBreak more ++ text, last, tail, final)
      else (blank ++ line, lineBreak, more, rest)
    else ([], [], blank, c)

def readBlock (outer : Int) (c : Cursor) : Lexed := do
  let isFolded := c.current == '>'
  let (header, rest) ← readBlockHeader c.mark c.next
  let rest ← skipLineEnd blockContext c.mark rest
  let least := (max (outer + 1) 1).toNat
  let (blank, indent, rest) := match header.increment with
    | some k =>
      let indent := least + k - 1
      let (blank, rest) := readBlankLines indent rest.rest.length rest
      (blank, indent, rest)
    | none =>
      let (blank, widest, rest) := readLeadingLines (rest.rest.length + 1) 0 rest
      (blank, max least widest, rest)
  let (text, last, tail, rest) := readBlockLines isFolded indent (rest.rest.length + 1) blank rest
  let text := match header.chomping with
    | .strip => text
    | .clip => text ++ last
    | .keep => text ++ last ++ tail
  .ok (⟨.scalar (String.ofList text) false, c.mark, rest.mark⟩, rest)

end EndpointScaffold.Yaml
