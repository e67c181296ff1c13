import EndpointScaffold.Yaml.BlockScalar
import EndpointScaffold.Yaml.FlowScalar

/-!
# Streams of tokens

A stream holds the tokens that are read but not taken yet. What starts as a scalar may turn out to
be a key once its colon is read; then a key token is put before it, and the start of a mapping, if
its indentation is new. So tokens are held back as long as the first of them may still be a key.

* `fetch` reads one more token;
* `Stream.head` the next token, read as far as needed;
* `Stream.tail` the stream without it.
-/

namespace EndpointScaffold.Yaml

/-- a token that may still turn out to be a key -/
structure Candidate where
  /-- flow level it stands on -/
  level : Int
  /-- number of tokens before it -/
  number : Nat
  /-- whether nothing else can stand in its place -/
  isRequired : Bool
  mark : Mark

structure Stream where
  cursor : Cursor
  /-- tokens read and not taken -/
  queue : List Token := []
  taken : Nat := 0
  /-- number of flow collections around the cursor; less than zero after too many ends -/
  flow : Int := 0
  /-- column of the current block, -1 outside all of them -/
  indent : Int := -1
  /-- columns of the blocks around it -/
  outer : List Int := []
  allowsKey : Bool := true
  candidates : List Candidate := []
  isDone : Bool := false

namespace Stream

def ofText (s : String) : Stream := { cursor := Cursor.ofText s }

def mark (s : Stream) : Mark := s.cursor.mark

def column (s : Stream) : Int := s.cursor.mark.column

/-- adds a token at the end -/
def push (s : Stream) (t : Token) : Stream := { s with queue := s.queue ++ [t] }

/-- adds a token without extent -/
def pushHere (s : Stream) (k : Kind) : Stream := s.push ⟨k, s.mark, s.mark⟩

def pushSign (s : Stream) (k : Kind) (width : Nat) : Stream :=
  let after := s.cursor.skip width
  { s.push ⟨k, s.mark, after.mark⟩ with cursor := after }

/-- adds a token that was read -/
def pushLexed (s : Stream) (r : Token × Cursor) : Stream := { s.push r.1 with cursor := r.2 }

/-! ### Candidates for keys -/

def missingColon {α : Type} (s : Stream) (c : Candidate) : Result α :=
  failIn "while scanning a simple key" c.mark "could not find expected ':'" s.mark

def isStale (s : Stream) (c : Candidate) : Bool :=
  c.mark.line != s.mark.line || 1024 < s.mark.index - c.mark.index

/-- drops candidates that are too far back -/
def dropStale (s : Stream) : Result Stream :=
  match s.candidates.find? fun c => s.isStale c && c.isRequired with
  | some c => s.missingColon c
  | none => .ok { s with candidates := s.candidates.filter fun c => !s.isStale c }

def dropCandidate (s : Stream) : Result Stream :=
  match s.candidates.find? fun c => c.level == s.flow && c.isRequired with
  | some c => s.missingColon c
  | none => .ok { s with candidates := s.candidates.filter fun c => c.level != s.flow }

def addCandidate (s : Stream) : Result Stream :=
  if s.allowsKey then do
    let isRequired := s.flow == 0 && s.indent == s.column
    let s ← s.dropCandidate
    .ok { s with candidates := s.candidates ++
      [⟨s.flow, s.taken + s.queue.length, isRequired, s.mark⟩] }
  else .ok s

def firstCandidate? (s : Stream) : Option Nat := (s.candidates.map (·.number)).min?

/-! ### Indentation -/

/-- ends the blocks that are indented more than a column; `n` bounds their number -/
def endBlocks (column : Int) : Nat → Stream → Stream
  | 0, s => s
  | n + 1, s =>
    if column < s.indent then
      let s := s.pushHere .blockEnd
      endBlocks column n { s with indent := s.outer.headD (-1), outer := s.outer.drop 1 }
    else s

def unwind (s : Stream) (column : Int) : Stream :=
  if s.flow == 0 then endBlocks column (s.outer.length + 1) s else s

/-- whether a column starts a new block, and the stream inside it -/
def indentTo (s : Stream) (column : Int) : Bool × Stream :=
  if s.indent < column then (true, { s with indent := column, outer := s.indent :: s.outer })
  else (false, s)

/-- starts a block at the cursor, if its column is new -/
def startBlock (s : Stream) (k : Kind) : Stream :=
  match s.indentTo s.column with
  | (true, s) => s.pushHere k
  | (false, s) => s

/-! ### Blanks and comments -/

/-- skips blanks, comments and line breaks up to a token; `n` bounds the number of lines -/
def skipLines : Nat → Stream → Stream
  | 0, s => s
  | n + 1, s =>
    let c := s.cursor.skipSpaces.skipComment
    match c.lineBreak with
    | none => { s with cursor := c }
    | some (_, rest) =>
      skipLines n { s with cursor := rest, allowsKey := s.allowsKey || s.flow == 0 }

def skipToToken (s : Stream) : Stream :=
  let s := if s.mark.index == 0 && s.cursor.current == Char.ofNat 0xFEFF then
    { s with cursor := s.cursor.next } else s
  skipLines (s.cursor.rest.length + 1) s

/-! ### Tokens -/

def pushEnd (s : Stream) : Result Stream := do
  let s ← (s.unwind (-1)).dropCandidate
  .ok { s.pushHere .streamEnd with allowsKey := false, candidates := [], isDone := true }

def pushDirective (s : Stream) : Result Stream := do
  let s ← (s.unwind (-1)).dropCandidate
  let r ← readDirective s.cursor
  .ok ({ s with allowsKey := false }.pushLexed r)

def pushDocumentSign (s : Stream) (k : Kind) : Result Stream := do
  let s ← (s.unwind (-1)).dropCandidate
  .ok ({ s with allowsKey := false }.pushSign k 3)

def pushFlowStart (s : Stream) (k : Kind) : Result Stream := do
  let s ← s.addCandidate
  .ok ({ s with flow := s.flow + 1, allowsKey := true }.pushSign k 1)

def pushFlowEnd (s : Stream) (k : Kind) : Result Stream := do
  let s ← s.dropCandidate
  .ok ({ s with flow := s.flow - 1, allowsKey := false }.pushSign k 1)

def pushFlowEntry (s : Stream) : Result Stream := do
  let s ← s.dropCandidate
  .ok ({ s with allowsKey := true }.pushSign .flowEntry 1)

def pushBlockEntry (s : Stream) : Result Stream := do
  if s.flow == 0 && !s.allowsKey then
    failAt "sequence entries are not allowed here" s.mark
  else
    let s := if s.flow == 0 then s.startBlock .blockSequenceStart else s
    let s ← s.dropCandidate
    .ok ({ s with allowsKey := true }.pushSign .blockEntry 1)

def pushKey (s : Stream) : Result Stream := do
  if s.flow == 0 && !s.allowsKey then failAt "mapping keys are not allowed here" s.mark
  else
    let s := if s.flow == 0 then s.startBlock .blockMappingStart else s
    let s ← s.dropCandidate
    .ok ({ s with allowsKey := s.flow == 0 }.pushSign .key 1)

/-- puts tokens before the one that is the `number`-th of all -/
def insert (s : Stream) (number : Nat) (ts : List Token) : Stream :=
  let k := number - s.taken
  { s with queue := s.queue.take k ++ ts ++ s.queue.drop k }

/-- makes a candidate the key of the value that follows -/
def confirm (s : Stream) (c : Candidate) : Stream :=
  let key : Token := ⟨.key, c.mark, c.mark⟩
  let s := { s with
    candidates := s.candidates.filter fun d => d.level != s.flow, allowsKey := false }
  if s.flow == 0 then
    match s.indentTo c.mark.column with
    | (true, s) => s.insert c.number [⟨.blockMappingStart, c.mark, c.mark⟩, key]
    | (false, s) => s.insert c.number [key]
  else s.insert c.number [key]

def pushValue (s : Stream) : Result Stream := do
  match s.candidates.find? fun c => c.level == s.flow with
  | some c => .ok ((s.confirm c).pushSign .value 1)
  | none =>
    if s.flow == 0 && !s.allowsKey then failAt "mapping values are not allowed here" s.mark
    else
      let s := if s.flow == 0 then s.startBlock .blockMappingStart else s
      let s ← { s with allowsKey := s.flow == 0 }.dropCandidate
      .ok (s.pushSign .value 1)

/-- adds a token that may be a key -/
def pushNode (s : Stream) (read : Cursor → Lexed) : Result Stream := do
  let s ← s.addCandidate
  let r ← read s.cursor
  .ok ({ s with allowsKey := false }.pushLexed r)

def pushBlockScalar (s : Stream) : Result Stream := do
  let s ← { s with allowsKey := true }.dropCandidate
  let r ← readBlock s.indent s.cursor
  .ok (s.pushLexed r)

def pushPlain (s : Stream) : Result Stream := do
  let s ← s.addCandidate
  let (t, rest, brokeLine) := readPlain (s.flow != 0) s.indent s.cursor
  .ok { s.push t with cursor := rest, allowsKey := brokeLine }

def startsPlain (s : Stream) : Bool :=
  let x := s.cursor.current
  !(isBlankOrBreak x || among "-?:,[]\x7b\x7d#&*!|>'\"%@`" x)
    || (!isBlankOrBreak (s.cursor.peek 1) && (x == '-' || (s.flow == 0 && (x == '?' || x == ':'))))

/-- reads the token at the cursor -/
def pushToken (s : Stream) : Result Stream :=
  let c := s.cursor
  let beforeBlank := isBlankOrBreak (c.peek 1)
  let inFlow := s.flow != 0
  match c.current with
  | '[' => s.pushFlowStart .flowSequenceStart
  | '{' => s.pushFlowStart .flowMappingStart
  | ']' => s.pushFlowEnd .flowSequenceEnd
  | '}' => s.pushFlowEnd .flowMappingEnd
  | ',' => s.pushFlowEntry
  | '*' => s.pushNode readAnchor
  | '&' => s.pushNode readAnchor
  | '!' => s.pushNode readTag
  | '\'' => s.pushNode readQuoted
  | '"' => s.pushNode readQuoted
  | x =>
    if x == '-' && beforeBlank then s.pushBlockEntry
    else if x == '?' && (inFlow || beforeBlank) then s.pushKey
    else if x == ':' && (inFlow || beforeBlank) then s.pushValue
    else if (x == '|' || x == '>') && !inFlow then s.pushBlockScalar
    else if s.startsPlain then s.pushPlain
    else failIn' x s.mark
where
  /-- a character that starts nothing -/
  failIn' (x : Char) (m : Mark) : Result Stream :=
    .error (.malformed ⟨some "while scanning for the next token", none,
      "found character " ++ shown x ++ " that cannot start any token", m⟩)

/-- reads one more token, or several where blocks end -/
def fetch (s : Stream) : Result Stream := do
  let s ← s.skipToToken.dropStale
  let s := s.unwind s.column
  let c := s.cursor
  if c.rest.isEmpty then s.pushEnd
  else if c.mark.column == 0 && c.current == '%' then s.pushDirective
  else if c.mark.column == 0 && c.startsWith "---" && isBlankOrBreak (c.peek 3) then
    s.pushDocumentSign .documentStart
  else if c.mark.column == 0 && c.startsWith "..." && isBlankOrBreak (c.peek 3) then
    s.pushDocumentSign .documentEnd
  else s.pushToken

/-! ### Taking tokens -/

/-- reads until the first token is certain; `n` bounds the number of steps -/
def settle : Nat → Stream → Result Stream
  | 0, s => .ok s
  | n + 1, s =>
    if s.isDone then .ok s
    else if s.queue.isEmpty then do settle n (← s.fetch)
    else do
      let s ← s.dropStale
      if s.firstCandidate? == some s.taken then settle n (← s.fetch) else .ok s

def head (s : Stream) : Result (Token × Stream) := do
  let s ← settle (s.cursor.rest.length + 2) s
  .ok (s.queue.headD ⟨.streamEnd, s.mark, s.mark⟩, s)

def tail (s : Stream) : Stream := { s with queue := s.queue.drop 1, taken := s.taken + 1 }

end Stream

end EndpointScaffold.Yaml
