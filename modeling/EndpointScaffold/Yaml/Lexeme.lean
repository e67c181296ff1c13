import EndpointScaffold.Decimal.Reading
import EndpointScaffold.Encoding.Utf8
import EndpointScaffold.Yaml.Problem
import EndpointScaffold.Yaml.Cursor

/-!
# Directives, anchors, aliases and tags

Reading of the tokens that stand on one line and hold a name. Each reader starts at the sign that
announces its token and gives the token with the cursor after it.
-/

namespace EndpointScaffold.Yaml

open Decimal Text

abbrev Lexed := Result (Token × Cursor)

/-! ### Anchors and aliases -/

def readAnchor (c : Cursor) : Lexed :=
  let isAlias := c.current == '*'
  let context := "while scanning an " ++ (if isAlias then "alias" else "anchor")
  let expected := "expected alphabetic or numeric character, but found "
  let named := c.next
  let name := named.run isNameChar
  let after := named.skip name.length
  if name.isEmpty then failIn context c.mark (expected ++ shown named.current) named.mark
  else if !(isBlankOrBreak after.current || among "?:,]\x7d%@`" after.current) then
    failIn context c.mark (expected ++ shown after.current) after.mark
  else
    let text := String.ofList name
    .ok (⟨if isAlias then .alias text else .anchor text, c.mark, after.mark⟩, after)

/-! ### Tags -/

/-- reads `!`, `!!` or a named handle; `what` names what it is part of -/
def readHandle (what : String) (start : Mark) (c : Cursor) : Result (String × Cursor) :=
  let context := "while scanning a " ++ what
  if c.current != '!' then
    failIn context start ("expected '!', but found " ++ shown c.current) c.mark
  else if c.peek 1 == ' ' then .ok ("!", c.next)
  else
    let name := c.next.run isNameChar
    let after := c.next.skip name.length
    if after.current != '!' then
      failIn context start ("expected '!', but found " ++ shown after.current) after.mark
    else .ok ("!" ++ String.ofList name ++ "!", after.next)

/-- reads bytes that are written with `%`; `n` bounds their number -/
def readEscapedBytes (context : String) (start : Mark) :
    Nat → Cursor → Result (List UInt8 × Cursor)
  | 0, c => .ok ([], c)
  | n + 1, c =>
    if c.current != '%' then .ok ([], c)
    else
      let c := c.next
      match [c.peek 0, c.peek 1].find? fun x => !isHexDigit x with
      | some x => failIn context start
          ("expected URI escape sequence of 2 hexadecimal numbers, but found " ++ shown x) c.mark
      | none => do
        let (bytes, rest) ← readEscapedBytes context start n (c.skip 2)
        .ok (UInt8.ofNat (digitsValue 16 [c.peek 0, c.peek 1]) :: bytes, rest)

/-- characters of a tag that need no escape -/
def isUriChar (c : Char) : Bool := isNameChar c || among ";/?:@&=+$,.!~*'()[]" c

/-- reads the text of a tag; `n` bounds the number of its parts -/
def readUriParts (context : String) (start : Mark) :
    Nat → List Char → Cursor → Result (List Char × Cursor)
  | 0, out, c => .ok (out, c)
  | n + 1, out, c =>
    let plain := c.run isUriChar
    let after := c.skip plain.length
    let out := out ++ plain
    if after.current != '%' then .ok (out, after)
    else do
      let (bytes, rest) ← readEscapedBytes context start after.rest.length after
      match Encoding.decode bytes with
      | .error u => failIn context start u.message after.mark
      | .ok text => readUriParts context start n (out ++ text.toList) rest

def readUri (what : String) (start : Mark) (c : Cursor) : Result (String × Cursor) := do
  let (uri, rest) ← readUriParts ("while scanning a " ++ what) start (c.rest.length + 1) [] c
  if rest.mark.index == c.mark.index then
    failIn ("while parsing a " ++ what) start ("expected URI, but found " ++ shown rest.current)
      rest.mark
  else .ok (String.ofList uri, rest)

/-- whether a tag that does not start with a name has a handle before its end -/
def hasHandle (c : Cursor) : Bool :=
  (c.next.run fun x => !isSpaceOrBreak x).contains '!'

/-- reads the handle and the suffix of a tag -/
def readTagParts (c : Cursor) : Result (Option String × String × Cursor) :=
  if c.peek 1 == '<' then do
    let (suffix, rest) ← readUri "tag" c.mark (c.skip 2)
    if rest.current != '>' then
      failIn "while parsing a tag" c.mark ("expected '>', but found " ++ shown rest.current)
        rest.mark
    else .ok (none, suffix, rest.next)
  else if isBlankOrBreak (c.peek 1) then .ok (none, "!", c.next)
  else if hasHandle c then do
    let (handle, rest) ← readHandle "tag" c.mark c
    let (suffix, rest) ← readUri "tag" c.mark rest
    .ok (some handle, suffix, rest)
  else do
    let (suffix, rest) ← readUri "tag" c.mark c.next
    .ok (some "!", suffix, rest)

def readTag (c : Cursor) : Lexed := do
  let (handle, suffix, rest) ← readTagParts c
  if !isSpaceOrBreak rest.current then
    failIn "while scanning a tag" c.mark ("expected ' ', but found " ++ shown rest.current) rest.mark
  else .ok (⟨.tag handle suffix, c.mark, rest.mark⟩, rest)

/-! ### Directives -/

def directiveContext : String := "while scanning a directive"

def readVersionNumber (start : Mark) (c : Cursor) : Result (Nat × Cursor) :=
  let digits := c.run isDigit
  if digits.isEmpty then
    failIn directiveContext start ("expected a digit, but found " ++ shown c.current) c.mark
  else .ok (digitsValue 10 digits, c.skip digits.length)

def readVersion (start : Mark) (c : Cursor) : Result (Kind × Cursor) := do
  let (major, rest) ← readVersionNumber start c.skipSpaces
  if rest.current != '.' then
    failIn directiveContext start ("expected a digit or '.', but found " ++ shown rest.current)
      rest.mark
  else
    let (minor, rest) ← readVersionNumber start rest.next
    if !isSpaceOrBreak rest.current then
      failIn directiveContext start ("expected a digit or ' ', but found " ++ shown rest.current)
        rest.mark
    else .ok (.version major minor, rest)

def readTagHandle (start : Mark) (c : Cursor) : Result (Kind × Cursor) := do
  let (handle, rest) ← readHandle "directive" start c.skipSpaces
  if rest.current != ' ' then
    failIn directiveContext start ("expected ' ', but found " ++ shown rest.current) rest.mark
  else
    let (stem, rest) ← readUri "directive" start rest.skipSpaces
    if !isSpaceOrBreak rest.current then
      failIn directiveContext start ("expected ' ', but found " ++ shown rest.current) rest.mark
    else .ok (.tagHandle handle stem, rest)

/-- skips blanks and a comment up to the end of the line, where nothing else may stand -/
def skipLineEnd (context : String) (start : Mark) (c : Cursor) : Result Cursor :=
  let c := c.skipSpaces.skipComment
  if !isBreakOrEnd c.current then
    failIn context start ("expected a comment or a line break, but found " ++ shown c.current)
      c.mark
  else .ok c.skipBreak

def readDirective (c : Cursor) : Lexed := do
  let name := c.next.run isNameChar
  let after := c.next.skip name.length
  let expected := "expected alphabetic or numeric character, but found "
  if name.isEmpty || !isSpaceOrBreak after.current then
    failIn directiveContext c.mark (expected ++ shown after.current) after.mark
  else
    let (kind, rest) ←
      if name == "YAML".toList then readVersion c.mark after
      else if name == "TAG".toList then readTagHandle c.mark after
      else .ok (.otherDirective, after.skipWhile fun x => !isBreak x)
    let line ← skipLineEnd directiveContext c.mark rest
    .ok (⟨kind, c.mark, rest.mark⟩, line)

end EndpointScaffold.Yaml
