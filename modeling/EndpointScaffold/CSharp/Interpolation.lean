import EndpointScaffold.Parsing.Source

/-!
# Interpolated and raw strings

Where the parts of interpolated and raw strings begin and end depends on how the string was opened:
on the number of its dollar signs and quotes. `scan` finds these parts, and the semicolon that may
follow a body in braces; it keeps the open strings in an `Interpolation`.
-/

namespace EndpointScaffold.CSharp

open Parsing

/-- tokens that need more than a pattern -/
inductive SpecialToken where
  | optionalSemi
  | regularStart
  | verbatimStart
  | rawStart
  | startQuote
  | endQuote
  | openBrace
  | closeBrace
  | stringContent
  | rawStringStart
  | rawStringEnd
  | rawStringContent
  deriving DecidableEq, Repr

structure OpenString where
  dollars : Nat
  /-- braces that opened the present hole -/
  braces : Nat
  quotes : Nat
  isVerbatim : Bool
  isRaw : Bool
  deriving DecidableEq, Repr

/-- the strings that are open at a place -/
structure Interpolation where
  /-- quotes of the open raw string; 0 if none is open -/
  rawQuotes : Nat
  /-- open interpolated strings, innermost first -/
  strings : List OpenString
  deriving DecidableEq, Repr, Inhabited

namespace Interpolation

def none : Interpolation := ⟨0, []⟩

/-- a part that was found -/
structure Found where
  token : SpecialToken
  start : Nat
  stop : Nat
  after : Interpolation

/-- white space that may stand before a string -/
def isSpace (c : Char) : Bool :=
  let n := c.toNat
  n == 32 || (9 ≤ n && n ≤ 13) || n == 0x85 || n == 0x1680 || (0x2000 ≤ n && n ≤ 0x2006)
    || (0x2008 ≤ n && n ≤ 0x200A) || n == 0x2028 || n == 0x2029 || n == 0x205F || n == 0x3000

/-- whether text goes on at a position; the character of code 0 ends it too -/
def goesOn (s : Source) (i : Nat) : Bool := s.holds (· != '\x00') i

/-- the content of a raw string with `n` quotes, up to its closing quotes or the end -/
def rawContentEnd (s : Source) (n : Nat) : Nat → Nat → Nat
  | 0, _ => s.size
  | fuel + 1, i =>
    let j := s.skip (fun c => c != '"' && c != '\x00') i
    if s.isAt j '"' then
      let k := s.skip (· == '"') j
      if k - j == n then j else rawContentEnd s n fuel (k + 1)
    else min j s.size

/-! ### The text of an interpolated string -/

/-- what a quote or a line end means in the text of an interpolated string -/
inductive Stop where
  | ends
  /-- two quotes that stand for one; the text goes on at a later position -/
  | quoted (i : Nat)
  /-- the text goes on; the next character is at the position -/
  | goesOn (i : Nat)

def stopAt (s : Source) (o : OpenString) (i : Nat) : Stop :=
  if o.isRaw then
    let k := s.skip (· == '"') i
    if k - i ≥ 2 && k - i == o.quotes then .ends else .goesOn k
  else if o.isVerbatim then
    if s.isAt i '"' then (if s.isAt (i + 1) '"' then .quoted (i + 2) else .ends) else .goesOn i
  else if s.isAt i '\\' || s.isAt i '\n' || s.isAt i '"' then .ends
  else .goesOn i

/-- where the text of an interpolated string ends, at its closing quote or at a hole, if it is not
empty. Of the braces just before the position, `passed` count towards those that open a hole; more
braces than that are text. -/
def contentEnd (s : Source) (o : OpenString) : Nat → Nat → Bool → Nat → Option Nat
  | 0, _, _, _ => .none
  | fuel + 1, passed, isBegun, i =>
    if goesOn s i then
      match stopAt s o i with
      | .ends => if isBegun then some i else .none
      | .quoted j => contentEnd s o fuel passed isBegun j
      | .goesOn j =>
        if s.isAt j '{' then
          let k := s.skipAtMost (· == '{') (o.dollars - passed) j
          let sum := passed + (k - j)
          if sum == o.dollars && !s.isAt k '{' then (if isBegun then some j else .none)
          else contentEnd s o fuel (if s.isAt k '{' then sum else 0) true (k + 1)
        else contentEnd s o fuel 0 true (j + 1)
    else if isBegun then some (min i s.size)
    else .none

/-! ### Parts -/

/-- the start of an interpolated string at a position; after some quotes there is none -/
def scanStart (s : Source) (state : Interpolation) (quotes start : Nat) : Option Found :=
  let first := if s.isAt start '@' then start + 1 else start
  let dollars := if quotes = 0 then s.skip (· == '$') first - first else 0
  let next := first + dollars
  if dollars != 0 && (s.isAt next '"' || s.isAt next '@') then
    let isVerbatim := s.isAt start '@' || s.isAt next '@'
    let stop := if s.isAt next '@' then next + 1 else next
    let isRaw := s.isAt (stop + 1) '"' && s.isAt (stop + 2) '"'
    let token : SpecialToken :=
      if isRaw then .rawStart else if isVerbatim then .verbatimStart else .regularStart
    some ⟨token, start, stop,
      { state with strings := ⟨dollars, 0, 0, isVerbatim, isRaw⟩ :: state.strings }⟩
  else .none

/-- the part of a string or the optional semicolon at position `i`, among the expected ones. Parts
are tried in a fixed order, and what one of them has passed over stays passed. -/
def scan (s : Source) (expects : SpecialToken → Bool) (i : Nat) (state : Interpolation) :
    Option Found := Id.run do
  if expects .optionalSemi then
    if expects .regularStart then return .none
    return some ⟨.optionalSemi, i, if s.isAt i ';' then i + 1 else i, state⟩
  let mut pos := i
  let mut start := i
  let mut quotes := 0
  let mut passed := 0
  let mut isBegun := false
  if expects .rawStringStart then
    pos := s.skip isSpace pos
    start := pos
    if s.isAt pos '"' then
      let j := s.skip (· == '"') pos
      quotes := j - pos
      pos := j
      if 3 ≤ quotes then return some ⟨.rawStringStart, start, pos, { state with rawQuotes := quotes }⟩
  if expects .rawStringEnd && s.isAt pos '"' then
    let j := s.skipAtMost (· == '"') (state.rawQuotes - quotes) pos
    quotes := quotes + (j - pos)
    pos := j
    if quotes == state.rawQuotes then
      return some ⟨.rawStringEnd, start, pos, { state with rawQuotes := 0 }⟩
    isBegun := quotes != 0
  if expects .rawStringContent then
    return some ⟨.rawStringContent, start, rawContentEnd s state.rawQuotes s.size pos, state⟩
  if expects .regularStart || expects .verbatimStart || expects .rawStart then
    pos := s.skip isSpace pos
    start := pos
    match scanStart s state quotes start with
    | some found => return some found
    | .none =>
      if s.isAt pos '@' then pos := pos + 1
      if quotes == 0 then pos := s.skip (· == '$') pos
  match state.strings with
  | [] => return .none
  | o :: outer =>
    if expects .startQuote then
      let j := if o.isVerbatim || !o.isRaw then s.skipAtMost (· == '"') 1 pos
        else s.skip (· == '"') pos
      let sum := o.quotes + (j - pos)
      if sum == 0 then return .none
      return some ⟨.startQuote, start, j, { state with strings := { o with quotes := sum } :: outer }⟩
    if expects .endQuote then
      let j := s.skip (· == '"') pos
      quotes := quotes + (j - pos)
      pos := j
      if quotes == o.quotes then
        return some ⟨.endQuote, start, pos, { state with strings := outer }⟩
      isBegun := quotes != 0
    if expects .openBrace then
      let j := s.skipAtMost (· == '{') o.dollars pos
      passed := j - pos
      pos := j
      if passed != 0 && passed == o.dollars && !s.isAt pos '{' then
        return some ⟨.openBrace, start, pos,
          { state with strings := { o with braces := passed } :: outer }⟩
      isBegun := passed != 0
    if expects .closeBrace then
      pos := s.skip isSpace pos
      let j := s.skipAtMost (· == '}') (o.braces - passed) pos
      if j != pos && passed + (j - pos) == o.braces then
        return some ⟨.closeBrace, start, j,
          { state with strings := { o with braces := 0 } :: outer }⟩
      return .none
    if expects .stringContent then
      return (contentEnd s o (s.size + 1) passed isBegun pos).map fun stop =>
        ⟨.stringContent, start, stop, state⟩
    return .none

end Interpolation

end EndpointScaffold.CSharp
