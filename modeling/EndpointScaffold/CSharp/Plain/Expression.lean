import EndpointScaffold.CSharp.Plain.Token

/-!
# Types and expressions of plain source

A plain type is a name with or without type arguments, possibly qualified, as an array or nullable.
A plain expression is a literal, also a number with a minus, a chain of accesses and calls from a
name, a lambda with one parameter, or an anonymous object of accesses.

Comments stand in the smallest node that has parts on both sides of them. So every part is made
without the comments before it, and the node that puts it behind another part takes them in.
-/

namespace EndpointScaffold.CSharp.Plain

open Text

/-- a tree and the comments before it -/
structure Part where
  lead : List Tree
  tree : Tree

namespace Part

def as (label : Label) (p : Part) : Part :=
  ⟨p.lead, match p.tree with
    | .leaf _ k gap text => .leaf (some label) k gap text
    | .missing _ k => .missing (some label) k
    | .node _ k ps => .node (some label) k ps⟩

/-- the trees of parts with the comments between them -/
def trees (ps : List Part) : List Tree := ps.flatMap fun p => p.lead ++ [p.tree]

/-- a node of parts; comments before the first one stay outside -/
def node (kind : Kind) : List Part → Part
  | [] => ⟨[], .node none kind []⟩
  | p :: ps => ⟨p.lead, .node none kind (p.tree :: trees ps)⟩

end Part

/-! ### Reading tokens -/

/-- reads from the front of a list of tokens -/
abbrev Reads := StateT (List Token) Option

def token (kind : TokenKind) (p : String → Bool) : Reads Token
  | t :: ts => if t.kind == kind && p t.text then some (t, ts) else none
  | [] => none

def Token.leaf (t : Token) (kind : Kind) : Part := ⟨t.lead, .leaf none kind t.gap t.text⟩

def mark (text : String) : Reads Part := do pure ((← token .mark (· == text)).leaf .mark)

def word (text : String) : Reads Part := do pure ((← token .word (· == text)).leaf .mark)

def name : Reads Part := do pure (Part.node .identifier [(← token .word isName).leaf .hidden])

def isNext (kind : TokenKind) (p : String → Bool) : Reads Bool := fun ts =>
  some (ts.head?.any (fun t => t.kind == kind && p t.text), ts)

def isMarkNext (text : String) : Reads Bool := isNext .mark (· == text)

def isWordNext (text : String) : Reads Bool := isNext .word (· == text)

/-- one or more items with commas between them -/
def listed (item : Reads Part) : Nat → Reads (List Part)
  | 0 => failure
  | fuel + 1 => do
    let first ← item
    if ← isMarkNext "," then
      let comma ← mark ","
      pure (first :: comma :: (← listed item fuel))
    else pure [first]

/-- items in parentheses with commas between them, also none -/
def parenthesized (item : Reads Part) (fuel : Nat) : Reads Part := do
  let left ← mark "("
  let inner ← if ← isMarkNext ")" then pure [] else listed item fuel
  let right ← mark ")"
  pure (.node .other (left :: inner ++ [right]))

def repeated (begins : Reads Bool) (item : Reads Part) : Nat → Reads (List Part)
  | 0 => failure
  | fuel + 1 => do
    if ← begins then
      let first ← item
      pure (first :: (← repeated begins item fuel))
    else pure []

def braced (begins : Reads Bool) (item : Reads Part) (fuel : Nat) : Reads (List Part) := do
  let left ← mark "\x7b"
  let inner ← repeated begins item fuel
  let right ← mark "\x7d"
  pure (left :: inner ++ [right])

/-! ### Types -/

mutual
/-- a name with its type arguments, if it has any -/
def simpleName : Nat → Reads Part
  | 0 => failure
  | fuel + 1 => do
    let n ← name
    if ← isMarkNext "<" then
      let left ← mark "<"
      let arguments ← listed (type fuel) fuel
      let right ← mark ">"
      pure (.node .other [n, .node .other (left :: arguments ++ [right])])
    else pure n

/-- a name with points, from the part before the next point on -/
def qualified : Nat → Part → Reads Part
  | 0, _ => failure
  | fuel + 1, left => do
    if ← isMarkNext "." then
      let dot ← mark "."
      let member ← simpleName fuel
      qualified fuel (.node .other [left, dot, member.as .name])
    else pure left

def type : Nat → Reads Part
  | 0 => failure
  | fuel + 1 => do
    let named ←
      if ← isNext .word predefinedTypes.contains then
        pure ((← token .word predefinedTypes.contains).leaf .other)
      else
        let first ← simpleName fuel
        qualified fuel first
    let whole ←
      if ← isMarkNext "[" then
        let left ← mark "["
        let right ← mark "]"
        pure (.node .other [named.as .type, .node .other [left, right]])
      else pure named
    if ← isMarkNext "?" then pure (.node .other [whole.as .type, ← mark "?"])
    else pure whole
end

/-! ### Expressions -/

def quotedPart (t : Token) : Part :=
  let inner : List Tree := if t.text.isEmpty then [] else [.leaf none .other "" t.text]
  ⟨t.lead, .node none .other
    (.leaf none .mark t.gap "\"" :: inner ++ [.leaf none .mark "" "\""])⟩

def isBoolean (w : String) : Bool := w == "true" || w == "false"

def number : Reads Part := do pure ((← token .integer fun _ => true).leaf .other)

def literal : Reads Part := do
  if ← isNext .integer fun _ => true then number
  else if ← isMarkNext "-" then
    let minus ← mark "-"
    pure (.node .other [minus, ← number])
  else if ← isNext .quoted fun _ => true then pure (quotedPart (← token .quoted fun _ => true))
  else pure (.node .other [(← token .word isBoolean).leaf .mark])

def isLiteralNext : Reads Bool := do
  let integer ← isNext .integer fun _ => true
  let minus ← isMarkNext "-"
  let quoted ← isNext .quoted fun _ => true
  let boolean ← isNext .word isBoolean
  pure (integer || minus || quoted || boolean)

/-- whether a lambda comes next: a word and an arrow -/
def isLambdaNext : Reads Bool := fun ts =>
  match ts with
  | t :: u :: _ => some (t.kind == .word && u.kind == .mark && u.text == "=>", ts)
  | _ => some (false, ts)

def isAccess (p : Part) : Bool := p.tree.hasKind .memberAccess

/-- refuses a part that fails a test -/
def guarded (p : Part → Bool) (item : Reads Part) : Reads Part := do
  let part ← item
  if p part then pure part else failure

mutual
/-- accesses and calls from the part before them on -/
def links : Nat → Part → Reads Part
  | 0, _ => failure
  | fuel + 1, left => do
    if ← isMarkNext "." then
      let dot ← mark "."
      let member ← name
      links fuel (.node .memberAccess [left.as .expression, dot, member.as .name])
    else if ← isMarkNext "(" then
      let args ← arguments fuel
      links fuel (.node .invocation [left.as .function, args.as .arguments])
    else pure left

def chain : Nat → Reads Part
  | 0 => failure
  | fuel + 1 => do
    let first ← name
    links fuel first

def arguments : Nat → Reads Part
  | 0 => failure
  | fuel + 1 => parenthesized (argument fuel) fuel

def argument : Nat → Reads Part
  | 0 => failure
  | fuel + 1 => do pure (.node .argument [← expression fuel])

def expression : Nat → Reads Part
  | 0 => failure
  | fuel + 1 => do
    if ← isLiteralNext then literal
    else if ← isLambdaNext then
      let parameter ← token .word isName
      let arrow ← mark "=>"
      let body ← if ← isWordNext "new" then anonymousObject fuel else expression fuel
      pure (.node .other [.node .other [parameter.leaf .hidden], arrow, body.as .body])
    else chain fuel

def anonymousObject : Nat → Reads Part
  | 0 => failure
  | fuel + 1 => do
    let new ← word "new"
    let left ← mark "\x7b"
    let inner ← listed (guarded isAccess (chain fuel)) fuel
    let right ← mark "\x7d"
    pure (.node .other (new :: left :: inner ++ [right]))
end

end EndpointScaffold.CSharp.Plain
