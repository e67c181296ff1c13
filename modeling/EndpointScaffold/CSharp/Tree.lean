import EndpointScaffold.Text.Trim

/-!
# Trees of C# source

A tree shows what the parts of a source text are. Its leaves are the tokens, each with the blanks
before it, so the source can be read off the leaves; its nodes tell what their parts are together,
and labels tell parts of one node apart.

* `Tree.source` the text that a tree was made of, `Tree.text` the same without the blanks around it;
* `Tree.part?` the first part with a label;
* `Tree.members` the parts of a node, where text that fits nowhere is looked through;
* `Tree.hasDamage` whether anything in the text fits nowhere or is missing.

Only those kinds of nodes and labels have names here that some question is asked about.
-/

namespace EndpointScaffold.CSharp

open Text

/-- what a node or a token is -/
inductive Kind where
  /-- text that fits nowhere -/
  | damage
  /-- a token without a node of its own -/
  | hidden
  /-- a punctuation mark or a reserved word -/
  | mark
  | comment
  | identifier
  | modifier
  | attributeList
  | attribute
  | baseList
  | namespaceDeclaration
  /-- a namespace for the whole file -/
  | fileNamespace
  | classDeclaration
  | propertyDeclaration
  | methodDeclaration
  | block
  /-- an expression behind `=>` in the place of a body -/
  | arrowClause
  | invocation
  | memberAccess
  | argument
  | other
  deriving DecidableEq, Repr, Inhabited

namespace Kind

/-- whether a kind stands for more than a mark -/
def isNamed (k : Kind) : Bool := k != .hidden && k != .mark

def isNamespace (k : Kind) : Bool := k == .namespaceDeclaration || k == .fileNamespace

def isMethodBody (k : Kind) : Bool := k == .block || k == .arrowClause

end Kind

/-- what a part is to the node around it -/
inductive Label where
  | name
  | type
  | body
  /-- what an invocation calls -/
  | function
  /-- what a member is accessed of -/
  | expression
  | arguments
  deriving DecidableEq, Repr

inductive Tree where
  /-- a token and the blanks before it -/
  | leaf (label : Option Label) (kind : Kind) (gap text : String)
  /-- a token that the text lacks -/
  | missing (label : Option Label) (kind : Kind)
  | node (label : Option Label) (kind : Kind) (parts : List Tree)
  deriving Inhabited, Repr

namespace Tree

def label : Tree → Option Label
  | leaf l _ _ _ | missing l _ | node l _ _ => l

def kind : Tree → Kind
  | leaf _ k _ _ | missing _ k | node _ k _ => k

def parts : Tree → List Tree
  | node _ _ ps => ps
  | _ => []

/-! ### Text -/

mutual
def tokens : Tree → List (String × String)
  | leaf _ _ gap text => [(gap, text)]
  | missing _ _ => [("", "")]
  | node _ _ ps => tokensOfAll ps

def tokensOfAll : List Tree → List (String × String)
  | [] => []
  | t :: ts => tokens t ++ tokensOfAll ts
end

theorem tokensOfAll_append (ts us : List Tree) :
    tokensOfAll (ts ++ us) = tokensOfAll ts ++ tokensOfAll us := by
  induction ts with
  | nil => rfl
  | cons t ts ih => simp [tokensOfAll, ih]

/-- the text of tokens, blanks included -/
def joinTokens (ts : List (String × String)) : String :=
  String.join (ts.flatMap fun t => [t.1, t.2])

/-- the text that a tree was made of -/
def source (t : Tree) : String := joinTokens t.tokens

/-- the text of neighbouring trees without the blanks around it -/
def textOfAll (ts : List Tree) : String :=
  match tokensOfAll ts with
  | [] => ""
  | (_, text) :: rest => trim (text ++ joinTokens rest)

def text (t : Tree) : String := textOfAll [t]

/-! ### Parts -/

def hasLabel (l : Label) (t : Tree) : Bool := t.label == some l

def hasKind (k : Kind) (t : Tree) : Bool := t.kind == k

/-- the first part with a label -/
def part? (l : Label) (t : Tree) : Option Tree := t.parts.find? (hasLabel l)

/-- text of the first part with a label; empty if there is none -/
def partText (l : Label) (t : Tree) : String := ((t.part? l).map text).getD ""

def textsOf (k : Kind) (t : Tree) : List String := (t.parts.filter (hasKind k)).map text

mutual
/-- a tree, or what is in it if it is damage -/
def undamaged : Tree → List Tree
  | node l k ps => if k = .damage then undamagedAll ps else [node l k ps]
  | missing l k => if k = .damage then [] else [missing l k]
  | leaf l k gap text => if k = .damage then [] else [leaf l k gap text]

def undamagedAll : List Tree → List Tree
  | [] => []
  | t :: ts => undamaged t ++ undamagedAll ts
end

theorem undamaged_eq_singleton {t : Tree} (h : t.kind ≠ .damage) : undamaged t = [t] := by
  cases t <;> simp_all [undamaged, kind]

/-- the parts of a node; damage is looked through -/
def members (t : Tree) : List Tree := undamagedAll t.parts

mutual
/-- whether anything fits nowhere or is missing -/
def hasDamage : Tree → Bool
  | leaf _ k _ _ => k == .damage
  | missing _ _ => true
  | node _ k ps => k == .damage || anyHasDamage ps

def anyHasDamage : List Tree → Bool
  | [] => false
  | t :: ts => hasDamage t || anyHasDamage ts
end

end Tree

end EndpointScaffold.CSharp
