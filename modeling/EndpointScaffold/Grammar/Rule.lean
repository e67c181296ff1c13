/-!
# Rules of a grammar

A grammar is an ordered list of named rules. A rule is built from tokens and references by sequence,
choice and repetition, and says on the way how its parts are shown in the tree (`shown`, `labelled`)
and which reading wins where two are possible (`ranked`, `favoured`).

The order of the rules and of the alternatives counts: where nothing else decides, the earlier one
is tried first.
-/

namespace EndpointScaffold.Grammar

/-- to which side an operator of equal rank binds -/
inductive Side where
  | left
  | right
  deriving DecidableEq, Repr

inductive Rule where
  /-- the token with this text -/
  | text (s : String)
  /-- a token of the named pattern -/
  | pattern (name : String)
  /-- the rule of that name -/
  | ref (name : String)
  | nothing
  | seq (parts : List Rule)
  | choice (parts : List Rule)
  /-- one or more -/
  | many (part : Rule)
  /-- a rank for conflicts between readings, and a side for readings of equal rank -/
  | ranked (level : Option Int) (side : Option Side) (part : Rule)
  /-- a weight for whole trees between which only their weights decide -/
  | favoured (weight : Int) (part : Rule)
  /-- shown in the tree under another name, as a mark unless `isNamed` -/
  | shown (name : String) (isNamed : Bool) (part : Rule)
  /-- a label that tells the part from its neighbours -/
  | labelled (label : String) (part : Rule)
  deriving Repr, Inhabited

namespace Rule

instance : Coe String Rule := ⟨.text⟩

def optional (part : Rule) : Rule := .choice [part, .nothing]

def any (part : Rule) : Rule := .choice [.many part, .nothing]

def listed (part : Rule) : Rule := .seq [part, any (.seq [",", part])]

def optionalListed (part : Rule) : Rule := optional (listed part)

def rank (level : Int) (part : Rule) : Rule := .ranked (some level) none part

def rankLeft (level : Int) (part : Rule) : Rule := .ranked (some level) (some .left) part

def rankRight (level : Int) (part : Rule) : Rule := .ranked (some level) (some .right) part

/-- shown under the name of another rule -/
def as (name : String) (part : Rule) : Rule := .shown name true part

mutual
def same : Rule → Rule → Bool
  | .text s, .text t => s == t
  | .pattern s, .pattern t => s == t
  | .ref s, .ref t => s == t
  | .nothing, .nothing => true
  | .seq ps, .seq qs => sameAll ps qs
  | .choice ps, .choice qs => sameAll ps qs
  | .many p, .many q => same p q
  | .ranked l s p, .ranked m t q => l == m && s == t && same p q
  | .favoured n p, .favoured m q => n == m && same p q
  | .shown n b p, .shown m c q => n == m && b == c && same p q
  | .labelled l p, .labelled m q => l == m && same p q
  | _, _ => false

def sameAll : List Rule → List Rule → Bool
  | [], [] => true
  | p :: ps, q :: qs => same p q && sameAll ps qs
  | _, _ => false
end

end Rule

/-- a named rule; a hidden one has no node of its own in the tree -/
structure Definition where
  name : String
  isHidden : Bool
  rule : Rule
  deriving Repr, Inhabited

def define (name : String) (rule : Rule) : Definition := ⟨name, false, rule⟩

def defineHidden (name : String) (rule : Rule) : Definition := ⟨name, true, rule⟩

/-- a grammar -/
structure Rulebook where
  /-- the first one is the start -/
  definitions : List Definition
  /-- tokens that are not found by patterns, and whether they are hidden -/
  special : List (String × Bool)
  /-- tokens and rules that may stand between any two tokens -/
  extras : List String
  /-- rules that are replaced by their alternatives wherever they are used -/
  inlined : List String
  /-- the token of words, from which reserved words are told apart -/
  word : String
  /-- words that are tokens of a pattern: the pattern and its words -/
  wordPatterns : List (String × List String)
  /-- pairs of rules of which the first wins where ranks do not decide -/
  preferences : List (String × String)

end EndpointScaffold.Grammar
