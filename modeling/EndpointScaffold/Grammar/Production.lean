import EndpointScaffold.Grammar.Rule
import EndpointScaffold.Grammar.SymbolSet
import Std.Data.HashMap

/-!
# Productions

`Language.ofRulebook` numbers the symbols of a grammar and takes its rules apart into productions
without choices and repetitions.

Symbols are numbered in this order: the end of the text, the tokens in the order of their first use
with the token of words in front, the special tokens, the rules in their order, and last the rules
that stand for repetitions.
-/

namespace EndpointScaffold.Grammar

open Std

/-! ### Tokens -/

/-- how a token is found -/
inductive Form where
  | text (s : String)
  | pattern (name : String)
  deriving DecidableEq, Hashable, Repr, Inhabited

def Form.name : Form → String
  | .text s => s
  | .pattern name => name

mutual
/-- tokens of a rule, in order of use -/
def Rule.forms : Rule → List Form
  | .text s => [.text s]
  | .pattern name => [.pattern name]
  | .seq parts | .choice parts => formsOfAll parts
  | .many part | .ranked _ _ part | .favoured _ part | .shown _ _ part | .labelled _ part =>
    forms part
  | .ref _ | .nothing => []

def Rule.formsOfAll : List Rule → List Form
  | [] => []
  | p :: ps => forms p ++ formsOfAll ps
end

structure SymbolEntry where
  name : String
  /-- how it is found, for a plain token -/
  form : Option Form
  /-- whether it has a node of its own -/
  isVisible : Bool
  /-- whether that node has a name; marks and reserved words have none -/
  isNamed : Bool
  deriving Repr, Inhabited

/-- tokens with the number of their uses, in the order of their first use -/
def countForms (forms : List Form) : Array (Form × Nat) :=
  (forms.foldl (fun (found : Array (Form × Nat) × HashMap Form Nat) f =>
    match found.2[f]? with
    | some i => (found.1.modify i fun e => (e.1, e.2 + 1), found.2)
    | none => (found.1.push (f, 1), found.2.insert f found.1.size)) (#[], ∅)).1

/-- the token that a definition is a mere name of, if it is its only use -/
def Definition.namedForm? (counts : HashMap Form Nat) (d : Definition) : Option Form :=
  let once := fun f : Form => if counts[f]? == some 1 then some f else none
  match d.rule with
  | .pattern name => once (.pattern name)
  | .text s => if d.isHidden then none else once (.text s)
  | _ => none

/-! ### Rules without choice and repetition -/

mutual
/-- takes choices within choices together and drops the second of two equal alternatives -/
def Rule.simplified : Rule → Rule
  | .seq parts => .seq (allSimplified parts)
  | .choice parts => .choice (alternativesSimplified [] parts)
  | .many part => .many (simplified part)
  | .ranked l s part => .ranked l s (simplified part)
  | .favoured n part => .favoured n (simplified part)
  | .shown name b part => .shown name b (simplified part)
  | .labelled label part => .labelled label (simplified part)
  | rule => rule

def Rule.allSimplified : List Rule → List Rule
  | [] => []
  | p :: ps => simplified p :: allSimplified ps

/-- the alternatives added to those found before -/
def Rule.alternativesSimplified (found : List Rule) : List Rule → List Rule
  | [] => found
  | p :: ps =>
    let more :=
      match simplified p with
      | .choice qs => qs
      | q => [q]
    alternativesSimplified
      (more.foldl (fun found q => if found.any (same q) then found else found ++ [q]) found) ps
end

structure Repetitions where
  /-- what is repeated, and the name of the rule for it -/
  known : List (Rule × String)
  made : Array Definition

mutual
/-- the rule with a reference in place of each repetition; `owner` names the definition around it -/
def Rule.unrepeated (owner : String) : Rule → StateM Repetitions Rule
  | .seq parts => do pure (.seq (← allUnrepeated owner parts))
  | .choice parts => do pure (.choice (← allUnrepeated owner parts))
  | .ranked l s part => do pure (.ranked l s (← unrepeated owner part))
  | .favoured n part => do pure (.favoured n (← unrepeated owner part))
  | .shown name b part => do pure (.shown name b (← unrepeated owner part))
  | .labelled label part => do pure (.labelled label (← unrepeated owner part))
  | .many part => do
    let inner ← unrepeated owner part
    let r ← get
    match r.known.find? fun k => same k.1 inner with
    | some (_, name) => pure (.ref name)
    | none =>
      let name := owner ++ " repeated " ++ toString r.made.size
      let rule := Rule.choice [.seq [.ref name, .ref name], inner]
      set (⟨(inner, name) :: r.known, r.made.push ⟨name, true, rule⟩⟩ : Repetitions)
      pure (.ref name)
  | rule => pure rule

def Rule.allUnrepeated (owner : String) : List Rule → StateM Repetitions (List Rule)
  | [] => pure []
  | p :: ps => do
    let q ← unrepeated owner p
    let qs ← allUnrepeated owner ps
    pure (q :: qs)
end

mutual
/-- the ways through a rule, as rules without choices -/
def Rule.ways : Rule → List Rule
  | .seq parts => waysOfSeq [.nothing] parts
  | .choice parts => waysOfAll parts
  | .ranked l s part => (ways part).map (.ranked l s)
  | .favoured n part => (ways part).map (.favoured n)
  | .shown name b part => (ways part).map (.shown name b)
  | .labelled label part => (ways part).map (.labelled label)
  | rule => [rule]

/-- each of the ways so far followed by each way through the parts -/
def Rule.waysOfSeq (sofar : List Rule) : List Rule → List Rule
  | [] => sofar
  | p :: ps =>
    let ends := ways p
    waysOfSeq (sofar.flatMap fun a => ends.map fun b => .seq [a, b]) ps

def Rule.waysOfAll : List Rule → List Rule
  | [] => []
  | p :: ps => ways p ++ waysOfAll ps
end

/-! ### Productions -/

/-- a symbol in a production with what the rule says about it -/
structure Step where
  symbol : Nat
  level : Option Int
  side : Option Side
  /-- the name it is shown under, and whether that is the name of a rule -/
  shown : Option (String × Bool)
  label : Option String
  deriving DecidableEq, Repr, Inhabited

structure Production where
  head : Nat
  steps : Array Step
  weight : Int
  deriving DecidableEq, Repr, Inhabited

/-- replaces the last member -/
def mapLast {α : Type} (f : α → α) : List α → List α
  | [] => []
  | [a] => [f a]
  | a :: b :: rest => a :: mapLast f (b :: rest)

mutual
/-- the steps of a way. `around` holds what the rules around say; a rank counts for the last step
of its rule only if nothing follows the rule. -/
def Rule.steps (symbolOf : Rule → Nat) (around : Step) (isLast : Bool) : Rule → List Step
  | .nothing => []
  | .seq parts => stepsOfAll symbolOf around isLast parts
  | .ranked level side part =>
    let inner :=
      steps symbolOf { around with
        level := level.or around.level, side := side.or around.side } isLast part
    if isLast then inner
    else
      mapLast (fun s => { s with
        level := if level.isSome then around.level else s.level
        side := if side.isSome then around.side else s.side }) inner
  | .favoured _ part => steps symbolOf around isLast part
  | .shown name b part => steps symbolOf { around with shown := some (name, b) } isLast part
  | .labelled label part => steps symbolOf { around with label := some label } isLast part
  | rule => [{ around with symbol := symbolOf rule }]

def Rule.stepsOfAll (symbolOf : Rule → Nat) (around : Step) (isLast : Bool) :
    List Rule → List Step
  | [] => []
  | p :: ps =>
    steps symbolOf around (isLast && ps.isEmpty) p ++ stepsOfAll symbolOf around isLast ps
end

mutual
/-- the weight of a way that is farthest from zero, or `sofar` -/
def Rule.weight (sofar : Int) : Rule → Int
  | .seq parts => weightOfAll sofar parts
  | .favoured n part => weight (if sofar.natAbs < n.natAbs then n else sofar) part
  | .ranked _ _ part | .shown _ _ part | .labelled _ part => weight sofar part
  | _ => sofar

def Rule.weightOfAll (sofar : Int) : List Rule → Int
  | [] => sofar
  | p :: ps => weightOfAll (weight sofar p) ps
end

def Rule.productions (symbolOf : Rule → Nat) (head : Nat) (rule : Rule) : List Production :=
  let all := rule.ways.map fun way =>
    Production.mk head (way.steps symbolOf ⟨0, none, none, none, none⟩ true).toArray (way.weight 0)
  all.foldl (fun found p => if found.contains p then found else found ++ [p]) []

/-- the steps of an inlined rule in the place of a step -/
def Step.replacedBy (s : Step) (steps : List Step) : List Step :=
  mapLast (fun t => { t with level := t.level.or s.level, side := t.side.or s.side })
    (steps.map fun t => { t with shown := s.shown.or t.shown, label := s.label.or t.label })

/-- a production with its inlined rules replaced, `depth` levels deep -/
def Production.inlined (rulesOf : Nat → Option (List Production)) :
    Nat → Production → List Production
  | 0, p => [p]
  | depth + 1, p =>
    match p.steps.findIdx? fun s => (rulesOf s.symbol).isSome with
    | none => [p]
    | some i =>
      let s := p.steps.getD i default
      ((rulesOf s.symbol).getD []).flatMap fun q =>
        Production.inlined rulesOf depth
          { head := p.head
            steps := p.steps.extract 0 i ++ (s.replacedBy q.steps.toList).toArray
              ++ p.steps.extract (i + 1) p.steps.size
            weight := if q.weight.natAbs ≤ p.weight.natAbs then p.weight else q.weight }

/-! ### Languages -/

/-- a grammar with numbered symbols -/
structure Language where
  symbols : Array SymbolEntry
  /-- plain tokens are the symbols below this one; the first is the end of the text -/
  plainEnd : Nat
  /-- all tokens are the symbols below this one -/
  tokenEnd : Nat
  /-- repetitions are the symbols from this one on -/
  repetitionStart : Nat
  productions : Array Production
  /-- numbers of the productions of each symbol -/
  productionsOf : Array (List Nat)
  /-- tokens that a symbol can begin with -/
  firsts : Array SymbolSet
  word : Nat
  /-- words with tokens of their own -/
  reserved : HashMap String Nat
  extraTokens : List Nat
  extraRules : List Nat
  preferences : List (Nat × Nat)
  deriving Inhabited

namespace Language

/-- the start is the first rule -/
def start (l : Language) : Nat := l.tokenEnd

/-- stands for the end of an extra rule, after which anything can follow -/
def anything (l : Language) : Nat := l.tokenEnd

def isToken (l : Language) (n : Nat) : Bool := n < l.tokenEnd

def firstsOf (l : Language) (n : Nat) : SymbolSet := l.firsts.getD n .empty

def entry (l : Language) (n : Nat) : SymbolEntry := l.symbols.getD n default

/-- one round of learning what symbols begin with, and whether anything was learnt -/
def learnFirsts (productions : Array Production) (firsts : Array SymbolSet) :
    Array SymbolSet × Bool :=
  productions.foldl (fun (found : Array SymbolSet × Bool) p =>
    match p.steps[0]? with
    | none => found
    | some s =>
      let old := found.1.getD p.head .empty
      let new := old.union (found.1.getD s.symbol .empty)
      if new = old then found else (found.1.setIfInBounds p.head new, true)) (firsts, false)

/-- what symbols begin with after at most `fuel` rounds -/
def allFirsts (productions : Array Production) : Nat → Array SymbolSet → Array SymbolSet
  | 0, firsts => firsts
  | fuel + 1, firsts =>
    match learnFirsts productions firsts with
    | (found, true) => allFirsts productions fuel found
    | (found, false) => found

def isWordText (s : String) : Bool :=
  match s.toList with
  | c :: _ => c.isAlpha || c == '_'
  | [] => false

/-- the place of a token when the token at `word` is moved to the front -/
def placeBehindWord (i word : Nat) : Nat := if i = word then 1 else if i < word then i + 2 else i + 1

/-- definitions without repetitions, and the definitions made for those -/
def unrepeatedAll (ds : List Definition) : List Definition × List Definition :=
  let r := (ds.mapM fun d : Definition => do
    let rule ← d.rule.simplified.unrepeated d.name
    pure (Definition.mk d.name d.isHidden rule) : StateM Repetitions (List Definition)).run ⟨[], #[]⟩
  (r.1, r.2.made.toList)

structure Numbering where
  forms : HashMap Form Nat
  names : HashMap String Nat

def Numbering.symbolOf (n : Numbering) : Rule → Nat
  | .text s => n.forms.getD (.text s) 0
  | .pattern name => n.forms.getD (.pattern name) 0
  | .ref name => n.names.getD name 0
  | _ => 0

/-- the entry of a plain token, named by a definition if there is one for it -/
def tokenEntry (nameOf : HashMap Form Definition) (f : Form) : SymbolEntry :=
  match nameOf[f]?, f with
  | some d, _ => ⟨d.name, some f, !d.isHidden, !d.isHidden⟩
  | none, .text s => ⟨s, some f, true, false⟩
  | none, .pattern name => ⟨name, some f, false, false⟩

/-- productions of the definitions `ds`, whose symbols start at `first` -/
def productionsOfAll (n : Numbering) (inlined : List String) (first : Nat)
    (ds : List Definition) : List Production :=
  let made : List (String × Nat × List Production) := ds.zipIdx.map fun (d : Definition × Nat) =>
    (d.1.name, first + d.2, d.1.rule.productions n.symbolOf (first + d.2))
  let replaced : HashMap Nat (List Production) :=
    HashMap.ofList ((made.filter fun m => inlined.contains m.1).map (·.2))
  (made.filter fun m => !inlined.contains m.1).flatMap fun m =>
    m.2.2.flatMap (Production.inlined (fun s => replaced[s]?) 16)

def reservedWords (b : Rulebook) (n : Numbering) (forms : List Form) : HashMap String Nat :=
  HashMap.ofList
    (forms.filterMap (fun f =>
      match f with
      | .text s => if isWordText s then some (s, n.forms.getD f 0) else none
      | .pattern _ => none)
    ++ b.wordPatterns.flatMap fun p => p.2.map fun w => (w, n.forms.getD (.pattern p.1) 0))

/-- numbers the symbols of a grammar and makes its productions -/
def ofRulebook (b : Rulebook) : Language :=
  let counted := countForms (b.definitions.flatMap fun d => d.rule.forms)
  let counts : HashMap Form Nat := HashMap.ofList counted.toList
  let forms : List Form := counted.toList.map (·.1)
  let named : List (Definition × Form) := (b.definitions.drop 1).filterMap fun d =>
    (d.namedForm? counts).map fun f => (d, f)
  let wordForm := (named.find? fun n => n.1.name == b.word).map (·.2)
  let word := (forms.findIdx? fun f => some f == wordForm).getD 0
  let nameOf : HashMap Form Definition := HashMap.ofList (named.map fun n => (n.2, n.1))
  let ordered := (forms.drop word).take 1 ++ forms.take word ++ forms.drop (word + 1)
  let plain := ⟨"end of text", none, false, false⟩ :: ordered.map (tokenEntry nameOf)
  let special := b.special.map fun s => SymbolEntry.mk s.1 none (!s.2) (!s.2)
  let tokenEnd := plain.length + special.length
  let (taken, repetitions) := unrepeatedAll
    (b.definitions.filter fun d => !named.any fun n => n.1.name == d.name)
  let rules := taken ++ repetitions
  let symbols := (plain ++ special
    ++ taken.map (fun d => SymbolEntry.mk d.name none (!d.isHidden) true)
    ++ repetitions.map fun d => SymbolEntry.mk d.name none false false).toArray
  let formNumbers : HashMap Form Nat := HashMap.ofList
    (forms.zipIdx.map fun f => (f.1, placeBehindWord f.2 word))
  let numbering : Numbering := ⟨formNumbers, HashMap.ofList
    (named.map (fun n => (n.1.name, formNumbers.getD n.2 0))
      ++ special.zipIdx.map (fun s => (s.1.name, plain.length + s.2))
      ++ rules.zipIdx.map fun d => (d.1.name, tokenEnd + d.2))⟩
  let productions := (productionsOfAll numbering b.inlined tokenEnd rules).toArray
  let extras := b.extras.map fun name => numbering.names.getD name 0
  { symbols := symbols
    plainEnd := plain.length
    tokenEnd := tokenEnd
    repetitionStart := tokenEnd + taken.length
    productions := productions
    productionsOf := productions.toList.zipIdx.foldr
      (fun p found => found.modify p.1.head (p.2 :: ·)) (symbols.map fun _ => [])
    firsts := allFirsts productions symbols.size
      ((Array.range symbols.size).map fun n => if n < tokenEnd then .single n else .empty)
    word := 1
    reserved := reservedWords b numbering forms
    extraTokens := extras.filter (· < tokenEnd)
    extraRules := extras.filter (tokenEnd ≤ ·)
    preferences := b.preferences.map fun p =>
      (numbering.names.getD p.1 0, numbering.names.getD p.2 0) }

end Language

end EndpointScaffold.Grammar
