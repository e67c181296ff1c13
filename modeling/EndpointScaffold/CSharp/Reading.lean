import EndpointScaffold.CSharp.ClassDeclaration
import EndpointScaffold.CSharp.Interpolation
import EndpointScaffold.CSharp.Lexis
import EndpointScaffold.CSharp.Rulebook
import EndpointScaffold.CSharp.Plain.Declaration
import EndpointScaffold.Parsing.Reader

/-!
# Reading C# source

`Tree.ofSource` reads a source text: plain source directly, any other by the table of the grammar,
which gives the same tree where both can read. Every text has a tree; what does not fit the grammar
becomes damage in it.

* `Dialect` the table of the grammar, and how its tokens are found;
* `Dialect.setting` what the machine needs to read one text;
* `Dialect.tree` the tree of a text, made of the fragment that the machine has built;
* `Tree.isWellNamed` the one thing that is checked of such a tree: that classes have names.
-/

namespace EndpointScaffold.CSharp

open Grammar Parsing

/-! ### Names -/

def Kind.ofName (name : String) : Kind :=
  match name with
  | "comment" => .comment
  | "identifier" => .identifier
  | "modifier" => .modifier
  | "attributeList" => .attributeList
  | "attribute" => .attribute
  | "baseList" => .baseList
  | "namespaceDeclaration" => .namespaceDeclaration
  | "fileScopedNamespaceDeclaration" => .fileNamespace
  | "classDeclaration" => .classDeclaration
  | "propertyDeclaration" => .propertyDeclaration
  | "methodDeclaration" => .methodDeclaration
  | "block" => .block
  | "arrowClause" => .arrowClause
  | "invocationExpression" => .invocation
  | "memberAccessExpression" => .memberAccess
  | "argument" => .argument
  | _ => .other

def Label.ofName? (name : String) : Option Label :=
  match name with
  | "name" => some .name
  | "type" => some .type
  | "body" => some .body
  | "function" => some .function
  | "expression" => some .expression
  | "arguments" => some .arguments
  | _ => none

def SpecialToken.ofName? (name : String) : Option SpecialToken :=
  match name with
  | "optionalSemi" => some .optionalSemi
  | "interpolationRegularStart" => some .regularStart
  | "interpolationVerbatimStart" => some .verbatimStart
  | "interpolationRawStart" => some .rawStart
  | "interpolationStartQuote" => some .startQuote
  | "interpolationEndQuote" => some .endQuote
  | "interpolationOpenBrace" => some .openBrace
  | "interpolationCloseBrace" => some .closeBrace
  | "interpolationStringContent" => some .stringContent
  | "rawStringStart" => some .rawStringStart
  | "rawStringEnd" => some .rawStringEnd
  | "rawStringContent" => some .rawStringContent
  | _ => none

/-! ### Settings -/

/-- a grammar that is ready for reading -/
structure Dialect where
  table : Table
  lexis : Lexis
  /-- special tokens with their symbols -/
  special : List (SpecialToken × Nat)

/-- characters of names; a backslash begins one that is written by its code -/
def isNameChar (c : Char) : Bool := isNamePart c || c == '@' || c == '\\'

/-- whether the names of all classes that a tree declares are made of characters of names -/
def Tree.isWellNamed (t : Tree) : Bool :=
  t.declaredClasses.all fun c => (c.2.partText .name).toList.all isNameChar

namespace Dialect

def ofRulebook (b : Rulebook) : Dialect :=
  let table := tableOf b
  let l := table.language
  { table := table
    lexis := Lexis.ofLanguage l (b.wordPatterns.map (·.1))
    special := (b.special.zipIdx l.plainEnd).filterMap fun s =>
      (SpecialToken.ofName? s.1.1).map fun t => (t, s.2) }

def symbolOf (d : Dialect) (t : SpecialToken) : Nat :=
  ((d.special.find? fun s => s.1 == t).map (·.2)).getD 0

/-- what the machine needs to read a text -/
def setting (d : Dialect) (s : Source) : Setting Interpolation where
  table := d.table
  source := s
  recoveryTokens := d.lexis.recovery
  isSpace := isSpace
  special expects i state :=
    let sought := d.special.filter fun t => expects.contains t.2
    if sought.isEmpty then none
    else
      (Interpolation.scan s (fun t => sought.any (·.1 == t)) i state).map fun f =>
        (d.symbolOf f.token, f.start, f.stop, f.after)
  plain expects i := d.lexis.token s expects i
  reach i := d.lexis.reach s i

/-! ### Trees -/

/-- the kind of a fragment that is shown under its own name -/
def kindOf (d : Dialect) : Role → Kind
  | .damage => .damage
  | .passed => .hidden
  | .symbol n =>
    let e := d.table.language.entry n
    if !e.isVisible then .hidden else if e.isNamed then .ofName e.name else .mark

/-- the kind of a part that is shown under another name -/
def shownKind (shown : String × Bool) : Kind := if shown.2 then .ofName shown.1 else .mark

mutual
/-- the trees of a fragment. A part that is neither visible nor shown under another name gives its
own parts, labelled as it is unless they have labels of their own. Damage has no label. -/
def trees (d : Dialect) (s : Source) (shown : Option (String × Bool)) (label : Option String) :
    Fragment Interpolation → List Tree
  | .mk f ps =>
    let kind := (shown.map shownKind).getD (d.kindOf f.role)
    let own := if kind = .damage then none else label.bind Label.ofName?
    let steps := match f.reduction with
      | some r => (d.table.reductions.getD r default).parts.toList
      | none => []
    match ps with
    | [] =>
      if f.isMissing then [.missing own kind]
      else [.leaf own kind (s.slice f.before f.start) (s.slice f.start f.stop)]
    | p :: ps =>
      if kind = .hidden then allTrees d s label steps (p :: ps)
      else [.node own kind (allTrees d s none steps (p :: ps))]

/-- the trees of parts; `steps` tells how the parts to come are shown, and `label` is for those
without one of their own -/
def allTrees (d : Dialect) (s : Source) (label : Option String)
    (steps : List (Option (String × Bool) × Option String)) :
    List (Fragment Interpolation) → List Tree
  | [] => []
  | p :: ps =>
    if p.facts.isExtra then trees d s none none p ++ allTrees d s label steps ps
    else
      let step := steps.headD (none, none)
      trees d s step.1 (step.2.or label) p ++ allTrees d s label steps.tail ps
end

/-- the tree of a text; should reading come to no end, or to a class with something else than a
name for its name, all of it is damage -/
def tree (d : Dialect) (source : String) : Tree :=
  let s := Source.ofString source
  match (parse (d.setting s) Interpolation.none).map (d.trees s none none) with
  | some [t] => if t.isWellNamed then t else .leaf none .damage "" source
  | _ => .leaf none .damage "" source

end Dialect

/-- C# as the grammar has it, made ready when it is first needed -/
def dialect : Thunk Dialect := Thunk.mk fun _ => Dialect.ofRulebook rulebook

def Tree.ofSource (source : String) : Tree :=
  match Plain.tree? source with
  | some t => t
  | none => dialect.get.tree source

end EndpointScaffold.CSharp
