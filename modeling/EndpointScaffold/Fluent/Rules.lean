import EndpointScaffold.CSharp.Chain
import EndpointScaffold.CSharp.ClassDeclaration
import EndpointScaffold.Entity.OfClass
import EndpointScaffold.Fluent.Configured
import EndpointScaffold.Fluent.Selector

/-!
# Rules of a configuration

A configuration class gives rules to the properties of one entity: `HasKey` marks the members that it
selects, and `Property` gives its member the calls that follow it in the chain. The rules of a
property are tokens in the order of the calls.

* `Rules` properties with their tokens, in the order of their first mention;
* `ofTree`, `ofSource` the entity that a text configures, and its rules.

Only the first class of a text counts, and of it the first method `Configure` that has a body.
-/

namespace EndpointScaffold.Fluent

open CSharp Log Text

/-- properties with their tokens -/
abbrev Rules := List (String × List String)

abbrev RuleMap := List (String × Rules)

/-- gives a property more tokens; a new property comes last -/
def Rules.extend (name : String) (tokens : List String) : Rules → Rules
  | [] => [(name, tokens)]
  | (n, ts) :: rest =>
    if n == name then (n, ts ++ tokens) :: rest else (n, ts) :: Rules.extend name tokens rest

/-- sets the rules of an entity; a new entity comes last -/
def RuleMap.put (entity : String) (rules : Rules) : RuleMap → RuleMap
  | [] => [(entity, rules)]
  | (e, rs) :: rest =>
    if e == entity then (e, rules) :: rest else (e, rs) :: RuleMap.put entity rules rest

/-- tokens that one chain gives to properties; none if its selector is not understood -/
def chainRules? : Chain → Option (List (String × List String))
  | [] => some []
  | s :: ss =>
    let argument := (s.arguments.bind List.head?).getD ""
    if s.name == "HasKey" then
      some ((membersOf argument).map fun m => (m, [Entity.keyToken]))
    else if s.name == "Property" then
      (memberOf? argument).map fun m => [(m, ss.map (·.text))]
    else some []

def rulesOf (chains : List Chain) : Rules :=
  (chains.flatMap fun c => (chainRules? c).getD []).foldl
    (fun rules given => Rules.extend given.1 given.2 rules) []

/-- entries about the chains that are not understood -/
def selectorEntries (chains : List Chain) : List Entry :=
  chains.filterMap fun c =>
    match chainRules? c with
    | some _ => none
    | none => some ⟨.debug, .fluent, "Unrecognised property selector: "
        ++ quoted ((c.head?.bind (·.arguments)).bind List.head? |>.getD "")⟩

/-- the entity that the tree of a text configures, and its rules; `builder` is the root of the
chains -/
def ofTree (builder : String) (t : Tree) : Logged (Option (String × Rules)) :=
  let configured : Option (ClassDeclaration × String) := do
    let c ← t.classes.head?
    let entity ← configuredEntity? c.bases
    some (c, entity)
  match configured with
  | none => ⟨none, Entity.sourceEntries t⟩
  | some (c, entity) =>
    match c.methodBody? "Configure" with
    | none => ⟨none, Entity.sourceEntries t ++ [⟨.debug, .fluent,
        entity ++ " configuration has no Configure method."⟩]⟩
    | some body =>
      let chains := chainsOf builder body
      ⟨some (entity, rulesOf chains), Entity.sourceEntries t ++ selectorEntries chains⟩

/-- the entity that a text configures, and its rules -/
def ofSource (builder source : String) : Logged (Option (String × Rules)) :=
  ofTree builder (Tree.ofSource source)

end EndpointScaffold.Fluent
