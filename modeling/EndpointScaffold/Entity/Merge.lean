import EndpointScaffold.Fluent.Rules

/-!
# Entities with rules

The rules of an entity are added to its properties: the tokens come after the annotations, and a key
token makes the property a key. Nothing else of an entity changes, and entities without rules stay
as they are.
-/

namespace EndpointScaffold.Entity

open Fluent Log

def Property.addTokens (p : Property) (tokens : List String) : Property :=
  { p with
    attributes := p.attributes ++ tokens
    isPrimaryKey := p.isPrimaryKey || tokens.contains keyToken }

/-- gives tokens to the first property called `name` -/
def addTokensTo (name : String) (tokens : List String) : List Property → List Property
  | [] => []
  | p :: ps => if p.name == name then p.addTokens tokens :: ps else p :: addTokensTo name tokens ps

def addRules (rules : Rules) (e : Entity) : Entity :=
  { e with properties := rules.foldl (fun ps r => addTokensTo r.1 r.2 ps) e.properties }

def addRulesOf (rules : RuleMap) (e : Entity) : Entity :=
  match rules.lookup e.name with
  | some rs => e.addRules rs
  | none => e

/-- texts in order, without repetition -/
def sortedTexts (xs : List String) : List String :=
  (xs.mergeSort fun a b => decide (a ≤ b)).eraseDups

/-- configured properties that the entity does not have -/
def unknownEntries (rules : RuleMap) (e : Entity) : List Entry :=
  ((rules.lookup e.name).getD []).filterMap fun r =>
    if (e.property? r.1).isSome then none
    else some ⟨.debug, .merge,
      e.name ++ ": configured property " ++ r.1 ++ " is not a scanned column."⟩

/-- all entities with their rules added, in the same order -/
def merge (rules : RuleMap) (entities : List Entity) : Logged (List Entity) :=
  let unmatched := sortedTexts
    ((rules.map (·.1)).filter fun name => !entities.any fun e => e.name == name)
  let matched := (entities.filter fun e => (rules.lookup e.name).isSome).length
  ⟨entities.map (addRulesOf rules),
    entities.flatMap (unknownEntries rules)
    ++ (if unmatched.isEmpty then [] else [⟨.info, .merge,
      "Configurations without a scanned entity: " ++ Text.join ", " unmatched⟩])
    ++ [⟨.debug, .merge, "Merged fluent rules into " ++ toString matched ++ "/"
      ++ toString entities.length ++ " entities."⟩]⟩

end EndpointScaffold.Entity
