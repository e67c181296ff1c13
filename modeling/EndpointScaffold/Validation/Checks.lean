import EndpointScaffold.Config.Basic
import EndpointScaffold.Log.Logged
import EndpointScaffold.Naming.Identifier
import EndpointScaffold.Validation.Finding

/-!
# Checks of a project

Whether what was read from a project is safe to generate from.

* `nameProblems` names of entities are identifiers, and differ, also as plurals without regard to
  case;
* `propertyProblems` names of properties are identifiers, and differ from each other and from their
  entity;
* `keyProblems` entities without a key, or with several;
* `emptyProblems` entities without properties;
* `configProblems` settings that make no sense or lead out of the project;
* `projectProblems` all of these.
-/

namespace EndpointScaffold.Validation

open Log Text

/-! ### Entities -/

/-- plural that decides which folder an entity is generated into -/
def folderKey (e : Entity) : String := lower (Naming.plural e.name)

/-- problem of an entity after the entities `seen`, whose names are identifiers and differ -/
def nameProblem? (seen : List Entity) (e : Entity) : Option Problem :=
  if !Naming.isIdentifier e.name then some (.invalidEntityName e.name e.sourceFile)
  else
    match seen.find? fun s => s.name == e.name with
    | some first => some (.duplicateEntityName e.name e.sourceFile first.sourceFile)
    | none =>
      (seen.find? fun s => folderKey s == folderKey e).map fun first =>
        .folderClash first.name e.name e.sourceFile

/-- whether an entity is one of those that later ones are compared with -/
def countsAsSeen (seen : List Entity) (e : Entity) : Bool :=
  Naming.isIdentifier e.name && !seen.any fun s => s.name == e.name

/-- problems of names after the entities `seen` -/
def nameProblemsAfter (seen : List Entity) : List Entity → List Problem
  | [] => []
  | e :: es =>
    (nameProblem? seen e).toList
      ++ nameProblemsAfter (if countsAsSeen seen e then seen ++ [e] else seen) es

def nameProblems (entities : List Entity) : List Problem := nameProblemsAfter [] entities

/-! ### Properties -/

/-- problems of one property after properties with the names `seen` -/
def problemsOfProperty (entity : String) (seen : List String) (name : String) : List Problem :=
  (if seen.contains name then [.duplicateProperty entity name] else [])
  ++ (if !Naming.isIdentifier name then [.invalidPropertyName entity name]
      else if name == entity then [.propertyNamedAfterEntity entity name]
      else [])

def problemsOfProperties (entity : String) (seen : List String) : List String → List Problem
  | [] => []
  | name :: names =>
    problemsOfProperty entity seen name ++ problemsOfProperties entity (name :: seen) names

def propertyProblems (entities : List Entity) : List Problem :=
  entities.flatMap fun e => problemsOfProperties e.name [] e.propertyNames

/-! ### Keys -/

def keyProblem? (e : Entity) : Option Problem :=
  match e.primaryKeys with
  | [] => if (e.property? "Id").isSome then none else some (.noKey e.name)
  | [_] => none
  | keys => some (.compositeKey e.name (keys.map (·.name)))

def keyProblems (entities : List Entity) : List Problem := entities.filterMap keyProblem?

def emptyProblems (entities : List Entity) : List Problem :=
  (entities.filter (·.properties.isEmpty)).map fun e => .emptyEntity e.name

/-! ### Settings -/

/-- whether a folder setting leads out of the project, where `\` separates like `/` -/
def leavesRoot (folder : String) : Bool :=
  let cs := folder.toList.map fun c => if c == '\\' then '/' else c
  cs.head? == some '/' || (splitChars '/' cs).contains ['.', '.']

def folderProblem? (setting folder : String) : Option Problem :=
  if leavesRoot folder then some (.outsideRoot setting folder) else none

def configProblems (c : Config) : List Problem :=
  (if Naming.isNamespace c.baseNamespace then [] else [.invalidNamespace c.baseNamespace])
  ++ (if c.kinds.isEmpty then [.noFeatures] else [])
  ++ (if c.runsSdk || c.makesContracts || c.makesMappers || c.makesValidators || c.makesPaging
      then [] else [.nothingToGenerate])
  ++ (folderProblem? "models_dir" c.modelsFolder).toList
  ++ (folderProblem? "features_dir" c.featuresFolder).toList

/-! ### Everything -/

def projectProblems (entities : List Entity) (c : Config) : List Problem :=
  nameProblems entities ++ propertyProblems entities ++ keyProblems entities
    ++ emptyProblems entities ++ configProblems c
    ++ (if entities.isEmpty then [.noEntities] else [])

def ofProject (entities : List Entity) (c : Config) : Logged Findings := do
  Logged.note .info .validators
    ("Starting validation of " ++ toString entities.length ++ " entities.")
  let found : Findings := (projectProblems entities c).map Problem.finding
  Logged.noteIf (!found.isValid) .error .validators
    ("Validation FAILED with " ++ toString found.errors.length ++ " error(s). " ++ found.summary)
  Logged.noteIf found.isValid .info .validators ("Validation PASSED. " ++ found.summary)
  pure found

end EndpointScaffold.Validation
