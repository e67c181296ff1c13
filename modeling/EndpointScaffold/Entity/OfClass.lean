import EndpointScaffold.CSharp.ClassDeclaration
import EndpointScaffold.CSharp.Reading
import EndpointScaffold.Entity.Schema
import EndpointScaffold.Entity.TypeVerdict
import EndpointScaffold.Log.Logged

/-!
# Entities of a source text

A class is an entity if it is not abstract and none of its bases mentions the base entity. Of its
properties those are kept that are public and whose type makes them columns; where a name repeats,
the first such property wins.

* `isEntity`, `columns` the two selections;
* `ofDeclarations`, `ofClass` the entity of a class;
* `ofTree`, `ofSource` all entities of a source text, in source order.

Source may be broken so that a kept property lacks its name or its type. Such a property is reported
as an issue, and no entity is made.
-/

namespace EndpointScaffold.Entity

open CSharp Log Schema Text

/-- how classes are read -/
structure ScanSettings where
  /-- classes whose bases mention this are no entities -/
  baseEntity : String := "BaseEntity"
  nullability : NullabilityPolicy := .preserve

def isEntity (baseEntity : String) (c : ClassDeclaration) : Bool :=
  !c.isAbstract && !c.bases.any fun b => mentions b baseEntity

def verdictOf (p : PropertyDeclaration) : TypeVerdict :=
  TypeVerdict.of knownScalars collectionStarts p.type

/-- whether a property can be a column -/
def isEligible (p : PropertyDeclaration) : Bool := p.isPublic && (verdictOf p).isColumn

/-- keeps the first of each name; `seen` holds the names already taken -/
def firstOfEachName (seen : List String) : List PropertyDeclaration → List PropertyDeclaration
  | [] => []
  | p :: ps =>
    if seen.contains p.name then firstOfEachName seen ps
    else p :: firstOfEachName (p.name :: seen) ps

def columns (ps : List PropertyDeclaration) : List PropertyDeclaration :=
  firstOfEachName [] (ps.filter isEligible)

/-- the column that a property declares; its name and type must not be empty -/
def columnOf (policy : NullabilityPolicy) (p : PropertyDeclaration) : Checked Property :=
  let make := fun name type : String =>
    Property.mk name type p.attributes false (Entity.isNullable knownScalars policy p.type)
  let c : Checked _ := .ok make
  let c := c.app (.under (.field "name") (Reader.nonEmptyText (.text p.name)))
  c.app (.under (.field "type") (Reader.nonEmptyText (.text p.type)))

/-! ### What is skipped -/

/-- entries about the properties that are left out; `seen` holds the names already taken -/
def skippedEntries (entity : String) (seen : List String) :
    List PropertyDeclaration → List Entry
  | [] => []
  | p :: ps =>
    let place := entity ++ "." ++ p.name
    if !p.isPublic then skippedEntries entity seen ps
    else if !(verdictOf p).isColumn then
      ⟨.debug, .scanner, place ++ " skipped as " ++ (verdictOf p).name ++ " property (" ++ p.type
        ++ ")."⟩ :: skippedEntries entity seen ps
    else if seen.contains p.name then
      ⟨.debug, .scanner, place ++ " declared more than once; keeping the first."⟩ ::
        skippedEntries entity seen ps
    else skippedEntries entity (p.name :: seen) ps

/-! ### Entities -/

def ofDeclarations (policy : NullabilityPolicy) (file : Option String) (c : ClassDeclaration)
    (declarations : List PropertyDeclaration) : Checked Entity :=
  ((columns declarations).mapM (columnOf policy)).map fun ps =>
    { name := c.name, properties := ps, sourceFile := file, namespaceName := c.namespaceName }

def ofClass (policy : NullabilityPolicy) (file : Option String) (c : ClassDeclaration) :
    Checked Entity := ofDeclarations policy file c c.properties

/-- entities of the classes of a text -/
def ofClasses (s : ScanSettings) (file : Option String) (classes : List ClassDeclaration) :
    Checked (List Entity) :=
  (classes.filter (isEntity s.baseEntity)).mapM (ofClass s.nullability file)

def classEntries (s : ScanSettings) (c : ClassDeclaration) : List Entry :=
  if isEntity s.baseEntity c then skippedEntries c.name [] c.properties
  else [⟨.debug, .scanner,
    "Class " ++ c.name ++ " skipped (abstract or derives from " ++ s.baseEntity ++ ")."⟩]

/-- entries about a source text that was read -/
def sourceEntries (t : Tree) : List Entry :=
  (if t.hasDamage then [⟨.debug, .syntaxReader,
    "Source contains syntax errors; parsing what is recoverable."⟩] else [])
  ++ t.incompleteClasses.map fun name =>
    ⟨.debug, .syntaxReader, "Class " ++ quoted name ++ " has no name or body; skipped."⟩

/-- entities of the tree of a source text, in source order -/
def ofTree (s : ScanSettings) (file : Option String) (t : Tree) : Logged (Checked (List Entity)) :=
  ⟨ofClasses s file t.classes, sourceEntries t ++ t.classes.flatMap (classEntries s)⟩

/-- entities of a source text, in source order -/
def ofSource (s : ScanSettings) (file : Option String) (source : String) :
    Logged (Checked (List Entity)) := ofTree s file (Tree.ofSource source)

end EndpointScaffold.Entity
