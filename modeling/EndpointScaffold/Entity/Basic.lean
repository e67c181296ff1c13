import EndpointScaffold.Text.Trim

/-!
# Entities

The metadata of an entity class: its name and the properties that are data columns, each with the
raw tokens of its annotations and rules.
-/

namespace EndpointScaffold.Entity

/-- token that a key declaration leaves on a property -/
def keyToken : String := "HasKey"

/-- a data column; `attributes` holds annotations first, then the tokens of fluent rules -/
structure Property where
  name : String
  type : String
  attributes : List String
  isPrimaryKey : Bool
  isNullable : Bool
  deriving DecidableEq, Repr

end EndpointScaffold.Entity

namespace EndpointScaffold

/-- an entity class and its columns in source order -/
structure Entity where
  name : String
  properties : List Entity.Property
  sourceFile : Option String
  namespaceName : Option String
  deriving DecidableEq, Repr

namespace Entity

/-- columns configured as keys -/
def primaryKeys (e : Entity) : List Property := e.properties.filter (·.isPrimaryKey)

def propertyNames (e : Entity) : List String := e.properties.map (·.name)

/-- first column called `name` -/
def property? (e : Entity) (name : String) : Option Property :=
  e.properties.find? (·.name == name)

/-! ### Short texts -/

def Property.display (p : Property) : String :=
  "<EntityProperty " ++ p.type ++ " " ++ p.name ++ (if p.isPrimaryKey then " PK" else "") ++ ">"

def display (e : Entity) : String :=
  "<EntityMetadata " ++ e.name ++ ": " ++ toString e.properties.length ++ " properties>"

end Entity

end EndpointScaffold

/-!
## Listing of entities

Entities as text for a reader: a blank line, the name, and a line for every property.
-/

namespace EndpointScaffold.Entity

open Text

def Property.listed (p : Property) : String :=
  "  └─ " ++ p.type ++ " " ++ p.name ++ " [Attributes: " ++ join ", " p.attributes ++ "]"

def listedLines (e : Entity) : List String :=
  ["", "📦 Entity: " ++ e.name] ++ e.properties.map Property.listed

/-- entities as text, in order -/
def listing (entities : List Entity) : String := ofLines (entities.flatMap listedLines)

end EndpointScaffold.Entity
