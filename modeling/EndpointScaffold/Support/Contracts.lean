import EndpointScaffold.Support.Source

/-!
# Contracts and mappers

The classes that carry an entity in requests and responses. The request to create an entity has the
properties that are no keys; the request to update it and the response have all of them.
-/

namespace EndpointScaffold.Support

open Text

/-- a class and the properties it declares -/
structure Contract where
  name : String
  members : List Entity.Property
  deriving DecidableEq, Repr

def createRequestName (e : Entity) : String := "Create" ++ e.name ++ "Request"

def updateRequestName (e : Entity) : String := "Update" ++ e.name ++ "Request"

def responseName (e : Entity) : String := e.name ++ "Response"

def createRequest (e : Entity) : Contract := ⟨createRequestName e, nonKeyProperties e⟩

def updateRequest (e : Entity) : Contract := ⟨updateRequestName e, e.properties⟩

def response (e : Entity) : Contract := ⟨responseName e, e.properties⟩

/-- classes of an entity in the order of the file -/
def contracts (e : Entity) : List Contract := [createRequest e, updateRequest e, response e]

/-- declaration of a member; texts start empty -/
def memberLine (p : Entity.Property) : String :=
  "public " ++ p.type ++ " " ++ p.name ++ " \x7b get; set; \x7d"
    ++ (if isTextType p.type then " = string.Empty;" else "")

def Contract.lines (c : Contract) : List String :=
  ["public sealed class " ++ c.name, "\x7b"] ++ indented 1 (c.members.map memberLine) ++ ["\x7d"]

def contractsText (c : Config) (e : Entity) : String :=
  ofLines (header [] (entityNamespace c e)
    ++ List.intercalate [""] ((contracts e).map Contract.lines) ++ [""])

end EndpointScaffold.Support

/-!
## Mappers

Extension methods that take an entity to its response, make an entity from the request to create it,
and apply the request to update it. Keys are never written over.
-/

namespace EndpointScaffold.Support

open Text

/-- names that the method for new entities assigns -/
def createdNames (e : Entity) : List String := (nonKeyProperties e).map (·.name)

/-- names that the method for changed entities assigns -/
def updatedNames (e : Entity) : List String := (nonKeyProperties e).map (·.name)

/-- names that the method for responses assigns -/
def respondedNames (e : Entity) : List String := e.properties.map (·.name)

/-- a method that makes an object and fills it from `source` -/
def makingMethod (heading made source : String) (names : List String) : List String :=
  [heading, "\x7b", "    return new " ++ made, "    \x7b"]
    ++ indented 2 (names.map fun n => n ++ " = " ++ source ++ "." ++ n ++ ",")
    ++ ["    \x7d;", "\x7d"]

def toEntityLines (e : Entity) : List String :=
  makingMethod
    ("public static " ++ e.name ++ " ToEntity(this " ++ createRequestName e ++ " request)")
    e.name "request" (createdNames e)

def applyToLines (e : Entity) : List String :=
  ["public static void ApplyTo(this " ++ updateRequestName e ++ " request, " ++ e.name
      ++ " entity)", "\x7b"]
    ++ indented 1 ((updatedNames e).map fun n => "entity." ++ n ++ " = request." ++ n ++ ";")
    ++ ["\x7d"]

def toResponseLines (e : Entity) : List String :=
  makingMethod
    ("public static " ++ responseName e ++ " ToResponse(this " ++ e.name ++ " entity)")
    (responseName e) "entity" (respondedNames e)

/-- namespaces that the mapper uses: the one of the entity, unless it is its own -/
def mapperUses (c : Config) (e : Entity) : List String :=
  match e.namespaceName with
  | some space => if space.isEmpty || space == entityNamespace c e then [] else [space]
  | none => []

def mapperText (c : Config) (e : Entity) : String :=
  ofLines (header (mapperUses c e) (entityNamespace c e)
    ++ ["public static class " ++ e.name ++ "Mapper", "\x7b"]
    ++ indented 1 (toEntityLines e ++ [""] ++ applyToLines e ++ [""] ++ toResponseLines e)
    ++ ["\x7d", ""])

end EndpointScaffold.Support
