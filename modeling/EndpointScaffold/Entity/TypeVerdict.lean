import EndpointScaffold.Text.Trim

/-!
# Columns and navigations

From the text of a property's type alone it is decided whether the property is a data column or a
reference to other entities, and whether it may be null.

A type that starts like a known collection is a collection of other entities. A type that starts
with an upper-case letter, is not generic and is no known scalar is a reference. Everything else is
a column.
-/

namespace EndpointScaffold.Entity

open Text

/-- what a declared type makes of its property -/
inductive TypeVerdict where
  | scalar
  | navigation
  | collection
  deriving DecidableEq, Repr

def TypeVerdict.name : TypeVerdict → String
  | .scalar => "scalar"
  | .navigation => "navigation"
  | .collection => "collection"

def TypeVerdict.isColumn (v : TypeVerdict) : Bool := v == .scalar

/-- how columns outside the known scalars become nullable -/
inductive NullabilityPolicy where
  /-- all of them are -/
  | preserve
  /-- only those that are spelled so -/
  | strict
  deriving DecidableEq, Repr

def NullabilityPolicy.name : NullabilityPolicy → String
  | .preserve => "preserve"
  | .strict => "strict"

def NullabilityPolicy.ofName? (s : String) : Option NullabilityPolicy :=
  [NullabilityPolicy.preserve, .strict].find? (·.name == s)

/-- types that are columns although some start with an upper-case letter -/
def knownScalars : List String := [
  "int", "string", "decimal", "float", "double", "bool", "DateTime", "Guid", "byte", "short",
  "long", "uint", "ushort", "ulong", "char", "object", "TimeSpan"]

/-- starts of the types that hold other entities -/
def collectionStarts : List String := ["ICollection<", "List<", "HashSet<", "IEnumerable<"]

def isGenericType (type : String) : Bool := type.toList.contains '<'

def TypeVerdict.of (scalars starts : List String) (type : String) : TypeVerdict :=
  if starts.any (beginsWith type) then .collection
  else if type.toList.head?.any isUpper && !isGenericType type && !scalars.contains type then
    .navigation
  else .scalar

def isSpelledNullable (type : String) : Bool :=
  let stripped := trim type
  endsWith stripped "?" || ["Nullable<", "System.Nullable<"].any (beginsWith stripped)

/-- whether a column of the type may be null; known scalars always may -/
def isNullable (scalars : List String) (policy : NullabilityPolicy) (type : String) : Bool :=
  scalars.contains type || policy == .preserve || isSpelledNullable type

end EndpointScaffold.Entity
