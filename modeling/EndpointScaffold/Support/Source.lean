import EndpointScaffold.Config.Basic
import EndpointScaffold.Entity.Basic
import EndpointScaffold.Naming.Plural
import EndpointScaffold.Text.Trim

/-!
# Generated source files

What all generated files share: where they lie, their namespaces, and the lines they begin with.
-/

namespace EndpointScaffold.Support

open Text

/-! ### Names and places -/

def entityNamespace (c : Config) (e : Entity) : String :=
  c.baseNamespace ++ "." ++ Naming.plural e.name

def validatorNamespace (c : Config) (e : Entity) : String := entityNamespace c e ++ ".Validators"

def commonNamespace (c : Config) : String := c.baseNamespace ++ ".Common"

/-- folder of generated files, without slashes at its ends -/
def baseFolder (c : Config) : String := trimOf '/' c.featuresFolder

def entityFolder (c : Config) (e : Entity) : String := baseFolder c ++ "/" ++ Naming.plural e.name

def commonFolder (c : Config) : String := baseFolder c ++ "/Common"

/-! ### Properties -/

/-- keys of an entity: the configured ones, else the property called `Id` -/
def keyProperties (e : Entity) : List Entity.Property :=
  match e.primaryKeys with
  | [] => (e.property? "Id").toList
  | keys => keys

/-- whether a property has the name of a key -/
def isKeyName (e : Entity) (p : Entity.Property) : Bool :=
  (keyProperties e).any fun k => k.name == p.name

def nonKeyProperties (e : Entity) : List Entity.Property :=
  e.properties.filter fun p => !isKeyName e p

def isTextType (type : String) : Bool := ["string", "String", "System.String"].contains type

/-! ### Lines -/

/-- lines that a file begins with: a mark, the namespaces it uses in order, and its own -/
def header (uses : List String) (space : String) : List String :=
  let sorted := (uses.mergeSort fun a b => decide (a ≤ b)).eraseDups
  ["// <auto-generated> by fescaffold </auto-generated>", ""]
    ++ sorted.map (fun u => "using " ++ u ++ ";")
    ++ (if uses.isEmpty then [] else [""])
    ++ ["namespace " ++ space ++ ";", ""]

def indented (depth : Nat) (lines : List String) : List String := indent (4 * depth) lines

/-- a file: its path below the project root, and its text -/
structure SourceFile where
  path : String
  text : String
  deriving DecidableEq, Repr

end EndpointScaffold.Support
