import EndpointScaffold.Data.Value
import EndpointScaffold.Entity.Schema
import EndpointScaffold.Naming.Plural
import EndpointScaffold.Text.Trim

/-!
# Findings and problems

A finding has a severity, a code, a message and a context that names what it is about. A list of
findings is a result: it is valid if no finding is an error.
-/

namespace EndpointScaffold.Validation

open Data

inductive Severity where
  | error
  | warning
  | info
  deriving DecidableEq, Repr

def Severity.name : Severity → String
  | .error => "error"
  | .warning => "warning"
  | .info => "info"

def Severity.label : Severity → String
  | .error => "ERROR"
  | .warning => "WARNING"
  | .info => "INFO"

structure Finding where
  severity : Severity
  code : String
  message : String
  context : List (Value × Value)

def Finding.display (f : Finding) : String :=
  "[" ++ f.severity.label ++ "] " ++ f.code ++ ": " ++ f.message

/-- findings in the order in which they were made -/
abbrev Findings := List Finding

namespace Findings

def ofSeverity (s : Severity) (fs : Findings) : Findings := fs.filter (·.severity == s)

def errors (fs : Findings) : Findings := ofSeverity .error fs

def warnings (fs : Findings) : Findings := ofSeverity .warning fs

def notes (fs : Findings) : Findings := ofSeverity .info fs

def isValid (fs : Findings) : Bool := (errors fs).isEmpty

def summary (fs : Findings) : String :=
  "Validation: " ++ toString (errors fs).length ++ " error(s), "
    ++ toString (warnings fs).length ++ " warning(s), "
    ++ toString fs.length ++ " total item(s)."

end Findings

end EndpointScaffold.Validation

/-!
## Problems of a project

What can be wrong with the entities and the settings of a project, or be worth a word. Each problem
has one finding.
-/

namespace EndpointScaffold.Validation

open Data Text

inductive Problem where
  | invalidEntityName (name : String) (file : Option String)
  | duplicateEntityName (name : String) (file first : Option String)
  /-- two entities whose plurals differ at most in case -/
  | folderClash (first name : String) (file : Option String)
  | duplicateProperty (entity property : String)
  | invalidPropertyName (entity property : String)
  | propertyNamedAfterEntity (entity property : String)
  | compositeKey (entity : String) (keys : List String)
  | noKey (entity : String)
  | emptyEntity (entity : String)
  | invalidNamespace (name : String)
  | noFeatures
  | nothingToGenerate
  /-- a folder setting that leads out of the project -/
  | outsideRoot (setting folder : String)
  | noEntities
  deriving DecidableEq, Repr

namespace Problem

def severity : Problem → Severity
  | .compositeKey _ _ => .info
  | .emptyEntity _ => .info
  | .noKey _ => .warning
  | .noFeatures => .warning
  | .nothingToGenerate => .warning
  | .noEntities => .warning
  | _ => .error

def code : Problem → String
  | .invalidEntityName _ _ => "INVALID_ENTITY_NAME"
  | .duplicateEntityName _ _ _ => "DUPLICATE_ENTITY_NAME"
  | .folderClash _ _ _ => "FEATURE_FOLDER_CLASH"
  | .duplicateProperty _ _ => "DUPLICATE_PROPERTY_NAME"
  | .invalidPropertyName _ _ => "INVALID_PROPERTY_NAME"
  | .propertyNamedAfterEntity _ _ => "PROPERTY_NAMED_AFTER_ENTITY"
  | .compositeKey _ _ => "COMPOSITE_PRIMARY_KEY"
  | .noKey _ => "NO_PRIMARY_KEY"
  | .emptyEntity _ => "EMPTY_ENTITY"
  | .invalidNamespace _ => "INVALID_NAMESPACE"
  | .noFeatures => "NO_FEATURES"
  | .nothingToGenerate => "NOTHING_TO_GENERATE"
  | .outsideRoot _ _ => "PATH_OUTSIDE_ROOT"
  | .noEntities => "NO_ENTITIES"

def message : Problem → String
  | .invalidEntityName name _ => "Entity name '" ++ name ++ "' is not a valid identifier."
  | .duplicateEntityName name _ _ => "Entity '" ++ name ++ "' is declared more than once."
  | .folderClash first name _ =>
    "Entities '" ++ first ++ "' and '" ++ name ++ "' both scaffold into '"
      ++ Naming.plural name ++ "'."
  | .duplicateProperty entity property =>
    "'" ++ entity ++ "." ++ property ++ "' is declared more than once."
  | .invalidPropertyName entity property =>
    "'" ++ entity ++ "." ++ property ++ "' is not a valid identifier."
  | .propertyNamedAfterEntity _ property =>
    "Property '" ++ property
      ++ "' has the same name as its entity; generated contracts would not compile."
  | .compositeKey entity keys =>
    "Entity '" ++ entity ++ "' has a composite key: " ++ join ", " keys
  | .noKey entity =>
    "Entity '" ++ entity
      ++ "' has no configured key and no 'Id' property; id routes will not bind to a field."
  | .emptyEntity entity => "Entity '" ++ entity ++ "' has no eligible properties."
  | .invalidNamespace name =>
    "Base namespace '" ++ name ++ "' is not a valid dotted identifier."
  | .noFeatures => "No feature kinds are enabled; only shared files will be written."
  | .nothingToGenerate => "Every generation step is disabled."
  | .outsideRoot setting folder =>
    "'" ++ setting ++ "' must stay inside the project root: " ++ folder
  | .noEntities => "No entity classes were found; nothing will be scaffolded."

/-- an entity and the file it comes from, if that is known -/
def placeOf (name : String) (file : Option String) : List (Value × Value) :=
  (.text "entity", .text name) ::
    match file with
    | some f => if f.isEmpty then [] else [(.text "file", .text f)]
    | none => []

def context : Problem → List (Value × Value)
  | .invalidEntityName name file => placeOf name file
  | .duplicateEntityName name file first =>
    placeOf name file ++ [(.text "first_file", Entity.optionalText first)]
  | .folderClash _ name file => placeOf name file
  | .duplicateProperty entity property =>
    [(.text "entity", .text entity), (.text "property", .text property)]
  | .invalidPropertyName entity property =>
    [(.text "entity", .text entity), (.text "property", .text property)]
  | .propertyNamedAfterEntity entity property =>
    [(.text "entity", .text entity), (.text "property", .text property)]
  | .compositeKey entity _ => [(.text "entity", .text entity)]
  | .noKey entity => [(.text "entity", .text entity)]
  | .emptyEntity entity => [(.text "entity", .text entity)]
  | .invalidNamespace name => [(.text "base_namespace", .text name)]
  | .outsideRoot setting folder => [(.text setting, .text folder)]
  | .noFeatures => []
  | .nothingToGenerate => []
  | .noEntities => []

def finding (p : Problem) : Finding := ⟨p.severity, p.code, p.message, p.context⟩

end Problem

end EndpointScaffold.Validation
