import EndpointScaffold.Config.Schema
import EndpointScaffold.Entity.Schema
import EndpointScaffold.Naming.Plural

/-!
# Features

A feature is one endpoint to be made for one entity. `planned` lists the features of an entity, one
for each kind that the settings ask for. The SDK is given a feature as arguments of its template.
-/

namespace EndpointScaffold

structure Feature where
  entityName : String
  plural : String
  kind : FeatureKind
  namespaceName : String
  verb : String
  /-- route without a leading slash -/
  route : String
  /-- folder below the project root -/
  folder : String
  deriving DecidableEq, Repr

namespace Feature

open Data Schema Text

/-! ### Planning -/

/-- route that all features of an entity start with -/
def baseRoute (c : Config) (plural : String) : String :=
  join "/" ([c.routeStart, lower plural].filter fun part => !part.isEmpty)

def ofKind (c : Config) (entityName : String) (kind : FeatureKind) : Feature :=
  let plural := Naming.plural entityName
  { entityName := entityName
    plural := plural
    kind := kind
    namespaceName := c.baseNamespace ++ "." ++ plural ++ "." ++ kind.name
    verb := kind.verb
    route := baseRoute c plural ++ kind.routeEnd
    folder := trimOf '/' c.featuresFolder ++ "/" ++ plural }

/-- the features of an entity, in the order of the kinds in the settings -/
def planned (c : Config) (e : Entity) : List Feature := c.kinds.map (ofKind c e.name)

def arguments (f : Feature) : List String :=
  ["new", "feat", "-n", f.namespaceName, "-m", f.verb, "-r", f.route, "-o", f.folder]

/-! ### Features as data -/

def fieldNames : List String := [
  "entity_name", "plural_name", "kind", "namespace", "http_method", "route", "output_dir"]

def ofEntries (es : Entries) : Checked Feature :=
  let f : Checked _ := .ok Feature.mk
  let f := f.app (required "entity_name" .text es)
  let f := f.app (required "plural_name" .text es)
  let f := f.app (required "kind" Config.kind es)
  let f := f.app (required "namespace" .text es)
  let f := f.app (required "http_method" .text es)
  let f := f.app (required "route" .text es)
  f.app (required "output_dir" .text es)

def title : String := "FeatureSpec"

def ofValue : Reader Feature := record title fieldNames ofEntries

def assignField (f : Feature) (name : String) (v : Value) : Checked Feature :=
  .under (.field name) <|
    match name with
    | "entity_name" => (Reader.text v).map fun x => { f with entityName := x }
    | "plural_name" => (Reader.text v).map fun x => { f with plural := x }
    | "kind" => (Config.kind v).map fun x => { f with kind := x }
    | "namespace" => (Reader.text v).map fun x => { f with namespaceName := x }
    | "http_method" => (Reader.text v).map fun x => { f with verb := x }
    | "route" => (Reader.text v).map fun x => { f with route := x }
    | "output_dir" => (Reader.text v).map fun x => { f with folder := x }
    | name => .fault (.noSuchField name) v

def assign : Feature → String → Value → Except Refusal Feature := assigned title [] assignField

def toValue (f : Feature) : Value := .object [
  (.text "entity_name", .text f.entityName),
  (.text "plural_name", .text f.plural),
  (.text "kind", .text f.kind.name),
  (.text "namespace", .text f.namespaceName),
  (.text "http_method", .text f.verb),
  (.text "route", .text f.route),
  (.text "output_dir", .text f.folder)]

end Feature

end EndpointScaffold
