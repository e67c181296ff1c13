import EndpointScaffold.Entity.Basic
import EndpointScaffold.Schema.Checked
import EndpointScaffold.Schema.Reader

/-!
# Entities as data

Reading and writing entities and their properties as objects. The name of an entity and the name and
type of a property must not be empty.
-/

namespace EndpointScaffold.Entity

open Data Schema

/-! ### Properties -/

namespace Property

def fieldNames : List String := ["name", "type", "attributes", "is_primary_key", "is_nullable"]

def ofEntries (es : Entries) : Checked Property :=
  let p : Checked _ := .ok Property.mk
  let p := p.app (required "name" .nonEmptyText es)
  let p := p.app (required "type" .nonEmptyText es)
  let p := p.app (defaulted "attributes" (.list .text) [] es)
  let p := p.app (defaulted "is_primary_key" .flag false es)
  p.app (defaulted "is_nullable" .flag false es)

def title : String := "EntityProperty"

def ofValue : Reader Property := record title fieldNames ofEntries

def assignField (p : Property) (name : String) (v : Value) : Checked Property :=
  .under (.field name) <|
    match name with
    | "name" => (Reader.nonEmptyText v).map fun x => { p with name := x }
    | "type" => (Reader.nonEmptyText v).map fun x => { p with type := x }
    | "attributes" => (Reader.list Reader.text v).map fun x => { p with attributes := x }
    | "is_primary_key" => (Reader.flag v).map fun x => { p with isPrimaryKey := x }
    | "is_nullable" => (Reader.flag v).map fun x => { p with isNullable := x }
    | name => .fault (.noSuchField name) v

def assign : Property → String → Value → Except Refusal Property := assigned title [] assignField

def toValue (p : Property) : Value := .object [
  (.text "name", .text p.name),
  (.text "type", .text p.type),
  (.text "attributes", .list (p.attributes.map .text)),
  (.text "is_primary_key", .bool p.isPrimaryKey),
  (.text "is_nullable", .bool p.isNullable)]

end Property

/-! ### Entities -/

def fieldNames : List String := ["entity_name", "properties", "source_file", "namespace"]

def ofEntries (es : Entries) : Checked Entity :=
  let e : Checked _ := .ok Entity.mk
  let e := e.app (required "entity_name" .nonEmptyText es)
  let e := e.app (defaulted "properties" (.list Property.ofValue) [] es)
  let e := e.app (defaulted "source_file" (.optional .text) none es)
  e.app (defaulted "namespace" (.optional .text) none es)

def title : String := "EntityMetadata"

/-- names of what is worked out from the fields -/
def computedNames : List String := ["primary_keys", "property_names"]

def ofValue : Reader Entity := record title fieldNames ofEntries

def assignField (e : Entity) (name : String) (v : Value) : Checked Entity :=
  .under (.field name) <|
    match name with
    | "entity_name" => (Reader.nonEmptyText v).map fun x => { e with name := x }
    | "properties" => (Reader.list Property.ofValue v).map fun x => { e with properties := x }
    | "source_file" => (Reader.optional Reader.text v).map fun x => { e with sourceFile := x }
    | "namespace" => (Reader.optional Reader.text v).map fun x => { e with namespaceName := x }
    | name => .fault (.noSuchField name) v

def assign : Entity → String → Value → Except Refusal Entity :=
  assigned title computedNames assignField

def optionalText (s : Option String) : Value := (s.map Value.text).getD .null

def toValue (e : Entity) : Value := .object [
  (.text "entity_name", .text e.name),
  (.text "properties", .list (e.properties.map Property.toValue)),
  (.text "source_file", optionalText e.sourceFile),
  (.text "namespace", optionalText e.namespaceName)]

end EndpointScaffold.Entity
