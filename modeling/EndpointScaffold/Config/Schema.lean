import EndpointScaffold.Config.Basic
import EndpointScaffold.Schema.Checked
import EndpointScaffold.Schema.Reader

/-!
# Settings as data

`Config.ofValue` reads settings from an object, where every field may be left out. `Config.assign`
reads one field into settings that exist. `Config.toValue` writes all fields.

Two fields are put into a normal form: a route start has no slashes at its ends, and no kind of
feature is listed twice.
-/

namespace EndpointScaffold.Config

open Data Schema Text
open Entity (NullabilityPolicy)

/-- names of the fields, in order -/
def fieldNames : List String := [
  "base_namespace", "base_entity", "models_dir", "configurations_dir", "builder_name",
  "nullability_policy", "features_dir", "route_prefix", "feature_kinds", "generate_contracts",
  "generate_mappers", "generate_validators", "generate_paging", "overwrite_existing", "run_sdk",
  "sdk_command", "template_pack", "command_timeout"]

/-! ### Readers -/

def policy : Reader NullabilityPolicy := .choice [("preserve", .preserve), ("strict", .strict)]

def kind : Reader FeatureKind := .choice (FeatureKind.all.map fun k => (k.name, k))

def routeStartOf : Reader String := fun v => (Reader.text v).map (trimOf '/')

/-- drops every item that appears before -/
def distinct {α : Type} [BEq α] (xs : List α) : List α :=
  xs.foldl (fun seen x => if seen.contains x then seen else seen ++ [x]) []

def kindsOf : Reader (List FeatureKind) := fun v => (Reader.list kind v).map distinct

/-! ### Whole settings -/

/-- reads settings from the entries of an object -/
def ofEntries (es : Entries) : Checked Config :=
  let d : Config := {}
  let c : Checked _ := .ok Config.mk
  let c := c.app (defaulted "base_namespace" .nonEmptyText d.baseNamespace es)
  let c := c.app (defaulted "base_entity" .nonEmptyText d.baseEntity es)
  let c := c.app (defaulted "models_dir" .text d.modelsFolder es)
  let c := c.app (defaulted "configurations_dir" .text d.configurationsFolder es)
  let c := c.app (defaulted "builder_name" .nonEmptyText d.builder es)
  let c := c.app (defaulted "nullability_policy" policy d.nullability es)
  let c := c.app (defaulted "features_dir" .text d.featuresFolder es)
  let c := c.app (defaulted "route_prefix" routeStartOf d.routeStart es)
  let c := c.app (defaulted "feature_kinds" kindsOf d.kinds es)
  let c := c.app (defaulted "generate_contracts" .flag d.makesContracts es)
  let c := c.app (defaulted "generate_mappers" .flag d.makesMappers es)
  let c := c.app (defaulted "generate_validators" .flag d.makesValidators es)
  let c := c.app (defaulted "generate_paging" .flag d.makesPaging es)
  let c := c.app (defaulted "overwrite_existing" .flag d.overwrites es)
  let c := c.app (defaulted "run_sdk" .flag d.runsSdk es)
  let c := c.app (defaulted "sdk_command" .nonEmptyText d.sdk es)
  let c := c.app (defaulted "template_pack" .nonEmptyText d.templatePack es)
  c.app (defaulted "command_timeout" (.optional .positive) d.timeout es)

/-- name of the record -/
def title : String := "ScaffoldConfig"

def ofValue : Reader Config := record title fieldNames ofEntries

/-- reads one field into existing settings -/
def assignField (c : Config) (name : String) (v : Value) : Checked Config :=
  .under (.field name) <|
    match name with
    | "base_namespace" => (Reader.nonEmptyText v).map fun x => { c with baseNamespace := x }
    | "base_entity" => (Reader.nonEmptyText v).map fun x => { c with baseEntity := x }
    | "models_dir" => (Reader.text v).map fun x => { c with modelsFolder := x }
    | "configurations_dir" => (Reader.text v).map fun x => { c with configurationsFolder := x }
    | "builder_name" => (Reader.nonEmptyText v).map fun x => { c with builder := x }
    | "nullability_policy" => (policy v).map fun x => { c with nullability := x }
    | "features_dir" => (Reader.text v).map fun x => { c with featuresFolder := x }
    | "route_prefix" => (routeStartOf v).map fun x => { c with routeStart := x }
    | "feature_kinds" => (kindsOf v).map fun x => { c with kinds := x }
    | "generate_contracts" => (Reader.flag v).map fun x => { c with makesContracts := x }
    | "generate_mappers" => (Reader.flag v).map fun x => { c with makesMappers := x }
    | "generate_validators" => (Reader.flag v).map fun x => { c with makesValidators := x }
    | "generate_paging" => (Reader.flag v).map fun x => { c with makesPaging := x }
    | "overwrite_existing" => (Reader.flag v).map fun x => { c with overwrites := x }
    | "run_sdk" => (Reader.flag v).map fun x => { c with runsSdk := x }
    | "sdk_command" => (Reader.nonEmptyText v).map fun x => { c with sdk := x }
    | "template_pack" => (Reader.nonEmptyText v).map fun x => { c with templatePack := x }
    | "command_timeout" =>
      (Reader.optional Reader.positive v).map fun x => { c with timeout := x }
    | name => .fault (.noSuchField name) v

def assign : Config → String → Value → Except Refusal Config := assigned title [] assignField

/-- settings as the entries of an object -/
def toEntries (c : Config) : Entries := [
  (.text "base_namespace", .text c.baseNamespace),
  (.text "base_entity", .text c.baseEntity),
  (.text "models_dir", .text c.modelsFolder),
  (.text "configurations_dir", .text c.configurationsFolder),
  (.text "builder_name", .text c.builder),
  (.text "nullability_policy", .text c.nullability.name),
  (.text "features_dir", .text c.featuresFolder),
  (.text "route_prefix", .text c.routeStart),
  (.text "feature_kinds", .list (c.kinds.map fun k => .text k.name)),
  (.text "generate_contracts", .bool c.makesContracts),
  (.text "generate_mappers", .bool c.makesMappers),
  (.text "generate_validators", .bool c.makesValidators),
  (.text "generate_paging", .bool c.makesPaging),
  (.text "overwrite_existing", .bool c.overwrites),
  (.text "run_sdk", .bool c.runsSdk),
  (.text "sdk_command", .text c.sdk),
  (.text "template_pack", .text c.templatePack),
  (.text "command_timeout", (c.timeout.map Value.float).getD .null)]

def toValue (c : Config) : Value := .object c.toEntries

end EndpointScaffold.Config
