import EndpointScaffold.Entity.TypeVerdict
import EndpointScaffold.Feature.Kind

/-!
# Settings

The settings of a run: where a project keeps its sources, what is generated for it and where, and how
the SDK is called.
-/

namespace EndpointScaffold

open Entity (NullabilityPolicy)

structure Config where
  /-- namespace that all generated ones start with -/
  baseNamespace : String := "MyProject"
  /-- classes whose bases mention this are no entities -/
  baseEntity : String := "BaseEntity"
  modelsFolder : String := "Models"
  configurationsFolder : String := "Data/Configurations"
  /-- root of the chains that configure an entity -/
  builder : String := "builder"
  nullability : NullabilityPolicy := .preserve
  featuresFolder : String := "Features"
  routeStart : String := "api"
  kinds : List FeatureKind := FeatureKind.all
  makesContracts : Bool := true
  makesMappers : Bool := true
  makesValidators : Bool := true
  makesPaging : Bool := true
  /-- whether files that exist are replaced -/
  overwrites : Bool := false
  runsSdk : Bool := true
  sdk : String := "dotnet"
  templatePack : String := "FastEndpoints.TemplatePack"
  /-- seconds an SDK command may take -/
  timeout : Option Float := none

end EndpointScaffold
