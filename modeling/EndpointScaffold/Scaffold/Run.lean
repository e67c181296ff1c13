import EndpointScaffold.Export.Batch
import EndpointScaffold.Project.Entities
import EndpointScaffold.Scaffold.Making
import EndpointScaffold.Scaffold.Report
import EndpointScaffold.Support.Files
import EndpointScaffold.Validation.Checks

/-!
# Runs

A run reads the entities of a project, validates them, plans their features, has the SDK make these,
renders the support files and exports them. In strict mode a validation error ends it before
anything is made. In a dry run nothing is made or written, and the report says what would be.

* `Stages` the results of the stages after validation;
* `run` the whole run: a report, the disk it leaves, the commands it gave and the entries it wrote.
-/

namespace EndpointScaffold.Scaffold

open Export Files Log Sdk Support Validation

structure Options where
  /-- whether a validation error ends the run -/
  isStrict : Bool := true
  isDryRun : Bool := false

/-- why a run ends without a report -/
inductive Abort where
  | unread (problem : Project.Problem)
  | sdkFailed (failure : Sdk.Failure)
  /-- the export was interrupted, which leaves a disk with some of the files -/
  | unwritten (failure : Files.Failure) (disk : Disk)

structure Run where
  report : Report
  disk : Disk
  /-- what was shown on the way -/
  echoed : List String := []

/-- whether a run that was not aborted achieved everything -/
def Report.isComplete (r : Report) (isStrict : Bool) : Bool :=
  !(isStrict && !r.validationErrors.isEmpty) && r.sdkErrors.isEmpty && r.generationErrors.isEmpty
    && r.exportErrors.isEmpty

def Report.judged (r : Report) (isStrict : Bool) : Report :=
  { r with success := r.isComplete isStrict }

/-! ### Steps of the report -/

def parseStep (entities : List Entity) : Step :=
  { name := "Parse Entities", detail := toString entities.length ++ " entities" }

def validationDetail (fs : Findings) : String :=
  if !fs.errors.isEmpty then toString fs.errors.length ++ " error(s)"
  else if !fs.warnings.isEmpty then toString fs.warnings.length ++ " warning(s)"
  else "all checks passed"

def validationStep (fs : Findings) : Step :=
  { name := "Validate Metadata", success := fs.isValid, detail := validationDetail fs }

def makingStep (m : Making) : Step :=
  { name := "SDK Feature Templates", success := m.errors.isEmpty, detail := m.detail }

def lineTotal (files : List SourceFile) : Nat :=
  files.foldr (fun f n => Text.lineCount f.text + n) 0

def renderingStep (r : Rendering) : Step :=
  { name := "Render Support Files"
    success := r.errors.isEmpty
    detail := toString r.files.length ++ " files, ~" ++ Decimal.grouped (lineTotal r.files)
      ++ " lines" }

def exportStep (o : Outcome) : Step :=
  { name := "Export to Filesystem"
    success := o.success
    detail := toString o.written.length ++ " files, " ++ Decimal.grouped o.totalBytes ++ " bytes" }

/-! ### Validation -/

/-- entries about what validation found -/
def findingEntries (fs : Findings) : List Entry :=
  (fs.notes.map fun f => ⟨.info, .generator, "  ℹ " ++ f.display⟩)
  ++ (fs.warnings.map fun f => ⟨.warning, .generator, "  ⚠ " ++ f.display⟩)
  ++ (fs.errors.map fun f => ⟨.error, .generator, "  ✗ " ++ f.display⟩)

def validation (c : Config) (entities : List Entity) : Logged Findings :=
  let found := Validation.ofProject entities c
  ⟨found.value, found.entries ++ [Entry.timed "validation"] ++ findingEntries found.value⟩

/-- the report after validation -/
def reportOfValidation (o : Options) (root : Place) (entities : List Entity) (fs : Findings) :
    Report :=
  { projectRoot := Path.ofPlaceText root
    isDryRun := o.isDryRun
    entityCount := entities.length
    validationErrors := fs.errors.map (·.display)
    validationWarnings := fs.warnings.map (·.display)
    steps := [parseStep entities, validationStep fs] }

/-! ### The stages after validation -/

def plannedFeatures (c : Config) (entities : List Entity) : List Feature :=
  entities.flatMap (Feature.planned c)

/-- exports rendered files below a root; without files nothing happens -/
def exporting (o : Options) (c : Config) (d : Disk) (root : Place) (files : List SourceFile) :
    Logged (Option Exported) :=
  if files.isEmpty then ⟨none, []⟩
  else
    let x : Exporter := ⟨root, c.overwrites, o.isDryRun⟩
    let exported := x.run d {} files
    ⟨some exported.value, exported.entries ++ [Entry.timed "export"]⟩

/-- results of the stages after validation -/
structure Stages where
  features : List Feature
  making : Option Making
  rendering : Rendering
  outcome : Option Outcome

def Report.withStages (r : Report) (s : Stages) : Report :=
  let outcome := s.outcome.getD {}
  { r with
    features := s.features
    featureCount := s.features.length
    sdkOutputs := (s.making.map (·.outputs)).getD []
    sdkErrors := (s.making.map (·.errors)).getD []
    generationErrors := s.rendering.errors
    totalLines := lineTotal s.rendering.files
    filesWritten := outcome.written.map (·.path)
    filesSkipped := outcome.skipped
    exportErrors := outcome.errors
    totalBytes := outcome.totalBytes
    steps := r.steps ++ (s.making.map makingStep).toList ++ [renderingStep s.rendering]
      ++ (s.outcome.map exportStep).toList }

/-- the SDK's part, if the settings ask for it -/
def makingIfAsked (o : Options) (c : Config) (folder : Path) (features : List Feature) :
    Dialogue (Except Sdk.Failure (Option Making)) := do
  if c.runsSdk then
    match ← making o.isDryRun c folder.text features with
    | .error f => pure (.error f)
    | .ok m =>
      Dialogue.note .debug .utils (Entry.timed "sdk").message
      pure (.ok (some m))
  else pure (.ok none)

/-- makes, renders and exports everything for entities -/
def produce (o : Options) (c : Config) (d : Disk) (folder : Path) (entities : List Entity)
    (report : Report) : Dialogue (Except Abort Run) := fun host before =>
  let features := plannedFeatures c entities
  let made := makingIfAsked o c folder features host before
  match made.value with
  | .error f => ⟨.error (.sdkFailed f), made.commands, made.entries⟩
  | .ok making =>
    let rendered := rendering c entities
    let exported := exporting o c d (folder.resolved d.here) rendered.files
    let stages : Stages := ⟨features, making, rendered, exported.value.map (·.outcome)⟩
    let disk := (exported.value.map (·.disk)).getD d
    let entries := made.entries ++ renderingEntries c entities ++ [Entry.timed "render"]
      ++ exported.entries
    match exported.value.bind (·.interruption) with
    | some f => ⟨.error (.unwritten f disk), made.commands, entries⟩
    | none =>
      ⟨.ok { report := (report.withStages stages).judged o.isStrict
             disk := disk
             echoed := (making.map (·.echoed)).getD [] },
        made.commands, entries⟩

/-! ### Whole runs -/

def flagText (b : Bool) : String := if b then "True" else "False"

def startEntry (o : Options) (c : Config) : Entry :=
  ⟨.debug, .generator, "ScaffoldGenerator initialised: strict=" ++ flagText o.isStrict
    ++ ", dry_run=" ++ flagText o.isDryRun ++ ", sdk=" ++ flagText c.runsSdk ++ "."⟩

def run (o : Options) (c : Config) (d : Disk) (folder : Path) :
    Dialogue (Except Abort Run) := fun host before =>
  let parsed := Project.entities d c folder
  let parsedEntries := parsed.entries ++ [Entry.timed "parse"]
  match parsed.value with
  | .error problem => ⟨.error (.unread problem), [], parsedEntries⟩
  | .ok entities =>
    let parsedEntries := parsedEntries ++ [⟨.info, .generator,
      "Parsed " ++ toString entities.length ++ " entities in " ++ noTime ++ "."⟩]
    let found := validation c entities
    let report := reportOfValidation o (folder.resolved d.here) entities found.value
    if o.isStrict && !found.value.isValid then
      ⟨.ok { report := report.judged o.isStrict, disk := d }, [], parsedEntries ++ found.entries⟩
    else
      let rest := produce o c d folder entities report host before
      ⟨rest.value, rest.commands, parsedEntries ++ found.entries ++ rest.entries⟩

end EndpointScaffold.Scaffold
