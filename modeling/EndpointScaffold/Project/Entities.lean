import EndpointScaffold.Config.Basic
import EndpointScaffold.Encoding.SourceText
import EndpointScaffold.Entity.Merge
import EndpointScaffold.Files.Pattern
import EndpointScaffold.Log.Logged

/-!
# Sources and entities of a project

The source files of a folder, and their text. A file that cannot be read is left out, and bytes that
encode nothing are replaced; both are worth a warning and neither costs any other file.
-/

namespace EndpointScaffold.Project

open Encoding Files Log

/-- source files below a folder, in the order of their paths -/
def sourceFiles (d : Disk) (folder : Path) : Except Failure (List Path) :=
  d.filesFitting folder ["*.cs"]

def damageEntries (name : String) (bytes : List UInt8) : List Entry :=
  match sourceDefect? bytes with
  | none => []
  | some defect => [⟨.warning, .scanner, name ++ " is not valid " ++ (charsetOf bytes).name ++ " ("
      ++ defect.message ++ "); invalid bytes replaced."⟩]

/-- text of a source file, if it can be read -/
def readSource (d : Disk) (p : Path) : Logged (Option String) :=
  match d.read p with
  | .ok bytes => ⟨some (sourceText bytes), damageEntries p.name bytes⟩
  | .error f => ⟨none, [⟨.warning, .scanner,
      "Skipping unreadable source file " ++ p.text ++ ": " ++ f.message⟩]⟩

end EndpointScaffold.Project

/-!
## Entities of a project

A project keeps its entities in one folder and their configurations in another. The entities are
those of all source files, in the order of the files, with the rules of the configurations added.

* `scan` the entities of a folder, which has to be there;
* `rulesOfFiles` the rules of configuration files, where a later file replaces what an earlier one
  says about the same entity;
* `entities` both together.
-/

namespace EndpointScaffold.Project

open Entity Files Fluent Log Schema

/-- why a project has no entities -/
inductive Problem where
  /-- the folder of the entities is not there -/
  | noModels (folder : String)
  /-- a class cannot be made an entity -/
  | unfit (issues : List Issue)
  /-- it cannot be told whether a folder is there -/
  | unreadable (failure : Failure)

def noModelsMessage (folder : String) : String := "Models folder not found: " ++ folder

/-! ### Scanning -/

def scanFile (d : Disk) (s : ScanSettings) (p : Path) : Logged (Except Problem (List Entity)) := do
  match ← readSource d p with
  | none => pure (.ok [])
  | some source =>
    match ← Entity.ofSource s (some p.text) source with
    | .error issues => pure (.error (.unfit issues))
    | .ok found =>
      Logged.note .debug .scanner (p.name ++ ": " ++ toString found.length ++ " entit(ies).")
      pure (.ok found)

/-- entities of source files, up to the first that cannot be made -/
def scanFiles (d : Disk) (s : ScanSettings) : List Path → Logged (Except Problem (List Entity))
  | [] => pure (.ok [])
  | p :: ps => do
    match ← scanFile d s p with
    | .error problem => pure (.error problem)
    | .ok found =>
      match ← scanFiles d s ps with
      | .error problem => pure (.error problem)
      | .ok others => pure (.ok (found ++ others))

def scan (d : Disk) (s : ScanSettings) (folder : Path) :
    Logged (Except Problem (List Entity)) := do
  match d.isFolder folder, sourceFiles d folder with
  | .ok true, .ok files =>
    Logged.note .info .scanner
      ("Scanning " ++ toString files.length ++ " model file(s) under " ++ folder.text ++ ".")
    scanFiles d s files
  | .ok false, _ => pure (.error (.noModels folder.text))
  | .error f, _ => pure (.error (.unreadable f))
  | _, .error f => pure (.error (.unreadable f))

/-! ### Rules -/

def addRulesOfFile (d : Disk) (builder : String) (rules : RuleMap) (p : Path) :
    Logged RuleMap := do
  match ← readSource d p with
  | none => pure rules
  | some source =>
    match ← Fluent.ofSource builder source with
    | none => pure rules
    | some (entity, found) =>
      Logged.noteIf (rules.lookup entity).isSome .info .fluent
        (entity ++ " configured again in " ++ p.name ++ "; earlier rules replaced.")
      pure (RuleMap.put entity found rules)

def rulesOfFiles (d : Disk) (builder : String) (files : List Path) : Logged RuleMap :=
  files.foldlM (addRulesOfFile d builder) []

/-- rules of a project; none without configurations -/
def rules (d : Disk) (c : Config) (root : Path) : Logged (Except Problem RuleMap) := do
  let folder := root.below c.configurationsFolder
  match sourceFiles d folder with
  | .error f => pure (.error (.unreadable f))
  | .ok [] =>
    Logged.note .info .generator ("No configuration files under " ++ folder.text ++ ".")
    pure (.ok [])
  | .ok files =>
    Logged.note .info .generator
      ("Reading " ++ toString files.length ++ " configuration file(s) under " ++ folder.text ++ ".")
    let found ← rulesOfFiles d c.builder files
    pure (.ok found)

/-! ### Everything -/

def scanSettings (c : Config) : ScanSettings := ⟨c.baseEntity, c.nullability⟩

/-- entities of a project with their rules -/
def entities (d : Disk) (c : Config) (root : Path) : Logged (Except Problem (List Entity)) := do
  match ← scan d (scanSettings c) (root.below c.modelsFolder) with
  | .error problem => pure (.error problem)
  | .ok found =>
    match ← rules d c root with
    | .error problem => pure (.error problem)
    | .ok rules =>
      let merged ← Entity.merge rules found
      pure (.ok merged)

end EndpointScaffold.Project
