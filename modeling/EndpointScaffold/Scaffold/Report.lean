import EndpointScaffold.Decimal.Notation
import EndpointScaffold.Feature.Basic
import EndpointScaffold.Text.Trim
import EndpointScaffold.Text.Quoted

/-!
# Reports

A report says what a run did: its steps, the features it planned, the files it wrote, and everything
that went wrong. `Report.summary` is the report as text.
-/

namespace EndpointScaffold.Scaffold

open Text

structure Step where
  name : String := ""
  success : Bool := true
  /-- seconds -/
  elapsed : Float := 0.0
  detail : String := ""

structure Report where
  success : Bool := false
  projectRoot : String := ""
  isDryRun : Bool := false
  entityCount : Int := 0
  featureCount : Int := 0
  totalBytes : Int := 0
  totalLines : Int := 0
  /-- seconds -/
  elapsed : Float := 0.0
  steps : List Step := []
  features : List Feature := []
  /-- namespaces of features with what the SDK printed for them -/
  sdkOutputs : List (String × String) := []
  filesWritten : List String := []
  filesSkipped : List String := []
  validationErrors : List String := []
  validationWarnings : List String := []
  sdkErrors : List String := []
  generationErrors : List String := []
  exportErrors : List String := []

/-! ### Summary -/

def doubleRule : String := String.ofList (List.replicate 60 '=')

def rule : String := String.ofList (List.replicate 60 '─')

def seconds (x : Float) : String := Decimal.fixed 3 x

def Step.line (s : Step) : String :=
  "    " ++ (if s.success then "✓" else "✗") ++ " " ++ padRight 28 s.name ++ " "
    ++ padLeft 7 (seconds s.elapsed) ++ "s  " ++ s.detail

def Report.status (r : Report) : String :=
  (if r.success then "✅ SUCCESS" else "❌ FAILED") ++ (if r.isDryRun then " (dry run)" else "")

/-- a rule, a title with the number of items, and the items; nothing without items -/
def sectionLines (title mark : String) (items : List String) : List String :=
  if items.isEmpty then []
  else [rule, "  " ++ title ++ " (" ++ toString items.length ++ "):"]
    ++ items.map fun item => "    " ++ mark ++ " " ++ item

def Report.summaryLines (r : Report) : List String :=
  [doubleRule, "  fescaffold - Scaffold Report", doubleRule,
    "  Status:           " ++ r.status,
    "  Project root:     " ++ r.projectRoot,
    "  Entities:         " ++ toString r.entityCount,
    "  Features planned: " ++ toString r.featureCount,
    "  Files written:    " ++ toString r.filesWritten.length,
    "  Files skipped:    " ++ toString r.filesSkipped.length,
    "  Total lines:      " ++ Decimal.grouped r.totalLines,
    "  Total time:       " ++ seconds r.elapsed ++ "s",
    rule]
  ++ (if r.steps.isEmpty then [] else "  Pipeline Steps:" :: r.steps.map Step.line)
  ++ sectionLines "Validation Errors" "✗" r.validationErrors
  ++ sectionLines "Validation Warnings" "⚠" r.validationWarnings
  ++ sectionLines "SDK Errors" "✗" r.sdkErrors
  ++ sectionLines "Generation Errors" "✗" r.generationErrors
  ++ sectionLines "Export Errors" "✗" r.exportErrors
  ++ sectionLines "Skipped Files" "⊘" r.filesSkipped
  ++ [doubleRule]

def Report.summary (r : Report) : String := ofLines r.summaryLines

end EndpointScaffold.Scaffold
