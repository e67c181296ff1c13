import EndpointScaffold.Proofs.Export.Replay
import EndpointScaffold.Proofs.Scaffold.Commands

/-!
# How a run goes

A run ends at the reading of the entities, at the validation, at the SDK or in the export, or it comes
to its report. Only the export changes the disk.

* `diskAfter` the disk that a run leaves, however it ends;
* `batch` what the export makes of the generated files;
* `Reports` what the report says, and `Course` the ways a run can go; `course_run` one of them;
* `stopped_of_course`, `past_of_course` a run once it is known what it has read;
* `Agrees`, `agrees_of_reports` two reports about the same entities.
-/

namespace EndpointScaffold.Scaffold

open Export Files Log Sdk Support Validation

def diskAfter (d : Disk) : Except Abort Run → Disk
  | .ok r => r.disk
  | .error (.unwritten _ disk) => disk
  | .error _ => d

variable (o : Options) (c : Config) (d : Disk) (folder : Path)

def exporter (root : Place) : Exporter := ⟨root, c.overwrites, o.isDryRun⟩

/-- what the export makes of the generated files -/
def batch (root : Place) (es : List Entity) : Placed :=
  (exporter o c root).placeAll d (inOrder (rendering c es).files)

/-- what a report says about entities and the outcome of their export -/
structure Reports (c : Config) (es : List Entity) (outcome : Outcome) (r : Report) : Prop where
  features : r.features = plannedFeatures c es
  validationErrors : r.validationErrors = (ofProject es c).value.errors.map (·.display)
  validationWarnings : r.validationWarnings = (ofProject es c).value.warnings.map (·.display)
  generationErrors : r.generationErrors = (rendering c es).errors
  totalLines : r.totalLines = lineTotal (rendering c es).files
  filesWritten : r.filesWritten = outcome.written.map (·.path)
  filesSkipped : r.filesSkipped = outcome.skipped
  exportErrors : r.exportErrors = outcome.errors
  totalBytes : r.totalBytes = outcome.totalBytes

/-- the ways in which a run can go -/
inductive Course (host : Host) (before : List Command) : Except Abort Run → List Command → Prop
  | unread {problem : Project.Problem}
      (hread : (Project.entities d c folder).value = .error problem) :
      Course host before (.error (.unread problem)) []
  | stopped {es : List Entity} (hread : (Project.entities d c folder).value = .ok es)
      (hstrict : o.isStrict = true) (hinvalid : (ofProject es c).value.isValid = false) :
      Course host before
        (.ok { report := (reportOfValidation o (folder.resolved d.here) es
                (ofProject es c).value).judged o.isStrict
               disk := d }) []
  | sdkFailed {es : List Entity} {f : Sdk.Failure}
      (hread : (Project.entities d c folder).value = .ok es)
      (hvalid : o.isStrict = true → (ofProject es c).value.isValid = true)
      (hmade : (makingIfAsked o c folder (plannedFeatures c es) host before).value = .error f) :
      Course host before (.error (.sdkFailed f))
        (makingIfAsked o c folder (plannedFeatures c es) host before).commands
  | interrupted {es : List Entity} {m : Option Making} {f : Files.Failure}
      (hread : (Project.entities d c folder).value = .ok es)
      (hvalid : o.isStrict = true → (ofProject es c).value.isValid = true)
      (hmade : (makingIfAsked o c folder (plannedFeatures c es) host before).value = .ok m)
      (hbatch : (batch o c d (folder.resolved d.here) es).interruption = some f) :
      Course host before (.error (.unwritten f (batch o c d (folder.resolved d.here) es).disk))
        (makingIfAsked o c folder (plannedFeatures c es) host before).commands
  | finished {es : List Entity} {m : Option Making} {r : Run}
      (hread : (Project.entities d c folder).value = .ok es)
      (hvalid : o.isStrict = true → (ofProject es c).value.isValid = true)
      (hmade : (makingIfAsked o c folder (plannedFeatures c es) host before).value = .ok m)
      (hbatch : (batch o c d (folder.resolved d.here) es).interruption = none)
      (hdisk : r.disk = (batch o c d (folder.resolved d.here) es).disk)
      (hreport : Reports c es
        ((batch o c d (folder.resolved d.here) es).placements.foldl Outcome.add {}) r.report) :
      Course host before (.ok r)
        (makingIfAsked o c folder (plannedFeatures c es) host before).commands

/-- an export without files is one of an empty batch -/
theorem exporting_eq_batch (root : Place) (es : List Entity) :
    (((exporting o c d root (rendering c es).files).value.map (·.disk)).getD d =
        (batch o c d root es).disk) ∧
      ((exporting o c d root (rendering c es).files).value.bind (·.interruption) =
        (batch o c d root es).interruption) ∧
      (((exporting o c d root (rendering c es).files).value.map (·.outcome)).getD {} =
        (batch o c d root es).placements.foldl Outcome.add {}) := by
  rw [exporting, batch]
  -- without files no export is made at all
  cases hfiles : (rendering c es).files with
  | nil =>
    rw [inOrder, List.mergeSort_nil]
    exact ⟨rfl, rfl, rfl⟩
  | cons f fs => exact ⟨rfl, rfl, rfl⟩

variable {o c d folder} in
/-- once a run has got past its validation -/
theorem course_produce {host : Host} {before : List Command} {es : List Entity}
    (hread : (Project.entities d c folder).value = .ok es)
    (hvalid : o.isStrict = true → (ofProject es c).value.isValid = true) :
    Course o c d folder host before
      (produce o c d folder es (reportOfValidation o (folder.resolved d.here) es
        (ofProject es c).value) host before).value
      (produce o c d folder es (reportOfValidation o (folder.resolved d.here) es
        (ofProject es c).value) host before).commands := by
  obtain ⟨hdisk, hinterruption, houtcome⟩ := exporting_eq_batch o c d (folder.resolved d.here) es
  unfold produce
  cases hmade : (makingIfAsked o c folder (plannedFeatures c es) host before).value with
  | error f =>
    simp only [hmade]
    exact .sdkFailed hread hvalid hmade
  | ok m =>
    simp only [hmade, hinterruption]
    cases hbatch : (batch o c d (folder.resolved d.here) es).interruption with
    | some f =>
      simp only [hdisk]
      exact .interrupted hread hvalid hmade hbatch
    | none =>
      refine .finished hread hvalid hmade hbatch hdisk ?_
      rw [← houtcome]
      exact ⟨rfl, rfl, rfl, rfl, rfl, rfl, rfl, rfl, rfl⟩

theorem value_validation (es : List Entity) :
    (validation c es).value = (ofProject es c).value := by
  rw [validation]

/-- a run goes in one of these ways -/
theorem course_run (host : Host) (before : List Command) :
    Course o c d folder host before (run o c d folder host before).value
      (run o c d folder host before).commands := by
  unfold run
  cases hread : (Project.entities d c folder).value with
  | error problem =>
    simp only [hread]
    exact .unread hread
  | ok es =>
    simp only [hread, value_validation]
    by_cases hstop : (o.isStrict && !(ofProject es c).value.isValid) = true
    · rw [if_pos hstop]
      rw [Bool.and_eq_true, Bool.not_eq_true'] at hstop
      exact .stopped hread hstop.1 hstop.2
    · rw [if_neg hstop]
      have hvalid : o.isStrict = true → (ofProject es c).value.isValid = true := fun hstrict => by
        rw [Bool.and_eq_true, hstrict, Bool.not_eq_true'] at hstop
        exact Bool.of_not_eq_false fun hfalse => hstop ⟨rfl, hfalse⟩
      dsimp only
      exact course_produce hread hvalid

/-- a strict run that finds an error ends with its validation -/
theorem stopped_of_course {es : List Entity} {host : Host} {before : List Command}
    {result : Except Abort Run} {commands : List Command}
    (hread : (Project.entities d c folder).value = .ok es) (hstrict : o.isStrict = true)
    (hinvalid : (ofProject es c).value.isValid = false)
    (h : Course o c d folder host before result commands) :
    result = .ok { report := (reportOfValidation o (folder.resolved d.here) es
                     (ofProject es c).value).judged o.isStrict
                   disk := d } := by
  -- the courses behind the validation ask for what this run does not have
  have hpast : ∀ es', (Project.entities d c folder).value = .ok es' →
      ¬ (o.isStrict = true → (ofProject es' c).value.isValid = true) := fun es' hread' hvalid => by
    obtain rfl := Except.ok.inj (hread'.symm.trans hread)
    rw [hvalid hstrict] at hinvalid
    cases hinvalid
  cases h with
  | unread hread' =>
    rw [hread] at hread'
    cases hread'
  | stopped hread' =>
    obtain rfl := Except.ok.inj (hread'.symm.trans hread)
    rfl
  | sdkFailed hread' hvalid => exact absurd hvalid (hpast _ hread')
  | interrupted hread' hvalid => exact absurd hvalid (hpast _ hread')
  | finished hread' hvalid => exact absurd hvalid (hpast _ hread')

/-! ### Runs that get past their validation -/

section
variable {o c d folder} {es : List Entity} {m : Option Making} {host : Host} {before : List Command}
  {result : Except Abort Run} {commands : List Command}

variable (o c d folder) in
/-- what a run comes to that gets to the export: it is interrupted there, or comes to its report -/
def IsExported (es : List Entity) (result : Except Abort Run) : Prop :=
  (∃ f, (batch o c d (folder.resolved d.here) es).interruption = some f ∧
      result = .error (.unwritten f (batch o c d (folder.resolved d.here) es).disk)) ∨
    (batch o c d (folder.resolved d.here) es).interruption = none ∧
      ∃ r, result = .ok r ∧ r.disk = (batch o c d (folder.resolved d.here) es).disk ∧
        Reports c es
          ((batch o c d (folder.resolved d.here) es).placements.foldl Outcome.add {}) r.report

variable (hread : (Project.entities d c folder).value = .ok es)
  (hvalid : o.isStrict = true → (ofProject es c).value.isValid = true)

include hread hvalid

/-- the SDK fails, or the run gets to the export -/
theorem past_of_course (h : Course o c d folder host before result commands) :
    (∃ f, (makingIfAsked o c folder (plannedFeatures c es) host before).value = .error f ∧
        result = .error (.sdkFailed f)) ∨
      (∃ m, (makingIfAsked o c folder (plannedFeatures c es) host before).value = .ok m) ∧
        IsExported o c d folder es result := by
  have hsame : ∀ es', (Project.entities d c folder).value = .ok es' → es' = es := fun es' h =>
    Except.ok.inj (h.symm.trans hread)
  cases h with
  | unread hread' =>
    rw [hread] at hread'
    cases hread'
  | stopped hread' hstrict hinvalid =>
    obtain rfl := hsame _ hread'
    rw [hvalid hstrict] at hinvalid
    cases hinvalid
  | sdkFailed hread' _ hmade =>
    obtain rfl := hsame _ hread'
    exact .inl ⟨_, hmade, rfl⟩
  | interrupted hread' _ hmade hbatch =>
    obtain rfl := hsame _ hread'
    exact .inr ⟨⟨_, hmade⟩, .inl ⟨_, hbatch, rfl⟩⟩
  | finished hread' _ hmade hbatch hdisk hreport =>
    obtain rfl := hsame _ hread'
    exact .inr ⟨⟨_, hmade⟩, .inr ⟨hbatch, _, rfl, hdisk, hreport⟩⟩

variable (hmade : (makingIfAsked o c folder (plannedFeatures c es) host before).value = .ok m)

include hmade

theorem isExported_run : IsExported o c d folder es (run o c d folder host before).value := by
  rcases past_of_course hread hvalid (course_run o c d folder host before) with
    ⟨f, hfailed, -⟩ | ⟨-, hexported⟩
  · rw [hmade] at hfailed
    cases hfailed
  · exact hexported

theorem diskAfter_run : diskAfter d (run o c d folder host before).value =
    (batch o c d (folder.resolved d.here) es).disk := by
  rcases isExported_run hread hvalid hmade with ⟨f, -, hresult⟩ | ⟨-, r, hresult, hdisk, -⟩
  · rw [hresult]
    rfl
  · rw [hresult]
    exact hdisk

/-- a run whose export is not interrupted comes to its report -/
theorem report_run (hbatch : (batch o c d (folder.resolved d.here) es).interruption = none) :
    ∃ r, (run o c d folder host before).value = .ok r ∧
      r.disk = (batch o c d (folder.resolved d.here) es).disk ∧
      Reports c es
        ((batch o c d (folder.resolved d.here) es).placements.foldl Outcome.add {}) r.report := by
  rcases isExported_run hread hvalid hmade with ⟨f, hfailed, -⟩ | ⟨-, hreport⟩
  · rw [hbatch] at hfailed
    cases hfailed
  · exact hreport

/-- a run whose files are all placed reports no error of the export -/
theorem clean_run (hbatch : (batch o c d (folder.resolved d.here) es).interruption = none)
    (hproblems : (batch o c d (folder.resolved d.here) es).placements.filterMap
      Placement.problem? = []) :
    ∃ r, (run o c d folder host before).value = .ok r ∧
      r.disk = (batch o c d (folder.resolved d.here) es).disk ∧ r.report.exportErrors = [] ∧
      r.report.filesSkipped =
        (batch o c d (folder.resolved d.here) es).placements.filterMap Placement.skipped? := by
  obtain ⟨r, hr, hdisk, hreport⟩ := report_run hread hvalid hmade hbatch
  rw [foldl_add_empty] at hreport
  refine ⟨r, hr, hdisk, ?_, hreport.filesSkipped⟩
  rw [hreport.exportErrors, hproblems]
  rfl

end

/-! ### Reports -/

/-- reports that say the same about everything but the files and the SDK -/
structure Agrees (r' r : Report) : Prop where
  features : r'.features = r.features
  validationErrors : r'.validationErrors = r.validationErrors
  validationWarnings : r'.validationWarnings = r.validationWarnings
  generationErrors : r'.generationErrors = r.generationErrors

theorem agrees_of_reports {es : List Entity} {outcome outcome' : Outcome} {r r' : Report}
    (h : Reports c es outcome r) (h' : Reports c es outcome' r') : Agrees r' r where
  features := h'.features.trans h.features.symm
  validationErrors := h'.validationErrors.trans h.validationErrors.symm
  validationWarnings := h'.validationWarnings.trans h.validationWarnings.symm
  generationErrors := h'.generationErrors.trans h.generationErrors.symm

/-- a report without an error of the export is about a clean batch -/
theorem isClean_of_reports {es : List Entity} {b : Placed} {r : Report}
    (hwhole : b.interruption = none) (hreport : Reports c es (b.placements.foldl Outcome.add {}) r)
    (hexport : r.exportErrors = []) : IsClean b := by
  refine ⟨hwhole, not_failed_of_filterMap ?_⟩
  have herrors := hreport.exportErrors
  rw [hexport, foldl_add_empty] at herrors
  exact List.map_eq_nil_iff.mp herrors.symm

end EndpointScaffold.Scaffold

/-!
## What a report is made of

A run that gets past its validation reports what each stage after it came to, and every run judges its
own report: it is a success if nothing in it went wrong, where errors of the validation only count in
strict mode.

* `run_of_valid` a run past its validation, with the commands that are about its features;
* `report_of_run` the report of a run that gets to its end;
* `success_of_run`, `success_iff` the verdict.
-/

namespace EndpointScaffold.Scaffold

open Files Log Sdk Support Validation

variable {o : Options} {c : Config} {d : Disk} {folder : Path} {es : List Entity}
  {m : Option Making} {host : Host} {before : List Command} {r : Run}

/-! ### Past the validation -/

section
variable (hread : (Project.entities d c folder).value = .ok es)
  (hvalid : o.isStrict = true → (ofProject es c).value.isValid = true)

include hread hvalid

/-- a run that is not stopped by its validation goes on to make, render and export -/
theorem run_of_valid (host : Host) (before : List Command) :
    (run o c d folder host before).value =
        (produce o c d folder es (reportOfValidation o (folder.resolved d.here) es
          (ofProject es c).value) host before).value ∧
      (run o c d folder host before).commands =
        (makingIfAsked o c folder (plannedFeatures c es) host before).commands := by
  have hgo : (o.isStrict && !(ofProject es c).value.isValid) = false := by
    cases hstrict : o.isStrict with
    | true => rw [hvalid hstrict]; rfl
    | false => rfl
  unfold run
  simp only [hread, value_validation, hgo, Bool.false_eq_true, if_false, true_and]
  unfold produce
  cases hmade : (makingIfAsked o c folder (plannedFeatures c es) host before).value with
  | error f => simp only [hmade]
  | ok m =>
    simp only [hmade]
    split <;> rfl

/-- the report of a run is that of its validation, with the results of the stages after it -/
theorem report_of_run
    (hmade : (makingIfAsked o c folder (plannedFeatures c es) host before).value = .ok m)
    (hr : (run o c d folder host before).value = .ok r) :
    ∃ outcome, r.report = ((reportOfValidation o (folder.resolved d.here) es
      (ofProject es c).value).withStages
        ⟨plannedFeatures c es, m, rendering c es, outcome⟩).judged o.isStrict := by
  rw [(run_of_valid hread hvalid host before).1] at hr
  unfold produce at hr
  simp only [hmade] at hr
  split at hr
  · cases hr
  · obtain rfl := Except.ok.inj hr
    exact ⟨_, rfl⟩

end

/-! ### The verdict -/

theorem success_iff {r : Report} {isStrict : Bool} (h : r.success = r.isComplete isStrict) :
    r.success = true ↔ ¬ (isStrict = true ∧ r.validationErrors ≠ []) ∧ r.sdkErrors = [] ∧
      r.generationErrors = [] ∧ r.exportErrors = [] := by
  rw [h, Report.isComplete]
  simp only [Bool.and_eq_true, Bool.not_eq_true', Bool.and_eq_false_iff, Bool.not_eq_false',
    List.isEmpty_iff]
  cases isStrict <;> simp [and_assoc]

/-- whatever stops a run that comes to its report, it judges by the same errors -/
theorem success_of_run (hr : (run o c d folder host before).value = .ok r) :
    r.report.success = r.report.isComplete o.isStrict := by
  have hcourse := course_run o c d folder host before
  rw [hr] at hcourse
  generalize (run o c d folder host before).commands = commands at hcourse
  cases hcourse with
  | stopped => rfl
  | finished hread hvalid hmade =>
    obtain ⟨outcome, hreport⟩ := report_of_run hread hvalid hmade hr
    rw [hreport]
    rfl

end EndpointScaffold.Scaffold
