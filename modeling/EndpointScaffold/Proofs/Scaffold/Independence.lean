import EndpointScaffold.Proofs.Scaffold.Prediction
import EndpointScaffold.Proofs.Scaffold.Protocol

/-!
# Runs with and without the SDK

What the SDK does has no influence on the support files. A run that asks it comes to the same as one
that does not: either to a report that says the same about validation and files, and leaves the same
disk, or to no report at all, for one and the same reason.

* `unasking` settings without the SDK, `entities_unasking`, `errors_unasking`, `rendering_unasking`
  what they do not change;
* `AgreesOnFiles`, `Alike` runs that come to the same; `alike_of_isExported` runs that both get
  to the export;
* `alike_of_isPrompt` a run against the same one without the SDK.
-/

namespace EndpointScaffold.Scaffold

open Files Log Sdk Support Validation

variable (c : Config) (es : List Entity)

/-! ### Settings without the SDK -/

def unasking : Config := { c with runsSdk := false }

theorem entities_unasking (d : Disk) (folder : Path) :
    Project.entities d (unasking c) folder = Project.entities d c folder := by
  unfold Project.entities Project.rules Project.scanSettings
  dsimp only [unasking]

theorem errors_append (ps qs : List Problem) :
    Findings.errors ((ps ++ qs).map Problem.finding) =
      Findings.errors (ps.map Problem.finding) ++ Findings.errors (qs.map Problem.finding) := by
  rw [List.map_append]
  exact List.filter_append _ _

/-- settings with nothing to generate only lead to a warning -/
theorem configErrors_unasking :
    Findings.errors ((configProblems (unasking c)).map Problem.finding) =
      Findings.errors ((configProblems c).map Problem.finding) := by
  have hwarning : ∀ b : Bool, Findings.errors
      ((if b = true then [] else [Problem.nothingToGenerate]).map Problem.finding) = [] :=
    fun b => by cases b <;> rfl
  rw [configProblems, configProblems]
  simp only [errors_append, hwarning]
  rfl

theorem errors_unasking :
    (ofProject es (unasking c)).value.errors = (ofProject es c).value.errors := by
  have hvalue : ∀ c, (ofProject es c).value = (projectProblems es c).map Problem.finding :=
    fun _ => rfl
  rw [hvalue, hvalue, projectProblems, projectProblems]
  simp only [errors_append, configErrors_unasking]

theorem entityFiles_unasking (e : Entity) : entityFiles (unasking c) e = entityFiles c e := by
  unfold entityFiles
  rfl

theorem rendering_unasking : rendering (unasking c) es = rendering c es := by
  have hadd : Rendering.add (unasking c) = Rendering.add c := by
    funext r e
    rw [Rendering.add, Rendering.add, entityFiles_unasking]
  rw [rendering, rendering, hadd]
  rfl

theorem batch_unasking (o : Options) (d : Disk) (root : Place) :
    batch o (unasking c) d root es = batch o c d root es := by
  rw [batch, batch, rendering_unasking]
  rfl

/-! ### Two runs -/

/-- reports that say the same about validation, generation and files -/
structure AgreesOnFiles (r' r : Report) : Prop where
  validationErrors : r'.validationErrors = r.validationErrors
  generationErrors : r'.generationErrors = r.generationErrors
  filesWritten : r'.filesWritten = r.filesWritten
  filesSkipped : r'.filesSkipped = r.filesSkipped
  exportErrors : r'.exportErrors = r.exportErrors
  totalBytes : r'.totalBytes = r.totalBytes
  totalLines : r'.totalLines = r.totalLines

/-- what two runs come to that end alike: both with a report and the same disk, or both without a
report for the same reason, which is none of the SDK -/
inductive Alike : Except Abort Run → Except Abort Run → Prop
  | reported {r' r : Run} (hdisk : r'.disk = r.disk) (hreport : AgreesOnFiles r'.report r.report) :
      Alike (.ok r') (.ok r)
  | aborted {a : Abort} (h : ∀ f, a ≠ .sdkFailed f) : Alike (.error a) (.error a)

variable {c es} {o : Options} {d : Disk} {folder : Path} {host host' : Host}
  {before before' : List Command}

theorem agreesOnFiles_of_reports {outcome : Export.Outcome} {r' r : Report}
    (h' : Reports c es outcome r') (h : Reports (unasking c) es outcome r) :
    AgreesOnFiles r' r where
  validationErrors := by rw [h'.validationErrors, h.validationErrors, errors_unasking]
  generationErrors := by rw [h'.generationErrors, h.generationErrors, rendering_unasking]
  filesWritten := h'.filesWritten.trans h.filesWritten.symm
  filesSkipped := h'.filesSkipped.trans h.filesSkipped.symm
  exportErrors := h'.exportErrors.trans h.exportErrors.symm
  totalBytes := h'.totalBytes.trans h.totalBytes.symm
  totalLines := by rw [h'.totalLines, h.totalLines, rendering_unasking]

/-- after their validation reports say nothing about files -/
theorem agreesOnFiles_of_stopped (isStrict : Bool) (o : Options) (root : Place) (es : List Entity)
    {fs' fs : Findings} (h : fs'.errors = fs.errors) :
    AgreesOnFiles ((reportOfValidation o root es fs').judged isStrict)
      ((reportOfValidation o root es fs).judged isStrict) :=
  ⟨congrArg (List.map Finding.display) h, rfl, rfl, rfl, rfl, rfl, rfl⟩

/-- only the first two questions could end a run -/
theorem makingIfAsked_of_isPrompt (h : IsPrompt c.sdk host before) (o : Options) (folder : Path)
    (features : List Feature) :
    ∃ m, (makingIfAsked o c folder features host before).value = .ok m := by
  cases hdry : o.isDryRun with
  | true => exact (makingIfAsked_dry c features hdry folder host before).2
  | false =>
    cases hasked : c.runsSdk with
    | true =>
      obtain ⟨m, hm⟩ := makeAll_of_isPrompt h folder.text features
      refine ⟨some m, ?_⟩
      rw [(makingIfAsked_asked hdry hasked folder features host before).2, hm]
      rfl
    | false => exact ⟨none, (makingIfAsked_unasked c features hasked o folder host before).2⟩

/-- runs that read the same and get to the export -/
theorem alike_of_isExported {result' result : Except Abort Run}
    (h' : IsExported o c d folder es result') (h : IsExported o (unasking c) d folder es result) :
    Alike result' result := by
  rw [IsExported, batch_unasking] at h
  rcases h' with ⟨f, hbatch, rfl⟩ | ⟨hbatch, r', rfl, hdisk', hreport'⟩
  · rcases h with ⟨f', hbatch', rfl⟩ | ⟨hbatch', -⟩
    · obtain rfl := Option.some.inj (hbatch.symm.trans hbatch')
      exact .aborted nofun
    · rw [hbatch] at hbatch'
      cases hbatch'
  · rcases h with ⟨f', hbatch', -⟩ | ⟨-, r, rfl, hdisk, hreport⟩
    · rw [hbatch] at hbatch'
      cases hbatch'
    · exact .reported (hdisk'.trans hdisk.symm) (agreesOnFiles_of_reports hreport' hreport)

/-- a run that cannot read its entities ends with that -/
theorem unread_of_course {problem : Project.Problem} {result : Except Abort Run}
    {commands : List Command} (hread : (Project.entities d c folder).value = .error problem)
    (h : Course o c d folder host before result commands) : result = .error (.unread problem) := by
  have hnone : ∀ es, (Project.entities d c folder).value ≠ .ok es := fun es hok => by
    rw [hread] at hok
    cases hok
  cases h with
  | unread hread' => rw [Except.error.inj (hread'.symm.trans hread)]
  | stopped hread' => exact absurd hread' (hnone _)
  | sdkFailed hread' => exact absurd hread' (hnone _)
  | interrupted hread' => exact absurd hread' (hnone _)
  | finished hread' => exact absurd hread' (hnone _)

/-- a run that is not ended by the SDK gets to the export -/
theorem isExported_of_made (hread : (Project.entities d c folder).value = .ok es)
    (hvalid : o.isStrict = true → (ofProject es c).value.isValid = true)
    (hmade : ∃ m, (makingIfAsked o c folder (plannedFeatures c es) host before).value = .ok m) :
    IsExported o c d folder es (run o c d folder host before).value := by
  obtain ⟨m, hm⟩ := hmade
  exact isExported_run hread hvalid hm

/-- with the SDK a run ends as without it, whatever becomes of the features -/
theorem alike_of_isPrompt (h : IsPrompt c.sdk host before) (o : Options) (d : Disk)
    (folder : Path) (host' : Host) (before' : List Command) :
    Alike (run o c d folder host before).value
      (run o (unasking c) d folder host' before').value := by
  have hcourse := course_run o c d folder host before
  have hcourse' := course_run o (unasking c) d folder host' before'
  have hsame := entities_unasking c d folder
  cases hread : (Project.entities d c folder).value with
  | error problem =>
    have hread' : (Project.entities d (unasking c) folder).value = .error problem := by
      rw [hsame]
      exact hread
    rw [unread_of_course hread hcourse, unread_of_course hread' hcourse']
    exact .aborted nofun
  | ok es =>
    have hread' : (Project.entities d (unasking c) folder).value = .ok es := by
      rw [hsame]
      exact hread
    have hverdict : (ofProject es (unasking c)).value.isValid = (ofProject es c).value.isValid := by
      rw [Findings.isValid, Findings.isValid, errors_unasking]
    by_cases hvalid : o.isStrict = true → (ofProject es c).value.isValid = true
    · have hexported := isExported_of_made hread hvalid (makingIfAsked_of_isPrompt h o folder _)
      have hvalid' : o.isStrict = true → (ofProject es (unasking c)).value.isValid = true := by
        rw [hverdict]
        exact hvalid
      have hmade' := makingIfAsked_unasked (unasking c) (plannedFeatures (unasking c) es) rfl o folder
        host' before'
      exact alike_of_isExported hexported (isExported_of_made hread' hvalid' ⟨none, hmade'.2⟩)
    · rw [Classical.not_imp, Bool.not_eq_true] at hvalid
      obtain ⟨hstrict, hinvalid⟩ := hvalid
      rw [stopped_of_course o c d folder hread hstrict hinvalid hcourse,
        stopped_of_course o (unasking c) d folder hread' hstrict (hverdict.trans hinvalid) hcourse']
      exact .reported rfl
        (agreesOnFiles_of_stopped o.isStrict o (folder.resolved d.here) es (errors_unasking c es).symm)

/-- a host without the SDK: its error is all that the second run does not have -/
theorem alike_halfExported :
    ∃ r' r, IsPrompt ({} : Config).sdk idleHost [] ∧
      (run {} {} halfExported ⟨.here, []⟩ idleHost []).value = .ok r' ∧
      (run {} (unasking {}) halfExported ⟨.here, []⟩ idleHost []).value = .ok r ∧
      Alike (.ok r') (.ok r) ∧
      r'.report.sdkErrors = ["dotnet is not installed or not in PATH."] ∧
      r.report.sdkErrors = [] := by
  have hhost : IsPrompt ({} : Config).sdk idleHost [] := ⟨nofun, nofun⟩
  have hread : (Project.entities halfExported {} ⟨.here, []⟩).value = .ok [] := by
    rw [← entities_unasking]
    exact entities_halfExported
  have hvalid : ∀ c : Config, c = {} ∨ c = unasking {} → ({} : Options).isStrict = true →
      (ofProject [] c).value.isValid = true := by
    rintro c (rfl | rfl) - <;> decide
  have hquiet := (makingIfAsked_unasked (unasking {}) (plannedFeatures (unasking {}) []) rfl {}
    ⟨.here, []⟩ idleHost []).2
  have hasked : (makingIfAsked {} {} ⟨.here, []⟩ (plannedFeatures {} []) idleHost []).value =
      .ok (some (.ofError 0 "dotnet is not installed or not in PATH.")) := rfl
  obtain ⟨hwhole, hproblems, -⟩ := batch_halfExported
  obtain ⟨r, hr, -⟩ := clean_run (o := {}) (c := unasking {}) entities_halfExported
    (hvalid _ (.inr rfl)) hquiet hwhole hproblems
  obtain ⟨outcome, hreport⟩ := report_of_run (o := {}) (c := unasking {}) entities_halfExported
    (hvalid _ (.inr rfl)) hquiet hr
  have halike := alike_of_isPrompt hhost {} halfExported ⟨.here, []⟩ idleHost []
  rw [hr] at halike
  cases hr' : (run {} {} halfExported ⟨.here, []⟩ idleHost []).value with
  | error a =>
    rw [hr'] at halike
    cases halike
  | ok r' =>
    rw [hr'] at halike
    obtain ⟨outcome', hreport'⟩ := report_of_run hread (hvalid _ (.inl rfl)) hasked hr'
    exact ⟨r', r, hhost, rfl, hr, halike, by rw [hreport']; rfl, by rw [hreport]; rfl⟩

/-- a project without its folder of entities has no report, with the SDK or without it -/
theorem unread_without_models :
    IsPrompt ({} : Config).sdk idleHost [] ∧
      ¬ ∃ r, (run {} {} ⟨⟨[]⟩, []⟩ ⟨.here, []⟩ idleHost []).value = .ok r := by
  refine ⟨⟨nofun, nofun⟩, fun ⟨r, hr⟩ => ?_⟩
  have hread : (Project.entities ⟨⟨[]⟩, []⟩ {} ⟨.here, []⟩).value = .error (.noModels "Models") := rfl
  rw [unread_of_course hread (course_run {} {} ⟨⟨[]⟩, []⟩ ⟨.here, []⟩ idleHost [])] at hr
  cases hr

end EndpointScaffold.Scaffold
