import EndpointScaffold.Proofs.Entity.Names
import EndpointScaffold.Proofs.Scaffold.Course
import EndpointScaffold.Proofs.Support.Targets

/-!
# What a dry run predicts

A run for show says beforehand what a real one would report, whatever the SDK replies, as long as the
real run comes to its report and exports without an error.

* `Predicts` reports that say the same about everything but the SDK;
* `predicts_of_run` a dry run against the real one.
-/

namespace EndpointScaffold.Scaffold

open Export Files Log Sdk Support Validation

/-- a report that says the same as another one about everything but the SDK -/
structure Predicts (r' r : Report) : Prop extends Agrees r' r where
  filesWritten : r'.filesWritten = r.filesWritten
  filesSkipped : r'.filesSkipped = r.filesSkipped
  totalBytes : r'.totalBytes = r.totalBytes
  totalLines : r'.totalLines = r.totalLines

variable {c : Config} {d : Disk} {folder : Path}

theorem predicts_of_reports {es : List Entity} {outcome : Outcome} {r r' : Report}
    (h : Reports c es outcome r) (h' : Reports c es outcome r') : Predicts r' r where
  toAgrees := agrees_of_reports c h h'
  filesWritten := h'.filesWritten.trans h.filesWritten.symm
  filesSkipped := h'.filesSkipped.trans h.filesSkipped.symm
  totalBytes := h'.totalBytes.trans h.totalBytes.symm
  totalLines := h'.totalLines.trans h.totalLines.symm

/-- a clean batch is placed likewise for show -/
theorem batch_simulated (hd : d.tree.IsProper) {isStrict : Bool} {root : Place} {es : List Entity}
    (hread : (Project.entities d c folder).value = .ok es)
    (h : IsClean (batch ⟨isStrict, false⟩ c d root es)) :
    batch ⟨isStrict, true⟩ c d root es =
      { disk := d, placements := (batch ⟨isStrict, false⟩ c d root es).placements } :=
  placeAll_simulated (x := exporter ⟨isStrict, false⟩ c root) hd
    (pairwise_apart _ (Project.isStem_of_entities hread)) h

/-- a dry run comes to a report that says the same as that of the real run, if this one exports
without an error; the two may have different hosts, for the dry run gives no command -/
theorem predicts_of_run (hd : d.tree.IsProper) {isStrict : Bool} {host : Host}
    {before : List Command} {r : Run}
    (hreal : (run ⟨isStrict, false⟩ c d folder host before).value = .ok r)
    (hexport : r.report.exportErrors = []) (host' : Host) (before' : List Command) :
    ∃ r', (run ⟨isStrict, true⟩ c d folder host' before').value = .ok r' ∧
      Predicts r'.report r.report := by
  have hcourse := course_run ⟨isStrict, false⟩ c d folder host before
  have hcourse' := course_run ⟨isStrict, true⟩ c d folder host' before'
  rw [hreal] at hcourse
  generalize (run ⟨isStrict, false⟩ c d folder host before).commands = commands at hcourse
  cases hcourse with
  | @stopped es hread hstrict hinvalid =>
    refine ⟨_, stopped_of_course ⟨isStrict, true⟩ c d folder hread hstrict hinvalid hcourse', ?_⟩
    exact ⟨⟨rfl, rfl, rfl, rfl⟩, rfl, rfl, rfl, rfl⟩
  | @finished es m _ hread hvalid _ hbatch _ hreport =>
    have hdry := batch_simulated hd hread (isClean_of_reports c hbatch hreport hexport)
    -- without commands the SDK cannot end the dry run
    obtain ⟨m', hmade'⟩ := (makingIfAsked_dry c (plannedFeatures c es) (o := ⟨isStrict, true⟩)
      rfl folder host' before').2
    obtain ⟨r', hr', -, hreport'⟩ := report_run (o := ⟨isStrict, true⟩) hread hvalid
      hmade' (by rw [hdry])
    rw [hdry] at hreport'
    exact ⟨r', hr', predicts_of_reports hreport hreport'⟩

/-- a project without entities, which has one of the two shared files already -/
def halfExported : Disk where
  tree := ⟨[
    (["Models"], .folder),
    (["Features"], .folder),
    (["Features", "Common"], .folder),
    (["Features", "Common", "PagedRequest.cs"], .file [])]⟩
  here := []

/-- settings without the SDK -/
def quietConfig : Config := { runsSdk := false }

theorem entities_halfExported :
    (Project.entities halfExported quietConfig ⟨.here, []⟩).value = .ok [] :=
  Project.entities_of_bare halfExported (by decide) (by decide) (by decide)

theorem batch_halfExported : (batch {} quietConfig halfExported [] []).interruption = none ∧
    (batch {} quietConfig halfExported [] []).placements.filterMap Placement.problem? = [] ∧
    (batch {} quietConfig halfExported [] []).placements.filterMap Placement.skipped? =
      ["Features/Common/PagedRequest.cs"] := by
  rw [batch, inOrder, List.mergeSort_of_pairwise (by decide)]
  decide

/-- one file is left alone and the other one is written, which the dry run tells -/
theorem predicts_halfExported :
    ∃ r r', halfExported.tree.IsProper ∧
      (run {} quietConfig halfExported ⟨.here, []⟩ idleHost []).value = .ok r ∧
      r.report.exportErrors = [] ∧
      (run ⟨true, true⟩ quietConfig halfExported ⟨.here, []⟩ idleHost []).value = .ok r' ∧
      Predicts r'.report r.report ∧
      r'.report.filesSkipped = ["Features/Common/PagedRequest.cs"] := by
  have hproper : halfExported.tree.IsProper := ⟨by decide, by decide, by decide⟩
  obtain ⟨hwhole, hproblems, hskipped⟩ := batch_halfExported
  obtain ⟨r, hr, -, hexport, hfiles⟩ := clean_run (o := {}) entities_halfExported
    (fun _ => by decide) (makingIfAsked_unasked quietConfig _ rfl _ _ idleHost []).2 hwhole
    hproblems
  obtain ⟨r', hr', hpredicts⟩ := predicts_of_run hproper hr hexport idleHost []
  exact ⟨r, r', hproper, hr, hexport, hr', hpredicts,
    (hpredicts.filesSkipped.trans hfiles).trans hskipped⟩

end EndpointScaffold.Scaffold
