import EndpointScaffold.Proofs.Entity.Names
import EndpointScaffold.Proofs.Export.Replay
import EndpointScaffold.Proofs.Scaffold.Protocol
import EndpointScaffold.Proofs.Support.Targets

/-!
# What a success stands for

A run that judges itself a success has achieved everything: no entity is without its files, each file
has been dealt with below the root, and the SDK, if it is asked, has made every feature.

* `IsAchieved` what such a run leaves; `isAchieved_of_success` every success does.
-/

namespace EndpointScaffold.Scaffold

open Export Files Sdk Support Validation

variable {o : Options} {c : Config} {d : Disk} {folder : Path} {host : Host}
  {before : List Command} {es : List Entity} {r : Run}

/-- what a run for entities leaves if it achieves everything -/
structure IsAchieved (o : Options) (c : Config) (d : Disk) (folder : Path) (host : Host)
    (before : List Command) (es : List Entity) (commands : List Command) (disk : Disk) : Prop where
  entities : ∀ e ∈ es, ∃ files, entityFiles c e = .ok files
  /-- at the path of each file, below the root, the last one that was generated for it has been dealt
  with -/
  files : ∀ f ∈ generatedFiles c es, ∃ g t, latestAt? f.path (generatedFiles c es) = some g ∧
    folder.resolved d.here <+: t ∧ disk.tree.find? t ≠ none ∧
    IsSettled (exporter o c (folder.resolved d.here)) d disk g t
  features : c.runsSdk = true →
    commands = questions c.sdk ++ (plannedFeatures c es).map (asking c folder.text) ∧
      ∀ reply ∈ heard host (before ++ questions c.sdk)
        ((plannedFeatures c es).map (asking c folder.text)), ∃ output, reply = .ok output

theorem errors_of_success (hr : (run o c d folder host before).value = .ok r)
    (h : r.report.success = true) :
    ¬ (o.isStrict = true ∧ r.report.validationErrors ≠ []) ∧ r.report.sdkErrors = [] ∧
      r.report.generationErrors = [] ∧ r.report.exportErrors = [] :=
  (success_iff (success_of_run hr)).1 h

/-- without an error in its report, the SDK has made every feature -/
theorem features_of_sdkErrors (hdry : o.isDryRun = false) {m : Option Making}
    (hmade : (makingIfAsked o c folder (plannedFeatures c es) host before).value = .ok m)
    (hnone : (m.map (·.errors)).getD [] = []) (hasked : c.runsSdk = true) :
    (makingIfAsked o c folder (plannedFeatures c es) host before).commands =
        questions c.sdk ++ (plannedFeatures c es).map (asking c folder.text) ∧
      ∀ reply ∈ heard host (before ++ questions c.sdk)
        ((plannedFeatures c es).map (asking c folder.text)), ∃ output, reply = .ok output := by
  obtain ⟨hcommands, hvalue⟩ :=
    makingIfAsked_asked hdry hasked folder (plannedFeatures c es) host before
  rw [hmade] at hvalue
  cases hall : (makeAll c folder.text (plannedFeatures c es) host before).value with
  | error f =>
    rw [hall] at hvalue
    cases hvalue
  | ok made =>
    rw [hall] at hvalue
    obtain rfl := Except.ok.inj hvalue
    have hfollows := follows_of_makeAll hall
    rw [hcommands]
    exact ⟨hfollows.commands_of_errors_eq_nil hnone, (hfollows.errors_eq_nil_iff.1 hnone).2⟩

theorem isAchieved_of_success (hd : d.tree.IsProper) (hdry : o.isDryRun = false)
    (hr : (run o c d folder host before).value = .ok r) (hsuccess : r.report.success = true) :
    ∃ es, (Project.entities d c folder).value = .ok es ∧
      IsAchieved o c d folder host before es (run o c d folder host before).commands r.disk := by
  obtain ⟨hverdict, hsdk, hgeneration, hexport⟩ := errors_of_success hr hsuccess
  have hcourse := course_run o c d folder host before
  rw [hr] at hcourse
  generalize hcommands : (run o c d folder host before).commands = commands at hcourse ⊢
  cases hcourse with
  | stopped hread hstrict hinvalid =>
    -- an error of the validation is in the report, so that this run is no success
    have hnone := not_and_not_right.1 hverdict hstrict
    rw [Findings.isValid, List.map_eq_nil_iff.1 hnone] at hinvalid
    cases hinvalid
  | @finished es m _ hread hvalid hmade hbatch hdisk hreport =>
    refine ⟨es, hread, ?_, fun f hf => ?_, fun hasked => ?_⟩
    · rw [hreport.generationErrors] at hgeneration
      exact errors_rendering_eq_nil_iff.1 hgeneration
    · obtain ⟨g, hg⟩ := exists_latestAt? hf
      have hremains : g ∈ (rendering c es).files := by
        rw [mem_rendering_iff, path_of_latestAt? hg]
        exact hg
      have hclean := isClean_of_reports c hbatch hreport hexport
      obtain ⟨t, ht⟩ := isSettled_of_placeAll (x := exporter o c (folder.resolved d.here)) hd hdry
        (pairwise_apart _ (Project.isStem_of_entities hread)) hclean g (mem_inOrder.2 hremains)
      rw [hdisk]
      exact ⟨g, t, hg, ht.below_root, ht.find?_ne_none, ht⟩
    · obtain ⟨outcome, hfinal⟩ := report_of_run hread hvalid hmade hr
      rw [hfinal] at hsdk
      exact features_of_sdkErrors hdry hmade hsdk hasked

end EndpointScaffold.Scaffold
