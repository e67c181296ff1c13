import EndpointScaffold.Proofs.Project.Stability
import EndpointScaffold.Proofs.Scaffold.Frame
import EndpointScaffold.Proofs.Scaffold.Prediction

/-!
# Running again

A run that exports without an error can be repeated: the second one reads and plans the same, finds
every file at its place and writes nothing. The generated files must not come between the sources, and
the folder of configurations must not come into being on the way.

* `Repeats` a second report against the first one; `isRepeated_of_second` what the second run has to
  do past the SDK;
* `IsRepeated`, `isRepeated_of_run` a second run, whatever the SDK replies to it;
* `not_repeated` second runs that differ: a folder of configurations comes into reach, or the SDK
  fails.
-/

namespace EndpointScaffold.Scaffold

open Export Files Log Schema Sdk Support Validation

/-- a second report that says the same as the first one, and that all of its files were left alone -/
structure Repeats (r r' : Report) : Prop extends Agrees r' r where
  filesWritten : r'.filesWritten = []
  filesSkipped : r'.filesSkipped.Perm (r.filesWritten ++ r.filesSkipped)

/-- what a second run does on the disk that the first one has left -/
structure IsRepeated (isStrict : Bool) (c : Config) (d : Disk) (folder : Path) (host : Host)
    (r : Run) : Prop where
  entities : (Project.entities r.disk c folder).value = (Project.entities d c folder).value
  /-- it leaves the disk as it is also if the SDK fails, which it may if it replies differently -/
  report : ∀ host' before',
    (∃ f, (run ⟨isStrict, false⟩ c r.disk folder host' before').value = .error (.sdkFailed f)) ∨
      ∃ r', (run ⟨isStrict, false⟩ c r.disk folder host' before').value = .ok r' ∧
        r'.disk = r.disk ∧ Repeats r.report r'.report
  returns : IsForgetful host → ∀ before', ∃ r',
    (run ⟨isStrict, false⟩ c r.disk folder host before').value = .ok r'

variable {isStrict : Bool} {c : Config} {d : Disk} {folder : Path} {host : Host}
  {before : List Command} {r : Run}

/-- where everything was exported, nothing is -/
theorem batch_again (hd : d.tree.IsProper) (hkept : c.overwrites = false) {root : Place}
    {es : List Entity} (h : IsClean (batch ⟨isStrict, false⟩ c d root es)) :
    batch ⟨isStrict, false⟩ c (batch ⟨isStrict, false⟩ c d root es).disk root es =
      { disk := (batch ⟨isStrict, false⟩ c d root es).disk
        placements := (inOrder (rendering c es).files).map fun f => .skipped f.path } :=
  placeAll_of_look (x := exporter ⟨isStrict, false⟩ c root) hkept
    (look_of_placeAll (x := exporter ⟨isStrict, false⟩ c root) hd rfl h)

theorem filterMap_skipped (fs : List SourceFile) :
    (fs.map fun f => Placement.skipped f.path).filterMap Placement.record? = [] ∧
      (fs.map fun f => Placement.skipped f.path).filterMap Placement.skipped? =
        fs.map (·.path) := by
  rw [List.filterMap_map, List.filterMap_map]
  exact ⟨List.filterMap_eq_nil_iff.mpr fun _ _ => rfl,
    congrFun (List.filterMap_eq_map (f := SourceFile.path)) fs⟩

theorem repeats_of_reports {root : Place} {es : List Entity}
    (hclean : IsClean (batch ⟨isStrict, false⟩ c d root es)) {r r' : Report}
    (h : Reports c es ((batch ⟨isStrict, false⟩ c d root es).placements.foldl Outcome.add {}) r)
    (h' : Reports c es (((inOrder (rendering c es).files).map fun f =>
      Placement.skipped f.path).foldl Outcome.add {}) r') : Repeats r r' := by
  have hfiles := perm_paths (x := exporter ⟨isStrict, false⟩ c root) hclean
  obtain ⟨hnone, hall⟩ := filterMap_skipped (inOrder (rendering c es).files)
  rw [foldl_add_empty] at h h'
  constructor
  case toAgrees => exact agrees_of_reports c h h'
  case filesWritten =>
    rw [h'.filesWritten, hnone]
    rfl
  case filesSkipped =>
    rw [h'.filesSkipped, hall, h.filesWritten, h.filesSkipped]
    exact hfiles

/-- a second run that reads the same and leaves all alone past the SDK repeats the first one -/
theorem isRepeated_of_second {es : List Entity} {m : Option Making}
    (hread : (Project.entities d c folder).value = .ok es)
    (hread' : (Project.entities r.disk c folder).value = .ok es)
    (hvalid : isStrict = true → (ofProject es c).value.isValid = true)
    (hmade : (makingIfAsked ⟨isStrict, false⟩ c folder (plannedFeatures c es) host before).value =
      .ok m)
    (hsecond : ∀ host' before' m',
      (makingIfAsked ⟨isStrict, false⟩ c folder (plannedFeatures c es) host' before').value =
        .ok m' →
      ∃ r', (run ⟨isStrict, false⟩ c r.disk folder host' before').value = .ok r' ∧
        r'.disk = r.disk ∧ Repeats r.report r'.report) :
    IsRepeated isStrict c d folder host r := by
  refine ⟨hread'.trans hread.symm, fun host' before' => ?_, fun hhost before' => ?_⟩
  · rcases past_of_course (o := ⟨isStrict, false⟩) hread' hvalid
      (course_run ⟨isStrict, false⟩ c r.disk folder host' before') with
      ⟨f, -, hfailed⟩ | ⟨⟨m', hm'⟩, -⟩
    · exact .inl ⟨f, hfailed⟩
    · exact .inr (hsecond host' before' m' hm')
  -- a host that remembers nothing replies as it did in the first run
  · have hbuilt := built_makingIfAsked c (plannedFeatures c es) ⟨isStrict, false⟩ folder
    obtain ⟨r', hr', -⟩ := hsecond host before' m
      ((hbuilt.value_eq hhost before' before).trans hmade)
    exact ⟨r', hr'⟩

/-- a run without an error of the export can be repeated, if the targets lie strictly below neither
folder of sources, and the folder of configurations was there or is still not found -/
theorem isRepeated_of_run (hd : d.tree.IsProper) (hkept : c.overwrites = false)
    (hfirst : (run ⟨isStrict, false⟩ c d folder host before).value = .ok r)
    (hexport : r.report.exportErrors = [])
    (haside : ∀ s ∈ [c.modelsFolder, c.configurationsFolder], ∀ f t,
      IsAimed ⟨isStrict, false⟩ c d folder f t → (folder.below s).resolved d.here <+: t →
        t = (folder.below s).resolved d.here)
    (hconfigurations : d.isFolder (folder.below c.configurationsFolder) = .ok true ∨
      r.disk.isFolder (folder.below c.configurationsFolder) = .ok false) :
    IsRepeated isStrict c d folder host r := by
  have hcourse := course_run ⟨isStrict, false⟩ c d folder host before
  rw [hfirst] at hcourse
  generalize (run ⟨isStrict, false⟩ c d folder host before).commands = commands at hcourse
  cases hcourse with
  | @stopped es hread hstrict hinvalid =>
    have hsecond := fun host' before' => stopped_of_course ⟨isStrict, false⟩ c d folder hread hstrict
      hinvalid (course_run ⟨isStrict, false⟩ c d folder host' before')
    exact ⟨rfl, fun host' before' => .inr ⟨_, hsecond host' before', rfl,
      ⟨⟨rfl, rfl, rfl, rfl⟩, rfl, .nil⟩⟩, fun _ before' => ⟨_, hsecond host before'⟩⟩
  | @finished es m _ hread hvalid hmade hbatch hdisk hreport =>
    have hclean := isClean_of_reports c hbatch hreport hexport
    have hagain := batch_again hd hkept hclean
    have hgrows := batch_grows hd ⟨isStrict, false⟩ c (folder.resolved d.here) es
    have hproper := isProper_batch hd ⟨isStrict, false⟩ c (folder.resolved d.here) es
    rw [← hdisk] at hagain hgrows hproper
    have hroot : folder.resolved d.here = folder.resolved r.disk.here := by rw [hgrows.here]
    -- what was read stands where the export changes nothing
    have hread' : (Project.entities r.disk c folder).value = .ok es := by
      refine Project.entities_of_grows hgrows (fun q bytes ⟨f, hf, ht, _⟩ => ⟨f, hf, ht⟩) hd hproper
        (fun s hs aim ⟨f, hf, ht⟩ => ?_) hconfigurations hread
      exact haside s hs f aim ⟨es, hread, mem_inOrder.mp hf, ht⟩
    rw [hroot] at hagain
    -- if the SDK does not end the second run, its export finds everything at its place
    refine isRepeated_of_second hread hread' hvalid hmade fun host' before' m' hmade' => ?_
    obtain ⟨r', hr', hdisk', hreport'⟩ := report_run (o := ⟨isStrict, false⟩) hread' hvalid hmade'
      (by rw [hagain])
    rw [hagain] at hdisk' hreport'
    exact ⟨r', hr', hdisk', repeats_of_reports hclean hreport hreport'⟩

/-! ### Two projects -/

/-- targets lie below no folder of sources, if the place that all of them share is apart from both -/
theorem not_above_of_isAimed {o : Options} (h : ∀ s ∈ [c.modelsFolder, c.configurationsFolder],
      ¬ (folder.below s).resolved d.here <+: targetBase c (folder.resolved d.here) ∧
        ¬ targetBase c (folder.resolved d.here) <+: (folder.below s).resolved d.here) :
    ∀ s ∈ [c.modelsFolder, c.configurationsFolder], ∀ f t, IsAimed o c d folder f t →
      ¬ (folder.below s).resolved d.here <+: t := by
  intro s hs f t haimed
  obtain ⟨folders, stem, rfl⟩ := place_of_isAimed haimed
  exact fun habove =>
    (List.prefix_or_prefix_of_prefix habove (List.prefix_append _ _)).elim (h s hs).1 (h s hs).2

/-- a project without configurations, run twice -/
theorem isRepeated_halfExported :
    ∃ r, halfExported.tree.IsProper ∧ quietConfig.overwrites = false ∧
      (run {} quietConfig halfExported ⟨.here, []⟩ idleHost []).value = .ok r ∧
      r.report.exportErrors = [] ∧
      r.disk.isFolder ((Files.Path.mk .here []).below quietConfig.configurationsFolder) = .ok false ∧
      IsRepeated true quietConfig halfExported ⟨.here, []⟩ idleHost r := by
  have hproper : halfExported.tree.IsProper := ⟨by decide, by decide, by decide⟩
  obtain ⟨hwhole, hproblems, -⟩ := batch_halfExported
  obtain ⟨r, hr, hdisk, hexport, -⟩ := clean_run (o := {}) entities_halfExported
    (fun _ => by decide) (makingIfAsked_unasked quietConfig _ rfl _ _ idleHost []).2 hwhole
    hproblems
  have hmissing : r.disk.isFolder ((Files.Path.mk .here []).below quietConfig.configurationsFolder) =
      .ok false := by
    rw [hdisk, batch, inOrder, List.mergeSort_of_pairwise (by decide)]
    decide
  exact ⟨r, hproper, rfl, hr, hexport, hmissing, isRepeated_of_run hproper rfl hr hexport
    (fun s hs f t haimed habove =>
      absurd habove (not_above_of_isAimed (by decide) s hs f t haimed)) (.inr hmissing)⟩

/-- a project whose configurations are looked for through the folder of its generated files -/
def hiddenConfig : Config :=
  { configurationsFolder := "Features/../Maps", makesContracts := false, makesMappers := false
    makesValidators := false, runsSdk := false }

/-- an entity with its configuration -/
def hiddenDisk : Disk where
  tree := ⟨[
    (["Models"], .folder),
    (["Models", "A.cs"], .file "class A\x7bpublic int Id\x7bget;set;\x7d\x7d".toUTF8.toList),
    (["Maps"], .folder),
    (["Maps", "C.cs"], .file ("class C:IEntityTypeConfiguration<A>\x7bvoid Configure()"
      ++ "\x7bbuilder.HasKey(x=>x.Id);\x7d\x7d").toUTF8.toList)]⟩
  here := []

/-- the same project with its generated files -/
def unhiddenDisk : Disk where
  tree := ⟨hiddenDisk.tree.entries ++ [
    (["Features"], .folder),
    (["Features", "Common"], .folder),
    (["Features", "Common", "PagedRequest.cs"],
      .file (Encoding.Utf8.encode (pagedRequestText hiddenConfig))),
    (["Features", "Common", "PagedResponse.cs"],
      .file (Encoding.Utf8.encode (pagedResponseText hiddenConfig)))]⟩
  here := []

def configuredEntity (tokens : List String) (isKey : Bool) : Entity :=
  ⟨"A", [⟨"Id", "int", tokens, isKey, true⟩], some "Models/A.cs", none⟩

theorem scan_hidden : ∀ d ∈ [hiddenDisk, unhiddenDisk],
    (Project.scan d ⟨"BaseEntity", .preserve⟩ ((Files.Path.mk .here []).below "Models")).value =
      .ok [configuredEntity [] false] := by
  have hfolder : ∀ d ∈ [hiddenDisk, unhiddenDisk],
      d.isFolder ((Files.Path.mk .here []).below "Models") = .ok true := by decide
  have hpaths : ∀ d ∈ [hiddenDisk, unhiddenDisk],
      d.filePaths ((Files.Path.mk .here []).below "Models") "*.cs" =
        [⟨.here, ["Models", "A.cs"]⟩] := by
    decide
  have hfile : ∀ d ∈ [hiddenDisk, unhiddenDisk],
      d.isFile ⟨.here, ["Models", "A.cs"]⟩ = .ok true := by decide
  have hfound : ∀ d ∈ [hiddenDisk, unhiddenDisk],
      (Project.entitiesOfFile d ⟨"BaseEntity", .preserve⟩ ⟨.here, ["Models", "A.cs"]⟩).toOption =
        some [configuredEntity [] false] := by decide +kernel
  intro d hd
  have hmapM : [⟨.here, ["Models", "A.cs"]⟩].mapM
      (Project.entitiesOfFile d ⟨"BaseEntity", .preserve⟩) = .ok [[configuredEntity [] false]] := by
    rw [List.mapM_cons, toOption_eq_some_iff.mp (hfound d hd)]
    rfl
  exact (Project.scan_eq_ok_iff d _).mpr ⟨hfolder d hd, _,
    Disk.filesFitting_of_one (by decide) (by decide) (hfolder d hd) (hpaths d hd) (hfile d hd), _,
    hmapM, rfl⟩

/-- before the first run the folder of configurations cannot be reached -/
theorem entities_hiddenDisk : (Project.entities hiddenDisk hiddenConfig ⟨.here, []⟩).value =
    .ok [configuredEntity [] false] := by
  refine (Project.entities_eq_ok_iff _).mpr ⟨_, [], scan_hidden _ List.mem_cons_self, ?_, rfl⟩
  exact (Project.rules_eq_ok_iff _).mpr
    ⟨[], filesFitting_eq_ok_iff.mpr (.inl ⟨by decide, rfl⟩), rfl⟩

/-- after the first run it can, and makes a property a key -/
theorem entities_unhiddenDisk : (Project.entities unhiddenDisk hiddenConfig ⟨.here, []⟩).value =
    .ok [configuredEntity ["HasKey"] true] := by
  have hfiles : Project.sourceFiles unhiddenDisk ((Files.Path.mk .here []).below "Features/../Maps") =
      .ok [⟨.here, ["Features", "..", "Maps", "C.cs"]⟩] :=
    Disk.filesFitting_of_one (by decide) (by decide) (by decide) (by decide)
      (by decide)
  have hrules : (Project.rulesOfFiles unhiddenDisk "builder"
      [⟨.here, ["Features", "..", "Maps", "C.cs"]⟩]).value = [("A", [("Id", ["HasKey"])])] := by
    have hfile : Project.rulesInFile? unhiddenDisk "builder"
        ⟨.here, ["Features", "..", "Maps", "C.cs"]⟩ = some ("A", [("Id", ["HasKey"])]) := by
      decide +kernel
    rw [Project.rulesOfFiles, List.foldlM_cons, Logged.value_bind, Project.value_addRulesOfFile,
      hfile]
    rfl
  refine (Project.entities_eq_ok_iff _).mpr ⟨_, [("A", [("Id", ["HasKey"])])],
    scan_hidden _ (List.mem_cons_of_mem _ List.mem_cons_self), ?_, rfl⟩
  exact (Project.rules_eq_ok_iff _).mpr ⟨_, hfiles, hrules.symm⟩

theorem batch_hidden :
    (batch {} hiddenConfig hiddenDisk [] [configuredEntity [] false]).interruption = none ∧
      (batch {} hiddenConfig hiddenDisk [] [configuredEntity [] false]).placements.filterMap
        Placement.problem? = [] ∧
      (batch {} hiddenConfig hiddenDisk [] [configuredEntity [] false]).disk = unhiddenDisk := by
  rw [batch, inOrder, List.mergeSort_of_pairwise (by decide)]
  decide +kernel

/-- the first run makes a folder through which configurations are found -/
theorem entities_hidden :
    ∃ r, (run {} hiddenConfig hiddenDisk ⟨.here, []⟩ idleHost []).value = .ok r ∧
      r.report.exportErrors = [] ∧
      (Project.entities r.disk hiddenConfig ⟨.here, []⟩).value ≠
        (Project.entities hiddenDisk hiddenConfig ⟨.here, []⟩).value := by
  obtain ⟨hwhole, hproblems, hafter⟩ := batch_hidden
  obtain ⟨r, hr, hdisk, hexport, -⟩ := clean_run (o := {}) entities_hiddenDisk
    (fun _ => by decide) (makingIfAsked_unasked hiddenConfig _ rfl _ _ idleHost []).2 hwhole
    hproblems
  refine ⟨r, hr, hexport, ?_⟩
  rw [hdisk.trans hafter, entities_unhiddenDisk, entities_hiddenDisk]
  exact fun h => absurd (Except.ok.inj h) (by decide)

/-- a host without the SDK, which takes too long over every command but the first -/
def tiringHost : Host :=
  ⟨fun before _ => if before.isEmpty then .finished "" 0 else .failed (.timedOut [] none), "/"⟩

/-- settings with the SDK -/
def askingConfig : Config := { quietConfig with runsSdk := true }

theorem sdkFailed_tiring :
    ∃ r, (run {} askingConfig halfExported ⟨.here, []⟩ tiringHost []).value = .ok r ∧
      r.report.exportErrors = [] ∧
      ∃ f, (run {} askingConfig r.disk ⟨.here, []⟩ tiringHost [versionCommand "dotnet"]).value =
        .error (.sdkFailed f) := by
  obtain ⟨hwhole, hproblems, -⟩ := batch_halfExported
  have hasked : (makingIfAsked {} askingConfig ⟨.here, []⟩ (plannedFeatures askingConfig [])
      tiringHost []).value = .ok (some (.ofError 0 "dotnet is not installed or not in PATH.")) := rfl
  obtain ⟨r, hr, hdisk, hexport, -⟩ := clean_run (o := {}) (c := askingConfig) entities_halfExported
    (fun _ => by decide) hasked hwhole hproblems
  have hread : (Project.entities r.disk askingConfig ⟨.here, []⟩).value = .ok [] := by
    rw [hdisk, batch, inOrder, List.mergeSort_of_pairwise (by decide)]
    exact Project.entities_of_bare _ (by decide) (by decide) (by decide)
  refine ⟨r, hr, hexport, ?_⟩
  rcases past_of_course (o := {}) hread (fun _ => by decide)
    (course_run {} askingConfig r.disk ⟨.here, []⟩ tiringHost [versionCommand "dotnet"]) with
    ⟨f, -, hfailed⟩ | ⟨⟨m, hmade⟩, -⟩
  · exact ⟨f, hfailed⟩
  · cases hmade

/-- a second run may differ from the first one: it reads other entities if a folder of configurations
has come into reach, and has no report if the SDK fails, though no target lies below a folder of
sources -/
theorem not_repeated :
    (∃ r, hiddenDisk.tree.IsProper ∧ (run {} hiddenConfig hiddenDisk ⟨.here, []⟩ idleHost []).value =
        .ok r ∧ r.report.exportErrors = [] ∧ hiddenConfig.overwrites = false ∧
      (∀ s ∈ [hiddenConfig.modelsFolder, hiddenConfig.configurationsFolder], ∀ f t,
        IsAimed {} hiddenConfig hiddenDisk ⟨.here, []⟩ f t →
          ¬ ((Files.Path.mk .here []).below s).resolved hiddenDisk.here <+: t) ∧
      (Project.entities r.disk hiddenConfig ⟨.here, []⟩).value ≠
        (Project.entities hiddenDisk hiddenConfig ⟨.here, []⟩).value) ∧
    ∃ r, halfExported.tree.IsProper ∧
      (run {} askingConfig halfExported ⟨.here, []⟩ tiringHost []).value = .ok r ∧
      r.report.exportErrors = [] ∧ askingConfig.overwrites = false ∧
      (∀ s ∈ [askingConfig.modelsFolder, askingConfig.configurationsFolder], ∀ f t,
        IsAimed {} askingConfig halfExported ⟨.here, []⟩ f t →
          ¬ ((Files.Path.mk .here []).below s).resolved halfExported.here <+: t) ∧
      ∃ f, (run {} askingConfig r.disk ⟨.here, []⟩ tiringHost [versionCommand "dotnet"]).value =
        .error (.sdkFailed f) := by
  obtain ⟨r, hr, hexport, hdiffer⟩ := entities_hidden
  obtain ⟨r', hr', hexport', hfailed⟩ := sdkFailed_tiring
  exact ⟨⟨r, ⟨by decide, by decide, by decide⟩, hr, hexport, rfl,
      not_above_of_isAimed (by decide), hdiffer⟩,
    r', ⟨by decide, by decide, by decide⟩, hr', hexport', rfl,
      not_above_of_isAimed (by decide), hfailed⟩

end EndpointScaffold.Scaffold
