import EndpointScaffold.Proofs.Entity.Names
import EndpointScaffold.Proofs.Scaffold.Course
import EndpointScaffold.Proofs.Support.Targets
import EndpointScaffold.Proofs.Validation.Valid

/-!
# What a run leaves alone

However a run ends, the disk has only grown: by generated files at their targets and by folders
above these. Nothing outside of the root changes, unless the root itself is missing: then the folders
above it are made, too. Only a run that is not strict gets there, and only if it finds its entities
elsewhere.

* `IsAimed` generated files with their targets, `grows_of_course` the disk after a run;
* `IsIdle`, `idle_of_course` runs that do nothing at all;
* `IsFramed`, `isFramed_run` all that a run leaves alone;
* `upward_stray` a run that makes a folder above its root.
-/

namespace EndpointScaffold.Scaffold

open Encoding Export Files Log Naming Sdk Support Validation

variable (o : Options) (c : Config) (d : Disk) (folder : Path)

/-- a generated file of the project and the place that it aims at -/
def IsAimed (f : SourceFile) (t : Place) : Prop :=
  ∃ es, (Project.entities d c folder).value = .ok es ∧ f ∈ (rendering c es).files ∧
    (exporter o c (folder.resolved d.here)).target f.path = .ok t

/-- a file that the report lists as written, if the run comes to a report -/
def IsReported (result : Except Abort Run) (path : String) : Prop :=
  ∀ r, result = .ok r → path ∈ r.report.filesWritten

/-- runs that must not do anything -/
def IsIdle : Prop :=
  o.isDryRun = true ∨
    (o.isStrict = true ∧ ∃ es, (Project.entities d c folder).value = .ok es ∧
      (ofProject es c).value.isValid = false) ∨
    d.isFolder (folder.below c.modelsFolder) ≠ .ok true

/-- a missing folder above a missing root, which a run has made -/
structure IsUpward (d' : Disk) (q : Place) : Prop where
  above : q <+: folder.resolved d.here
  rootless : d.tree.find? (folder.resolved d.here) = none
  missing : d.tree.find? q = none
  made : d'.tree.find? q = some .folder
  lenient : o.isStrict = false
  elsewhere : (Path.ofText c.modelsFolder).anchor ≠ .here

/-- what a run leaves alone, and what it makes -/
structure IsFramed (result : Except Abort Run) (commands : List Command) : Prop where
  outside : ∀ q, ¬ folder.resolved d.here <+: q →
    (diskAfter d result).tree.find? q = d.tree.find? q ∨
      IsUpward o c d folder (diskAfter d result) q
  idle : IsIdle o c d folder → diskAfter d result = d ∧ commands = []
  kept : c.overwrites = false → ∀ q n, d.tree.find? q = some n →
    (diskAfter d result).tree.find? q = some n
  /-- new folders lie above targets, and new or replaced files are generated ones, with exactly their
  text -/
  grows : d.Grows c.overwrites (fun t => ∃ f, IsAimed o c d folder f t)
    (fun t bytes => ∃ f, IsAimed o c d folder f t ∧ bytes = Utf8.encode f.text ∧
      IsReported result f.path) (diskAfter d result)
  /-- each listed file is there with exactly its text, unless the run was for show -/
  listed : o.isDryRun = false → ∀ r, result = .ok r → ∀ path ∈ r.report.filesWritten,
    ∃ f t, IsAimed o c d folder f t ∧ f.path = path ∧
      (diskAfter d result).tree.find? t = some (.file (Utf8.encode f.text))
  /-- no file is left that was made to be renamed: one with such a name was there before, with the
  same bytes -/
  clean : ∀ mark name q bytes, q.getLast? = some (Disk.temporaryName mark name) →
    (diskAfter d result).tree.find? q = some (.file bytes) → d.tree.find? q = some (.file bytes)

variable {o c d folder} {host : Host} {before : List Command} {result : Except Abort Run}
  {commands : List Command}

/-! ### The disk after a run -/

theorem isFolder_of_entities {es : List Entity}
    (h : (Project.entities d c folder).value = .ok es) :
    d.isFolder (folder.below c.modelsFolder) = .ok true := by
  obtain ⟨scanned, map, hscan, -⟩ := (Project.entities_eq_ok_iff d).mp h
  exact ((Project.scan_eq_ok_iff d _).mp hscan).1

/-- the files of a batch are generated files of the project -/
theorem isAimed_of_isTarget {es : List Entity} {t : Place}
    (hread : (Project.entities d c folder).value = .ok es)
    (h : IsTarget (exporter o c (folder.resolved d.here)) (inOrder (rendering c es).files) t) :
    ∃ f, IsAimed o c d folder f t := by
  obtain ⟨f, hf, ht⟩ := h
  exact ⟨f, es, hread, mem_inOrder.mp hf, ht⟩

theorem batch_grows (hd : d.tree.IsProper) (o : Options) (c : Config) (root : Place)
    (es : List Entity) :
    d.Grows c.overwrites (IsTarget (exporter o c root) (inOrder (rendering c es).files))
      (IsWritten (exporter o c root) (inOrder (rendering c es).files)
        (batch o c d root es).placements)
      (batch o c d root es).disk :=
  (placeAll_grows (x := exporter o c root) hd _).2

theorem isProper_batch (hd : d.tree.IsProper) (o : Options) (c : Config) (root : Place)
    (es : List Entity) : (batch o c d root es).disk.tree.IsProper :=
  (placeAll_grows (x := exporter o c root) hd _).1

theorem grows_of_course (hd : d.tree.IsProper)
    (h : Course o c d folder host before result commands) :
    d.Grows c.overwrites (fun t => ∃ f, IsAimed o c d folder f t)
      (fun t bytes => ∃ f, IsAimed o c d folder f t ∧ bytes = Utf8.encode f.text ∧
        IsReported result f.path) (diskAfter d result) := by
  cases h with
  | unread | stopped | sdkFailed => exact .refl d
  | interrupted hread =>
    refine (batch_grows hd o c _ _).mono (fun t => isAimed_of_isTarget hread) ?_
    rintro t bytes ⟨f, hf, ht, hbytes, -⟩
    exact ⟨f, ⟨_, hread, mem_inOrder.mp hf, ht⟩, hbytes, nofun⟩
  | finished hread _ _ _ hdisk hreport =>
    rw [diskAfter, hdisk]
    refine (batch_grows hd o c _ _).mono (fun t => isAimed_of_isTarget hread) ?_
    rintro t bytes ⟨f, hf, ht, hbytes, hwritten⟩
    refine ⟨f, ⟨_, hread, mem_inOrder.mp hf, ht⟩, hbytes, fun r hr => ?_⟩
    obtain rfl := Except.ok.inj hr
    rw [hreport.filesWritten, foldl_add_empty]
    exact List.mem_map.mpr ⟨_, mem_records.mpr hwritten, rfl⟩

theorem outside_of_batch (hd : d.tree.IsProper) {es : List Entity}
    (hread : (Project.entities d c folder).value = .ok es)
    (hvalid : o.isStrict = true → (ofProject es c).value.isValid = true) {q : Place}
    (hq : ¬ folder.resolved d.here <+: q) :
    (batch o c d (folder.resolved d.here) es).disk.tree.find? q = d.tree.find? q ∨
      IsUpward o c d folder (batch o c d (folder.resolved d.here) es).disk q := by
  have hchange := (batch_grows hd o c (folder.resolved d.here) es).change q
  generalize hnew : (batch o c d (folder.resolved d.here) es).disk.tree.find? q = new at hchange
  generalize hold : d.tree.find? q = old at hchange
  cases hchange with
  | same => exact .inl rfl
  | file hfile =>
    obtain ⟨f, -, ht, -⟩ := hfile
    exact absurd (target_eq_ok ht).1 hq
  | @folder aim haim habove =>
    obtain ⟨f, -, ht⟩ := haim
    -- the folder and the root both lie above the target, and the folder is not below the root
    have hroot : q <+: folder.resolved d.here :=
      (List.prefix_or_prefix_of_prefix habove (target_eq_ok ht).1).resolve_right hq
    -- above an entry every folder is there, so nothing can stand at the root
    have hrootless : d.tree.find? (folder.resolved d.here) = none := by
      obtain ⟨names, hnames⟩ := hroot
      rw [← hnames]
      cases hfind : d.tree.find? (q ++ names) with
      | none => rfl
      | some n =>
        have hne : names ≠ [] := fun hnil => by
          rw [hnil, List.append_nil] at hnames
          exact hq (hnames ▸ List.prefix_refl q)
        rw [Tree.find?_of_append hd hne hfind] at hold
        cases hold
    -- a relative setting is followed through the root, which is missing
    have helsewhere : (Path.ofText c.modelsFolder).anchor ≠ .here := fun hanchor => by
      rw [Disk.folder_of_below hanchor (isFolder_of_entities hread)] at hrootless
      cases hrootless
    refine .inr ⟨hroot, hrootless, hold, hnew, Bool.of_not_eq_true fun hstrict => ?_, helsewhere⟩
    exact helsewhere (anchor_modelsFolder_of_isValid (hvalid hstrict))

/-! ### Runs that do nothing -/

theorem idle_of_course (hidle : IsIdle o c d folder)
    (h : Course o c d folder host before result commands) :
    diskAfter d result = d ∧ commands = [] := by
  -- of the three reasons to do nothing, only a dry run gets past the validation
  have hpast : ∀ es, (Project.entities d c folder).value = .ok es →
      (o.isStrict = true → (ofProject es c).value.isValid = true) → o.isDryRun = true :=
    fun es hread hvalid => by
      rcases hidle with hdry | ⟨hstrict, es', hread', hinvalid⟩ | hmissing
      · exact hdry
      · rw [hread] at hread'
        obtain rfl := Except.ok.inj hread'
        rw [hvalid hstrict] at hinvalid
        cases hinvalid
      · exact absurd (isFolder_of_entities hread) hmissing
  cases h with
  | unread | stopped => exact ⟨rfl, rfl⟩
  | @sdkFailed es f hread hvalid hmade =>
    obtain ⟨m, hm⟩ := (makingIfAsked_dry c (plannedFeatures c es) (hpast es hread hvalid) folder
      host before).2
    rw [hm] at hmade
    cases hmade
  | @interrupted es m f hread hvalid =>
    have hdry := hpast es hread hvalid
    exact ⟨disk_placeAll_dry (x := exporter o c _) hdry d _,
      (makingIfAsked_dry c _ hdry folder host before).1⟩
  | @finished es m r hread hvalid _ _ hdisk =>
    have hdry := hpast es hread hvalid
    exact ⟨hdisk.trans (disk_placeAll_dry (x := exporter o c _) hdry d _),
      (makingIfAsked_dry c _ hdry folder host before).1⟩

/-! ### Files -/

theorem listed_of_course (hd : d.tree.IsProper) (hdry : o.isDryRun = false) {r : Run}
    (h : Course o c d folder host before (.ok r) commands) {path : String}
    (hpath : path ∈ r.report.filesWritten) :
    ∃ f t, IsAimed o c d folder f t ∧ f.path = path ∧
      r.disk.tree.find? t = some (.file (Utf8.encode f.text)) := by
  cases h with
  | stopped => exact absurd hpath List.not_mem_nil
  | @finished es m _ hread hvalid _ _ hdisk hreport =>
    rw [hreport.filesWritten, foldl_add_empty] at hpath
    obtain ⟨record, hrecord, rfl⟩ := List.mem_map.mp hpath
    obtain ⟨f, hf, ht, hrecord, hlook⟩ := placeAll_written (x := exporter o c _) hd hdry
      ((pairwise_apart _ (Project.isStem_of_entities hread)).imp Apart.elsewhere)
      (mem_records.mp hrecord)
    have hfind := (Disk.look_eq_ok_iff.mp hlook).2
    rw [Path.resolved_ofPlace (target_eq_ok ht).2.1] at hfind
    refine ⟨f, record.target, ⟨es, hread, mem_inOrder.mp hf, ht⟩, ?_, ?_⟩
    · rw [hrecord]
      rfl
    · rw [hdisk]
      exact hfind

theorem place_of_isAimed {f : SourceFile} {t : Place} (h : IsAimed o c d folder f t) :
    ∃ folders stem, t = targetBase c (folder.resolved d.here) ++ fileNames folders stem := by
  obtain ⟨es, hread, hf, ht⟩ := h
  obtain ⟨folders, stem, hfolders, hstem, hpath⟩ :=
    isGenerated_rendering (Project.isStem_of_entities hread) hf
  rw [hpath] at ht
  have hplace := target_slashed (isName_of_mem_fileNames hfolders hstem) (fileNames_ne_nil _ _) ht
  exact ⟨folders, stem, hplace⟩

theorem getLast?_of_isAimed {f : SourceFile} {t : Place} (h : IsAimed o c d folder f t) :
    ∃ stem, t.getLast? = some (sourceName stem) := by
  obtain ⟨folders, stem, rfl⟩ := place_of_isAimed h
  rw [fileNames, ← List.append_assoc, List.getLast?_concat]
  exact ⟨stem, rfl⟩

theorem sourceName_ne_temporaryName (stem mark name : String) :
    sourceName stem ≠ Disk.temporaryName mark name := by
  intro h
  have hlast : (sourceName stem).toList.getLast? = some 'p' := by
    rw [h, Disk.getLast?_temporaryName]
  have hsource : ".cs".toList.getLast? = some 's' := by decide
  rw [sourceName, String.toList_append, List.getLast?_append, hsource] at hlast
  exact absurd (Option.some.inj hlast) (by decide)

/-! ### Whole runs -/

/-- whatever a run comes to, it leaves everything alone that it should, but for missing folders above
a missing root -/
theorem isFramed_run (hd : d.tree.IsProper) (o : Options) (c : Config) (folder : Path) (host : Host)
    (before : List Command) :
    IsFramed o c d folder (run o c d folder host before).value
      (run o c d folder host before).commands := by
  have hcourse := course_run o c d folder host before
  generalize (run o c d folder host before).value = result at hcourse
  generalize (run o c d folder host before).commands = commands at hcourse
  have hgrows := grows_of_course hd hcourse
  constructor
  case outside =>
    intro q hq
    cases hcourse with
    | unread | stopped | sdkFailed => exact .inl rfl
    | interrupted hread hvalid => exact outside_of_batch hd hread hvalid hq
    | finished hread hvalid _ _ hdisk =>
      rw [diskAfter, hdisk]
      exact outside_of_batch hd hread hvalid hq
  case idle => exact fun hidle => idle_of_course hidle hcourse
  case kept =>
    intro hkept q n hn
    have hchange := hgrows.change q
    rw [hkept] at hchange
    rw [hchange.eq_of_kept (by rw [hn]; rfl), hn]
  case grows => exact hgrows
  case listed =>
    rintro hdry r rfl path hpath
    exact listed_of_course hd hdry hcourse hpath
  case clean =>
    intro mark name q bytes hlast hnew
    have hchange := hgrows.change q
    rw [hnew] at hchange
    -- a file that is new or different is a generated one, and the names of these end differently
    generalize d.tree.find? q = old at hchange ⊢
    cases hchange with
    | same => rfl
    | file hfile =>
      obtain ⟨f, haimed, -⟩ := hfile
      obtain ⟨stem, hstem⟩ := getLast?_of_isAimed haimed
      rw [hstem] at hlast
      exact absurd (Option.some.inj hlast) (sourceName_ne_temporaryName stem mark name)

/-! ### A missing root -/

/-- entities that are looked for away from the project -/
def strayConfig : Config := { modelsFolder := "/Models", runsSdk := false }

/-- a disk with the folder of the entities, but without that of the project -/
def strayDisk : Disk := ⟨⟨[(["Models"], .folder)]⟩, []⟩

/-- a project in a folder that is missing, together with the one above it -/
def strayFolder : Path := ⟨.root, ["Shop", "Api"]⟩

theorem diskAfter_stray : diskAfter strayDisk
    (run { isStrict := false } strayConfig strayDisk strayFolder idleHost []).value =
      (batch { isStrict := false } strayConfig strayDisk ["Shop", "Api"] []).disk := by
  have hread : (Project.entities strayDisk strayConfig strayFolder).value = .ok [] :=
    Project.entities_of_bare strayDisk (by decide) (by decide) (by decide)
  exact diskAfter_run hread nofun (makingIfAsked_unasked strayConfig _ rfl _ _ _ _).2

theorem find?_stray :
    (batch { isStrict := false } strayConfig strayDisk ["Shop", "Api"] []).disk.tree.find? ["Shop"] =
      some .folder := by
  rw [batch, inOrder, List.mergeSort_of_pairwise (by decide)]
  decide

theorem isFramed_stray :
    strayDisk.tree.IsProper ∧ IsFramed { isStrict := false } strayConfig strayDisk strayFolder
      (run { isStrict := false } strayConfig strayDisk strayFolder idleHost []).value
      (run { isStrict := false } strayConfig strayDisk strayFolder idleHost []).commands := by
  have hproper : strayDisk.tree.IsProper := ⟨by decide, by decide, by decide⟩
  exact ⟨hproper, isFramed_run hproper _ _ _ _ _⟩

/-- the folder above the missing one is made, though it lies outside -/
theorem upward_stray :
    ¬ ∀ q, ¬ strayFolder.resolved strayDisk.here <+: q →
      (diskAfter strayDisk (run { isStrict := false } strayConfig strayDisk strayFolder idleHost
        []).value).tree.find? q = strayDisk.tree.find? q := by
  intro h
  have hsame := h ["Shop"] (by decide)
  rw [diskAfter_stray, find?_stray] at hsame
  cases hsame

end EndpointScaffold.Scaffold
