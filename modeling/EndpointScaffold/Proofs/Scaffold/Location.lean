import EndpointScaffold.Proofs.Scaffold.Commands
import EndpointScaffold.Proofs.Support.Targets
import EndpointScaffold.Proofs.Validation.Valid

/-!
# Where the files of a valid project lie

If validation finds no error, everything that is generated lies strictly inside the project, with one
exception: an empty setting for the folder passes validation, and leaves paths that start with a
slash.

* `Inward` paths that lead strictly below every folder they are taken from;
* `inward_slashed_iff` which of the generated paths do;
* `IsLocated`, `isLocated_of_isValid` all paths of a project, and its exports.
-/

namespace EndpointScaffold.Scaffold

open Export Files Naming Support Text Validation

/-- a path that leads strictly below every folder that it is taken from -/
structure Inward (path : String) : Prop where
  relative : (Path.ofText path).anchor = .here
  below : ∀ root : Place, ".." ∉ root → ∃ names, names ≠ [] ∧
    ((Path.ofPlace root).below path).resolved [] = root ++ names

variable {c : Config} {es : List Entity} {names : List String}

theorem baseFolder_ne_empty (hne : c.featuresFolder ≠ "")
    (hhead : c.featuresFolder.toList.head? ≠ some '/') : baseFolder c ≠ "" := by
  intro hempty
  obtain ⟨ch, cs, hchars⟩ := List.exists_cons_of_ne_nil (mt String.toList_eq_nil_iff.mp hne)
  have hslash : (ch == '/') = false := by
    rw [beq_eq_false_iff_ne]
    rintro rfl
    exact hhead (by rw [hchars]; rfl)
  have hmem : ch ∈ (baseFolder c).toList := by
    rw [baseFolder, trimOf, String.toList_ofList, mem_dropAround (p := (· == '/')) hslash, hchars]
    exact List.mem_cons_self
  rw [hempty] at hmem
  exact absurd hmem List.not_mem_nil

/-- the place of a generated path is below the root, behind the parts of the setting -/
theorem resolved_of_isValid (hvalid : (ofProject es c).value.isValid = true)
    (hne : c.featuresFolder ≠ "") (hnames : ∀ n ∈ names, Path.IsName n) (hnil : names ≠ [])
    {root : Place} (hroot : ".." ∉ root) :
    ((Path.ofPlace root).below (baseFolder c ++ Path.slashed names)).resolved [] =
      root ++ (Path.partsOf c.featuresFolder ++ names) := by
  obtain ⟨hdots, hhead⟩ := featuresFolder_of_isValid hvalid
  have hall : ".." ∉ root ++ Path.partsOf c.featuresFolder := fun h =>
    (List.mem_append.mp h).elim hroot hdots
  rw [resolved_slashed root hnames hnil, targetBase, if_neg (baseFolder_ne_empty hne hhead),
    Path.foldl_step hall, List.nil_append, List.append_assoc]

theorem inward_slashed_iff (hvalid : (ofProject es c).value.isValid = true)
    (hnames : ∀ n ∈ names, Path.IsName n) (hnil : names ≠ []) :
    Inward (baseFolder c ++ Path.slashed names) ↔ c.featuresFolder ≠ "" := by
  constructor
  -- behind an empty setting, the slash before the first name makes the path absolute
  · intro h hempty
    obtain ⟨name, rest, rfl⟩ := List.exists_cons_of_ne_nil hnil
    have hbase : baseFolder c = "" := by
      rw [baseFolder, hempty]
      rfl
    have hanchor := h.relative
    rw [hbase, Path.ofText,
      Path.anchorOf_slashed_empty (hnames name List.mem_cons_self) rest] at hanchor
    cases hanchor
  · intro hne
    obtain ⟨hdots, hhead⟩ := featuresFolder_of_isValid hvalid
    constructor
    · rw [Path.ofText,
        Path.anchorOf_slashed (head?_baseFolder (baseFolder_ne_empty hne hhead)) names]
    · exact fun root hroot => ⟨Path.partsOf c.featuresFolder ++ names,
        List.append_ne_nil_of_right_ne_nil _ hnil, resolved_of_isValid hvalid hne hnames hnil hroot⟩

theorem inward_of_isGenerated (hvalid : (ofProject es c).value.isValid = true) {path : String}
    (h : IsGenerated c path) : Inward path ↔ c.featuresFolder ≠ "" := by
  obtain ⟨folders, stem, hfolders, hstem, rfl⟩ := h
  exact inward_slashed_iff hvalid (isName_of_mem_fileNames hfolders hstem) (fileNames_ne_nil _ _)

theorem inward_of_planned (hvalid : (ofProject es c).value.isValid = true) {f : Feature}
    (hf : f ∈ plannedFeatures c es) : Inward f.folder ↔ c.featuresFolder ≠ "" := by
  obtain ⟨e, he, hplanned⟩ := List.mem_flatMap.mp hf
  obtain ⟨kind, -, rfl⟩ := List.mem_map.mp hplanned
  have hname := isName_of_isStem (isStem_plural (isStem_of_isValid hvalid e he))
  have hfolder : (Feature.ofKind c e.name kind).folder =
      baseFolder c ++ Path.slashed [Naming.plural e.name] := by
    rw [Path.slashed_cons, Path.slashed, List.map_nil, String.join_nil, String.append_empty,
      ← String.append_assoc]
    rfl
  rw [hfolder]
  exact inward_slashed_iff hvalid (fun n hn => by rw [List.mem_singleton.mp hn]; exact hname)
    (List.cons_ne_nil _ _)

/-! ### Exports -/

theorem null_mem_slashed (hnames : ∀ n ∈ names, '\x00' ∉ n.toList) (s : String) :
    '\x00' ∈ (s ++ Path.slashed names).toList ↔ '\x00' ∈ s.toList := by
  induction names generalizing s with
  | nil => rw [Path.slashed, List.map_nil, String.join_nil, String.append_empty]
  | cons n names ih =>
    rw [Path.slashed_cons, ← String.append_assoc,
      ih (fun m hm => hnames m (List.mem_cons_of_mem n hm)), String.toList_append,
      String.toList_append, List.mem_append, List.mem_append]
    refine ⟨fun h => h.resolve_right fun h => ?_, .inl⟩
    exact h.elim (by decide) (hnames n List.mem_cons_self)

theorem null_mem_isGenerated {folders : List String} {stem : String}
    (hfolders : ∀ n ∈ folders, IsStem n) (hstem : IsStem stem) :
    '\x00' ∈ (baseFolder c ++ Path.slashed (fileNames folders stem)).toList ↔
      '\x00' ∈ c.featuresFolder.toList := by
  rw [null_mem_slashed, baseFolder, trimOf, String.toList_ofList,
    mem_dropAround (p := (· == '/')) (by decide)]
  intro n hn h
  rw [fileNames, List.mem_append, List.mem_singleton] at hn
  rcases hn with hn | rfl
  · exact absurd ((hfolders n hn).chars _ h) (by decide)
  · rw [sourceName, String.toList_append, List.mem_append] at h
    exact h.elim (fun h => absurd (hstem.chars _ h) (by decide)) (by decide)

/-- a generated file has a target strictly inside the root, unless the setting holds a null
character -/
theorem target_of_isValid (hvalid : (ofProject es c).value.isValid = true)
    (hne : c.featuresFolder ≠ "") {x : Exporter} (hroot : ".." ∉ x.root) {path : String}
    (h : IsGenerated c path) :
    if '\x00' ∈ c.featuresFolder.toList then x.target path = .error .unusable
    else ∃ names, names ≠ [] ∧ x.target path = .ok (x.root ++ names) := by
  obtain ⟨folders, stem, hfolders, hstem, rfl⟩ := h
  have hnull := null_mem_isGenerated (c := c) hfolders hstem
  have hresolved := resolved_of_isValid hvalid hne (isName_of_mem_fileNames hfolders hstem)
    (fileNames_ne_nil folders stem) hroot
  split
  · rename_i hmem
    rw [Exporter.target, if_pos (List.contains_iff_mem.mpr (hnull.mpr hmem))]
  · rename_i hmem
    refine ⟨Path.partsOf c.featuresFolder ++ fileNames folders stem,
      List.append_ne_nil_of_right_ne_nil _ (fileNames_ne_nil folders stem), ?_⟩
    rw [Exporter.target, if_neg (fun h => hmem (hnull.mp (List.contains_iff_mem.mp h)))]
    simp only [hresolved]
    rw [isWithin, if_pos (List.isPrefixOf_iff_prefix.mpr (List.prefix_append _ _))]

/-- an export records that a path leads out of its root only if it has a file with such a path -/
theorem escapes_mem_problems {x : Exporter} {d : Disk} {files : List SourceFile} {path : String}
    (h : .escapes path ∈ (x.run d {} files).value.outcome.problems) :
    ∃ f ∈ files, x.target f.path = .error (.escapes path) := by
  rw [Exporter.run] at h
  simp only [foldl_add, List.nil_append] at h
  obtain ⟨p, hp, hproblem⟩ := List.mem_filterMap.mp h
  obtain ⟨f, hf, e, e', hplacing⟩ := placing_of_mem hp
  have hmem : f ∈ files := (List.mergeSort_perm files _).subset hf
  cases hplacing with
  | refused htarget =>
    obtain rfl := Option.some.inj hproblem
    exact ⟨f, hmem, htarget⟩
  | unwritten => cases hproblem
  | skipped | simulated | written => cases hproblem

/-! ### Projects -/

/-- where the paths of a project lead, and what becomes of them -/
structure IsLocated (c : Config) (es : List Entity) : Prop where
  shared : ∀ f ∈ sharedFiles c, Inward f.path ↔ c.featuresFolder ≠ ""
  entities : ∀ e ∈ es, ∀ files, entityFiles c e = .ok files → ∀ f ∈ files,
    Inward f.path ↔ c.featuresFolder ≠ ""
  features : ∀ f ∈ plannedFeatures c es, Inward f.folder ↔ c.featuresFolder ≠ ""
  /-- the SDK makes no other features, and in no other folders -/
  commands : ∀ o folder, Gives (IsAsked c folder.text (plannedFeatures c es))
    (makingIfAsked o c folder (plannedFeatures c es))
  targets : c.featuresFolder ≠ "" → ∀ x : Exporter, ".." ∉ x.root →
    ∀ f ∈ (rendering c es).files,
      if '\x00' ∈ c.featuresFolder.toList then x.target f.path = .error .unusable
      else ∃ names, names ≠ [] ∧ x.target f.path = .ok (x.root ++ names)
  exports : c.featuresFolder ≠ "" → ∀ (x : Exporter) (d : Disk), ".." ∉ x.root →
    ∀ path, .escapes path ∉ (x.run d {} (rendering c es).files).value.outcome.problems

/-- everything that is generated for a valid project lies strictly inside of it, unless the setting
for its folder is empty -/
theorem isLocated_of_isValid (hvalid : (ofProject es c).value.isValid = true) : IsLocated c es where
  shared _ hf := inward_of_isGenerated hvalid (isGenerated_sharedFiles hf)
  entities e he _ hfiles _ hf :=
    inward_of_isGenerated hvalid (isGenerated_entityFiles (isStem_of_isValid hvalid e he) hfiles hf)
  features _ hf := inward_of_planned hvalid hf
  commands o folder := (built_makingIfAsked c (plannedFeatures c es) o folder).gives
  targets hne _ hroot _ hf :=
    target_of_isValid hvalid hne hroot (isGenerated_rendering (isStem_of_isValid hvalid) hf)
  exports hne x d hroot path h := by
    obtain ⟨f, hf, htarget⟩ := escapes_mem_problems h
    have hinside := target_of_isValid hvalid hne hroot
      (isGenerated_rendering (isStem_of_isValid hvalid) hf)
    rw [htarget] at hinside
    split at hinside
    · cases hinside
    · obtain ⟨names, -, hok⟩ := hinside
      cases hok

/-! ### Two settings -/

def order : Entity := ⟨"Order", [⟨"Id", "int", [], false, false⟩], none, none⟩

/-- a project like any other, but for the folder of its generated files -/
def inFolder (folder : String) : Config := { featuresFolder := folder }

/-- a setting with points, backslashes and too many slashes, and an empty one -/
theorem isLocated_order :
    ((ofProject [order] (inFolder "Api\\v1/./Features//")).value.isValid = true ∧
      IsLocated (inFolder "Api\\v1/./Features//") [order]) ∧
    ((ofProject [order] (inFolder "")).value.isValid = true ∧ IsLocated (inFolder "") [order] ∧
      ∃ f ∈ plannedFeatures (inFolder "") [order], f.folder = "/Orders" ∧ ¬ Inward f.folder) := by
  have hpoints : (ofProject [order] (inFolder "Api\\v1/./Features//")).value.isValid = true := by
    decide
  have hempty : (ofProject [order] (inFolder "")).value.isValid = true := by decide
  have hlocated := isLocated_of_isValid hempty
  have hplanned : Feature.ofKind (inFolder "") "Order" .create ∈
      plannedFeatures (inFolder "") [order] := List.mem_cons_self
  exact ⟨⟨hpoints, isLocated_of_isValid hpoints⟩, hempty, hlocated, _, hplanned, by decide,
    fun h => (hlocated.features _ hplanned).mp h rfl⟩

end EndpointScaffold.Scaffold
