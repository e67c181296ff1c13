import EndpointScaffold.Proofs.Support.Paths

/-!
# Where generated files lead, and which remain

Where the paths of generated files lead. The setting for their folder is read once for all of them,
so their targets differ only in the names behind it: the target of one file is never a folder above
another one's, and two files share a target only if they share their path.

* `below_slashed`, `below_slashed_empty` what such a path is read as;
* `resolved_slashed` its place, behind one that all of them share;
* `apart_of_isGenerated`, `pairwise_apart` targets keep apart.
-/

namespace EndpointScaffold.Support

open Export Files Naming Text

variable {c : Config} {names : List String}

/-! ### Reading -/

theorem head?_baseFolder (h : baseFolder c ≠ "") : ∃ ch ∈ (baseFolder c).toList.head?, ch ≠ '/' := by
  obtain ⟨ch, cs, hchars⟩ := List.exists_cons_of_ne_nil (mt String.toList_eq_nil_iff.mp h)
  have hhead := head?_dropAround (· == '/') c.featuresFolder.toList ch
  rw [baseFolder, trimOf, String.toList_ofList] at hchars
  rw [hchars] at hhead
  refine ⟨ch, ?_, fun hslash => ?_⟩
  · rw [baseFolder, trimOf, String.toList_ofList, hchars]
    rfl
  · have hnot := hhead rfl
    rw [hslash] at hnot
    exact absurd hnot (by decide)

/-- behind a folder, a path is relative -/
theorem below_slashed (p : Path) (h : baseFolder c ≠ "") (hnames : ∀ n ∈ names, Path.IsName n) :
    p.below (baseFolder c ++ Path.slashed names) =
      ⟨p.anchor, p.parts ++ (Path.partsOf c.featuresFolder ++ names)⟩ := by
  have hpath : Path.ofText (baseFolder c ++ Path.slashed names) =
      ⟨.here, Path.partsOf c.featuresFolder ++ names⟩ := by
    rw [Path.ofText, Path.anchorOf_slashed (head?_baseFolder h) names,
      Path.partsOf_slashed _ hnames, baseFolder, Path.partsOf_trimOf]
  rw [Path.below, hpath]
  rfl

/-- without a folder, a path is absolute -/
theorem below_slashed_empty (p : Path) (h : baseFolder c = "") (hnames : ∀ n ∈ names, Path.IsName n)
    (hne : names ≠ []) : p.below (baseFolder c ++ Path.slashed names) = ⟨.root, names⟩ := by
  obtain ⟨name, rest, rfl⟩ := List.exists_cons_of_ne_nil hne
  have hpath : Path.ofText ("" ++ Path.slashed (name :: rest)) = ⟨.root, name :: rest⟩ := by
    rw [Path.ofText, Path.anchorOf_slashed_empty (hnames name List.mem_cons_self) rest,
      Path.partsOf_slashed "" hnames]
    rfl
  rw [h, Path.below, hpath]
  rfl

/-! ### Places -/

def targetBase (c : Config) (root : Place) : Place :=
  if baseFolder c = "" then [] else (root ++ Path.partsOf c.featuresFolder).foldl Path.step []

theorem dots_not_mem_names (hnames : ∀ n ∈ names, Path.IsName n) : ".." ∉ names :=
  fun h => (hnames ".." h).noDots rfl

theorem resolved_slashed (root : Place) (hnames : ∀ n ∈ names, Path.IsName n) (hne : names ≠ []) :
    ((Path.ofPlace root).below (baseFolder c ++ Path.slashed names)).resolved [] =
      targetBase c root ++ names := by
  have hdots := dots_not_mem_names hnames
  rw [targetBase]
  by_cases hbase : baseFolder c = ""
  · rw [if_pos hbase, below_slashed_empty _ hbase hnames hne]
    exact Path.foldl_step hdots []
  · rw [if_neg hbase, below_slashed _ hbase hnames]
    show (root ++ (Path.partsOf c.featuresFolder ++ names)).foldl Path.step [] = _
    rw [← List.append_assoc, List.foldl_append, Path.foldl_step hdots]

theorem target_slashed {x : Exporter} {t : Place} (hnames : ∀ n ∈ names, Path.IsName n)
    (hne : names ≠ []) (h : x.target (baseFolder c ++ Path.slashed names) = .ok t) :
    t = targetBase c x.root ++ names := by
  rw [(target_eq_ok h).2.2, resolved_slashed x.root hnames hne]

/-! ### Targets keep apart -/

theorem fileNames_ne_nil (folders : List String) (stem : String) : fileNames folders stem ≠ [] :=
  List.append_ne_nil_of_right_ne_nil folders (List.cons_ne_nil _ _)

/-- a file does not lie below another one, for the name of that one has a point -/
theorem fileNames_eq_of_above {folders folders' : List String} {stem stem' : String}
    (hfolders : ∀ n ∈ folders', IsStem n)
    (h : fileNames folders stem <+: fileNames folders' stem') :
    fileNames folders stem = fileNames folders' stem' := by
  rw [fileNames, fileNames, List.prefix_concat_iff] at h
  refine h.resolve_right fun h => ?_
  -- otherwise the name of the one file would be a folder of the other one
  have hmem : sourceName stem ∈ folders' :=
    h.subset (List.mem_append_right folders (List.mem_singleton_self _))
  exact point_not_mem (hfolders _ hmem) (point_mem_sourceName stem)

theorem path_eq_of_above {x : Exporter} {path path' : String} (hpath : IsGenerated c path)
    (hpath' : IsGenerated c path') {t u : Place} (ht : x.target path = .ok t)
    (hu : x.target path' = .ok u) (h : t <+: u) : path = path' := by
  obtain ⟨folders, stem, hfolders, hstem, rfl⟩ := hpath
  obtain ⟨folders', stem', hfolders', hstem', rfl⟩ := hpath'
  rw [target_slashed (isName_of_mem_fileNames hfolders hstem) (fileNames_ne_nil _ _) ht,
    target_slashed (isName_of_mem_fileNames hfolders' hstem') (fileNames_ne_nil _ _) hu,
    List.prefix_append_right_inj] at h
  rw [fileNames_eq_of_above hfolders' h]

theorem apart_of_isGenerated (x : Exporter) {f g : SourceFile} (hf : IsGenerated c f.path)
    (hg : IsGenerated c g.path) (hne : f.path ≠ g.path) : Apart x f g :=
  fun _ _ ht hu => ⟨fun h => hne (path_eq_of_above hf hg ht hu h),
    fun h => hne (path_eq_of_above hg hf hu ht h).symm⟩

/-- targets of different generated files keep apart, in whatever order they are -/
theorem pairwise_apart (x : Exporter) {es : List Entity} (hes : ∀ e ∈ es, IsStem e.name) :
    (inOrder (rendering c es).files).Pairwise (Apart x) := by
  have hperm := List.mergeSort_perm (rendering c es).files fun f g => decide (f.path ≤ g.path)
  have hnodup : ((inOrder (rendering c es).files).map (·.path)).Nodup :=
    (hperm.map _).nodup_iff.mpr (nodup_rendering c es)
  refine (List.pairwise_map.mp hnodup).imp_of_mem fun {f g} hf hg hne => ?_
  exact apart_of_isGenerated x (isGenerated_rendering hes (hperm.subset hf))
    (isGenerated_rendering hes (hperm.subset hg)) hne

end EndpointScaffold.Support

/-!
## Which files remain

Files are generated one after the other, those that all entities share first, and a file takes the
place of an earlier one at the same path. So what remains at a path is the last file that was
generated for it, and all files remain if their paths differ.

* `generatedFiles` all of them in their order, `latestAt?` the last one at a path;
* `find?_rendering`, `mem_rendering_iff` the files of a project;
* `rendering_of_nodup` all of them remain;
* `errors_rendering_eq_nil_iff` every entity has its files.
-/

namespace EndpointScaffold.Support

variable {c : Config} {e : Entity} {es : List Entity} {f g : SourceFile}
  {files fs gs : List SourceFile} {path : String}

/-- files of an entity, none if they cannot be made -/
def filesOf (c : Config) (e : Entity) : List SourceFile := (entityFiles c e).toOption.getD []

/-- files of a project in the order in which they are made -/
def generatedFiles (c : Config) (es : List Entity) : List SourceFile :=
  sharedFiles c ++ es.flatMap (filesOf c)

/-- last file at a path -/
def latestAt? (path : String) (fs : List SourceFile) : Option SourceFile :=
  fs.reverse.find? fun f => f.path == path

/-! ### Paths -/

theorem latestAt?_append (path : String) (fs gs : List SourceFile) :
    latestAt? path (fs ++ gs) = (latestAt? path gs).or (latestAt? path fs) := by
  rw [latestAt?, List.reverse_append, List.find?_append]
  rfl

theorem latestAt?_cons (path : String) (f : SourceFile) (fs : List SourceFile) :
    latestAt? path (f :: fs) =
      (latestAt? path fs).or (if f.path == path then some f else none) := by
  rw [← List.singleton_append, latestAt?_append]
  congr 1
  rw [latestAt?, List.reverse_singleton, List.find?_cons, List.find?_nil]
  cases f.path == path <;> rfl

theorem path_of_latestAt? (h : latestAt? path fs = some f) : f.path = path := by
  rw [latestAt?] at h
  have hfound := List.find?_some h
  exact beq_iff_eq.1 hfound

theorem exists_latestAt? (hf : f ∈ fs) : ∃ g, latestAt? f.path fs = some g := by
  rw [← Option.isSome_iff_exists, latestAt?, List.find?_isSome]
  exact ⟨f, List.mem_reverse.2 hf, beq_self_eq_true f.path⟩

theorem find?_eq_none_of_not_mem (h : path ∉ fs.map (·.path)) :
    (fs.find? fun f => f.path == path) = none := by
  rw [List.find?_eq_none]
  exact fun f hf hpath => h (List.mem_map.2 ⟨f, hf, beq_iff_eq.1 hpath⟩)

/-- where no path repeats, the last file at a path is also the first one -/
theorem latestAt?_of_nodup (h : (fs.map (·.path)).Nodup) (path : String) :
    latestAt? path fs = fs.find? fun f => f.path == path := by
  induction fs with
  | nil => rfl
  | cons f fs ih =>
    rw [List.map_cons, List.nodup_cons] at h
    rw [latestAt?_cons, ih h.2, List.find?_cons]
    by_cases hpath : f.path = path
    · subst hpath
      rw [find?_eq_none_of_not_mem h.1, beq_self_eq_true]
      rfl
    · rw [beq_false_of_ne hpath, if_neg Bool.false_ne_true, Option.or_none]

theorem find?_of_nodup (h : (fs.map (·.path)).Nodup) (hf : f ∈ fs) :
    (fs.find? fun g => g.path == f.path) = some f := by
  induction fs with
  | nil => exact absurd hf List.not_mem_nil
  | cons g fs ih =>
    rw [List.map_cons, List.nodup_cons] at h
    rw [List.find?_cons]
    rcases List.mem_cons.1 hf with rfl | hf
    · rw [beq_self_eq_true]
    · have hne : g.path ≠ f.path := fun hpath => by
        rw [hpath] at h
        exact h.1 (List.mem_map_of_mem hf)
      rw [beq_false_of_ne hne, ih h.2 hf]

/-! ### One file after the other -/

theorem find?_putFile (f : SourceFile) (gs : List SourceFile) (path : String) :
    ((putFile f gs).find? fun g => g.path == path) =
      if f.path == path then some f else gs.find? fun g => g.path == path := by
  induction gs with
  | nil => rw [putFile, List.find?_cons]; cases f.path == path <;> rfl
  | cons g gs ih =>
    rw [putFile]
    by_cases hpath : g.path = f.path
    · rw [if_pos (beq_iff_eq.2 hpath), List.find?_cons, List.find?_cons, hpath]
      cases f.path == path <;> rfl
    · rw [if_neg fun h => hpath (beq_iff_eq.1 h), List.find?_cons, ih, List.find?_cons]
      cases hg : g.path == path with
      | false => rfl
      | true =>
        rw [← beq_iff_eq.1 hg, beq_false_of_ne (Ne.symm hpath)]
        rfl

/-- files that are added leave the last one at each path -/
theorem find?_foldl_putFile (files gs : List SourceFile) (path : String) :
    ((files.foldl (fun all f => putFile f all) gs).find? fun g => g.path == path) =
      (latestAt? path files).or (gs.find? fun g => g.path == path) := by
  induction files generalizing gs with
  | nil => rfl
  | cons f files ih =>
    rw [List.foldl_cons, ih, find?_putFile, latestAt?_cons, Option.or_assoc]
    cases f.path == path <;> rfl

theorem putFile_of_not_mem (h : f.path ∉ gs.map (·.path)) : putFile f gs = gs ++ [f] := by
  induction gs with
  | nil => rfl
  | cons g gs ih =>
    rw [List.map_cons, List.mem_cons, not_or] at h
    rw [putFile, if_neg fun hpath => h.1 (beq_iff_eq.1 hpath).symm, ih h.2, List.cons_append]

theorem foldl_putFile_of_nodup (h : ((gs ++ files).map (·.path)).Nodup) :
    files.foldl (fun all f => putFile f all) gs = gs ++ files := by
  induction files generalizing gs with
  | nil => rw [List.foldl_nil, List.append_nil]
  | cons f files ih =>
    rw [List.append_cons] at h
    have hfresh : f.path ∉ gs.map (·.path) := by
      rw [List.map_append, List.map_append, List.append_assoc, List.nodup_append] at h
      exact fun hmem => h.2.2 _ hmem _ (List.mem_append_left _ List.mem_cons_self) rfl
    rw [List.foldl_cons, putFile_of_not_mem hfresh, ih h, List.append_assoc, List.singleton_append]

/-! ### Projects -/

theorem files_add (c : Config) (r : Rendering) (e : Entity) :
    (r.add c e).files = (filesOf c e).foldl (fun all f => putFile f all) r.files := by
  rw [Rendering.add, filesOf]
  cases entityFiles c e <;> rfl

theorem files_rendering (c : Config) (es : List Entity) :
    (rendering c es).files =
      (es.flatMap (filesOf c)).foldl (fun all f => putFile f all) (sharedFiles c) := by
  suffices h : ∀ (es : List Entity) (r : Rendering), (es.foldl (Rendering.add c) r).files =
      (es.flatMap (filesOf c)).foldl (fun all f => putFile f all) r.files from h es _
  intro es
  induction es with
  | nil => exact fun r => rfl
  | cons e es ih =>
    intro r
    rw [List.foldl_cons, ih, files_add, List.flatMap_cons, List.foldl_append]

theorem find?_rendering (c : Config) (es : List Entity) (path : String) :
    ((rendering c es).files.find? fun f => f.path == path) =
      latestAt? path (generatedFiles c es) := by
  rw [files_rendering, find?_foldl_putFile, generatedFiles, latestAt?_append,
    latestAt?_of_nodup (nodup_sharedFiles c)]

/-- a file remains if it is the last one at its path -/
theorem mem_rendering_iff :
    f ∈ (rendering c es).files ↔ latestAt? f.path (generatedFiles c es) = some f := by
  rw [← find?_rendering]
  exact ⟨find?_of_nodup (nodup_rendering c es), List.mem_of_find?_eq_some⟩

theorem rendering_of_nodup (h : ((generatedFiles c es).map (·.path)).Nodup) :
    (rendering c es).files = generatedFiles c es := by
  rw [files_rendering]
  exact foldl_putFile_of_nodup h

theorem errors_rendering_eq_nil_iff :
    (rendering c es).errors = [] ↔ ∀ e ∈ es, ∃ files, entityFiles c e = .ok files := by
  suffices h : ∀ (es : List Entity) (r : Rendering), (es.foldl (Rendering.add c) r).errors = [] ↔
      r.errors = [] ∧ ∀ e ∈ es, ∃ files, entityFiles c e = .ok files by
    rw [rendering, h]
    exact and_iff_right rfl
  intro es
  induction es with
  | nil => simp
  | cons e es ih =>
    intro r
    rw [List.foldl_cons, ih, List.forall_mem_cons, ← and_assoc]
    refine and_congr_left fun _ => ?_
    rw [Rendering.add]
    cases hfiles : entityFiles c e with
    | ok files => simp
    | error problem => simp

end EndpointScaffold.Support
