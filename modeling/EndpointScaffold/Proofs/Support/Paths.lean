import EndpointScaffold.Proofs.Export.Placing
import EndpointScaffold.Proofs.Naming.Plural
import EndpointScaffold.Proofs.Schema.Lists
import EndpointScaffold.Proofs.Text.Splitting
import EndpointScaffold.Support.Files

/-!
# Paths of generated files

Every generated file stands in folders below the folder of all of them, and only its own name has a
point in it. No two files of a project share their path.

* `IsGenerated` paths of that form; `isGenerated_rendering` all generated files have one;
* `nodup_rendering` no path repeats.
-/

namespace EndpointScaffold.Support

open Files Naming Schema Text

/-! ### Names -/

theorem isStem_append {s t : String} (hs : IsStem s) (ht : t.toList.all isStemChar = true) :
    IsStem (s ++ t) := by
  refine ⟨append_ne_empty hs.nonempty t, fun c hc => ?_⟩
  rw [String.toList_append, List.mem_append] at hc
  exact hc.elim (hs.chars c) (List.all_eq_true.mp ht c)

theorem isStem_prepend {s t : String} (hs : IsStem s) (ht : t.toList.all isStemChar = true) :
    IsStem (t ++ s) := by
  refine ⟨fun h => hs.nonempty (String.append_eq_empty_iff.mp h).2, fun c hc => ?_⟩
  rw [String.toList_append, List.mem_append] at hc
  exact hc.elim (List.all_eq_true.mp ht c) (hs.chars c)

theorem point_not_mem {s : String} (hs : IsStem s) : '.' ∉ s.toList :=
  fun h => absurd (hs.chars '.' h) (by decide)

theorem isName_of_isStem {s : String} (hs : IsStem s) : Path.IsName s where
  nonempty := hs.nonempty
  undotted h := point_not_mem hs (by rw [h]; decide)
  noDots h := point_not_mem hs (by rw [h]; decide)
  noSlash h := absurd (hs.chars '/' h) (by decide)

def sourceName (stem : String) : String := stem ++ ".cs"

theorem point_mem_sourceName (stem : String) : '.' ∈ (sourceName stem).toList := by
  rw [sourceName, String.toList_append]
  exact List.mem_append_right _ (by decide)

theorem isName_sourceName {stem : String} (hs : IsStem stem) : Path.IsName (sourceName stem) where
  nonempty := append_ne_empty hs.nonempty _
  undotted h := by
    have hlength := congrArg String.length h
    rw [sourceName, String.length_append] at hlength
    have hcs : ".cs".length = 3 := rfl
    have hpoint : ".".length = 1 := rfl
    omega
  noDots h := by
    have hlength := congrArg String.length h
    rw [sourceName, String.length_append] at hlength
    have hcs : ".cs".length = 3 := rfl
    have hpoints : "..".length = 2 := rfl
    omega
  noSlash h := by
    rw [sourceName, String.toList_append, List.mem_append] at h
    exact h.elim (fun h => absurd (hs.chars '/' h) (by decide)) (by decide)

/-! ### Generated paths -/

/-- names of folders, and of a source file in the last of them -/
def fileNames (folders : List String) (stem : String) : List String :=
  folders ++ [sourceName stem]

theorem isName_of_mem_fileNames {folders : List String} {stem : String}
    (hfolders : ∀ n ∈ folders, IsStem n) (hstem : IsStem stem) :
    ∀ n ∈ fileNames folders stem, Path.IsName n := by
  intro n hn
  rw [fileNames, List.mem_append, List.mem_singleton] at hn
  rcases hn with hn | rfl
  · exact isName_of_isStem (hfolders n hn)
  · exact isName_sourceName hstem

/-- a path below the folder of all generated files -/
def IsGenerated (c : Config) (path : String) : Prop :=
  ∃ folders stem, (∀ n ∈ folders, IsStem n) ∧ IsStem stem ∧
    path = baseFolder c ++ Path.slashed (fileNames folders stem)

theorem isGenerated_of_one {c : Config} {path : String} (folder stem : String)
    (hfolder : IsStem folder) (hstem : IsStem stem)
    (hpath : path = baseFolder c ++ ("/" ++ folder ++ ("/" ++ sourceName stem))) :
    IsGenerated c path := by
  refine ⟨[folder], stem, fun n hn => ?_, hstem, ?_⟩
  · rw [List.mem_singleton.mp hn]
    exact hfolder
  · rw [hpath, fileNames, List.singleton_append, Path.slashed_cons, Path.slashed_cons,
      Path.slashed, List.map_nil, String.join_nil, String.append_empty]

theorem isGenerated_of_two {c : Config} {path : String} (folder inner stem : String)
    (hfolder : IsStem folder) (hinner : IsStem inner) (hstem : IsStem stem)
    (hpath : path = baseFolder c ++ ("/" ++ folder ++ ("/" ++ inner ++ ("/" ++ sourceName stem)))) :
    IsGenerated c path := by
  refine ⟨[folder, inner], stem, fun n hn => ?_, hstem, ?_⟩
  · rcases List.mem_cons.mp hn with rfl | hn
    · exact hfolder
    · rw [List.mem_singleton.mp hn]
      exact hinner
  · rw [hpath, fileNames, List.cons_append, List.singleton_append, Path.slashed_cons,
      Path.slashed_cons, Path.slashed_cons, Path.slashed, List.map_nil, String.join_nil,
      String.append_empty]

/-! ### Which files are generated -/

theorem isGenerated_sharedFiles {c : Config} {f : SourceFile} (hf : f ∈ sharedFiles c) :
    IsGenerated c f.path := by
  rw [sharedFiles] at hf
  split at hf
  · have hcommon : IsStem "Common" := ⟨by decide, by decide⟩
    rcases List.mem_cons.mp hf with rfl | hf
    · refine isGenerated_of_one "Common" "PagedRequest" hcommon ⟨by decide, by decide⟩ ?_
      show baseFolder c ++ "/Common" ++ "/PagedRequest.cs" = _
      rw [String.append_assoc]
      rfl
    · rw [List.mem_singleton.mp hf]
      refine isGenerated_of_one "Common" "PagedResponse" hcommon ⟨by decide, by decide⟩ ?_
      show baseFolder c ++ "/Common" ++ "/PagedResponse.cs" = _
      rw [String.append_assoc]
      rfl
  · exact absurd hf List.not_mem_nil

/-- path of a file in the folder of an entity -/
theorem isGenerated_entityPath (c : Config) {e : Entity} (he : IsStem e.name) (ending : String)
    (hending : ending.toList.all isStemChar = true) :
    IsGenerated c (entityFolder c e ++ "/" ++ e.name ++ (ending ++ ".cs")) := by
  refine isGenerated_of_one (plural e.name) (e.name ++ ending) (isStem_plural he)
    (isStem_append he hending) ?_
  rw [entityFolder, sourceName]
  simp only [String.append_assoc]

theorem isGenerated_validatorFile {c : Config} {e : Entity} {request : Contract}
    (he : IsStem e.name) (hrequest : IsStem request.name) {f : SourceFile}
    (hf : validatorFile c e request = .ok f) : IsGenerated c f.path := by
  obtain ⟨text, -, rfl⟩ := map_eq_ok hf
  refine isGenerated_of_two (plural e.name) "Validators" (request.name ++ "Validator")
    (isStem_plural he) ⟨by decide, by decide⟩ (isStem_append hrequest (by decide)) ?_
  show entityFolder c e ++ "/Validators/" ++ request.name ++ "Validator.cs" = _
  have hvalidators : "/Validators/" = "/" ++ "Validators" ++ "/" := rfl
  have hending : "Validator.cs" = "Validator" ++ ".cs" := rfl
  rw [entityFolder, sourceName, hvalidators, hending]
  simp only [String.append_assoc]

theorem isGenerated_validators {c : Config} {e : Entity} (he : IsStem e.name)
    {validators : List SourceFile}
    (h : [createRequest e, updateRequest e].mapM (validatorFile c e) = .ok validators) :
    ∀ f ∈ validators, IsGenerated c f.path := by
  intro f hf
  obtain ⟨request, hrequest, hfile⟩ := mem_of_mapM_ok h hf
  refine isGenerated_validatorFile he ?_ hfile
  rcases List.mem_cons.mp hrequest with rfl | hrequest
  · exact isStem_append (isStem_prepend (t := "Create") he (by decide)) (t := "Request") (by decide)
  · rw [List.mem_singleton.mp hrequest]
    exact isStem_append (isStem_prepend (t := "Update") he (by decide)) (t := "Request") (by decide)

/-- the files of an entity: contracts, mapper and validators, as far as they are asked for -/
theorem entityFiles_eq_ok {c : Config} {e : Entity} {files : List SourceFile}
    (h : entityFiles c e = .ok files) :
    ∃ validators : List SourceFile,
      (validators = [] ∨
        [createRequest e, updateRequest e].mapM (validatorFile c e) = .ok validators) ∧
      files = (if c.makesContracts then
          [⟨entityFolder c e ++ "/" ++ e.name ++ "Contracts.cs", contractsText c e⟩] else [])
        ++ (if c.makesMappers then
          [⟨entityFolder c e ++ "/" ++ e.name ++ "Mapper.cs", mapperText c e⟩] else [])
        ++ validators := by
  rw [entityFiles] at h
  split at h
  · obtain ⟨validators, hvalidators, h⟩ := bind_eq_ok h
    exact ⟨validators, .inr hvalidators, (Except.ok.inj h).symm⟩
  · exact ⟨[], .inl rfl, (Except.ok.inj h).symm⟩

theorem isGenerated_entityFiles {c : Config} {e : Entity} (he : IsStem e.name)
    {files : List SourceFile} (hfiles : entityFiles c e = .ok files) {f : SourceFile}
    (hf : f ∈ files) : IsGenerated c f.path := by
  have hcontracts : IsGenerated c (entityFolder c e ++ "/" ++ e.name ++ "Contracts.cs") :=
    isGenerated_entityPath c he "Contracts" (by decide)
  have hmapper : IsGenerated c (entityFolder c e ++ "/" ++ e.name ++ "Mapper.cs") :=
    isGenerated_entityPath c he "Mapper" (by decide)
  obtain ⟨validators, hvalidators, rfl⟩ := entityFiles_eq_ok hfiles
  rw [List.mem_append, List.mem_append] at hf
  rcases hf with (hf | hf) | hf
  · split at hf
    · rw [List.mem_singleton.mp hf]
      exact hcontracts
    · exact absurd hf List.not_mem_nil
  · split at hf
    · rw [List.mem_singleton.mp hf]
      exact hmapper
    · exact absurd hf List.not_mem_nil
  · rcases hvalidators with rfl | hvalidators
    · exact absurd hf List.not_mem_nil
    · exact isGenerated_validators he hvalidators f hf

theorem mem_putFile {f g : SourceFile} {gs : List SourceFile} (h : g ∈ putFile f gs) :
    g = f ∨ g ∈ gs := by
  induction gs with
  | nil => exact .inl (List.mem_singleton.mp h)
  | cons a gs ih =>
    rw [putFile] at h
    split at h
    · exact (List.mem_cons.mp h).imp id (List.mem_cons_of_mem a)
    · rcases List.mem_cons.mp h with rfl | h
      · exact .inr List.mem_cons_self
      · exact (ih h).imp id (List.mem_cons_of_mem a)

theorem mem_foldl_putFile {files all : List SourceFile} {g : SourceFile}
    (h : g ∈ files.foldl (fun all f => putFile f all) all) : g ∈ files ∨ g ∈ all := by
  induction files generalizing all with
  | nil => exact .inr h
  | cons f files ih =>
    rcases ih h with h | h
    · exact .inl (List.mem_cons_of_mem f h)
    · rcases mem_putFile h with rfl | h
      · exact .inl List.mem_cons_self
      · exact .inr h

/-- the files of a project are those that all entities share, and those of each entity -/
theorem mem_rendering {c : Config} {es : List Entity} {f : SourceFile}
    (h : f ∈ (rendering c es).files) :
    f ∈ sharedFiles c ∨ ∃ e ∈ es, ∃ files, entityFiles c e = .ok files ∧ f ∈ files := by
  rw [rendering] at h
  -- entities are added to files that are there already
  suffices hfold : ∀ (es : List Entity) (r : Rendering), f ∈ (es.foldl (Rendering.add c) r).files →
      f ∈ r.files ∨ ∃ e ∈ es, ∃ files, entityFiles c e = .ok files ∧ f ∈ files from hfold es _ h
  intro es
  induction es with
  | nil => exact fun r h => .inl h
  | cons e es ih =>
    intro r h
    rcases ih _ h with h | ⟨e', he', hfiles⟩
    · rw [Rendering.add] at h
      cases hentity : entityFiles c e with
      | error problem =>
        rw [hentity] at h
        exact .inl h
      | ok files =>
        rw [hentity] at h
        rcases mem_foldl_putFile h with h | h
        · exact .inr ⟨e, List.mem_cons_self, files, hentity, h⟩
        · exact .inl h
    · exact .inr ⟨e', List.mem_cons_of_mem e he', hfiles⟩

theorem isGenerated_rendering {c : Config} {es : List Entity} (hes : ∀ e ∈ es, IsStem e.name)
    {f : SourceFile} (h : f ∈ (rendering c es).files) : IsGenerated c f.path := by
  rcases mem_rendering h with h | ⟨e, he, files, hfiles, hf⟩
  · exact isGenerated_sharedFiles h
  · exact isGenerated_entityFiles (hes e he) hfiles hf

/-! ### No path repeats -/

theorem mem_paths_putFile {f : SourceFile} {gs : List SourceFile} {path : String}
    (h : path ∈ (putFile f gs).map (·.path)) : path = f.path ∨ path ∈ gs.map (·.path) := by
  obtain ⟨g, hg, rfl⟩ := List.mem_map.mp h
  exact (mem_putFile hg).imp (congrArg _) List.mem_map_of_mem

theorem nodup_putFile {f : SourceFile} {gs : List SourceFile} (h : (gs.map (·.path)).Nodup) :
    ((putFile f gs).map (·.path)).Nodup := by
  induction gs with
  | nil => exact List.nodup_singleton _
  | cons g gs ih =>
    rw [List.map_cons, List.nodup_cons] at h
    rw [putFile]
    by_cases hpath : g.path = f.path
    · rw [if_pos (beq_iff_eq.mpr hpath), List.map_cons, List.nodup_cons, ← hpath]
      exact h
    · rw [if_neg (fun heq => hpath (beq_iff_eq.mp heq)), List.map_cons, List.nodup_cons]
      exact ⟨fun hmem => (mem_paths_putFile hmem).elim hpath h.1, ih h.2⟩

theorem nodup_sharedFiles (c : Config) : ((sharedFiles c).map (·.path)).Nodup := by
  rw [sharedFiles]
  split
  · rw [List.map_cons, List.map_singleton, List.nodup_cons]
    refine ⟨fun h => ?_, List.nodup_singleton _⟩
    have hpaths : commonFolder c ++ "/PagedRequest.cs" = commonFolder c ++ "/PagedResponse.cs" :=
      List.mem_singleton.mp h
    exact absurd (String.append_right_inj _ |>.mp hpaths) (by decide)
  · exact List.nodup_nil

theorem nodup_rendering (c : Config) (es : List Entity) :
    ((rendering c es).files.map (·.path)).Nodup := by
  have hfold : ∀ (files all : List SourceFile), (all.map (·.path)).Nodup →
      ((files.foldl (fun all f => putFile f all) all).map (·.path)).Nodup := fun files => by
    induction files with
    | nil => exact fun all h => h
    | cons f files ih => exact fun all h => ih _ (nodup_putFile h)
  suffices h : ∀ (es : List Entity) (r : Rendering), (r.files.map (·.path)).Nodup →
      ((es.foldl (Rendering.add c) r).files.map (·.path)).Nodup from h es _ (nodup_sharedFiles c)
  intro es
  induction es with
  | nil => exact fun r h => h
  | cons e es ih =>
    refine fun r h => ih _ ?_
    rw [Rendering.add]
    cases entityFiles c e with
    | error problem => exact h
    | ok files => exact hfold files r.files h

end EndpointScaffold.Support
