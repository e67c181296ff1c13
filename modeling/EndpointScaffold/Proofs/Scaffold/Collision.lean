import EndpointScaffold.Proofs.Feature.Distinct
import EndpointScaffold.Proofs.Support.Targets
import EndpointScaffold.Proofs.Validation.Valid
import EndpointScaffold.Scaffold.Run

/-!
# Generated files keep apart

The files of entities whose names were checked have paths that differ without regard to case, and
none of them has the path of a file that all entities share. The path of a file has the folder of its
entity as a part of its own, and the name behind it tells the file.

* `placed` paths in parts, `lower_placed_inj` what they tell;
* `restsOf`, `sharedRests` what can stand behind the folder of an entity, or behind the shared one;
  `sublist_paths_filesOf`, `sublist_paths_sharedFiles` the files that are generated;
* `nodup_restsOf`, `lower_rest_ne` all of these differ;
* `nodup_paths` all files of a project.
-/

namespace EndpointScaffold.Support

open Naming Schema Text Validation

variable {c : Config} {a b e : Entity} {es : List Entity}

/-- path of a file by its folder and by what stands behind that -/
def placed (c : Config) (folder rest : String) : String :=
  baseFolder c ++ "/" ++ (folder ++ (String.singleton '/' ++ rest))

/-- what can stand behind the folder of an entity -/
def restsOf (e : Entity) : List String := [
  e.name ++ "Contracts.cs",
  e.name ++ "Mapper.cs",
  "Validators/Create" ++ (e.name ++ "RequestValidator.cs"),
  "Validators/Update" ++ (e.name ++ "RequestValidator.cs")]

/-- what can stand behind the folder that all entities share -/
def sharedRests : List String := ["PagedRequest.cs", "PagedResponse.cs"]

/-! ### Paths in parts -/

theorem lower_placed_inj {folder folder' rest rest' : String} (hfolder : IsPart folder)
    (hfolder' : IsPart folder') (hrest : IsAscii rest) (hrest' : IsAscii rest')
    (h : lower (placed c folder rest) = lower (placed c folder' rest')) :
    lower folder = lower folder' ∧ lower rest = lower rest' :=
  lower_parts_inj (by decide) (by decide) ⟨hfolder.ascii, hfolder.noSlash⟩
    ⟨hfolder'.ascii, hfolder'.noSlash⟩ hrest hrest' h

theorem isPart_common : IsPart "Common" := ⟨by decide, by decide, by decide⟩

theorem isAscii_restsOf (h : AreApart es) (he : e ∈ es) : ∀ rest ∈ restsOf e, IsAscii rest := by
  have hname := h.isAscii he
  intro rest hrest
  simp only [restsOf, List.mem_cons, List.not_mem_nil, or_false] at hrest
  rcases hrest with rfl | rfl | rfl | rfl
  · exact hname.append (by decide)
  · exact hname.append (by decide)
  · exact IsAscii.append (by decide) (hname.append (by decide))
  · exact IsAscii.append (by decide) (hname.append (by decide))

theorem isAscii_sharedRests : ∀ rest ∈ sharedRests, IsAscii rest := by
  decide

/-! ### Which files are generated -/

theorem path_validatorFile {request : Contract} {f : SourceFile}
    (h : validatorFile c e request = .ok f) :
    f.path = placed c (plural e.name) ("Validators/" ++ (request.name ++ "Validator.cs")) := by
  obtain ⟨text, -, rfl⟩ := map_eq_ok h
  show entityFolder c e ++ "/Validators/" ++ request.name ++ "Validator.cs" = _
  have hslashes : "/Validators/" = String.singleton '/' ++ "Validators/" := rfl
  rw [entityFolder, placed, hslashes]
  simp only [String.append_assoc]

theorem paths_validators {validators : List SourceFile}
    (h : [createRequest e, updateRequest e].mapM (validatorFile c e) = .ok validators) :
    validators.map (·.path) = ((restsOf e).drop 2).map (placed c (plural e.name)) := by
  obtain ⟨create, rest, hcreate, hrest, rfl⟩ := mapM_cons_eq_ok h
  obtain ⟨update, none, hupdate, hnone, rfl⟩ := mapM_cons_eq_ok hrest
  obtain rfl := Except.ok.inj hnone
  have hname : ∀ verb : String, "Validators/" ++ (verb ++ e.name ++ "Request" ++ "Validator.cs") =
      "Validators/" ++ verb ++ (e.name ++ "RequestValidator.cs") := fun verb => by
    have hending : "RequestValidator.cs" = "Request" ++ "Validator.cs" := rfl
    rw [hending]
    simp only [String.append_assoc]
  rw [List.map_cons, List.map_cons, path_validatorFile hcreate, path_validatorFile hupdate]
  show [placed c _ ("Validators/" ++ ("Create" ++ e.name ++ "Request" ++ "Validator.cs")),
    placed c _ ("Validators/" ++ ("Update" ++ e.name ++ "Request" ++ "Validator.cs"))] = _
  rw [hname, hname]
  rfl

theorem sublist_paths_entityFiles {files : List SourceFile} (h : entityFiles c e = .ok files) :
    (files.map (·.path)).Sublist ((restsOf e).map (placed c (plural e.name))) := by
  -- a file that is not asked for is left out
  have hfile : ∀ (b : Bool) (ending text : String),
      ((if b then [(⟨entityFolder c e ++ "/" ++ e.name ++ ending, text⟩ : SourceFile)] else []).map
        (·.path)).Sublist [placed c (plural e.name) (e.name ++ ending)] := fun b ending text => by
    cases b with
    | false => exact List.nil_sublist _
    | true =>
      have hpath : entityFolder c e ++ "/" ++ e.name ++ ending =
          placed c (plural e.name) (e.name ++ ending) := by
        rw [entityFolder, placed]
        simp only [String.append_assoc]
        rfl
      rw [if_pos rfl, List.map_singleton, hpath]
  obtain ⟨validators, hvalidators, rfl⟩ := entityFiles_eq_ok h
  rw [List.map_append, List.map_append]
  refine ((hfile _ _ _).append (hfile _ _ _)).append ?_
  rcases hvalidators with rfl | hvalidators
  · exact List.nil_sublist _
  · rw [paths_validators hvalidators]
    exact .refl _

theorem sublist_paths_filesOf (c : Config) (e : Entity) :
    ((filesOf c e).map (·.path)).Sublist ((restsOf e).map (placed c (plural e.name))) := by
  rw [filesOf]
  cases h : entityFiles c e with
  | error problem => exact List.nil_sublist _
  | ok files => exact sublist_paths_entityFiles h

theorem sublist_paths_sharedFiles (c : Config) :
    ((sharedFiles c).map (·.path)).Sublist (sharedRests.map (placed c "Common")) := by
  have hpath : ∀ name, commonFolder c ++ ("/" ++ name) = placed c "Common" name := fun name => by
    have hcommon : "/Common" = "/" ++ "Common" := rfl
    rw [commonFolder, placed, hcommon]
    simp only [String.append_assoc]
    rfl
  rw [sharedFiles]
  split
  · show List.Sublist [commonFolder c ++ ("/" ++ "PagedRequest.cs"),
      commonFolder c ++ ("/" ++ "PagedResponse.cs")] _
    rw [hpath, hpath]
    exact .refl _
  · exact List.nil_sublist _

/-! ### What stands behind a folder -/

/-- only validators have a folder of their own -/
theorem lower_ne_validator {verb ending : String} (h : AreApart es) (he : e ∈ es)
    (hending : IsAscii ending) (hslash : '/' ∉ ending.toList) (hverb : IsAscii verb)
    (hfolder : '/' ∈ verb.toList) :
    lower (e.name ++ ending) ≠ lower (verb ++ (e.name ++ "RequestValidator.cs")) := by
  have hname := h.isAscii he
  have hnot : '/' ∉ e.name.toList := fun hmem =>
    absurd ((h.isStem he).chars '/' hmem) (by decide)
  have hvalidator := hverb.append (hname.append (by decide : IsAscii "RequestValidator.cs"))
  intro heq
  have hmem : '/' ∈ (lower (e.name ++ ending)).toList := by
    rw [heq, mem_lower_iff hvalidator (by decide), String.toList_append]
    exact List.mem_append_left _ hfolder
  rw [mem_lower_iff (hname.append hending) (by decide), String.toList_append,
    List.mem_append] at hmem
  exact hmem.elim hnot hslash

theorem nodup_restsOf (h : AreApart es) (he : e ∈ es) : ((restsOf e).map lower).Nodup := by
  have hcontracts : IsAscii "Contracts.cs" ∧ '/' ∉ "Contracts.cs".toList := by decide
  have hmapper : IsAscii "Mapper.cs" ∧ '/' ∉ "Mapper.cs".toList := by decide
  have hcreate : IsAscii "Validators/Create" ∧ '/' ∈ "Validators/Create".toList := by decide
  have hupdate : IsAscii "Validators/Update" ∧ '/' ∈ "Validators/Update".toList := by decide
  have hkinds : lower (e.name ++ "Contracts.cs") ≠ lower (e.name ++ "Mapper.cs") := fun heq =>
    absurd (lower_tail_eq hcontracts.1 hmapper.1 heq) (by decide)
  have hverbs : lower ("Validators/Create" ++ (e.name ++ "RequestValidator.cs")) ≠
      lower ("Validators/Update" ++ (e.name ++ "RequestValidator.cs")) := by
    have htail : IsAscii (e.name ++ "RequestValidator.cs") := (h.isAscii he).append (by decide)
    rw [lower_append hcreate.1 htail, lower_append hupdate.1 htail, ne_eq, String.append_left_inj]
    decide
  have hapart : ∀ {ending verb : String}, IsAscii ending ∧ '/' ∉ ending.toList →
      IsAscii verb ∧ '/' ∈ verb.toList →
      lower (e.name ++ ending) ≠ lower (verb ++ (e.name ++ "RequestValidator.cs")) :=
    fun hending hverb => lower_ne_validator h he hending.1 hending.2 hverb.1 hverb.2
  simp only [restsOf, List.map_cons, List.map_nil, List.nodup_cons, List.mem_cons,
    List.not_mem_nil, or_false, not_or, not_false_eq_true, List.nodup_nil, and_true]
  exact ⟨⟨hkinds, hapart hcontracts hcreate, hapart hcontracts hupdate⟩,
    ⟨hapart hmapper hcreate, hapart hmapper hupdate⟩, hverbs⟩

theorem nodup_sharedRests : (sharedRests.map lower).Nodup := by
  decide

/-- the names of files of entities and of shared files differ before their extension, whatever the
entity is called -/
theorem lower_rest_ne {rest shared : String} (h : AreApart es) (he : e ∈ es) (hrest : rest ∈ restsOf e)
    (hshared : shared ∈ sharedRests) : lower rest ≠ lower shared := by
  have hname := h.isAscii he
  have hending : ∃ x, IsAscii x ∧ ∃ s ∈ ["s.cs", "r.cs"], rest = x ++ s := by
    have hparts : ∀ {whole front back : String}, whole = front ++ back →
        e.name ++ whole = e.name ++ front ++ back := fun hwhole => by
      rw [hwhole, String.append_assoc]
    have hvalidator : e.name ++ "RequestValidator.cs" = e.name ++ "RequestValidato" ++ "r.cs" :=
      hparts rfl
    have htail : IsAscii (e.name ++ "RequestValidato") := hname.append (by decide)
    simp only [restsOf, List.mem_cons, List.not_mem_nil, or_false] at hrest
    rcases hrest with rfl | rfl | rfl | rfl
    · exact ⟨e.name ++ "Contract", hname.append (by decide), "s.cs", by decide, hparts rfl⟩
    · exact ⟨e.name ++ "Mappe", hname.append (by decide), "r.cs", by decide, hparts rfl⟩
    · rw [hvalidator, ← String.append_assoc]
      exact ⟨_, IsAscii.append (by decide) htail, "r.cs", by decide, rfl⟩
    · rw [hvalidator, ← String.append_assoc]
      exact ⟨_, IsAscii.append (by decide) htail, "r.cs", by decide, rfl⟩
  have hending' : ∃ y, IsAscii y ∧ ∃ t ∈ ["t.cs", "e.cs"], shared = y ++ t := by
    simp only [sharedRests, List.mem_cons, List.not_mem_nil, or_false] at hshared
    rcases hshared with rfl | rfl
    · exact ⟨"PagedReques", by decide, "t.cs", by decide, rfl⟩
    · exact ⟨"PagedRespons", by decide, "e.cs", by decide, rfl⟩
  obtain ⟨x, hx, s, hs, rfl⟩ := hending
  obtain ⟨y, hy, t, ht, rfl⟩ := hending'
  have hdiffer : ∀ s ∈ ["s.cs", "r.cs"], ∀ t ∈ ["t.cs", "e.cs"],
      IsAscii s ∧ IsAscii t ∧ s.length = t.length ∧ lower s ≠ lower t := by
    decide
  obtain ⟨hs, ht, hlength, hne⟩ := hdiffer s hs t ht
  exact lower_ne_of_ending hx hy hs ht hlength hne

/-! ### All files -/

/-- files of one folder differ by what stands behind it -/
theorem nodup_lower_placed {folder : String} {rests paths : List String} (hfolder : IsPart folder)
    (hascii : ∀ rest ∈ rests, IsAscii rest) (hrests : (rests.map lower).Nodup)
    (hpaths : paths.Sublist (rests.map (placed c folder))) : (paths.map lower).Nodup := by
  refine List.Nodup.sublist (hpaths.map lower) ?_
  rw [List.map_map]
  refine hrests.of_map.map_on fun rest hmem rest' hmem' heq => ?_
  have hlower := (lower_placed_inj hfolder hfolder (hascii rest hmem) (hascii rest' hmem') heq).2
  exact List.inj_on_of_nodup_map hrests hmem hmem' hlower

theorem exists_rest_of_mem {rests paths : List String} {folder path : String}
    (hpaths : paths.Sublist (rests.map (placed c folder))) (hpath : path ∈ paths.map lower) :
    ∃ rest ∈ rests, lower (placed c folder rest) = path := by
  obtain ⟨p, hp, rfl⟩ := List.mem_map.1 hpath
  obtain ⟨rest, hrest, rfl⟩ := List.mem_map.1 (hpaths.subset hp)
  exact ⟨rest, hrest, rfl⟩

theorem nodup_paths (h : AreApart es) :
    ((generatedFiles c es).map fun f => lower f.path).Nodup := by
  have hsplit : ((generatedFiles c es).map fun f => lower f.path) =
      ((sharedFiles c).map (·.path)).map lower ++
        es.flatMap fun e => ((filesOf c e).map (·.path)).map lower := by
    rw [generatedFiles, List.map_append, List.map_flatMap]
    simp only [List.map_map]
    rfl
  rw [hsplit, List.nodup_append]
  refine ⟨?_, h.nodup_flatMap (fun e he => ?_) fun a ha b hb path hpatha hpathb => ?_, ?_⟩
  · exact nodup_lower_placed isPart_common isAscii_sharedRests nodup_sharedRests
      (sublist_paths_sharedFiles c)
  · exact nodup_lower_placed (h.isPart he) (isAscii_restsOf h he) (nodup_restsOf h he)
      (sublist_paths_filesOf c e)
  · obtain ⟨rest, hrest, rfl⟩ := exists_rest_of_mem (sublist_paths_filesOf c a) hpatha
    obtain ⟨rest', hrest', heq⟩ := exists_rest_of_mem (sublist_paths_filesOf c b) hpathb
    exact (lower_placed_inj (h.isPart ha) (h.isPart hb) (isAscii_restsOf h ha rest hrest)
      (isAscii_restsOf h hb rest' hrest') heq.symm).1
  · intro path hshared path' hown heq
    obtain ⟨e, he, hown⟩ := List.mem_flatMap.1 hown
    obtain ⟨rest, hrest, rfl⟩ := exists_rest_of_mem (sublist_paths_sharedFiles c) hshared
    obtain ⟨rest', hrest', rfl⟩ := exists_rest_of_mem (sublist_paths_filesOf c e) hown
    have hlower := (lower_placed_inj isPart_common (h.isPart he) (isAscii_sharedRests rest hrest)
      (isAscii_restsOf h he rest' hrest') heq).2
    exact lower_rest_ne h he hrest' hrest hlower.symm

end EndpointScaffold.Support

/-!
## Nothing generated collides

Once the names of entities are checked, whatever is generated for them can be told apart, by the
requests that the features serve as well as on a file system that ignores case.

* `IsCollisionFree` what is generated for entities keeps apart;
* `isCollisionFree_of_isValid` it does if the check of names finds no error.
-/

namespace EndpointScaffold.Scaffold

open Support Text Validation

variable {c : Config} {es : List Entity}

/-- features and files of entities that do not get into each other's way -/
structure IsCollisionFree (c : Config) (es : List Entity) : Prop where
  requests : ((plannedFeatures c es).map fun f => (f.verb, f.route)).Nodup
  namespaces : ((plannedFeatures c es).map fun f => lower f.namespaceName).Nodup
  paths : ((generatedFiles c es).map fun f => lower f.path).Nodup
  /-- no file takes the place of another one -/
  files : (rendering c es).files = generatedFiles c es

theorem isCollisionFree_of_isValid (hc : c.IsMade)
    (h : Findings.isValid ((nameProblems es).map Problem.finding) = true) :
    IsCollisionFree c es := by
  have hapart := areApart_of_isValid h
  have hkinds := Config.nodup_kinds hc
  have hpaths := nodup_paths (c := c) hapart
  have hexact : ((generatedFiles c es).map (·.path)).Nodup := by
    refine List.Nodup.of_map lower ?_
    rw [List.map_map]
    exact hpaths
  refine ⟨?_, ?_, hpaths, rendering_of_nodup hexact⟩
  · rw [plannedFeatures, List.map_flatMap]
    exact Feature.nodup_requests hapart hkinds
  · rw [plannedFeatures, List.map_flatMap]
    exact Feature.nodup_namespaces hapart hkinds

/-- entities with similar plurals, one of them close to the folder that all entities share -/
def closeEntities : List Entity :=
  ["Common", "Commons", "Person", "Persons"].map fun name => ⟨name, [], none, none⟩

theorem isCollisionFree_closeEntities :
    Config.IsMade {} ∧
      Findings.isValid ((nameProblems closeEntities).map Problem.finding) = true ∧
      IsCollisionFree {} closeEntities := by
  have hread : Config.ofValue (.object []) = .ok {} := rfl
  have hvalid : Findings.isValid ((nameProblems closeEntities).map Problem.finding) = true := by
    decide
  exact ⟨.read hread, hvalid, isCollisionFree_of_isValid (.read hread) hvalid⟩

end EndpointScaffold.Scaffold
