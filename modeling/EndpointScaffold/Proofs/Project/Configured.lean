import EndpointScaffold.Proofs.Entity.Merging
import EndpointScaffold.Proofs.Files.Growth
import EndpointScaffold.Proofs.Files.Listing
import EndpointScaffold.Proofs.Project.Scan

/-!
# Configured entities of a project

The entities of a project are those of the scan, each with the rules of the last file that configures
it.

* `rulesInFile?` what one file says, `lastRules` what the last file says about an entity;
* `lookup_rulesOfFiles` later files replace what earlier ones say;
* `IsListing`, `isListing_of_sourceFiles` which files there are, and in which order;
* `entities_configured` the entities of a project.
-/

namespace EndpointScaffold.Project

open Entity Files Fluent Log Schema

variable (d : Disk) (builder : String)

/-- the entity that a file configures, and its rules -/
def rulesInFile? (p : Path) : Option (String × Rules) :=
  (readSource d p).value.bind fun source => (Fluent.ofSource builder source).value

def rulesFor? (entity : String) (p : Path) : Option Rules :=
  (rulesInFile? d builder p).bind fun r => if r.1 = entity then some r.2 else none

/-- rules of an entity by the last file that configures it; empty if none does -/
def lastRules (files : List Path) (entity : String) : Rules :=
  (files.reverse.findSome? (rulesFor? d builder entity)).getD []

theorem value_addRulesOfFile (rules : RuleMap) (p : Path) :
    (addRulesOfFile d builder rules p).value =
      match rulesInFile? d builder p with
      | none => rules
      | some (entity, found) => RuleMap.put entity found rules := by
  rw [addRulesOfFile, Logged.value_bind, rulesInFile?]
  cases (readSource d p).value with
  | none => rfl
  | some source =>
    simp only [Logged.value_bind, Option.bind_some]
    cases (Fluent.ofSource builder source).value with
    | none => rfl
    | some r => rfl

/-- one more file changes the rules of the entity that it configures, and no others -/
theorem lookup_addRulesOfFile (rules : RuleMap) (p : Path) (entity : String) :
    ((addRulesOfFile d builder rules p).value).lookup entity =
      (rulesFor? d builder entity p).or (rules.lookup entity) := by
  rw [value_addRulesOfFile, rulesFor?]
  cases rulesInFile? d builder p with
  | none => rfl
  | some r =>
    show (RuleMap.put r.1 r.2 rules).lookup entity = _
    rw [RuleMap.lookup_put, Option.bind_some]
    by_cases h : r.1 = entity
    · rw [if_pos h, if_pos h, Option.some_or]
    · rw [if_neg h, if_neg h, Option.none_or]

theorem lookup_foldlM (files : List Path) (rules : RuleMap) (entity : String) :
    ((files.foldlM (addRulesOfFile d builder) rules).value).lookup entity =
      (files.reverse.findSome? (rulesFor? d builder entity)).or (rules.lookup entity) := by
  induction files generalizing rules with
  | nil => rfl
  | cons p files ih =>
    rw [List.foldlM_cons, Logged.value_bind, ih, lookup_addRulesOfFile, List.reverse_cons,
      List.findSome?_append, Option.or_assoc]
    congr 1
    rw [List.findSome?_cons]
    cases rulesFor? d builder entity p <;> rfl

/-- the rules of configuration files: of several files about an entity the last one counts -/
theorem lookup_rulesOfFiles (files : List Path) (entity : String) :
    ((rulesOfFiles d builder files).value).lookup entity =
      files.reverse.findSome? (rulesFor? d builder entity) := by
  rw [rulesOfFiles, lookup_foldlM]
  exact Option.or_none

theorem nodup_rulesFor? {entity : String} {p : Path} {rules : Rules}
    (h : rulesFor? d builder entity p = some rules) : (rules.map Prod.fst).Nodup := by
  rw [rulesFor?, Option.bind_eq_some_iff] at h
  obtain ⟨r, hfile, hrules⟩ := h
  rw [rulesInFile?, Option.bind_eq_some_iff] at hfile
  obtain ⟨source, -, hsource⟩ := hfile
  by_cases he : r.1 = entity
  · rw [if_pos he] at hrules
    obtain rfl := Option.some.inj hrules
    exact nodup_of_ofSource hsource
  · rw [if_neg he] at hrules
    cases hrules

/-! ### Everything -/

theorem rules_eq_ok_iff {c : Config} {root : Path} {map : RuleMap} :
    (Project.rules d c root).value = .ok map ↔
      ∃ files, sourceFiles d (root.below c.configurationsFolder) = .ok files ∧
        map = (rulesOfFiles d c.builder files).value := by
  unfold Project.rules
  cases hfiles : sourceFiles d (root.below c.configurationsFolder) with
  | error f => simp [hfiles]
  | ok files =>
    cases files with
    | nil => simp [hfiles, rulesOfFiles, eq_comm]
    | cons p ps => simp [hfiles, eq_comm]

theorem entities_eq_ok_iff {c : Config} {root : Path} {es : List Entity} :
    (entities d c root).value = .ok es ↔
      ∃ scanned map, (scan d (scanSettings c) (root.below c.modelsFolder)).value = .ok scanned ∧
        (Project.rules d c root).value = .ok map ∧ es = scanned.map (addRulesOf map) := by
  rw [entities, Logged.value_bind]
  cases hscan : (scan d (scanSettings c) (root.below c.modelsFolder)).value with
  | error problem => simp
  | ok scanned =>
    simp only [Logged.value_bind]
    cases hrules : (Project.rules d c root).value with
    | error problem => simp
    | ok map =>
      constructor
      · exact fun h => ⟨scanned, map, rfl, rfl, (Except.ok.inj h).symm⟩
      · rintro ⟨scanned', map', hscanned, hmap, rfl⟩
        obtain rfl := Except.ok.inj hscanned
        obtain rfl := Except.ok.inj hmap
        rfl

/-- a project has no entities if its folder has no source files and nothing configures them -/
theorem entities_of_bare {c : Config} {root : Path}
    (hmodels : d.isFolder (root.below c.modelsFolder) = .ok true)
    (hbare : d.filePaths (root.below c.modelsFolder) "*.cs" = [])
    (hconfigurations : d.isFolder (root.below c.configurationsFolder) = .ok false) :
    (entities d c root).value = .ok [] := by
  have hfiles : sourceFiles d (root.below c.modelsFolder) = .ok [] := by
    refine (Disk.filesFitting_part_iff (by decide) (by decide) hmodels).mpr ?_
    rw [hbare, List.filter_nil, List.mergeSort_nil]
    exact ⟨fun p hp => absurd hp List.not_mem_nil, rfl⟩
  refine (entities_eq_ok_iff d).mpr ⟨[], [], ?_, ?_, rfl⟩
  · exact (scan_eq_ok_iff d _).mpr ⟨hmodels, [], hfiles, [], rfl, rfl⟩
  · exact (rules_eq_ok_iff d).mpr ⟨[], filesFitting_eq_ok_iff.mpr (.inl ⟨hconfigurations, rfl⟩), rfl⟩

/-- a scanned entity with the rules that are looked up for it -/
theorem addRulesOf_scanned {map : RuleMap} {e : Entity} (he : IsScanned e)
    (hmap : ∀ rules, map.lookup e.name = some rules → (rules.map Prod.fst).Nodup) :
    e.addRulesOf map = e.withRules ((map.lookup e.name).getD []) := by
  rw [addRulesOf]
  cases hrules : map.lookup e.name with
  | none => exact (withRules_nil he.keys).symm
  | some rules => exact addRules_eq (hmap rules hrules) he.names he.keys

/-- the source files in a folder and below it: in order, each of them once -/
structure IsListing (folder : Path) (files : List Path) : Prop where
  ordered : files.Pairwise fun p q => Path.le p q = true
  nodup : files.Nodup
  /-- they are the paths that go on from the folder to a file, as far as they can be followed, whose
  name ends in `.cs` -/
  mem : ∀ p, p ∈ files ↔ d.isFolder folder = .ok true ∧ ∃ names name bytes,
    p = folder.extend (names ++ [name]) ∧ ".cs".toList <:+ name.toList ∧
      d.tree.find? (folder.resolved d.here ++ (names ++ [name])) = some (.file bytes) ∧
      folder.isOpen names = true ∧ d.look p = .ok (.file bytes)

theorem isListing_of_sourceFiles {d : Disk} (hd : d.tree.IsProper) {folder : Path}
    {files : List Path} (h : sourceFiles d folder = .ok files) : IsListing d folder files := by
  have hpart : isWild "*.cs" = true := by decide
  have hstars : "*.cs" ≠ "**" := by decide
  refine ⟨pairwise_filesFitting h, ?_, fun p => ?_⟩
  · rcases filesFitting_eq_ok_iff.mp h with ⟨-, rfl⟩ | ⟨hfolder, -⟩
    · exact List.nodup_nil
    · exact Disk.nodup_filesFitting_part hpart hstars hfolder h
  · rcases filesFitting_eq_ok_iff.mp h with ⟨hmissing, rfl⟩ | ⟨hfolder, -⟩
    · rw [hmissing]
      exact ⟨fun hp => absurd hp List.not_mem_nil, fun hp => (by cases hp.1)⟩
    · obtain ⟨hlocate, hbase⟩ := Disk.look_eq_ok_iff.mp (Disk.isFolder_eq_true_iff.mp hfolder)
      rw [Disk.mem_filesFitting_part hpart hstars hfolder h,
        Disk.mem_filePaths_iff hd hlocate hbase, and_iff_right hfolder]
      constructor
      · rintro ⟨⟨names, name, n, rfl, hfind, hname, hopen⟩, hfile⟩
        obtain ⟨bytes, hlook⟩ := Disk.isFile_eq_true_iff.mp hfile
        have hnode : n = .file bytes := by
          have hfound := hlook
          rw [Disk.look_extend hd hlocate hfind] at hfound
          split at hfound
          · cases hfound
          · split at hfound
            · cases hfound
            · exact Except.ok.inj hfound
        rw [hnode] at hfind
        exact ⟨names, name, bytes, rfl, matchesName_source_iff.mp hname, hfind, hopen, hlook⟩
      · rintro ⟨names, name, bytes, rfl, hname, hfind, hopen, hlook⟩
        exact ⟨⟨names, name, _, rfl, hfind, matchesName_source_iff.mpr hname, hopen⟩,
          Disk.isFile_eq_true_iff.mpr ⟨bytes, hlook⟩⟩

/-- the entities of a project are those of the scan; each property has its annotations, then the
tokens that the last file about its entity gives it, and is a key if one of these is the key token -/
theorem entities_configured {c : Config} {root : Path} {es : List Entity}
    (h : (entities d c root).value = .ok es) :
    ∃ scanned files,
      (scan d (scanSettings c) (root.below c.modelsFolder)).value = .ok scanned ∧
      sourceFiles d (root.below c.configurationsFolder) = .ok files ∧
      (files.Pairwise fun p q => Path.le p q = true) ∧
      (d.tree.IsProper → IsListing d (root.below c.configurationsFolder) files) ∧
      es = scanned.map fun e => e.withRules (lastRules d c.builder files e.name) := by
  obtain ⟨scanned, map, hscan, hmap, rfl⟩ := (entities_eq_ok_iff d).mp h
  obtain ⟨files, hfiles, rfl⟩ := (rules_eq_ok_iff d).mp hmap
  refine ⟨scanned, files, hscan, hfiles, pairwise_filesFitting hfiles,
    fun hd => isListing_of_sourceFiles hd hfiles, ?_⟩
  refine List.map_congr_left fun e he => ?_
  have hrules : ∀ rules, (rulesOfFiles d c.builder files).value.lookup e.name = some rules →
      (rules.map Prod.fst).Nodup := by
    intro rules hrules
    rw [lookup_rulesOfFiles] at hrules
    obtain ⟨p, -, hp⟩ := List.exists_of_findSome?_eq_some hrules
    exact nodup_rulesFor? d c.builder hp
  rw [addRulesOf_scanned (isScanned_of_scan d _ hscan e he) hrules, lookup_rulesOfFiles]
  rfl

/-- a project with one entity, which two files configure -/
def twiceConfigured : Disk where
  tree := ⟨[
    (["Models"], .folder),
    (["Models", "A.cs"], .file "class A\x7b[Key]public int Id\x7bget;set;\x7d\x7d".toUTF8.toList),
    (["Maps"], .folder),
    (["Maps", "B.cs"], .file ("class B:IEntityTypeConfiguration<A>\x7bvoid Configure()"
      ++ "\x7bbuilder.Property(x=>x.Id).B();\x7d\x7d").toUTF8.toList),
    (["Maps", "C.cs"], .file ("class C:IEntityTypeConfiguration<A>\x7bvoid Configure()"
      ++ "\x7bbuilder.HasKey(x=>x.Id);\x7d\x7d").toUTF8.toList)]⟩
  here := []

theorem sourceFiles_twiceConfigured :
    sourceFiles twiceConfigured ((Files.Path.mk .here []).below "Models") =
      .ok [⟨.here, ["Models", "A.cs"]⟩] ∧
    sourceFiles twiceConfigured ((Files.Path.mk .here []).below "Maps") =
      .ok [⟨.here, ["Maps", "B.cs"]⟩, ⟨.here, ["Maps", "C.cs"]⟩] := by
  constructor
  · refine (Disk.filesFitting_part_iff (by decide) (by decide) (by decide)).mpr
      ⟨by decide, ?_⟩
    rw [List.mergeSort_of_pairwise (by decide)]
    decide
  · refine (Disk.filesFitting_part_iff (by decide) (by decide) (by decide)).mpr
      ⟨by decide, ?_⟩
    rw [List.mergeSort_of_pairwise (by decide)]
    decide

theorem scan_twiceConfigured :
    (scan twiceConfigured ⟨"BaseEntity", .preserve⟩ ((Files.Path.mk .here []).below "Models")).value =
      .ok [⟨"A", [⟨"Id", "int", ["Key"], false, true⟩], some "Models/A.cs", none⟩] := by
  have hread : (readSource twiceConfigured ⟨.here, ["Models", "A.cs"]⟩).value =
    some "class A\x7b[Key]public int Id\x7bget;set;\x7d\x7d" := by decide +kernel
  have hfile : entitiesOfFile twiceConfigured ⟨"BaseEntity", .preserve⟩
      ⟨.here, ["Models", "A.cs"]⟩ =
        .ok [⟨"A", [⟨"Id", "int", ["Key"], false, true⟩], some "Models/A.cs", none⟩] := by
    rw [entitiesOfFile, hread, ← toOption_eq_some_iff]
    decide +kernel
  have hfound : [⟨.here, ["Models", "A.cs"]⟩].mapM
      (entitiesOfFile twiceConfigured ⟨"BaseEntity", .preserve⟩) =
        .ok [[⟨"A", [⟨"Id", "int", ["Key"], false, true⟩], some "Models/A.cs", none⟩]] := by
    rw [List.mapM_cons, hfile]
    rfl
  rw [scan_eq_ok_iff]
  exact ⟨by decide, _, sourceFiles_twiceConfigured.1, _, hfound, rfl⟩

theorem rules_twiceConfigured :
    (rulesOfFiles twiceConfigured "builder"
      [⟨.here, ["Maps", "B.cs"]⟩, ⟨.here, ["Maps", "C.cs"]⟩]).value =
        [("A", [("Id", ["HasKey"])])] := by
  have hreadB : (readSource twiceConfigured ⟨.here, ["Maps", "B.cs"]⟩).value =
    some ("class B:IEntityTypeConfiguration<A>\x7bvoid Configure()"
      ++ "\x7bbuilder.Property(x=>x.Id).B();\x7d\x7d") := by decide +kernel
  have hreadC : (readSource twiceConfigured ⟨.here, ["Maps", "C.cs"]⟩).value =
    some ("class C:IEntityTypeConfiguration<A>\x7bvoid Configure()"
      ++ "\x7bbuilder.HasKey(x=>x.Id);\x7d\x7d") := by decide +kernel
  have hB : rulesInFile? twiceConfigured "builder" ⟨.here, ["Maps", "B.cs"]⟩ =
      some ("A", [("Id", ["B()"])]) := by
    rw [rulesInFile?, hreadB]
    decide +kernel
  have hC : rulesInFile? twiceConfigured "builder" ⟨.here, ["Maps", "C.cs"]⟩ =
      some ("A", [("Id", ["HasKey"])]) := by
    rw [rulesInFile?, hreadC]
    decide +kernel
  rw [rulesOfFiles, List.foldlM_cons, Logged.value_bind, value_addRulesOfFile, hB,
    List.foldlM_cons, Logged.value_bind, value_addRulesOfFile, hC]
  rfl

/-- the declared annotation comes first, and the last file alone gives its tokens -/
theorem value_entities_twiceConfigured :
    (entities twiceConfigured { configurationsFolder := "Maps" } ⟨.here, []⟩).value =
      .ok [⟨"A", [⟨"Id", "int", ["Key", "HasKey"], true, true⟩], some "Models/A.cs", none⟩] := by
  rw [entities_eq_ok_iff]
  exact ⟨_, _, scan_twiceConfigured, (rules_eq_ok_iff _).mpr ⟨_, sourceFiles_twiceConfigured.2,
    rules_twiceConfigured.symm⟩, rfl⟩

theorem entities_configured_twice :
    ∃ scanned files,
      (scan twiceConfigured ⟨"BaseEntity", .preserve⟩
        ((Files.Path.mk .here []).below "Models")).value = .ok scanned ∧
      sourceFiles twiceConfigured ((Files.Path.mk .here []).below "Maps") = .ok files ∧
      (files.Pairwise fun p q => Path.le p q = true) ∧
      IsListing twiceConfigured ((Files.Path.mk .here []).below "Maps") files ∧
      [⟨"A", [⟨"Id", "int", ["Key", "HasKey"], true, true⟩], some "Models/A.cs", none⟩] =
        scanned.map fun e => e.withRules (lastRules twiceConfigured "builder" files e.name) := by
  obtain ⟨scanned, files, hscan, hfiles, hordered, hlisting, hentities⟩ :=
    entities_configured twiceConfigured value_entities_twiceConfigured
  have hproper : twiceConfigured.tree.IsProper :=
    ⟨by decide, by decide, by decide⟩
  exact ⟨scanned, files, hscan, hfiles, hordered, hlisting hproper, hentities⟩

end EndpointScaffold.Project
