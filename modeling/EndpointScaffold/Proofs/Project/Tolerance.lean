import EndpointScaffold.Proofs.Files.Listing
import EndpointScaffold.Proofs.Project.Scan

/-!
# One more file

A disk on which a file stands that was not there before, with the folders above it, still holds all
that it held. What a path leads to is the same, and a listing of a folder is the former one with the
new file at its place.

* `Disk.Adds` one more file, `Adds.locate_eq_ok`, `Adds.look_extend` paths afterwards;
* `Adds.filesFitting` the listing before from the listing afterwards.
-/

namespace EndpointScaffold.Files

open Schema

/-- the disk `d'` is `d` with one more file, and with folders that were not there -/
structure Disk.Adds (d d' : Disk) (place : Place) (bytes : List UInt8) : Prop where
  here : d'.here = d.here
  kept : ∀ p n, d.tree.find? p = some n → d'.tree.find? p = some n
  absent : d.tree.find? place = none
  present : d'.tree.find? place = some (.file bytes)
  folders : ∀ p, p ≠ place → d.tree.find? p = none →
    d'.tree.find? p = none ∨ d'.tree.find? p = some .folder

namespace Disk.Adds

/-- a file may be put where nothing is -/
theorem put {d : Disk} {place : Place} (bytes : List UInt8) (hplace : place ≠ [])
    (habsent : d.tree.find? place = none) :
    d.Adds { d with tree := d.tree.put place (.file bytes) } place bytes where
  here := rfl
  kept p n hp := by
    have hne : p ≠ place := fun h => by
      rw [h, habsent] at hp
      cases hp
    exact (Tree.find?_put_of_ne _ _ hne).trans hp
  absent := habsent
  present := Tree.find?_put_self _ _ hplace
  folders p hne hp := .inl ((Tree.find?_put_of_ne _ _ hne).trans hp)

variable {d d' : Disk} {folder : Path} {base : Place} {fresh : List String} {bytes : List UInt8}

theorem locate_eq_ok {place : Place} (h : d.Adds d' place bytes) (hbase : d.locate folder = .ok base) :
    d'.locate folder = .ok base := by
  rw [locate, fault?_of_locate hbase, h.here]
  exact Tree.walk_of_kept (fun p => h.kept p _) (walk_of_locate hbase)

variable (hd : d.tree.IsProper) (hd' : d'.tree.IsProper) (hbase : d.locate folder = .ok base)
  (h : d.Adds d' (base ++ fresh) bytes)

include hd hd' hbase h

/-- what was there is found as before -/
theorem look_extend {names : List String} {n : Node} (hn : d.tree.find? (base ++ names) = some n) :
    d'.look (folder.extend names) = d.look (folder.extend names) := by
  rw [Disk.look_extend hd hbase hn, Disk.look_extend hd' (h.locate_eq_ok hbase) (h.kept _ _ hn)]

variable {part : String} (hfolder : d.tree.find? base = some .folder)

include hfolder

theorem mem_filePaths {p : Path} (hp : p ∈ d.filePaths folder part) :
    p ∈ d'.filePaths folder part ∧ d'.look p = d.look p ∧ p ≠ folder.extend fresh := by
  obtain ⟨names, name, n, rfl, hn, hmatch, hopen⟩ := (mem_filePaths_iff hd hbase hfolder).mp hp
  refine ⟨?_, look_extend hd hd' hbase h hn, fun heq => ?_⟩
  · rw [mem_filePaths_iff hd' (h.locate_eq_ok hbase) (h.kept _ _ hfolder)]
    exact ⟨names, name, n, rfl, h.kept _ _ hn, hmatch, hopen⟩
  · rw [Path.extend_inj] at heq
    have habsent := h.absent
    rw [← heq, hn] at habsent
    cases habsent

/-- a file that is found afterwards and is not the new one was found before -/
theorem mem_filePaths_of_isFile {p : Path} (hp : p ∈ d'.filePaths folder part)
    (hfile : d'.isFile p = .ok true) (hne : p ≠ folder.extend fresh) :
    p ∈ d.filePaths folder part := by
  have hbase' := h.locate_eq_ok hbase
  obtain ⟨names, name, n, rfl, hn, hmatch, hopen⟩ :=
    (mem_filePaths_iff hd' hbase' (h.kept _ _ hfolder)).mp hp
  rw [mem_filePaths_iff hd hbase hfolder]
  cases hold : d.tree.find? (base ++ (names ++ [name])) with
  | some m => exact ⟨names, name, m, rfl, hold, hmatch, hopen⟩
  | none =>
    have hplace : base ++ (names ++ [name]) ≠ base ++ fresh := fun heq => by
      rw [List.append_cancel_left_eq] at heq
      exact hne (by rw [heq])
    rcases h.folders _ hplace hold with hnone | hfold
    · rw [hnone] at hn
      cases hn
    · exact absurd hfile (isFile_ne_of_folder hd' hbase' hfold)

/-- the files before are those afterwards without the new one -/
theorem filesFitting (hpart : isWild part = true) (hstars : part ≠ "**") {files : List Path}
    (hfiles : d'.filesFitting folder [part] = .ok files) :
    d.filesFitting folder [part] = .ok (files.filter fun p => p != folder.extend fresh) := by
  have hF' := isFolder_of_locate (h.locate_eq_ok hbase) (h.kept _ _ hfolder)
  have hsame : ∀ p ∈ d.filePaths folder part, d'.isFile p = d.isFile p := fun p hp =>
    leadsTo_congr (mem_filePaths hd hd' hbase h hfolder hp).2.1
  refine filesFitting_eq_of_mem_iff hd hbase hfolder hpart hstars (fun p hp => ?_)
    ((nodup_filesFitting_part hpart hstars hF' hfiles).filter _)
    ((pairwise_filesFitting hfiles).filter _) fun p => ?_
  · rw [← hsame p hp]
    exact ((filesFitting_part_iff hpart hstars hF').mp hfiles).1 p
      (mem_filePaths hd hd' hbase h hfolder hp).1
  · rw [List.mem_filter, mem_filesFitting_part hpart hstars hF' hfiles, bne_iff_ne]
    constructor
    · rintro ⟨⟨hp', hfile⟩, hne⟩
      have hp := mem_filePaths_of_isFile hd hd' hbase h hfolder hp' hfile hne
      exact ⟨hp, (hsame p hp).symm.trans hfile⟩
    · rintro ⟨hp, hfile⟩
      obtain ⟨hp', -, hne⟩ := mem_filePaths hd hd' hbase h hfolder hp
      exact ⟨⟨hp', (hsame p hp).trans hfile⟩, hne⟩

end Disk.Adds

end EndpointScaffold.Files

/-!
## One more file in a scanned folder

A file costs the entities of the other files only if it keeps the whole folder from being scanned. No
bytes of it do so by themselves: bytes that encode nothing are replaced, and source that is broken is
read as far as it goes. A scan is stopped by a column that has lost its name or its type.

* `entitiesOfFile_isOk_iff` when a file has entities at all;
* `scan_of_adds` the entities before from those afterwards;
* `scan_tolerant_iff` when one more file costs the others nothing.
-/

namespace EndpointScaffold.Project

open Entity Files Log Schema

/-! ### One file -/

section
variable (d : Disk) (s : ScanSettings) {p : Path}

/-- whether each column of each entity in a file has a name and a type; so if it cannot be read -/
def isFitFile (p : Path) : Bool := (readSource d p).value.all (isFit s)

theorem entitiesOfFile_isOk_iff :
    (entitiesOfFile d s p).isOk = true ↔ isFitFile d s p = true := by
  rw [entitiesOfFile, isFitFile]
  cases (readSource d p).value with
  | none => exact ⟨fun _ => rfl, fun _ => rfl⟩
  | some source => exact ofSource_isOk_iff

def foundInFile (p : Path) : List Entity := (entitiesOfFile d s p).toOption.getD []

theorem entitiesOfFile_of_isFitFile (h : isFitFile d s p = true) :
    entitiesOfFile d s p = .ok (foundInFile d s p) := by
  obtain ⟨es, hes⟩ := isOk_iff_exists.mp ((entitiesOfFile_isOk_iff d s).mpr h)
  rw [foundInFile, hes]
  rfl

theorem sourceFile_of_mem_foundInFile {e : Entity} (he : e ∈ foundInFile d s p) :
    e.sourceFile = some p.text := by
  rw [foundInFile] at he
  cases hp : entitiesOfFile d s p with
  | error issues =>
    rw [hp] at he
    exact absurd he List.not_mem_nil
  | ok es =>
    rw [hp] at he
    obtain ⟨source, hsource⟩ := exists_source_of_mem d s hp he
    exact sourceFile_of_ofSource hsource he

/-- entities that are not of a file are found in the other files -/
theorem filter_foundInFile (files : List Path) (f : Path) :
    (files.flatMap (foundInFile d s)).filter (fun e => e.sourceFile != some f.text) =
      ((files.filter fun p => p != f).flatMap (foundInFile d s)).filter
        fun e => e.sourceFile != some f.text := by
  induction files with
  | nil => rfl
  | cons p files ih =>
    rw [List.flatMap_cons, List.filter_append, ih]
    by_cases hp : p = f
    · have hnone : (foundInFile d s p).filter (fun e => e.sourceFile != some f.text) = [] := by
        rw [List.filter_eq_nil_iff]
        intro e he
        rw [sourceFile_of_mem_foundInFile d s he, hp, bne_self_eq_false]
        exact Bool.false_ne_true
      have hdropped : ((p :: files).filter fun p => p != f) = files.filter fun p => p != f :=
        List.filter_cons_of_neg (fun h => bne_iff_ne.mp h hp)
      rw [hnone, hdropped, List.nil_append]
    · have hkept : ((p :: files).filter fun p => p != f) = p :: files.filter fun p => p != f :=
        List.filter_cons_of_pos (bne_iff_ne.mpr hp)
      rw [hkept, List.flatMap_cons, List.filter_append]

end

/-! ### One folder -/

theorem scan_of_isFitFile {d : Disk} {s : ScanSettings} {folder : Path} {files : List Path}
    (hfolder : d.isFolder folder = .ok true) (hfiles : sourceFiles d folder = .ok files)
    (hfit : ∀ p ∈ files, isFitFile d s p = true) :
    (scan d s folder).value = .ok (files.flatMap (foundInFile d s)) := by
  rw [scan_eq_ok_iff]
  refine ⟨hfolder, files, hfiles, _, mapM_ok fun p hp => ?_, List.flatMap_def⟩
  exact entitiesOfFile_of_isFitFile d s (hfit p hp)

/-- the files of a folder that was scanned are fit -/
theorem isFitFile_of_scan {d : Disk} {s : ScanSettings} {folder : Path} {es : List Entity}
    (h : (scan d s folder).value = .ok es) :
    ∃ files, sourceFiles d folder = .ok files ∧ ∀ p ∈ files, isFitFile d s p = true := by
  obtain ⟨-, files, hfiles, found, hfound, -⟩ := (scan_eq_ok_iff d s).mp h
  refine ⟨files, hfiles, fun p hp => (entitiesOfFile_isOk_iff d s).mp ?_⟩
  have hok : (files.mapM (entitiesOfFile d s)).isOk = true := by
    rw [hfound]
    rfl
  exact mapM_isOk_iff.mp hok p hp

section
variable {d d' : Disk} {folder : Path} {base : Place} {fresh : List String} {bytes : List UInt8}
variable (hd : d.tree.IsProper) (hd' : d'.tree.IsProper) (hbase : d.locate folder = .ok base)
  (hfolder : d.tree.find? base = some .folder) (h : d.Adds d' (base ++ fresh) bytes)

include hd hd' hbase hfolder h

theorem sourceFiles_of_adds {files : List Path} (hfiles : sourceFiles d' folder = .ok files) :
    sourceFiles d folder = .ok (files.filter fun p => p != folder.extend fresh) :=
  h.filesFitting hd hd' hbase hfolder (by decide) (by decide) hfiles

/-- a source file that was there before reads the same afterwards -/
theorem readSource_of_adds {files : List Path} (hfiles : sourceFiles d folder = .ok files)
    {p : Path} (hp : p ∈ files) : readSource d' p = readSource d p := by
  have hfound := (Disk.mem_filesFitting_part (by decide) (by decide)
    (Disk.isFolder_of_locate hbase hfolder) hfiles).mp hp
  exact readSource_congr (h.mem_filePaths hd hd' hbase hfolder hfound.1).2.1

/-- if a folder can be scanned with one more file, it could be scanned before, and the entities of
the other files are the same -/
theorem scan_of_adds {s : ScanSettings} {files : List Path}
    (hfiles : sourceFiles d' folder = .ok files) (hfit : ∀ p ∈ files, isFitFile d' s p = true) :
    ∃ es es', (scan d s folder).value = .ok es ∧ (scan d' s folder).value = .ok es' ∧
      es.filter (fun e => e.sourceFile != some (folder.extend fresh).text) =
        es'.filter fun e => e.sourceFile != some (folder.extend fresh).text := by
  have hbefore := sourceFiles_of_adds hd hd' hbase hfolder h hfiles
  have hsame : ∀ p ∈ files.filter fun p => p != folder.extend fresh,
      readSource d' p = readSource d p := fun p hp =>
    readSource_of_adds hd hd' hbase hfolder h hbefore hp
  have hfitBefore : ∀ p ∈ files.filter fun p => p != folder.extend fresh,
      isFitFile d s p = true := fun p hp => by
    have hfitAfter := hfit p (List.mem_filter.mp hp).1
    rw [isFitFile, hsame p hp] at hfitAfter
    exact hfitAfter
  refine ⟨_, _, scan_of_isFitFile (Disk.isFolder_of_locate hbase hfolder) hbefore hfitBefore,
    scan_of_isFitFile (Disk.isFolder_of_locate (h.locate_eq_ok hbase) (h.kept _ _ hfolder)) hfiles
      hfit, ?_⟩
  have hfound : (files.filter fun p => p != folder.extend fresh).flatMap (foundInFile d s) =
      (files.filter fun p => p != folder.extend fresh).flatMap (foundInFile d' s) :=
    List.flatMap_congr fun p hp => by
      rw [foundInFile, foundInFile, entitiesOfFile_congr s (hsame p hp)]
  rw [hfound]
  exact (filter_foundInFile d' s files (folder.extend fresh)).symm

end

/-- one more file costs the others nothing exactly when the files can be listed and each column in
them has a name and a type; a single text has entities under the same condition -/
theorem scan_tolerant_iff {d d' : Disk} {folder : Path} {base : Place} {fresh : List String}
    {bytes : List UInt8} (hd : d.tree.IsProper) (hd' : d'.tree.IsProper)
    (hbase : d.locate folder = .ok base) (hfolder : d.tree.find? base = some .folder)
    (h : d.Adds d' (base ++ fresh) bytes) (s : ScanSettings) :
    ((∃ es es', (scan d s folder).value = .ok es ∧ (scan d' s folder).value = .ok es' ∧
        es.filter (fun e => e.sourceFile != some (folder.extend fresh).text) =
          es'.filter fun e => e.sourceFile != some (folder.extend fresh).text) ↔
      ∃ files, sourceFiles d' folder = .ok files ∧ ∀ p ∈ files, isFitFile d' s p = true) ∧
    ∀ file source, (∃ es, (Entity.ofSource s file source).value = .ok es) ↔
      isFit s source = true := by
  refine ⟨⟨?_, ?_⟩, fun file source => ?_⟩
  · rintro ⟨es, es', -, hes', -⟩
    exact isFitFile_of_scan hes'
  · rintro ⟨files, hfiles, hfit⟩
    exact scan_of_adds hd hd' hbase hfolder h hfiles hfit
  · rw [← isOk_iff_exists, ofSource_isOk_iff]

/-- a folder with one source file -/
def oneModel : Disk where
  tree := ⟨[
    (["Models"], .folder),
    (["Models", "A.cs"], .file "class A\x7bpublic int Id\x7bget;set;\x7d\x7d".toUTF8.toList)]⟩
  here := []

/-- the same folder with a second file -/
def twoModels : Disk :=
  { oneModel with tree := oneModel.tree.put ["Models", "B.cs"] (.file "class B\x7b\x7d".toUTF8.toList) }

theorem scan_twoModels :
    ∃ es es', (scan oneModel {} ⟨.here, ["Models"]⟩).value = .ok es ∧
      (scan twoModels {} ⟨.here, ["Models"]⟩).value = .ok es' ∧
      es.filter (fun e => e.sourceFile != some "Models/B.cs") =
        es'.filter fun e => e.sourceFile != some "Models/B.cs" := by
  have hone : oneModel.tree.IsProper := ⟨by decide, by decide, by decide⟩
  have htwo : twoModels.tree.IsProper := ⟨by decide, by decide, by decide⟩
  have hbase : oneModel.locate ⟨.here, ["Models"]⟩ = .ok ["Models"] :=
    toOption_eq_some_iff.mp (by decide)
  have hadds : oneModel.Adds twoModels (["Models"] ++ ["B.cs"]) "class B\x7b\x7d".toUTF8.toList :=
    Disk.Adds.put _ (by decide) (by decide)
  have hlisted : sourceFiles twoModels ⟨.here, ["Models"]⟩ =
      .ok ((([⟨.here, ["Models", "A.cs"]⟩, ⟨.here, ["Models", "B.cs"]⟩] : List Path)).mergeSort
        Path.le) := by
    refine (Disk.filesFitting_part_iff (by decide) (by decide) (by decide)).mpr
      ⟨by decide, ?_⟩
    exact congrArg (List.mergeSort · Path.le) (by decide)
  refine (scan_tolerant_iff hone htwo hbase rfl hadds {}).1.mpr ⟨_, hlisted, fun p hp => ?_⟩
  rw [List.mem_mergeSort] at hp
  revert p
  decide +kernel

end EndpointScaffold.Project
