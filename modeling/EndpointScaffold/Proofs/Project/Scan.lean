import EndpointScaffold.Project.Entities
import EndpointScaffold.Proofs.Entity.Columns

/-!
# Scanning a project

The entities of a folder are those of its files, one file behind the other, if every file has
entities at all.

* `entitiesOfFile` the entities of one file, none if it cannot be read;
* `value_scanFiles` the entities of several files, `scan_eq_ok_iff` those of a folder;
* `exists_source_of_scan` every scanned entity is one of a text, `isMade_of_scan` and
  `isScanned_of_scan` what holds of it therefore.
-/

namespace EndpointScaffold.Project

open Entity Files Log Schema

/-- entities of one file; a file that cannot be read has none -/
def entitiesOfFile (d : Disk) (s : ScanSettings) (p : Path) : Checked (List Entity) :=
  match (readSource d p).value with
  | none => .ok []
  | some source => (Entity.ofSource s (some p.text) source).value

/-- what is read of a file depends on what its path leads to -/
theorem readSource_congr {d d' : Disk} {p : Path} (h : d'.look p = d.look p) :
    readSource d' p = readSource d p := by
  rw [readSource, readSource, Disk.read, Disk.read, h]

theorem entitiesOfFile_congr {d d' : Disk} (s : ScanSettings) {p : Path}
    (h : readSource d' p = readSource d p) : entitiesOfFile d' s p = entitiesOfFile d s p := by
  rw [entitiesOfFile, entitiesOfFile, h]

variable (d : Disk) (s : ScanSettings)

theorem value_scanFile (p : Path) :
    (scanFile d s p).value = (entitiesOfFile d s p).mapError .unfit := by
  rw [scanFile, Logged.value_bind, entitiesOfFile]
  cases (readSource d p).value with
  | none => rfl
  | some source =>
    simp only [Logged.value_bind]
    cases (Entity.ofSource s (some p.text) source).value with
    | error issues => rfl
    | ok found => rfl

/-- the entities of files are those of each file, one file behind the other -/
theorem value_scanFiles (ps : List Path) :
    (scanFiles d s ps).value =
      ((ps.mapM (entitiesOfFile d s)).mapError .unfit).map List.flatten := by
  induction ps with
  | nil => rfl
  | cons p ps ih =>
    rw [scanFiles, Logged.value_bind, value_scanFile, List.mapM_cons]
    cases entitiesOfFile d s p with
    | error issues => rfl
    | ok found =>
      show (Logged.bind _ _).value = _
      rw [Logged.bind, ih]
      cases ps.mapM (entitiesOfFile d s) with
      | error issues => rfl
      | ok others => rfl

theorem scan_eq_ok_iff {folder : Path} {es : List Entity} :
    (scan d s folder).value = .ok es ↔
      d.isFolder folder = .ok true ∧ ∃ files, sourceFiles d folder = .ok files ∧
        ∃ found, files.mapM (entitiesOfFile d s) = .ok found ∧ es = found.flatten := by
  unfold scan
  cases hfolder : d.isFolder folder with
  | error f => simp
  | ok isFolder =>
    cases isFolder with
    | false => simp
    | true =>
      cases hfiles : sourceFiles d folder with
      | error f => simp
      | ok files =>
        simp only [Logged.value_bind, value_scanFiles]
        cases hfound : files.mapM (entitiesOfFile d s) with
        | error issues => simp [Except.map, hfound]
        | ok found => simp [Except.map, hfound, eq_comm]

/-! ### Scanned entities -/

/-- what holds of every scanned entity: its properties have different names, and none is a key -/
structure IsScanned (e : Entity) : Prop where
  names : (e.properties.map Property.name).Nodup
  keys : ∀ p ∈ e.properties, p.isPrimaryKey = false

theorem isScanned_of_isMade {e : Entity} (h : IsMade e) : IsScanned e := by
  obtain ⟨policy, file, c, ps, h⟩ := h
  have hok : (ofDeclarations policy file c ps).isOk = true := by
    rw [h]
    rfl
  rw [ofDeclarations_of_isWhole policy ((ofDeclarations_isOk_iff policy).mp hok)] at h
  obtain rfl := Except.ok.inj h
  constructor
  · exact nodup_columns policy ps
  · intro p hp
    obtain ⟨q, -, rfl⟩ := List.mem_map.mp hp
    rfl

/-- an entity of a file is one of the text that is read there -/
theorem exists_source_of_mem {p : Path} {es : List Entity} (h : entitiesOfFile d s p = .ok es)
    {e : Entity} (he : e ∈ es) :
    ∃ source, (Entity.ofSource s (some p.text) source).value = .ok es := by
  rw [entitiesOfFile] at h
  cases hsource : (readSource d p).value with
  | none =>
    rw [hsource] at h
    obtain rfl := Except.ok.inj h
    exact absurd he List.not_mem_nil
  | some source =>
    rw [hsource] at h
    exact ⟨source, h⟩

/-- a scanned entity is one of a text that is read in some file -/
theorem exists_source_of_scan {folder : Path} {es : List Entity}
    (h : (scan d s folder).value = .ok es) {e : Entity} (he : e ∈ es) :
    ∃ (p : Path) (source : String) (found : List Entity),
      (Entity.ofSource s (some p.text) source).value = .ok found ∧ e ∈ found := by
  obtain ⟨-, files, -, found, hfound, rfl⟩ := (scan_eq_ok_iff d s).mp h
  obtain ⟨inFile, hinFile, he⟩ := List.mem_flatten.mp he
  obtain ⟨p, -, hp⟩ := mem_of_mapM_ok hfound hinFile
  obtain ⟨source, hsource⟩ := exists_source_of_mem d s hp he
  exact ⟨p, source, inFile, hsource, he⟩

theorem isMade_of_scan {folder : Path} {es : List Entity}
    (h : (scan d s folder).value = .ok es) : ∀ e ∈ es, IsMade e := by
  intro e he
  obtain ⟨p, source, found, hfound, he⟩ := exists_source_of_scan d s h he
  obtain ⟨c, -, hc⟩ := mem_of_mapM_ok hfound he
  exact ⟨_, _, _, _, hc⟩

theorem isScanned_of_scan {folder : Path} {es : List Entity}
    (h : (scan d s folder).value = .ok es) : ∀ e ∈ es, IsScanned e := fun e he =>
  isScanned_of_isMade (isMade_of_scan d s h e he)

end EndpointScaffold.Project
