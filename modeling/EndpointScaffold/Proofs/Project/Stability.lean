import EndpointScaffold.Proofs.Files.Growth
import EndpointScaffold.Proofs.Files.Listing
import EndpointScaffold.Proofs.Project.Configured

/-!
# What stays is read again

What is listed and read below a folder depends on nothing else. If a disk grows elsewhere, a folder
that could be followed before still can, and has the same files with the same bytes.

* `Disk.Untouched` a folder below which nothing differs on two disks, `Grows.untouched` on one that
  has grown elsewhere;
* `Untouched.filesFitting`, `Untouched.look` listing and reading.
-/

namespace EndpointScaffold.Files.Disk

open Schema

/-- a folder that is found on both disks, and below which nothing differs -/
structure Untouched (d d' : Disk) (folder : Path) (base : Place) : Prop where
  before : d.locate folder = .ok base
  after : d'.locate folder = .ok base
  isFolder : d.tree.find? base = some .folder
  same : ∀ names, d'.tree.find? (base ++ names) = d.tree.find? (base ++ names)

variable {d d' : Disk} {folder : Path} {base : Place}

/-- a folder stays as it is on a disk that grows towards other places only -/
theorem Grows.untouched {overwrites : Bool} {aims : Place → Prop}
    {files : Place → List UInt8 → Prop} (h : Grows overwrites aims files d d')
    (hfiles : ∀ q bytes, files q bytes → aims q)
    (haside : ∀ aim, aims aim → folder.resolved d.here <+: aim → aim = folder.resolved d.here)
    (hfolder : d.isFolder folder = .ok true) :
    Untouched d d' folder (folder.resolved d.here) := by
  obtain ⟨hlocate, hfind⟩ := look_eq_ok_iff.mp (isFolder_eq_true_iff.mp hfolder)
  refine ⟨hlocate, h.locate_ok hlocate, hfind, fun names => ?_⟩
  have hchange := h.change (folder.resolved d.here ++ names)
  have hbelow := List.prefix_append (folder.resolved d.here) names
  generalize hnew : d'.tree.find? (folder.resolved d.here ++ names) = new at hchange
  generalize hold : d.tree.find? (folder.resolved d.here ++ names) = old at hchange
  cases hchange with
  | same => rfl
  | folder haim habove hne =>
    obtain rfl := haside _ haim (hbelow.trans habove)
    exact absurd (habove.eq_of_length_le hbelow.length_le) hne
  | file hfile hold' =>
    have heq := haside _ (hfiles _ _ hfile) hbelow
    rw [heq, hfind] at hold
    rw [← hold] at hold'
    simp at hold'

namespace Untouched

theorem isFolder' (h : Untouched d d' folder base) : d'.tree.find? base = some .folder := by
  have hsame := h.same []
  rw [List.append_nil] at hsame
  exact hsame.trans h.isFolder

variable {part : String} (h : Untouched d d' folder base) (hd : d.tree.IsProper)
  (hd' : d'.tree.IsProper)

include h hd hd'

theorem look_extend {names : List String} {n : Node} (hn : d.tree.find? (base ++ names) = some n) :
    d'.look (folder.extend names) = d.look (folder.extend names) := by
  rw [Disk.look_extend hd h.before hn,
    Disk.look_extend hd' h.after ((h.same names).trans hn)]

theorem mem_filePaths_iff {p : Path} :
    p ∈ d'.filePaths folder part ↔ p ∈ d.filePaths folder part := by
  rw [Disk.mem_filePaths_iff hd' h.after h.isFolder', Disk.mem_filePaths_iff hd h.before h.isFolder]
  simp only [h.same]

theorem look {p : Path} (hp : p ∈ d.filePaths folder part) : d'.look p = d.look p := by
  obtain ⟨names, name, n, rfl, hn, -⟩ := (Disk.mem_filePaths_iff hd h.before h.isFolder).mp hp
  exact h.look_extend hd hd' hn

theorem isFolder_eq : d'.isFolder folder = d.isFolder folder := by
  have hn : d.tree.find? (base ++ []) = some .folder := by
    rw [List.append_nil]
    exact h.isFolder
  have hlook := h.look_extend hd hd' hn
  rw [Path.extend_nil] at hlook
  exact leadsTo_congr hlook

/-- the same files are listed -/
theorem filesFitting (hpart : isWild part = true) (hstars : part ≠ "**") {files : List Path}
    (hfiles : d.filesFitting folder [part] = .ok files) :
    d'.filesFitting folder [part] = .ok files := by
  have hF := isFolder_of_locate h.before h.isFolder
  have hfile : ∀ p ∈ d.filePaths folder part, d'.isFile p = d.isFile p := fun p hp =>
    leadsTo_congr (h.look hd hd' hp)
  refine filesFitting_eq_of_mem_iff hd' h.after h.isFolder' hpart hstars (fun p hp => ?_)
    (nodup_filesFitting_part hpart hstars hF hfiles) (pairwise_filesFitting hfiles) fun p => ?_
  · rw [h.mem_filePaths_iff hd hd'] at hp
    rw [hfile p hp]
    exact ((filesFitting_part_iff hpart hstars hF).mp hfiles).1 p hp
  · rw [mem_filesFitting_part hpart hstars hF hfiles, h.mem_filePaths_iff hd hd']
    exact and_congr_right fun hp => by rw [hfile p hp]

end Untouched

end EndpointScaffold.Files.Disk

/-!
## Reading a project again

The entities of a project depend on the files in two folders only. They are read again in the same way
if nothing has come into these, as long as a folder of configurations that was not there has not
appeared: it may be found through another folder that has been made.

* `scan_untouched`, `rules_untouched` each folder by itself;
* `entities_of_grows` both, on a disk that has grown elsewhere.
-/

namespace EndpointScaffold.Project

open Entity Files Fluent Log Schema

variable {d d' : Disk} {folder : Path} {base : Place}

section
variable (h : d.Untouched d' folder base) (hd : d.tree.IsProper) (hd' : d'.tree.IsProper)

include h hd hd'

theorem sourceFiles_untouched {files : List Path} (hfiles : sourceFiles d folder = .ok files) :
    sourceFiles d' folder = .ok files :=
  h.filesFitting hd hd' (by decide) (by decide) hfiles

theorem readSource_untouched {files : List Path} (hfiles : sourceFiles d folder = .ok files)
    {p : Path} (hp : p ∈ files) : readSource d' p = readSource d p := by
  have hfound := (Disk.mem_filesFitting_part (by decide) (by decide)
    (Disk.isFolder_of_locate h.before h.isFolder) hfiles).mp hp
  exact readSource_congr (h.look hd hd' hfound.1)

theorem scan_untouched {s : ScanSettings} {es : List Entity}
    (hscan : (scan d s folder).value = .ok es) : (scan d' s folder).value = .ok es := by
  obtain ⟨hfolder, files, hfiles, found, hfound, rfl⟩ := (scan_eq_ok_iff d s).mp hscan
  refine (scan_eq_ok_iff d' s).mpr ⟨(h.isFolder_eq hd hd').trans hfolder, files,
    sourceFiles_untouched h hd hd' hfiles, found, ?_, rfl⟩
  rw [← hfound]
  exact mapM_congr fun p hp => entitiesOfFile_congr s (readSource_untouched h hd hd' hfiles hp)

end

theorem rulesOfFiles_congr {builder : String} {files : List Path}
    (h : ∀ p ∈ files, readSource d' p = readSource d p) :
    rulesOfFiles d' builder files = rulesOfFiles d builder files := by
  rw [rulesOfFiles, rulesOfFiles]
  generalize ([] : RuleMap) = rules
  induction files generalizing rules with
  | nil => rfl
  | cons p files ih =>
    have hfirst : addRulesOfFile d' builder rules p = addRulesOfFile d builder rules p := by
      rw [addRulesOfFile, addRulesOfFile, h p List.mem_cons_self]
    rw [List.foldlM_cons, List.foldlM_cons, hfirst]
    exact congrArg _ (funext fun rules' => ih (fun q hq => h q (List.mem_cons_of_mem p hq)) rules')

/-- the folder of configurations stays as it is, or is missing before and afterwards -/
theorem rules_untouched {c : Config} {root : Path} {map : RuleMap}
    (h : (∃ base, d.Untouched d' (root.below c.configurationsFolder) base) ∨
      d.isFolder (root.below c.configurationsFolder) ≠ .ok true ∧
        d'.isFolder (root.below c.configurationsFolder) = .ok false)
    (hd : d.tree.IsProper) (hd' : d'.tree.IsProper)
    (hrules : (Project.rules d c root).value = .ok map) :
    (Project.rules d' c root).value = .ok map := by
  obtain ⟨files, hfiles, rfl⟩ := (rules_eq_ok_iff d).mp hrules
  refine (rules_eq_ok_iff d').mpr ⟨files, ?_⟩
  rcases h with ⟨base, h⟩ | ⟨hbefore, hafter⟩
  · refine ⟨sourceFiles_untouched h hd hd' hfiles, ?_⟩
    rw [rulesOfFiles_congr fun p hp => readSource_untouched h hd hd' hfiles hp]
  · rcases filesFitting_eq_ok_iff.mp hfiles with ⟨-, rfl⟩ | ⟨hfolder, -⟩
    · exact ⟨filesFitting_eq_ok_iff.mpr (.inl ⟨hafter, rfl⟩), rfl⟩
    · exact absurd hfolder hbefore

/-- the entities of a project are read again on a disk that has grown outside of its two folders -/
theorem entities_of_grows {overwrites : Bool} {aims : Place → Prop}
    {files : Place → List UInt8 → Prop} {c : Config} {root : Path} {es : List Entity}
    (h : d.Grows overwrites aims files d') (hfiles : ∀ q bytes, files q bytes → aims q)
    (hd : d.tree.IsProper) (hd' : d'.tree.IsProper)
    (haside : ∀ s ∈ [c.modelsFolder, c.configurationsFolder], ∀ aim, aims aim →
      (root.below s).resolved d.here <+: aim → aim = (root.below s).resolved d.here)
    (hconfigurations : d.isFolder (root.below c.configurationsFolder) = .ok true ∨
      d'.isFolder (root.below c.configurationsFolder) = .ok false)
    (hread : (entities d c root).value = .ok es) : (entities d' c root).value = .ok es := by
  obtain ⟨scanned, map, hscan, hrules, rfl⟩ := (entities_eq_ok_iff d).mp hread
  have hmodels := h.untouched hfiles (haside _ List.mem_cons_self)
    ((scan_eq_ok_iff d _).mp hscan).1
  refine (entities_eq_ok_iff d').mpr ⟨scanned, map, scan_untouched hmodels hd hd' hscan, ?_, rfl⟩
  by_cases hfolder : d.isFolder (root.below c.configurationsFolder) = .ok true
  · have huntouched := h.untouched hfiles
      (haside _ (List.mem_cons_of_mem _ List.mem_cons_self)) hfolder
    exact rules_untouched (.inl ⟨_, huntouched⟩) hd hd' hrules
  · exact rules_untouched (.inr ⟨hfolder, hconfigurations.resolve_left hfolder⟩) hd hd' hrules

end EndpointScaffold.Project
