import EndpointScaffold.Files.Pattern
import EndpointScaffold.Proofs.Files.Walk
import EndpointScaffold.Proofs.Schema.Lists
import Mathlib.Data.String.Basic

/-!
# Listing files in order

Places are in order name by name. The order is linear, so files in order have one order only.

* `Place.le_trans`, `Place.le_total`, `Place.le_antisymm`;
* `pairwise_filesFitting` files that a pattern leads to are in order.
-/

namespace EndpointScaffold.Files

namespace Place

theorem le_cons (p q : String) (ps qs : Place) :
    Place.le (p :: ps) (q :: qs) = true ↔ p < q ∨ p = q ∧ Place.le ps qs = true := by
  rw [Place.le]
  by_cases h : p = q
  · subst h
    rw [if_pos (beq_self_eq_true p)]
    exact ⟨fun hle => .inr ⟨rfl, hle⟩, fun hle => hle.elim (fun hlt => absurd hlt (lt_irrefl p)) (·.2)⟩
  · rw [if_neg (by rw [beq_iff_eq]; exact h), decide_eq_true_eq]
    exact ⟨.inl, fun hle => hle.elim id fun hle => absurd hle.1 h⟩

theorem le_trans (p q r : Place) (hpq : Place.le p q = true) (hqr : Place.le q r = true) :
    Place.le p r = true := by
  induction p generalizing q r with
  | nil => rfl
  | cons a p ih =>
    cases q with
    | nil => exact absurd hpq Bool.false_ne_true
    | cons b q =>
      cases r with
      | nil => exact absurd hqr Bool.false_ne_true
      | cons c r =>
        rw [le_cons] at hpq hqr ⊢
        rcases hpq with hab | ⟨rfl, hpq⟩
        · rcases hqr with hbc | ⟨rfl, -⟩
          · exact .inl (hab.trans hbc)
          · exact .inl hab
        · rcases hqr with hac | ⟨rfl, hqr⟩
          · exact .inl hac
          · exact .inr ⟨rfl, ih q r hpq hqr⟩

theorem le_total (p q : Place) : (Place.le p q || Place.le q p) = true := by
  induction p generalizing q with
  | nil => rfl
  | cons a p ih =>
    cases q with
    | nil => rfl
    | cons b q =>
      rw [Bool.or_eq_true, le_cons, le_cons]
      rcases lt_trichotomy a b with h | rfl | h
      · exact .inl (.inl h)
      · rcases Bool.or_eq_true _ _ ▸ ih q with h | h
        · exact .inl (.inr ⟨rfl, h⟩)
        · exact .inr (.inr ⟨rfl, h⟩)
      · exact .inr (.inl h)

theorem le_antisymm (p q : Place) (hpq : Place.le p q = true) (hqp : Place.le q p = true) :
    p = q := by
  induction p generalizing q with
  | nil =>
    cases q with
    | nil => rfl
    | cons b q => exact absurd hqp Bool.false_ne_true
  | cons a p ih =>
    cases q with
    | nil => exact absurd hpq Bool.false_ne_true
    | cons b q =>
      rw [le_cons] at hpq hqp
      rcases hpq with hab | ⟨rfl, hpq⟩
      · rcases hqp with hba | ⟨rfl, -⟩
        · exact absurd hba (lt_asymm hab)
        · exact absurd hab (lt_irrefl b)
      · rcases hqp with haa | ⟨-, hqp⟩
        · exact absurd haa (lt_irrefl a)
        · rw [ih q hpq hqp]

end Place

/-- whether a path stands no later than another one -/
def Path.le (p q : Path) : Bool := Place.le p.parts q.parts

theorem Path.eq_of_le {p q : Path} (hanchor : p.anchor = q.anchor) (hpq : Path.le p q = true)
    (hqp : Path.le q p = true) : p = q := by
  obtain ⟨a, ps⟩ := p
  obtain ⟨b, qs⟩ := q
  obtain rfl : a = b := hanchor
  obtain rfl : ps = qs := Place.le_antisymm ps qs hpq hqp
  rfl

/-- paths in order that start from the same are known by which they are -/
theorem Path.eq_of_pairwise {ps qs : List Path} {a : Anchor} (hps : ps.Nodup) (hqs : qs.Nodup)
    (hmem : ∀ p, p ∈ ps ↔ p ∈ qs) (hanchor : ∀ p ∈ ps, p.anchor = a)
    (hpairs : ps.Pairwise fun p q => Path.le p q = true)
    (hpairs' : qs.Pairwise fun p q => Path.le p q = true) : ps = qs := by
  refine ((List.perm_ext_iff_of_nodup hps hqs).mpr hmem).eq_of_pairwise (fun p q hp hq => ?_)
    hpairs hpairs'
  exact Path.eq_of_le (by rw [hanchor p hp, hanchor q ((hmem q).mpr hq)])

theorem pairwise_mergeSort (ps : List Path) :
    (ps.mergeSort Path.le).Pairwise fun p q => Path.le p q = true :=
  List.pairwise_mergeSort (fun p q r => Place.le_trans p.parts q.parts r.parts)
    (fun p q => Place.le_total p.parts q.parts) ps

theorem filesFitting_eq_ok_iff {d : Disk} {folder : Path} {pattern : Pattern} {files : List Path} :
    d.filesFitting folder pattern = .ok files ↔
      (d.isFolder folder = .ok false ∧ files = []) ∨
        (d.isFolder folder = .ok true ∧ ∃ found kept, d.select ("**" :: pattern) folder = .ok found ∧
          found.filterM d.isFile = .ok kept ∧ files = kept.mergeSort Path.le) := by
  unfold Disk.filesFitting
  cases d.isFolder folder with
  | error f => simp [bind, Except.bind]
  | ok isFolder =>
    cases isFolder with
    | false => simp [bind, Except.bind, eq_comm]
    | true =>
      cases hfound : d.select ("**" :: pattern) folder with
      | error f => simp [bind, Except.bind]
      | ok found =>
        cases hkept : found.filterM d.isFile with
        | error f => simp [bind, Except.bind, hkept]
        | ok kept =>
          have hle : (fun p q : Path => Place.le p.parts q.parts) = Path.le := rfl
          simp [bind, Except.bind, hkept, hle, eq_comm]

theorem pairwise_filesFitting {d : Disk} {folder : Path} {pattern : Pattern} {files : List Path}
    (h : d.filesFitting folder pattern = .ok files) :
    files.Pairwise fun p q => Path.le p q = true := by
  rcases filesFitting_eq_ok_iff.mp h with ⟨-, rfl⟩ | ⟨-, found, kept, -, -, rfl⟩
  · exact List.Pairwise.nil
  · exact pairwise_mergeSort kept

end EndpointScaffold.Files

/-!
## Listing the files of a folder

The paths whose last name fits a part are found in a folder and in all folders below it, each of them
once. Those of files are then put in order.

* `filePaths`, `select_filePaths` what is found; `mem_filePaths_iff` which paths these are;
* `matchesName_source_iff` the names of source files;
* `filesFitting_part_iff`, `mem_filesFitting_part`, `nodup_filesFitting_part` the files among them.
-/

namespace EndpointScaffold.Files

open Schema

/-! ### Repetitions -/

/-- nothing repeats once repetitions are erased -/
theorem nodup_eraseDups {α : Type} [BEq α] [LawfulBEq α] (as : List α) : as.eraseDups.Nodup := by
  induction hn : as.length using Nat.strongRecOn generalizing as with
  | ind n ih =>
    cases as with
    | nil => exact List.nodup_nil
    | cons a as =>
      rw [List.eraseDups_cons, List.nodup_cons, List.mem_eraseDups, List.mem_filter]
      refine ⟨fun h => ?_, ih _ ?_ _ rfl⟩
      · rw [beq_self_eq_true] at h
        exact Bool.false_ne_true h.2
      · rw [← hn]
        exact Nat.lt_succ_of_le (List.length_filter_le _ as)

/-! ### Names -/

theorem mem_endings {ending cs : List Char} : ending ∈ endings cs ↔ ending <:+ cs := by
  induction cs with
  | nil => rw [endings, List.mem_singleton, List.suffix_nil]
  | cons c cs ih => rw [endings, List.mem_cons, ih, List.suffix_cons_iff]

theorem matchesChars_chars {word cs : List Char} :
    matchesChars (word.map .char) cs = true ↔ cs = word := by
  induction word generalizing cs with
  | nil => rw [List.map_nil, matchesChars, List.isEmpty_iff]
  | cons a word ih =>
    cases cs with
    | nil => exact ⟨fun h => (by cases h), fun h => (by cases h)⟩
    | cons c cs =>
      show (c == a && matchesChars (word.map .char) cs) = true ↔ _
      rw [Bool.and_eq_true, beq_iff_eq, ih, List.cons.injEq]

/-- the pattern of source files is about their ending only -/
theorem matchesName_source_iff {name : String} :
    matchesName "*.cs" name = true ↔ ".cs".toList <:+ name.toList := by
  have hglyphs : glyphsOf "*.cs".length "*.cs".toList = .any :: ".cs".toList.map .char := by decide
  rw [matchesName, hglyphs, matchesChars, List.any_eq_true]
  constructor
  · rintro ⟨ending, hending, hmatch⟩
    rw [matchesChars_chars.mp hmatch] at hending
    exact mem_endings.mp hending
  · exact fun h => ⟨_, mem_endings.mpr h, matchesChars_chars.mpr rfl⟩

namespace Disk

variable (d : Disk) (folder : Path) (part : String)

/-! ### Found paths -/

/-- paths in a folder and below it whose last name fits a part -/
def filePaths : List Path :=
  ((d.foldersFrom folder).flatMap fun p =>
    (d.namesFitting p part false).map fun name => p.extend [name]).eraseDups

variable {part} in
theorem select_part (hpart : isWild part = true) (hstars : part ≠ "**") :
    d.select [part] folder =
      .ok ((d.namesFitting folder part false).map fun name => folder.extend [name]) := by
  have hempty : part ≠ "" := fun h => by
    rw [h] at hpart
    exact absurd hpart (by decide)
  rw [select, if_neg (by rw [beq_iff_eq]; exact hempty), if_neg (by rw [beq_iff_eq]; exact hstars),
    if_pos hpart]
  have hnames : ((d.namesFitting folder part false).mapM fun name =>
      d.select [] ⟨folder.anchor, folder.parts ++ [name]⟩) =
        .ok ((d.namesFitting folder part false).map fun name => [folder.extend [name]]) :=
    mapM_ok fun name _ => rfl
  show (do
    let found ← (d.namesFitting folder part false).mapM fun name =>
      d.select [] ⟨folder.anchor, folder.parts ++ [name]⟩
    Except.ok found.flatten) = _
  rw [hnames]
  show Except.ok (List.flatten _) = _
  rw [← List.flatMap_def, List.map_eq_flatMap]

variable {part} in
theorem select_filePaths (hpart : isWild part = true) (hstars : part ≠ "**") :
    d.select ["**", part] folder = .ok (d.filePaths folder part) := by
  rw [select, if_neg (by decide), if_pos (by decide),
    mapM_ok fun p _ => d.select_part p hpart hstars, filePaths, List.flatMap_def]
  rfl

/-! ### Which paths are found -/

section
variable {d folder part} {base : Place}

theorem mem_below (hd : d.tree.IsProper) (hbase : d.locate folder = .ok base)
    {names : List String} {n : Node} :
    (names, n) ∈ d.below folder ↔ names ≠ [] ∧ d.tree.find? (base ++ names) = some n := by
  rw [below, hbase]
  show (names, n) ∈ (d.tree.entriesBelow base).map _ ↔ _
  rw [List.mem_map]
  constructor
  · rintro ⟨⟨p, m⟩, he, heq⟩
    rw [Tree.entriesBelow, List.mem_filter, Bool.and_eq_true, isWithin, List.isPrefixOf_iff_prefix,
      bne_iff_ne] at he
    obtain ⟨hmem, ⟨rest, rfl⟩, hne⟩ := he
    rw [List.drop_left, Prod.mk.injEq] at heq
    obtain ⟨rfl, rfl⟩ := heq
    refine ⟨fun hrest => hne ?_, Tree.find?_of_mem hd hmem⟩
    rw [hrest, List.append_nil]
  · rintro ⟨hnames, hfind⟩
    refine ⟨(base ++ names, n), ?_, ?_⟩
    · rw [Tree.entriesBelow, List.mem_filter, Bool.and_eq_true, isWithin,
        List.isPrefixOf_iff_prefix, bne_iff_ne]
      refine ⟨Tree.mem_of_find? (fun h => hnames (List.append_eq_nil_iff.mp h).2) hfind,
        List.prefix_append base names, fun h => hnames ?_⟩
      exact List.append_right_eq_self.mp h
    · rw [List.drop_left]

theorem mem_foldersFrom (hd : d.tree.IsProper) (hbase : d.locate folder = .ok base)
    (hfolder : d.tree.find? base = some .folder) {p : Path} :
    p ∈ d.foldersFrom folder ↔
      ∃ names, p = folder.extend names ∧ d.tree.find? (base ++ names) = some .folder := by
  rw [foldersFrom, List.mem_cons, List.mem_filterMap]
  constructor
  · rintro (rfl | ⟨⟨names, n⟩, hmem, heq⟩)
    · refine ⟨[], (Path.extend_nil p).symm, ?_⟩
      rw [List.append_nil]
      exact hfolder
    · by_cases hn : n = .folder
      · rw [if_pos (beq_iff_eq.mpr hn)] at heq
        rw [hn] at hmem
        exact ⟨names, (Option.some.inj heq).symm, ((mem_below hd hbase).mp hmem).2⟩
      · rw [if_neg (fun h => hn (beq_iff_eq.mp h))] at heq
        cases heq
  · rintro ⟨names, rfl, hfind⟩
    by_cases hnames : names = []
    · rw [hnames]
      exact .inl (Path.extend_nil folder)
    · exact .inr ⟨(names, .folder), (mem_below hd hbase).mpr ⟨hnames, hfind⟩, rfl⟩

theorem mem_namesFitting (hd : d.tree.IsProper) (hbase : d.locate folder = .ok base)
    {name : String} :
    name ∈ d.namesFitting folder part false ↔
      matchesName part name = true ∧ ∃ n, d.tree.find? (base ++ [name]) = some n := by
  rw [namesFitting, List.mem_filterMap]
  constructor
  · rintro ⟨⟨names, n⟩, hmem, heq⟩
    cases names with
    | nil => cases heq
    | cons a names =>
      cases names with
      | nil =>
        by_cases ha : matchesName part a = true
        · replace heq : some a = some name := by
            rw [← heq]
            exact (if_pos ha).symm
          obtain rfl := Option.some.inj heq
          exact ⟨ha, n, ((mem_below hd hbase).mp hmem).2⟩
        · replace heq : none = some name := by
            rw [← heq]
            exact (if_neg ha).symm
          cases heq
      | cons b rest => cases heq
  · rintro ⟨hmatch, n, hfind⟩
    exact ⟨([name], n), (mem_below hd hbase).mpr ⟨List.cons_ne_nil _ _, hfind⟩, if_pos hmatch⟩

theorem namesFitting_of_error {c : Cause} (h : d.locate folder = .error c) :
    d.namesFitting folder part false = [] := by
  rw [namesFitting, below, h]
  rfl

/-- the found paths go on with names that fit, as far as their folders can be followed -/
theorem mem_filePaths_iff (hd : d.tree.IsProper) (hbase : d.locate folder = .ok base)
    (hfolder : d.tree.find? base = some .folder) {p : Path} :
    p ∈ d.filePaths folder part ↔
      ∃ names name n, p = folder.extend (names ++ [name]) ∧
        d.tree.find? (base ++ (names ++ [name])) = some n ∧ matchesName part name = true ∧
        folder.isOpen names = true := by
  rw [filePaths, List.mem_eraseDups, List.mem_flatMap]
  constructor
  · rintro ⟨q, hq, hp⟩
    obtain ⟨names, rfl, hfind⟩ := (mem_foldersFrom hd hbase hfolder).mp hq
    obtain ⟨name, hname, rfl⟩ := List.mem_map.mp hp
    cases hopen : folder.isOpen names with
    | false =>
      obtain ⟨c, hc⟩ := locate_of_not_isOpen hd hbase hfind hopen
      rw [namesFitting_of_error hc] at hname
      exact absurd hname List.not_mem_nil
    | true =>
      have hlocate := (locate_extend_iff hd hbase hfind).mpr hopen
      obtain ⟨hmatch, n, hn⟩ := (mem_namesFitting hd hlocate).mp hname
      rw [List.append_assoc] at hn
      exact ⟨names, name, n, Path.extend_extend folder names [name], hn, hmatch, hopen⟩
  · rintro ⟨names, name, n, rfl, hn, hmatch, hopen⟩
    rw [← List.append_assoc] at hn
    have hfind := Tree.find?_of_append hd (List.cons_ne_nil name []) hn
    have hlocate := (locate_extend_iff hd hbase hfind).mpr hopen
    refine ⟨folder.extend names, (mem_foldersFrom hd hbase hfolder).mpr ⟨names, rfl, hfind⟩, ?_⟩
    rw [List.mem_map]
    exact ⟨name, (mem_namesFitting hd hlocate).mpr ⟨hmatch, n, hn⟩,
      Path.extend_extend folder names [name]⟩

theorem anchor_of_mem_filePaths (hd : d.tree.IsProper) (hbase : d.locate folder = .ok base)
    (hfolder : d.tree.find? base = some .folder) {p : Path} (hp : p ∈ d.filePaths folder part) :
    p.anchor = folder.anchor := by
  obtain ⟨names, name, n, rfl, -⟩ := (mem_filePaths_iff hd hbase hfolder).mp hp
  rfl

/-! ### Files among them -/

theorem isFolder_of_locate (hbase : d.locate folder = .ok base)
    (hfolder : d.tree.find? base = some .folder) : d.isFolder folder = .ok true := by
  have hlook : d.look folder = .ok .folder := by
    rw [look_of_locate hbase, hfolder]
  exact isFolder_eq_true_iff.mpr hlook

/-- the files of a folder are the found paths that lead to files, if this can be told of each -/
theorem filesFitting_part_iff (hpart : isWild part = true) (hstars : part ≠ "**")
    (hfolder : d.isFolder folder = .ok true) {files : List Path} :
    d.filesFitting folder [part] = .ok files ↔
      (∀ p ∈ d.filePaths folder part, (d.isFile p).isOk = true) ∧
        files = ((d.filePaths folder part).filter fun p => passes (d.isFile p)).mergeSort Path.le := by
  rw [filesFitting_eq_ok_iff, hfolder, d.select_filePaths folder hpart hstars]
  constructor
  · rintro (⟨h, -⟩ | ⟨-, found, kept, hfound, hkept, rfl⟩)
    · cases h
    · obtain rfl := Except.ok.inj hfound
      obtain ⟨hok, rfl⟩ := filterM_eq_ok_iff.mp hkept
      exact ⟨hok, rfl⟩
  · rintro ⟨hok, rfl⟩
    exact .inr ⟨rfl, _, _, rfl, filterM_eq_ok_iff.mpr ⟨hok, rfl⟩, rfl⟩

theorem filesFitting_of_one (hpart : isWild part = true) (hstars : part ≠ "**")
    (hfolder : d.isFolder folder = .ok true) {p : Path} (hpaths : d.filePaths folder part = [p])
    (hfile : d.isFile p = .ok true) : d.filesFitting folder [part] = .ok [p] := by
  refine (filesFitting_part_iff hpart hstars hfolder).mpr ?_
  have hkept : [p].filter (fun p => passes (d.isFile p)) = [p] :=
    List.filter_cons_of_pos (passes_iff.mpr hfile)
  rw [hpaths, hkept, List.mergeSort_singleton]
  refine ⟨fun q hq => ?_, rfl⟩
  rw [List.mem_singleton.mp hq, hfile]
  rfl

theorem mem_filesFitting_part (hpart : isWild part = true) (hstars : part ≠ "**")
    (hfolder : d.isFolder folder = .ok true) {files : List Path}
    (h : d.filesFitting folder [part] = .ok files) {p : Path} :
    p ∈ files ↔ p ∈ d.filePaths folder part ∧ d.isFile p = .ok true := by
  obtain ⟨-, rfl⟩ := (filesFitting_part_iff hpart hstars hfolder).mp h
  rw [List.mem_mergeSort, List.mem_filter, passes_iff]

theorem nodup_filesFitting_part (hpart : isWild part = true) (hstars : part ≠ "**")
    (hfolder : d.isFolder folder = .ok true) {files : List Path}
    (h : d.filesFitting folder [part] = .ok files) : files.Nodup := by
  obtain ⟨-, rfl⟩ := (filesFitting_part_iff hpart hstars hfolder).mp h
  exact (List.mergeSort_perm _ _).nodup_iff.mpr ((nodup_eraseDups _).filter _)

/-- a listing is told by its paths: of the files of a folder, only one list without repetition is in
order -/
theorem filesFitting_eq_of_mem_iff (hd : d.tree.IsProper) (hbase : d.locate folder = .ok base)
    (hfolder : d.tree.find? base = some .folder) (hpart : isWild part = true)
    (hstars : part ≠ "**") (hok : ∀ p ∈ d.filePaths folder part, (d.isFile p).isOk = true)
    {files : List Path} (hnodup : files.Nodup)
    (hpairs : files.Pairwise fun p q => Path.le p q = true)
    (hmem : ∀ p, p ∈ files ↔ p ∈ d.filePaths folder part ∧ d.isFile p = .ok true) :
    d.filesFitting folder [part] = .ok files := by
  have hF := isFolder_of_locate hbase hfolder
  have hlisted := (filesFitting_part_iff hpart hstars hF).mpr ⟨hok, rfl⟩
  generalize ((d.filePaths folder part).filter fun p => passes (d.isFile p)).mergeSort Path.le =
    listed at hlisted
  have hsame : ∀ p, p ∈ listed ↔ p ∈ files := fun p => by
    rw [mem_filesFitting_part hpart hstars hF hlisted, hmem]
  have hanchor : ∀ p ∈ listed, p.anchor = folder.anchor := fun p hp =>
    anchor_of_mem_filePaths hd hbase hfolder ((hmem p).mp ((hsame p).mp hp)).1
  rw [hlisted]
  exact congrArg Except.ok (Path.eq_of_pairwise
    (nodup_filesFitting_part hpart hstars hF hlisted) hnodup hsame hanchor
    (pairwise_filesFitting hlisted) hpairs)

end

end Disk

end EndpointScaffold.Files
