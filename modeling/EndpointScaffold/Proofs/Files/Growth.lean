import EndpointScaffold.Proofs.Files.Parts
import EndpointScaffold.Proofs.Files.Walk

/-!
# Disks that grow

What becomes of a disk on which files are written: nothing is lost, folders are only made above the
places that are aimed at, and a file only takes the place of another one if that is wanted.

* `folder_of_below` a path that can only be followed if another one leads to a folder;
* `Disk.Grows` how a disk may differ from an earlier one, with `refl`, `trans` and `mono`;
* `Grows.put_folder`, `Grows.put_file` one more entry;
* `Grows.look_ok`, `Grows.look_tooLong`, `Grows.holds_ofPlace` what paths lead to on both.
-/

namespace EndpointScaffold.Files

namespace Disk

/-! ### Followed paths -/

theorem locate_eq_ok {d : Disk} {p : Path} {place : Place} (h : d.locate p = .ok place) :
    place = p.resolved d.here := Tree.walk_eq_ok (walk_of_locate h)

theorem look_eq_ok_iff {d : Disk} {p : Path} {n : Node} :
    d.look p = .ok n ↔ d.locate p = .ok (p.resolved d.here) ∧
      d.tree.find? (p.resolved d.here) = some n := by
  cases hlocate : d.locate p with
  | error c =>
    rw [look_of_error hlocate]
    exact ⟨fun h => (by cases h), fun h => (by cases h.1)⟩
  | ok place =>
    rw [look_of_locate hlocate, ← locate_eq_ok hlocate]
    cases d.tree.find? place with
    | none => exact ⟨fun h => (by cases h), fun h => (by cases h.2)⟩
    | some m => exact ⟨fun h => ⟨rfl, congrArg some (Except.ok.inj h)⟩,
        fun h => congrArg Except.ok (Option.some.inj h.2)⟩

theorem locate_of_look_tooLong {d : Disk} {p : Path} (h : d.look p = .error .tooLong) :
    d.locate p = .error .tooLong := by
  cases hlocate : d.locate p with
  | error c =>
    rw [look_of_error hlocate] at h
    exact congrArg Except.error (Except.error.inj h)
  | ok place =>
    rw [look_of_locate hlocate] at h
    cases hfind : d.tree.find? place with
    | none =>
      rw [hfind] at h
      cases h
    | some n =>
      rw [hfind] at h
      cases h

/-- a relative path can only be followed below a path to a folder -/
theorem folder_of_below {d : Disk} {p : Path} {s : String} (hs : (Path.ofText s).anchor = .here)
    (h : d.isFolder (p.below s) = .ok true) : d.tree.find? (p.resolved d.here) = some .folder := by
  obtain ⟨hlocate, hfolder⟩ := look_eq_ok_iff.mp (isFolder_eq_true_iff.mp h)
  have hbelow : p.below s = ⟨p.anchor, p.parts ++ (Path.ofText s).parts⟩ := by
    rw [Path.below, Path.join, hs]
  have hwalk := walk_of_locate hlocate
  rw [hbelow] at hwalk hfolder
  replace hwalk : d.tree.walk (p.start d.here) (p.parts ++ (Path.ofText s).parts) = _ := hwalk
  rw [Tree.walk_append] at hwalk
  cases hfirst : d.tree.walk (p.start d.here) p.parts with
  | error c =>
    rw [hfirst] at hwalk
    cases hwalk
  | ok q =>
    obtain rfl : q = p.resolved d.here := Tree.walk_eq_ok hfirst
    rw [hfirst] at hwalk
    -- without further parts both paths are the same, and otherwise names follow that of the first
    cases hparts : (Path.ofText s).parts with
    | nil =>
      rw [hparts, List.append_nil] at hfolder
      exact hfolder
    | cons a names =>
      rw [hparts] at hwalk
      exact (Tree.walk_cons_eq_ok.mp hwalk).1

/-- if the path of a place can be followed on one disk, it can be followed on any other on which
something stands there -/
theorem look_ofPlace {d e : Disk} (hd : d.tree.IsProper) (he : e.tree.IsProper) {place : Place}
    (hdots : ".." ∉ place) {n m : Node} (hlook : d.look (Path.ofPlace place) = .ok n)
    (hfind : e.tree.find? place = some m) : e.look (Path.ofPlace place) = .ok m := by
  have hroot : ∀ e : Disk, e.locate (Path.ofPlace []) = .ok [] := fun e => by
    rw [locate_of_clear (by decide)]
    rfl
  rw [look_eq_ok_iff, Path.resolved_ofPlace hdots] at hlook ⊢
  exact ⟨(locate_extend_iff he (hroot e) hfind).mpr
    ((locate_extend_iff hd (hroot d) hlook.2).mp hlook.1), hfind⟩

/-! ### Growth -/

/-- what may become of a place, if files are written and the places `aims` are aimed at -/
inductive Change (overwrites : Bool) (aims : Place → Prop) (files : Place → List UInt8 → Prop) :
    Place → Option Node → Option Node → Prop
  | same (q : Place) (n : Option Node) : Change overwrites aims files q n n
  | folder {q aim : Place} (haim : aims aim) (hq : q <+: aim) (hne : q ≠ aim) :
      Change overwrites aims files q none (some .folder)
  | file {q : Place} {bytes : List UInt8} {old : Option Node} (h : files q bytes)
      (hold : old = none ∨ overwrites = true ∧ ∃ b, old = some (.file b)) :
      Change overwrites aims files q old (some (.file bytes))

variable {overwrites : Bool} {aims aims' : Place → Prop}
  {files files' : Place → List UInt8 → Prop}

namespace Change

variable {q : Place} {a b c : Option Node}

theorem mono (haims : ∀ p, aims p → aims' p) (hfiles : ∀ p bytes, files p bytes → files' p bytes)
    (h : Change overwrites aims files q a b) : Change overwrites aims' files' q a b := by
  cases h with
  | same => exact .same q a
  | folder haim hq hne => exact .folder (haims _ haim) hq hne
  | file h hold => exact .file (hfiles _ _ h) hold

/-- a file may follow nothing or another file, and a folder nothing only -/
theorem trans (h : Change overwrites aims files q a b) (h' : Change overwrites aims files q b c) :
    Change overwrites aims files q a c := by
  cases h' with
  | same => exact h
  | folder haim hq hne =>
    cases h with
    | same => exact .folder haim hq hne
  | file hfile hold =>
    cases h with
    | same => exact .file hfile hold
    | folder => simp at hold
    | file _ hold' => exact .file hfile hold'

theorem eq_folder (h : Change overwrites aims files q a b) (ha : a = some .folder) :
    b = some .folder := by
  subst ha
  cases h with
  | same => rfl
  | file _ hold => simp at hold

theorem isSome (h : Change overwrites aims files q a b) (ha : a.isSome = true) :
    b.isSome = true := by
  cases h with
  | same => exact ha
  | folder => rfl
  | file => rfl

theorem eq_of_kept (h : Change false aims files q a b) (ha : a.isSome = true) : b = a := by
  cases h with
  | same => rfl
  | folder => cases ha
  | file _ hold =>
    rcases hold with rfl | ⟨hold, -⟩
    · cases ha
    · cases hold

/-- what stands at a place stays there if no file is written to it -/
theorem eq_of_unwritten (h : Change overwrites aims files q a b) (ha : a.isSome = true)
    (hfiles : ∀ bytes, ¬ files q bytes) : b = a := by
  cases h with
  | same => rfl
  | folder => cases ha
  | file h _ => exact absurd h (hfiles _)

/-- nothing becomes of a place that is not aimed at, and is not above such a place -/
theorem eq_of_aside (h : Change overwrites aims files q a b)
    (haims : ∀ aim, aims aim → q <+: aim → q = aim) (hfiles : ∀ bytes, ¬ files q bytes) :
    b = a := by
  cases h with
  | same => rfl
  | folder haim hq hne => exact absurd (haims _ haim hq) hne
  | file h _ => exact absurd h (hfiles _)

end Change

/-- the disk `d'` is `d` after files were written -/
structure Grows (overwrites : Bool) (aims : Place → Prop) (files : Place → List UInt8 → Prop)
    (d d' : Disk) : Prop where
  here : d'.here = d.here
  change : ∀ q, Change overwrites aims files q (d.tree.find? q) (d'.tree.find? q)

namespace Grows

variable {d d' d'' : Disk} {p : Path}

theorem refl (d : Disk) : Grows overwrites aims files d d := ⟨rfl, fun q => .same q _⟩

theorem trans (h : Grows overwrites aims files d d') (h' : Grows overwrites aims files d' d'') :
    Grows overwrites aims files d d'' :=
  ⟨h'.here.trans h.here, fun q => (h.change q).trans (h'.change q)⟩

theorem mono (haims : ∀ p, aims p → aims' p) (hfiles : ∀ p bytes, files p bytes → files' p bytes)
    (h : Grows overwrites aims files d d') : Grows overwrites aims' files' d d' :=
  ⟨h.here, fun q => (h.change q).mono haims hfiles⟩

theorem put_folder {place aim : Place} (hplace : place ≠ []) (habsent : d.tree.find? place = none)
    (haim : aims aim) (hq : place <+: aim) (hne : place ≠ aim) :
    Grows overwrites aims files d { d with tree := d.tree.put place .folder } := by
  refine ⟨rfl, fun q => ?_⟩
  by_cases hqp : q = place
  · rw [hqp, habsent, Tree.find?_put_self _ _ hplace]
    exact .folder haim hq hne
  · rw [Tree.find?_put_of_ne _ _ hqp]
    exact .same q _

theorem put_file {place : Place} {bytes : List UInt8} (hplace : place ≠ [])
    (hfile : files place bytes)
    (hold : d.tree.find? place = none ∨
      overwrites = true ∧ ∃ b, d.tree.find? place = some (.file b)) :
    Grows overwrites aims files d { d with tree := d.tree.put place (.file bytes) } := by
  refine ⟨rfl, fun q => ?_⟩
  by_cases hqp : q = place
  · rw [hqp, Tree.find?_put_self _ _ hplace]
    exact .file hfile hold
  · rw [Tree.find?_put_of_ne _ _ hqp]
    exact .same q _

/-! ### Paths afterwards -/

variable (h : Grows overwrites aims files d d')

include h

theorem folder_kept {q : Place} (hq : d.tree.find? q = some .folder) :
    d'.tree.find? q = some .folder := (h.change q).eq_folder hq

theorem locate_ok {place : Place} (hlocate : d.locate p = .ok place) :
    d'.locate p = .ok place := locate_of_kept h.here (fun _ => h.folder_kept) hlocate

theorem look_ok {n : Node} (hlook : d.look p = .ok n) : ∃ n', d'.look p = .ok n' := by
  obtain ⟨hlocate, hfind⟩ := look_eq_ok_iff.mp hlook
  obtain ⟨n', hn'⟩ := Option.isSome_iff_exists.mp
    ((h.change (p.resolved d.here)).isSome (by rw [hfind]; rfl))
  refine ⟨n', look_eq_ok_iff.mpr ?_⟩
  rw [h.here]
  exact ⟨h.locate_ok hlocate, hn'⟩

theorem look_tooLong (hlook : d.look p = .error .tooLong) : d'.look p = .error .tooLong := by
  have hlocate := locate_of_look_tooLong hlook
  have hlocate' : d'.locate p = .error .tooLong := by
    cases hfault : p.fault? with
    | some c =>
      rw [locate_of_fault hfault] at hlocate ⊢
      exact hlocate
    | none =>
      rw [locate_of_clear hfault] at hlocate ⊢
      rw [h.here]
      exact Tree.walk_tooLong_of_kept (fun _ => h.folder_kept) hlocate
  exact look_of_error hlocate'

omit h in
/-- whether a place is taken can be told before if it can be told afterwards, with the same answer
if nothing became of the place -/
theorem holds_ofPlace (h : Grows overwrites aims files d d') (hd : d.tree.IsProper)
    (hd' : d'.tree.IsProper) {place : Place} (hdots : ".." ∉ place)
    (hsame : d'.tree.find? place = d.tree.find? place) {b : Bool}
    (hholds : d'.holds (Path.ofPlace place) = .ok b) : d.holds (Path.ofPlace place) = .ok b := by
  cases b with
  | true =>
    obtain ⟨n, hlook⟩ := holds_eq_true_iff.mp hholds
    have hfind := (look_eq_ok_iff.mp hlook).2
    rw [Path.resolved_ofPlace hdots] at hfind
    exact holds_eq_true_iff.mpr ⟨n, look_ofPlace hd' hd hdots hlook (hsame.symm.trans hfind)⟩
  | false =>
    obtain ⟨c, hc, hlook⟩ := holds_eq_false_iff.mp hholds
    cases hbefore : d.look (Path.ofPlace place) with
    -- nothing is lost, and a name that is too long stays so
    | ok n =>
      obtain ⟨n', hn'⟩ := h.look_ok hbefore
      rw [hn'] at hlook
      cases hlook
    | error c' =>
      refine holds_eq_false_iff.mpr ⟨c', ?_, hbefore⟩
      rintro rfl
      rw [h.look_tooLong hbefore] at hlook
      exact hc (Except.error.inj hlook).symm

end Grows

end Disk

end EndpointScaffold.Files
