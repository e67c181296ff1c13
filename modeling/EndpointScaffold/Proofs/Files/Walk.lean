import EndpointScaffold.Proofs.Files.Proper

/-!
# Following paths

In a proper tree a path that goes on with names from a folder leads where the names say.

* `Tree.walk_cons_eq_ok`, `Tree.walk_cons_tooLong` one name after the other;
* `Tree.walk_names` names from a place on, `Tree.walk_of_kept` on a tree that keeps its folders;
* `Disk.locate_extend`, `Disk.look_extend` where a path leads that goes on with names;
* `Disk.leadsTo_eq_true_iff` what a path leads to that passes a test.
-/

namespace EndpointScaffold.Files

namespace Tree

variable {t t' : Tree} {p q : Place} {n : Node}

/-! ### Walking -/

theorem walk_cons (t : Tree) (p : Place) (a : String) (names : List String) :
    t.walk p (a :: names) =
      match t.find? p with
      | none => .error .missing
      | some (.file _) => .error .notFolder
      | some .folder =>
        if isTooLong a then .error .tooLong else t.walk (Path.step p a) names := rfl

section
variable {a : String} {names : List String}

/-- names are followed from folder to folder -/
theorem walk_cons_eq_ok :
    t.walk p (a :: names) = .ok q ↔
      t.find? p = some .folder ∧ isTooLong a = false ∧ t.walk (Path.step p a) names = .ok q := by
  rw [walk_cons]
  cases t.find? p with
  | none => exact ⟨fun h => (by cases h), fun h => (by cases h.1)⟩
  | some n =>
    cases n with
    | file bytes => exact ⟨fun h => (by cases h), fun h => (by cases h.1)⟩
    | folder =>
      cases isTooLong a with
      | true => exact ⟨fun h => (by cases h), fun h => (by cases h.2.1)⟩
      | false => exact ⟨fun h => ⟨rfl, rfl, h⟩, fun h => h.2.2⟩

theorem walk_cons_tooLong :
    t.walk p (a :: names) = .error .tooLong ↔
      t.find? p = some .folder ∧
        (isTooLong a = true ∨ t.walk (Path.step p a) names = .error .tooLong) := by
  rw [walk_cons]
  cases t.find? p with
  | none => exact ⟨fun h => (by cases h), fun h => (by cases h.1)⟩
  | some n =>
    cases n with
    | file bytes => exact ⟨fun h => (by cases h), fun h => (by cases h.1)⟩
    | folder =>
      cases isTooLong a with
      | true => exact ⟨fun _ => ⟨rfl, .inl rfl⟩, fun _ => rfl⟩
      | false => exact ⟨fun h => ⟨rfl, .inr h⟩, fun h => h.2.resolve_left Bool.false_ne_true⟩

/-- a path that can be followed leads where its names say -/
theorem walk_eq_ok (h : t.walk p names = .ok q) : q = names.foldl Path.step p := by
  induction names generalizing p with
  | nil => exact (Except.ok.inj h).symm
  | cons a names ih => exact ih (walk_cons_eq_ok.mp h).2.2

/-- a path that can be followed leads to the same place on a tree that keeps the folders -/
theorem walk_of_kept (hkept : ∀ p, t.find? p = some .folder → t'.find? p = some .folder)
    (h : t.walk p names = .ok q) : t'.walk p names = .ok q := by
  induction names generalizing p with
  | nil => exact h
  | cons a names ih =>
    obtain ⟨hp, ha, hrest⟩ := walk_cons_eq_ok.mp h
    exact walk_cons_eq_ok.mpr ⟨hkept p hp, ha, ih hrest⟩

/-- a name that is too long is met again on a tree that keeps the folders -/
theorem walk_tooLong_of_kept (hkept : ∀ p, t.find? p = some .folder → t'.find? p = some .folder)
    (h : t.walk p names = .error .tooLong) : t'.walk p names = .error .tooLong := by
  induction names generalizing p with
  | nil => cases h
  | cons a names ih =>
    obtain ⟨hp, hrest⟩ := walk_cons_tooLong.mp h
    exact walk_cons_tooLong.mpr ⟨hkept p hp, hrest.imp_right ih⟩

end

theorem walk_append (t : Tree) (p : Place) (as bs : List String) :
    t.walk p (as ++ bs) = (t.walk p as).bind fun q => t.walk q bs := by
  induction as generalizing p with
  | nil => rfl
  | cons a as ih =>
    rw [List.cons_append, walk_cons, walk_cons]
    cases t.find? p with
    | none => rfl
    | some m =>
      cases m with
      | file bytes => rfl
      | folder =>
        by_cases ha : isTooLong a = true
        · rw [if_pos ha, if_pos ha]
          rfl
        · rw [if_neg ha, if_neg ha, ih]

/-- names from a folder lead to what they say -/
theorem walk_names (ht : t.IsProper) {names : List String} (h : t.find? (p ++ names) = some n) :
    t.walk p names = if names.any isTooLong then .error .tooLong else .ok (p ++ names) := by
  induction names generalizing p with
  | nil =>
    rw [List.append_nil]
    rfl
  | cons a names ih =>
    have hfolder := find?_of_append ht (List.cons_ne_nil a names) h
    have hdots : a ≠ ".." := fun ha => dots_not_mem ht h (by rw [ha]; simp)
    rw [walk_cons, hfolder, List.any_cons]
    by_cases ha : isTooLong a = true
    · rw [ha]
      rfl
    · have hstep : Path.step p a = p ++ [a] := if_neg hdots
      have hnext : t.find? ((p ++ [a]) ++ names) = some n := by
        rw [List.append_assoc]
        exact h
      rw [if_neg ha, Bool.eq_false_iff.mpr ha, hstep, Bool.false_or, ih hnext, List.append_assoc]
      rfl

end Tree

/-! ### Paths that go on -/

namespace Path

/-- whether a path can be followed that goes on with names -/
def isOpen (p : Path) (names : List String) : Bool :=
  (p.extend names).fault?.isNone && !names.any isTooLong

theorem extend_nil (p : Path) : p.extend [] = p := by
  rw [extend, List.append_nil]

theorem extend_extend (p : Path) (names others : List String) :
    (p.extend names).extend others = p.extend (names ++ others) := by
  rw [extend, extend, extend, List.append_assoc]

theorem extend_inj (p : Path) {names others : List String} :
    p.extend names = p.extend others ↔ names = others := by
  rw [extend, extend, Path.mk.injEq, List.append_cancel_left_eq]
  exact and_iff_right rfl

end Path

namespace Disk

variable {d : Disk} {folder : Path} {base : Place}

theorem locate_of_fault {p : Path} {c : Cause} (h : p.fault? = some c) :
    d.locate p = .error c := by
  unfold locate
  rw [h]

theorem locate_of_clear {p : Path} (h : p.fault? = none) :
    d.locate p = d.tree.walk (p.start d.here) p.parts := by
  unfold locate
  rw [h]

theorem fault?_of_locate {p : Path} (h : d.locate p = .ok base) : p.fault? = none := by
  cases hfault : p.fault? with
  | none => rfl
  | some c =>
    rw [locate_of_fault hfault] at h
    cases h

theorem walk_of_locate {p : Path} (h : d.locate p = .ok base) :
    d.tree.walk (p.start d.here) p.parts = .ok base := by
  rw [locate_of_clear (fault?_of_locate h)] at h
  exact h

/-- a path that can be followed leads to the same place on a disk that keeps the folders -/
theorem locate_of_kept {d' : Disk} {p : Path} (hhere : d'.here = d.here)
    (hkept : ∀ q, d.tree.find? q = some .folder → d'.tree.find? q = some .folder)
    (h : d.locate p = .ok base) : d'.locate p = .ok base := by
  rw [locate_of_clear (fault?_of_locate h), hhere]
  exact Tree.walk_of_kept hkept (walk_of_locate h)

/-- where a path leads that goes on with names from a folder -/
theorem locate_extend (hd : d.tree.IsProper) (hbase : d.locate folder = .ok base)
    {names : List String} {n : Node} (h : d.tree.find? (base ++ names) = some n) :
    d.locate (folder.extend names) =
      match (folder.extend names).fault? with
      | some c => .error c
      | none => if names.any isTooLong then .error .tooLong else .ok (base ++ names) := by
  cases hfault : (folder.extend names).fault? with
  | some c => exact locate_of_fault hfault
  | none =>
    rw [locate_of_clear hfault]
    show d.tree.walk (folder.start d.here) (folder.parts ++ names) = _
    rw [Tree.walk_append, walk_of_locate hbase]
    exact Tree.walk_names hd h

theorem locate_extend_iff (hd : d.tree.IsProper) (hbase : d.locate folder = .ok base)
    {names : List String} {n : Node} (h : d.tree.find? (base ++ names) = some n) :
    d.locate (folder.extend names) = .ok (base ++ names) ↔ folder.isOpen names = true := by
  rw [locate_extend hd hbase h, Path.isOpen]
  cases (folder.extend names).fault? with
  | some c => exact ⟨fun h => (by cases h), fun h => absurd h Bool.false_ne_true⟩
  | none =>
    cases names.any isTooLong with
    | true => exact ⟨fun h => (by cases h), fun h => absurd h Bool.false_ne_true⟩
    | false => exact ⟨fun _ => rfl, fun _ => rfl⟩

theorem locate_of_not_isOpen (hd : d.tree.IsProper) (hbase : d.locate folder = .ok base)
    {names : List String} {n : Node} (h : d.tree.find? (base ++ names) = some n)
    (hopen : folder.isOpen names = false) : ∃ c, d.locate (folder.extend names) = .error c := by
  rw [locate_extend hd hbase h]
  rw [Path.isOpen] at hopen
  cases hfault : (folder.extend names).fault? with
  | some c => exact ⟨c, rfl⟩
  | none =>
    rw [hfault] at hopen
    cases hlong : names.any isTooLong with
    | true => exact ⟨.tooLong, rfl⟩
    | false =>
      rw [hlong] at hopen
      cases hopen

/-- what is there, once it is known where the path leads -/
theorem look_of_locate {p : Path} {place : Place} (h : d.locate p = .ok place) :
    d.look p = match d.tree.find? place with
      | some n => .ok n
      | none => .error .missing := by
  unfold look
  rw [h]
  rfl

theorem look_of_error {p : Path} {c : Cause} (h : d.locate p = .error c) :
    d.look p = .error c := by
  unfold look
  rw [h]
  rfl

/-- what a path leads to that goes on with names from a folder -/
theorem look_extend (hd : d.tree.IsProper) (hbase : d.locate folder = .ok base)
    {names : List String} {n : Node} (h : d.tree.find? (base ++ names) = some n) :
    d.look (folder.extend names) =
      match (folder.extend names).fault? with
      | some c => .error c
      | none => if names.any isTooLong then .error .tooLong else .ok n := by
  have hlocate := locate_extend hd hbase h
  cases hfault : (folder.extend names).fault? with
  | some c =>
    rw [hfault] at hlocate
    exact look_of_error hlocate
  | none =>
    rw [hfault] at hlocate
    cases hlong : names.any isTooLong with
    | true =>
      rw [hlong] at hlocate
      exact look_of_error hlocate
    | false =>
      rw [hlong] at hlocate
      rw [look_of_locate hlocate, h]
      rfl

/-- a test of what a path leads to asks for nothing else -/
theorem leadsTo_congr {d' : Disk} {p : Path} {test : Node → Bool} (h : d'.look p = d.look p) :
    d'.leadsTo p test = d.leadsTo p test := by
  unfold leadsTo
  rw [h]

theorem leadsTo_eq_true_iff {p : Path} {test : Node → Bool} :
    d.leadsTo p test = .ok true ↔ ∃ n, d.look p = .ok n ∧ test n = true := by
  unfold leadsTo
  cases d.look p with
  | ok n =>
    refine ⟨fun h => ⟨n, rfl, Except.ok.inj h⟩, fun ⟨m, hm, htest⟩ => ?_⟩
    rw [Except.ok.inj hm]
    exact congrArg Except.ok htest
  | error c => exact ⟨fun h => (by cases c <;> cases h), fun h => (by cases h.choose_spec.1)⟩

theorem holds_eq_true_iff {p : Path} :
    d.holds p = .ok true ↔ ∃ n, d.look p = .ok n :=
  leadsTo_eq_true_iff.trans (exists_congr fun _ => and_iff_left rfl)

theorem holds_eq_false_iff {p : Path} :
    d.holds p = .ok false ↔ ∃ c, c ≠ .tooLong ∧ d.look p = .error c := by
  unfold holds leadsTo
  cases d.look p with
  | ok n => exact ⟨fun h => (by cases h), fun h => (by cases h.choose_spec.2)⟩
  | error c =>
    constructor
    · exact fun h => ⟨c, fun hc => (by rw [hc] at h; cases h), rfl⟩
    · rintro ⟨c', hc', heq⟩
      obtain rfl := Except.error.inj heq
      cases c with
      | tooLong => exact absurd rfl hc'
      | _ => rfl

theorem isFolder_eq_true_iff {p : Path} :
    d.isFolder p = .ok true ↔ d.look p = .ok .folder := by
  refine leadsTo_eq_true_iff.trans ⟨fun ⟨n, hlook, hn⟩ => ?_, fun h => ⟨.folder, h, rfl⟩⟩
  rw [hlook, beq_iff_eq.mp hn]

theorem isFile_eq_true_iff {p : Path} :
    d.isFile p = .ok true ↔ ∃ bytes, d.look p = .ok (.file bytes) := by
  refine leadsTo_eq_true_iff.trans ⟨fun ⟨n, hlook, hn⟩ => ?_, fun ⟨b, h⟩ => ⟨.file b, h, rfl⟩⟩
  cases n with
  | folder => cases hn
  | file bytes => exact ⟨bytes, hlook⟩

/-- a path to a folder leads to no file, whether it can be followed or not -/
theorem isFile_ne_of_folder (hd : d.tree.IsProper) (hbase : d.locate folder = .ok base)
    {names : List String} (h : d.tree.find? (base ++ names) = some .folder) :
    d.isFile (folder.extend names) ≠ .ok true := by
  intro hfile
  obtain ⟨bytes, hlook⟩ := isFile_eq_true_iff.mp hfile
  rw [look_extend hd hbase h] at hlook
  cases hfault : (folder.extend names).fault? with
  | some c =>
    rw [hfault] at hlook
    cases hlook
  | none =>
    rw [hfault] at hlook
    dsimp only at hlook
    split at hlook <;> cases hlook

end Disk

end EndpointScaffold.Files
