import EndpointScaffold.Proofs.Export.Placing
import Mathlib.Algebra.GroupWithZero.Nat
import Mathlib.Data.List.Forall2

/-!
# Every file of an export is accounted for

An export lists every file once, as written, skipped or failed, in the order of the paths, and a
file that fails keeps none of the others from being dealt with. There is one exception: where the
target of a file has a name that is too long, it cannot be told whether something stands there, and
the export is interrupted at that file.

* `Placings`, `placings_placeAll` a batch file by file, up to where it is interrupted;
* `Account`, `exists_account` files told apart by what is recorded of them;
* `sameFiles_of_placing` what is skipped or fails changes no file;
* `interruption_eq_none_iff`, `IsShort` when a batch is interrupted;
* `IsAccounted`, `isAccounted_run` all of it.
-/

namespace EndpointScaffold.Files.Disk

variable {d : Disk} {p : Path}

/-! ### Names that are too long -/

theorem holds_eq_error_iff {failure : Failure} :
    d.holds p = .error failure ↔
      d.look p = .error .tooLong ∧ failure = { cause := .tooLong, path := p.text } := by
  unfold holds leadsTo
  cases d.look p with
  | ok n => exact ⟨fun h => (by cases h), fun h => (by cases h.1)⟩
  | error c =>
    cases c with
    | tooLong => exact ⟨fun h => ⟨rfl, (Except.error.inj h).symm⟩, fun h => h.2 ▸ rfl⟩
    | _ => exact ⟨fun h => (by cases h), fun h => (by cases h.1)⟩

/-- a place whose path and names are not too long for any disk -/
structure IsShort (t : Place) : Prop where
  path : (Path.ofPlaceText t).utf8ByteSize < pathLimit
  names : ∀ name ∈ t, isTooLong name = false

theorem exists_tooLong_of_walk {t : Tree} {place : Place} {names : List String}
    (h : t.walk place names = .error .tooLong) : ∃ name ∈ names, isTooLong name = true := by
  induction names generalizing place with
  | nil => cases h
  | cons a names ih =>
    obtain ⟨-, ha | hrest⟩ := Tree.walk_cons_tooLong.mp h
    · exact ⟨a, List.mem_cons_self, ha⟩
    · obtain ⟨name, hname, hlong⟩ := ih hrest
      exact ⟨name, List.mem_cons_of_mem a hname, hlong⟩

/-- in the root folder, a name that is too long is always met -/
theorem look_of_isTooLong {name : String} (hnull : '\x00' ∉ name.toList)
    (hpath : name.utf8ByteSize + 1 < pathLimit) (hlong : isTooLong name = true) :
    d.look (Path.ofPlace [name]) = .error .tooLong := by
  have htext : (Path.ofPlace [name]).text = "/" ++ name := by
    rw [Path.text_ofPlace, Text.join, String.intercalate_singleton]
  have hfault : (Path.ofPlace [name]).fault? = none := by
    have hnull' : '\x00' ∉ ("/" ++ name).toList := by
      rw [String.toList_append, List.mem_append, not_or]
      exact ⟨by decide, hnull⟩
    have hpath' : ¬ pathLimit ≤ ("/" ++ name).utf8ByteSize := by
      rw [String.utf8ByteSize_append, Nat.not_le, Nat.add_comm]
      exact hpath
    rw [Path.fault?, htext, if_neg fun h => hnull' (List.contains_iff_mem.mp h), if_neg hpath']
  have hlocate : d.locate (Path.ofPlace [name]) = .error .tooLong := by
    rw [locate_of_clear hfault]
    show d.tree.walk [] [name] = _
    rw [Tree.walk_cons, Tree.find?_nil, hlong]
    rfl
  exact look_of_error hlocate

theorem not_isShort_of_look {t : Place} (h : d.look (Path.ofPlace t) = .error .tooLong) :
    ¬ IsShort t := by
  intro hshort
  have hlocate := locate_of_look_tooLong h
  by_cases hnull : (Path.ofPlace t).text.toList.contains (Char.ofNat 0) = true
  · have hfault : (Path.ofPlace t).fault? = some .nullCharacter := if_pos hnull
    rw [locate_of_fault hfault] at hlocate
    cases hlocate
  · have hpath : ¬ pathLimit ≤ (Path.ofPlace t).text.utf8ByteSize := Nat.not_le.mpr hshort.path
    have hfault : (Path.ofPlace t).fault? = none := (if_neg hnull).trans (if_neg hpath)
    rw [locate_of_clear hfault] at hlocate
    obtain ⟨name, hname, hlong⟩ := exists_tooLong_of_walk hlocate
    rw [hshort.names name hname] at hlong
    cases hlong

end EndpointScaffold.Files.Disk

namespace EndpointScaffold.Export

open Encoding Files Support

variable {x : Exporter} {d d' e : Disk} {f : SourceFile} {fs : List SourceFile} {p : Placement}
  {ps : List Placement}

/-! ### One file after the other -/

/-- a batch that is placed file by file -/
inductive Placings (x : Exporter) : Disk → List SourceFile → Disk → List Placement → Prop
  | nil (d : Disk) : Placings x d [] d []
  | cons {d d' e : Disk} {f : SourceFile} {fs : List SourceFile} {p : Placement}
      {ps : List Placement} (hfirst : Placing x d f d' p) (hrest : Placings x d' fs e ps) :
      Placings x d (f :: fs) e (p :: ps)

/-- it can be told whether something stands at the target of a file -/
def IsTold (x : Exporter) (d : Disk) (f : SourceFile) : Prop :=
  ∀ t, x.target f.path = .ok t → ∃ b, d.holds (Path.ofPlace t) = .ok b

theorem place_isOk_iff : (∃ d' p, x.place d f = .ok (d', p)) ↔ IsTold x d f := by
  constructor
  · rintro ⟨d', p, h⟩ t ht
    cases placing_of_place h with
    | refused htarget =>
      rw [ht] at htarget
      cases htarget
    | skipped htarget hholds | simulated htarget hholds | written htarget hholds
    | unwritten htarget hholds =>
      obtain rfl := Except.ok.inj (htarget.symm.trans ht)
      exact ⟨_, hholds⟩
  · intro htold
    cases hplace : x.place d f with
    | ok placed => exact ⟨placed.1, placed.2, rfl⟩
    | error failure =>
      cases htarget : x.target f.path with
      | error problem =>
        rw [Exporter.place, htarget] at hplace
        cases hplace
      | ok t =>
        obtain ⟨b, hb⟩ := htold t htarget
        rw [place_of_holds htarget hb] at hplace
        split at hplace
        · cases hplace
        · split at hplace
          · cases hplace
          · split at hplace <;> cases hplace

/-- a batch is interrupted at a file whose target has a name that is too long -/
theorem place_eq_error_iff {failure : Failure} :
    x.place d f = .error failure ↔ ∃ t, x.target f.path = .ok t ∧
      d.look (Path.ofPlace t) = .error .tooLong ∧
        failure = { cause := .tooLong, path := Path.ofPlaceText t } := by
  constructor
  · intro h
    cases htarget : x.target f.path with
    | error problem =>
      rw [Exporter.place, htarget] at h
      cases h
    | ok t =>
      cases hholds : d.holds (Path.ofPlace t) with
      | error failure' =>
        rw [Exporter.place, htarget] at h
        simp only [hholds] at h
        obtain rfl := Except.error.inj h
        exact ⟨t, rfl, Disk.holds_eq_error_iff.mp hholds⟩
      | ok b =>
        have htold : IsTold x d f := fun t' ht' => by
          obtain rfl := Except.ok.inj (htarget.symm.trans ht')
          exact ⟨b, hholds⟩
        obtain ⟨d', p, hplace⟩ := place_isOk_iff.mpr htold
        rw [h] at hplace
        cases hplace
  · rintro ⟨t, htarget, hlook, hfailure⟩
    rw [Exporter.place, htarget]
    simp only [Disk.holds_eq_error_iff.mpr ⟨hlook, hfailure⟩]
    rfl

/-- how a batch ends: with all files, or at one whose target has a name that is too long -/
inductive Ending (x : Exporter) (d : Disk) : List SourceFile → Option Failure → Prop
  | whole : Ending x d [] none
  | interrupted {f : SourceFile} {back : List SourceFile} {t : Place}
      (htarget : x.target f.path = .ok t) (hlook : d.look (Path.ofPlace t) = .error .tooLong) :
      Ending x d (f :: back) (some { cause := .tooLong, path := Path.ofPlaceText t })

theorem placings_placeAll (x : Exporter) (d : Disk) (fs : List SourceFile) :
    ∃ done rest, fs = done ++ rest ∧
      Placings x d done (x.placeAll d fs).disk (x.placeAll d fs).placements ∧
      Ending x (x.placeAll d fs).disk rest (x.placeAll d fs).interruption := by
  induction fs generalizing d with
  | nil => exact ⟨[], [], rfl, .nil d, .whole⟩
  | cons f fs ih =>
    cases hplace : x.place d f with
    | error failure =>
      obtain ⟨t, htarget, hlook, rfl⟩ := place_eq_error_iff.mp hplace
      rw [placeAll_cons_error hplace]
      exact ⟨[], f :: fs, rfl, .nil d, .interrupted htarget hlook⟩
    | ok placed =>
      obtain ⟨done, rest, rfl, hdone, hrest⟩ := ih placed.1
      rw [placeAll_cons_ok hplace]
      exact ⟨f :: done, rest, rfl, .cons (placing_of_place hplace) hdone, hrest⟩

/-! ### What is recorded -/

def IsRecordOf (x : Exporter) (f : SourceFile) (r : Record) : Prop :=
  ∃ t, x.target f.path = .ok t ∧ r = recordOf f t

/-- what can be recorded of a file that was not written -/
inductive IsProblemOf (x : Exporter) (f : SourceFile) : Problem → Prop
  | refused {problem : Problem} (htarget : x.target f.path = .error problem) :
      IsProblemOf x f problem
  | failed {t : Place} {failure : Failure} (htarget : x.target f.path = .ok t) :
      IsProblemOf x f (.failed f.path failure)

/-- files told apart by what is recorded of them -/
structure Account (x : Exporter) (fs : List SourceFile) (o : Outcome)
    (written skipped failed : List SourceFile) : Prop where
  /-- every file is in one of the three lists -/
  all : fs.Perm (written ++ skipped ++ failed)
  written_sublist : written.Sublist fs
  skipped_sublist : skipped.Sublist fs
  failed_sublist : failed.Sublist fs
  records : List.Forall₂ (IsRecordOf x) written o.written
  paths : o.skipped = skipped.map (·.path)
  problems : List.Forall₂ (IsProblemOf x) failed o.problems

theorem exists_account (h : Placings x d fs e ps) :
    ∃ written skipped failed, Account x fs (ps.foldl Outcome.add {}) written skipped failed := by
  rw [foldl_add_empty]
  induction h with
  | nil => exact ⟨[], [], [], .nil, .slnil, .slnil, .slnil, .nil, rfl, .nil⟩
  | @cons _ _ _ f fs p ps hfirst hrest ih =>
    obtain ⟨written, skipped, failed, h⟩ := ih
    have hlast : (f :: fs).Perm (written ++ skipped ++ f :: failed) :=
      (h.all.cons f).trans List.perm_middle.symm
    cases hfirst with
    | refused htarget =>
      exact ⟨written, skipped, f :: failed, hlast, h.written_sublist.cons f,
        h.skipped_sublist.cons f, h.failed_sublist.cons_cons f, h.records, h.paths,
        .cons (.refused htarget) h.problems⟩
    | unwritten htarget =>
      exact ⟨written, skipped, f :: failed, hlast, h.written_sublist.cons f,
        h.skipped_sublist.cons f, h.failed_sublist.cons_cons f, h.records, h.paths,
        .cons (.failed htarget) h.problems⟩
    | skipped =>
      have hmiddle : (f :: fs).Perm (written ++ f :: skipped ++ failed) := by
        rw [List.append_assoc, List.cons_append]
        refine (h.all.cons f).trans ?_
        rw [List.append_assoc]
        exact List.perm_middle.symm
      exact ⟨written, f :: skipped, failed, hmiddle, h.written_sublist.cons f,
        h.skipped_sublist.cons_cons f, h.failed_sublist.cons f, h.records,
        congrArg (f.path :: ·) h.paths, h.problems⟩
    | simulated htarget | written htarget =>
      exact ⟨f :: written, skipped, failed, h.all.cons f, h.written_sublist.cons_cons f,
        h.skipped_sublist.cons f, h.failed_sublist.cons f, .cons ⟨_, htarget, rfl⟩ h.records,
        h.paths, h.problems⟩

variable {o : Outcome} {written skipped failed : List SourceFile}

theorem Account.paths_written (h : Account x fs o written skipped failed) :
    o.written.map (·.path) = written.map (·.path) := by
  have hrecords := h.records
  generalize o.written = rs at hrecords
  clear h
  induction hrecords with
  | nil => rfl
  | cons hfirst _ ih =>
    obtain ⟨t, -, rfl⟩ := hfirst
    rw [List.map_cons, List.map_cons, ih]
    rfl

/-- what is counted are the bytes of the texts -/
theorem Account.totalBytes_eq (h : Account x fs o written skipped failed) :
    o.totalBytes = (written.map fun f => (Utf8.encode f.text).length).sum := by
  have hrecords := h.records
  rw [Outcome.totalBytes]
  generalize o.written = rs at hrecords
  clear h
  induction hrecords with
  | nil => rfl
  | cons hfirst _ ih =>
    obtain ⟨t, -, rfl⟩ := hfirst
    rw [List.foldr_cons, List.map_cons, List.sum_cons, ih]
    rfl

/-! ### The order of the paths -/

theorem pairwise_inOrder {files : List SourceFile} (hkeys : (files.map (·.path)).Nodup) :
    ((inOrder files).map (·.path)).Pairwise (· < ·) := by
  have hperm : (inOrder files).Perm files := List.mergeSort_perm files _
  have hsorted : (inOrder files).Pairwise fun f g => decide (f.path ≤ g.path) = true := by
    apply List.pairwise_mergeSort
    · intro f g h hfg hgh
      rw [decide_eq_true_iff] at hfg hgh ⊢
      exact String.le_trans hfg hgh
    · intro f g
      rw [Bool.or_eq_true, decide_eq_true_iff, decide_eq_true_iff]
      exact String.le_total f.path g.path
  have hnodup : ((inOrder files).map (·.path)).Nodup := (hperm.map _).nodup_iff.mpr hkeys
  rw [List.pairwise_map]
  refine (hsorted.and (List.pairwise_map.mp hnodup)).imp fun {f g} h => ?_
  exact String.not_le.mp fun hback => h.2 (String.le_antisymm (of_decide_eq_true h.1) hback)

/-! ### What a file leaves alone -/

/-- the same files with the same bytes; folders may differ -/
def SameFiles (d d' : Disk) : Prop :=
  ∀ q bytes, d'.tree.find? q = some (.file bytes) ↔ d.tree.find? q = some (.file bytes)

theorem sameFiles_of_grows {overwrites : Bool} {aims : Place → Prop}
    (h : d.Grows overwrites aims (fun _ _ => False) d') : SameFiles d d' := by
  intro q bytes
  have hchange := h.change q
  generalize d.tree.find? q = old at hchange
  generalize d'.tree.find? q = new at hchange
  cases hchange with
  | same => rfl
  | folder => exact ⟨fun h => (by cases h), fun h => (by cases h)⟩
  | file hfile => exact hfile.elim

/-- a file that is skipped or fails changes no file -/
theorem sameFiles_of_placing (h : Placing x d f d' p) (hp : ∀ r, p ≠ .written r) :
    SameFiles d d' := by
  cases h with
  | refused | skipped => exact fun _ _ => Iff.rfl
  | simulated | written => exact absurd rfl (hp _)
  | unwritten htarget _ _ _ hwrite =>
    have hgrows : d.Grows x.overwrites (fun _ => True) (fun _ _ => False) d' :=
      Disk.write_error (target_eq_ok htarget).2.1 trivial hwrite
    exact sameFiles_of_grows hgrows

/-! ### When a batch is interrupted -/

/-- a batch is not interrupted if it can be told for each file whether its target is taken, on the
disk that the files before it leave -/
theorem interruption_eq_none_iff :
    (x.placeAll d fs).interruption = none ↔
      ∀ front f back, fs = front ++ f :: back → IsTold x (x.placeAll d front).disk f := by
  induction fs generalizing d with
  | nil => exact ⟨fun _ front f back h => (by cases front <;> cases h), fun _ => rfl⟩
  | cons f fs ih =>
    cases hplace : x.place d f with
    | error failure =>
      rw [placeAll_cons_error hplace]
      refine ⟨fun h => (by cases h), fun h => ?_⟩
      obtain ⟨d', p, hok⟩ := place_isOk_iff.mpr (h [] f fs rfl)
      rw [show (x.placeAll d []).disk = d from rfl, hplace] at hok
      cases hok
    | ok placed =>
      have htold : IsTold x d f := place_isOk_iff.mp ⟨placed.1, placed.2, hplace⟩
      rw [placeAll_cons_ok hplace]
      show (x.placeAll placed.1 fs).interruption = none ↔ _
      rw [ih]
      constructor
      · intro h front g back hfs
        cases front with
        | nil =>
          obtain ⟨rfl, -⟩ := List.cons.inj hfs
          exact htold
        | cons a front =>
          obtain ⟨rfl, htail⟩ := List.cons.inj hfs
          rw [placeAll_cons_ok hplace]
          exact h front g back htail
      · intro h front g back hfs
        have hnext := h (f :: front) g back (by rw [hfs]; rfl)
        rw [placeAll_cons_ok hplace] at hnext
        exact hnext

/-- where no target is too long, a batch is not interrupted -/
theorem interruption_of_isShort
    (h : ∀ f ∈ fs, ∀ t, x.target f.path = .ok t → Disk.IsShort t) :
    (x.placeAll d fs).interruption = none := by
  obtain ⟨done, rest, rfl, -, hending⟩ := placings_placeAll x d fs
  generalize (x.placeAll d (done ++ rest)).interruption = interruption at hending
  cases hending with
  | whole => rfl
  | interrupted htarget hlook =>
    have hshort := h _ (List.mem_append_right done List.mem_cons_self) _ htarget
    exact absurd hshort (Disk.not_isShort_of_look hlook)

/-- a name that is too long in a folder that is there interrupts every batch with it -/
theorem interruption_of_look (hd : d.tree.IsProper) {t : Place} (hf : f ∈ fs)
    (ht : x.target f.path = .ok t) (hlook : d.look (Path.ofPlace t) = .error .tooLong) :
    (x.placeAll d fs).interruption ≠ none := by
  rw [Ne, interruption_eq_none_iff]
  intro h
  obtain ⟨front, back, rfl⟩ := List.append_of_mem hf
  obtain ⟨b, hb⟩ := h front f back rfl t ht
  -- the files before leave the folders there, so the same name is met again
  have hagain := (placeAll_grows (x := x) hd front).2.look_tooLong hlook
  rw [Disk.holds_eq_error_iff.mpr ⟨hagain, rfl⟩] at hb
  cases hb

/-! ### All of it -/

/-- a file that is in the records of no written file leaves the files as they were before it -/
theorem sameFiles_of_not_mem (front back : List SourceFile)
    (hf : ∀ r, .written r ∈ (x.placeAll d (front ++ f :: back)).placements → r.path ≠ f.path) :
    SameFiles (x.placeAll d front).disk (x.placeAll d (front ++ [f])).disk := by
  have hsame : ∀ e : Disk, SameFiles e e := fun e q bytes => Iff.rfl
  rw [placeAll_append] at hf ⊢
  cases hfront : (x.placeAll d front).interruption with
  | some failure => exact hsame _
  | none =>
    rw [hfront] at hf
    generalize (x.placeAll d front).disk = e at hf
    cases hplace : x.place e f with
    | error failure =>
      rw [placeAll_cons_error hplace]
      exact hsame _
    | ok placed =>
      rw [placeAll_cons_ok hplace] at hf ⊢
      refine sameFiles_of_placing (placing_of_place hplace) fun r hr => ?_
      have hpath : r.path = f.path := by
        have hplacing := placing_of_place hplace
        rw [hr] at hplacing
        cases hplacing <;> rfl
      exact hf r (List.mem_append_right _ (hr ▸ List.mem_cons_self)) hpath

/-- what is recorded of an export, and what it leaves on the disk -/
structure IsAccounted (x : Exporter) (d : Disk) (files : List SourceFile) (e : Exported) :
    Prop where
  /-- up to where the export ends, each file is recorded once -/
  account : ∃ done rest written skipped failed, inOrder files = done ++ rest ∧
    Ending x e.disk rest e.interruption ∧ Account x done e.outcome written skipped failed ∧
    e.outcome.totalBytes = (written.map fun f => (Utf8.encode f.text).length).sum
  written_sorted : (e.outcome.written.map (·.path)).Pairwise (· < ·)
  skipped_sorted : e.outcome.skipped.Pairwise (· < ·)
  success : e.outcome.success = true ↔ e.outcome.errors = []
  /-- what is written once stays as it was written -/
  kept : x.isDryRun = false → files.Pairwise (Elsewhere x) → ∀ r ∈ e.outcome.written,
    ∃ f ∈ files, x.target f.path = .ok r.target ∧ r = recordOf f r.target ∧
      e.disk.look (Path.ofPlace r.target) = .ok (.file (Utf8.encode f.text))
  /-- what is not written changes nothing -/
  unchanged : ∀ front f back, inOrder files = front ++ f :: back →
    f.path ∉ e.outcome.written.map (·.path) →
      SameFiles (x.placeAll d front).disk (x.placeAll d (front ++ [f])).disk
  /-- all files are dealt with if it can be told of each target whether it is taken -/
  whole : e.interruption = none ↔
    ∀ front f back, inOrder files = front ++ f :: back → IsTold x (x.placeAll d front).disk f
  short : (∀ f ∈ files, ∀ t, x.target f.path = .ok t → Disk.IsShort t) → e.interruption = none
  long : ∀ f ∈ files, ∀ t, x.target f.path = .ok t →
    d.look (Path.ofPlace t) = .error .tooLong → e.interruption ≠ none

theorem isAccounted_run {files : List SourceFile} (hd : d.tree.IsProper)
    (hkeys : (files.map (·.path)).Nodup) :
    IsAccounted x d files (x.run d {} files).value := by
  have hsorted := pairwise_inOrder hkeys
  obtain ⟨done, rest, hfiles, hdone, hending⟩ := placings_placeAll x d (inOrder files)
  obtain ⟨written, skipped, failed, haccount⟩ := exists_account hdone
  have hdone_sublist : done.Sublist (inOrder files) := hfiles ▸ List.sublist_append_left done rest
  have hrecords : ∀ r, r ∈ (x.run d {} files).value.outcome.written ↔
      .written r ∈ (x.placeAll d (inOrder files)).placements := fun r => by
    rw [Exporter.run, foldl_add_empty]
    exact mem_records
  constructor
  case account =>
    exact ⟨done, rest, written, skipped, failed, hfiles, hending, haccount,
      haccount.totalBytes_eq⟩
  case written_sorted =>
    have hwritten := hsorted.sublist ((haccount.written_sublist.trans hdone_sublist).map (·.path))
    rw [← haccount.paths_written] at hwritten
    exact hwritten
  case skipped_sorted =>
    have hskipped := hsorted.sublist ((haccount.skipped_sublist.trans hdone_sublist).map (·.path))
    rw [← haccount.paths] at hskipped
    exact hskipped
  case success =>
    rw [Outcome.success, List.isEmpty_iff, Outcome.errors, List.map_eq_nil_iff]
  case kept =>
    intro hdry helse r hr
    have hperm : (inOrder files).Perm files := List.mergeSort_perm files _
    obtain ⟨f, hf, hrest⟩ := placeAll_written hd hdry
      (hperm.symm.pairwise helse Elsewhere.symm) ((hrecords r).mp hr)
    exact ⟨f, mem_inOrder.mp hf, hrest⟩
  case unchanged =>
    intro front f back hfront hf
    refine sameFiles_of_not_mem front back fun r hr hpath => hf ?_
    rw [← hfront] at hr
    exact List.mem_map.mpr ⟨r, (hrecords r).mpr hr, hpath⟩
  case whole => exact interruption_eq_none_iff
  case short => exact fun h => interruption_of_isShort fun f hf => h f (mem_inOrder.mp hf)
  case long => exact fun f hf t ht => interruption_of_look hd (mem_inOrder.mpr hf) ht

/-! ### A name that is too long -/

/-- a name of two bytes more than a name may have -/
def endlessName : String := String.ofList ('n' :: List.replicate 64 '𝕟')

def unevenFiles : List SourceFile := [⟨endlessName, "class N { }"⟩, ⟨"ok.cs", "class Ok { }"⟩]

def bareDisk : Disk := ⟨⟨[]⟩, []⟩

def rootExporter : Exporter := { root := [] }

theorem toList_endless : endlessName.toList = 'n' :: List.replicate 64 '𝕟' := String.toList_ofList

theorem isName_endless : Path.IsName endlessName := by
  have hchars := toList_endless
  constructor
  case noSlash =>
    rw [hchars]
    decide
  all_goals
    intro h
    rw [h] at hchars
    exact absurd hchars (by decide)

/-- the first file interrupts the export, so nothing is recorded of either -/
theorem isAccounted_uneven :
    (bareDisk.tree.IsProper ∧ (unevenFiles.map (·.path)).Nodup) ∧
    IsAccounted rootExporter bareDisk unevenFiles
      (rootExporter.run bareDisk {} unevenFiles).value ∧
    (rootExporter.run bareDisk {} unevenFiles).value.interruption ≠ none ∧
    (rootExporter.run bareDisk {} unevenFiles).value.outcome = {} := by
  have hproper : bareDisk.tree.IsProper := ⟨by decide, by decide, by decide⟩
  have hless : endlessName < "ok.cs" := by
    rw [String.lt_iff, toList_endless]
    decide
  have hkeys : (unevenFiles.map (·.path)).Nodup :=
    List.pairwise_pair.mpr (String.ne_of_lt hless)
  have haccounted := isAccounted_run (x := rootExporter) hproper hkeys
  have hnull : '\x00' ∉ endlessName.toList := by
    rw [toList_endless]
    decide
  have htarget : rootExporter.target endlessName = .ok [endlessName] :=
    target_of_isName isName_endless hnull List.not_mem_nil
  have hlook : bareDisk.look (Path.ofPlace [endlessName]) = .error .tooLong :=
    Disk.look_of_isTooLong hnull (by decide +kernel) (by decide +kernel)
  refine ⟨⟨hproper, hkeys⟩, haccounted,
    haccounted.long _ List.mem_cons_self _ htarget hlook, ?_⟩
  have hle : endlessName ≤ "ok.cs" := String.not_lt.mp (String.lt_asymm hless)
  have horder : inOrder unevenFiles = unevenFiles :=
    List.mergeSort_of_pairwise (List.pairwise_pair.mpr (decide_eq_true hle))
  have hplace := place_eq_error_iff (f := ⟨endlessName, "class N { }"⟩).mpr
    ⟨_, htarget, hlook, rfl⟩
  rw [Exporter.run, horder, unevenFiles, placeAll_cons_error hplace]
  rfl

end EndpointScaffold.Export
