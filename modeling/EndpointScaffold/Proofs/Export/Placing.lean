import EndpointScaffold.Export.Batch
import EndpointScaffold.Proofs.Files.Writing

/-!
# What an export changes

A file is refused, left alone, written or left unwritten; only in the last two cases the disk
changes, and then it only grows. A batch grows a disk file by file, also if it is interrupted.

* `Placing`, `placing_of_place` the ways in which a file can be placed;
* `place_grows`, `placeAll_grows` one file and a whole batch;
* `placeAll_written` a written file stays as it is, if the others have other targets;
* `placeAll_append` a batch in two parts;
* `foldl_add` the outcome of a batch.
-/

namespace EndpointScaffold.Export

open Encoding Files Support

variable {x : Exporter} {d d' : Disk} {f : SourceFile} {p : Placement} {t : Place}

/-! ### Targets -/

theorem target_eq_ok {path : String} (h : x.target path = .ok t) :
    x.root <+: t ∧ ".." ∉ t ∧ t = ((Path.ofPlace x.root).below path).resolved [] := by
  rw [Exporter.target] at h
  by_cases hnull : path.toList.contains (Char.ofNat 0) = true
  · rw [if_pos hnull] at h
    cases h
  · rw [if_neg hnull] at h
    by_cases hwithin : isWithin x.root (((Path.ofPlace x.root).below path).resolved []) = true
    · obtain rfl := Except.ok.inj ((if_pos hwithin).symm.trans h)
      rw [isWithin, List.isPrefixOf_iff_prefix] at hwithin
      exact ⟨hwithin, Path.dots_not_mem_resolved List.not_mem_nil _, rfl⟩
    · replace h := (if_neg hwithin).symm.trans h
      cases h

theorem target_of_isName {name : String} (hname : Path.IsName name) (hnull : '\x00' ∉ name.toList)
    (hroot : ".." ∉ x.root) : x.target name = .ok (x.root ++ [name]) := by
  have hplace : ((Path.ofPlace x.root).below name).resolved [] = x.root ++ [name] := by
    rw [Path.below, Path.ofText_of_isName hname]
    refine Path.resolved_ofPlace (fun hmem => ?_) []
    rcases List.mem_append.mp hmem with hmem | hmem
    · exact hroot hmem
    · exact hname.noDots (List.mem_singleton.mp hmem).symm
  have hwithin : isWithin x.root (x.root ++ [name]) = true :=
    List.isPrefixOf_iff_prefix.mpr (List.prefix_append x.root [name])
  rw [Exporter.target, if_neg fun h => hnull (List.contains_iff_mem.mp h), hplace]
  exact if_pos hwithin

/-! ### One file -/

/-- the ways in which a file can be placed on a disk -/
inductive Placing (x : Exporter) (d : Disk) (f : SourceFile) : Disk → Placement → Prop
  | refused {problem : Problem} (htarget : x.target f.path = .error problem) :
      Placing x d f d (.failed problem)
  | skipped {t : Place} (htarget : x.target f.path = .ok t)
      (hholds : d.holds (Path.ofPlace t) = .ok true) (hkept : x.overwrites = false) :
      Placing x d f d (.skipped f.path)
  | simulated {t : Place} {b : Bool} (htarget : x.target f.path = .ok t)
      (hholds : d.holds (Path.ofPlace t) = .ok b) (hfree : b = false ∨ x.overwrites = true)
      (hdry : x.isDryRun = true) : Placing x d f d (.written (recordOf f t))
  | written {t : Place} {b : Bool} {d' : Disk} (htarget : x.target f.path = .ok t)
      (hholds : d.holds (Path.ofPlace t) = .ok b) (hfree : b = false ∨ x.overwrites = true)
      (hdry : x.isDryRun = false)
      (hwrite : d.write (Path.ofPlace t) (Utf8.encode f.text) = (d', .ok ())) :
      Placing x d f d' (.written (recordOf f t))
  | unwritten {t : Place} {b : Bool} {d' : Disk} {failure : Failure}
      (htarget : x.target f.path = .ok t) (hholds : d.holds (Path.ofPlace t) = .ok b)
      (hfree : b = false ∨ x.overwrites = true) (hdry : x.isDryRun = false)
      (hwrite : d.write (Path.ofPlace t) (Utf8.encode f.text) = (d', .error failure)) :
      Placing x d f d' (.failed (.failed f.path failure))

/-- what becomes of a file once it is known whether its target is taken -/
theorem place_of_holds {b : Bool} (htarget : x.target f.path = .ok t)
    (hholds : d.holds (Path.ofPlace t) = .ok b) :
    x.place d f =
      if b && !x.overwrites then .ok (d, .skipped f.path)
      else if x.isDryRun then .ok (d, .written (recordOf f t))
      else
        match d.write (Path.ofPlace t) (Utf8.encode f.text) with
        | (d, .ok ()) => .ok (d, .written (recordOf f t))
        | (d, .error failure) => .ok (d, .failed (.failed f.path failure)) := by
  rw [Exporter.place, htarget]
  simp only [hholds]
  rfl

theorem placing_of_place (h : x.place d f = .ok (d', p)) : Placing x d f d' p := by
  cases htarget : x.target f.path with
  | error problem =>
    rw [Exporter.place, htarget] at h
    obtain ⟨rfl, rfl⟩ := Prod.mk.inj (Except.ok.inj h)
    exact .refused htarget
  | ok t =>
    cases hholds : d.holds (Path.ofPlace t) with
    | error failure =>
      rw [Exporter.place, htarget] at h
      simp only [hholds] at h
      cases h
    | ok b =>
      rw [place_of_holds htarget hholds] at h
      by_cases hskip : (b && !x.overwrites) = true
      · rw [if_pos hskip] at h
        obtain ⟨rfl, rfl⟩ := Prod.mk.inj (Except.ok.inj h)
        rw [Bool.and_eq_true, Bool.not_eq_true'] at hskip
        exact .skipped htarget (by rw [hholds, hskip.1]) hskip.2
      · rw [if_neg hskip] at h
        have hfree : b = false ∨ x.overwrites = true := by
          rw [Bool.and_eq_true, Bool.not_eq_true', not_and_or, Bool.not_eq_true,
            Bool.not_eq_false] at hskip
          exact hskip
        by_cases hdry : x.isDryRun = true
        · rw [if_pos hdry] at h
          obtain ⟨rfl, rfl⟩ := Prod.mk.inj (Except.ok.inj h)
          exact .simulated htarget hholds hfree hdry
        · rw [if_neg hdry] at h
          rw [Bool.not_eq_true] at hdry
          cases hwrite : d.write (Path.ofPlace t) (Utf8.encode f.text) with
          | mk written result =>
            rw [hwrite] at h
            cases result with
            | ok u =>
              obtain ⟨rfl, rfl⟩ := Prod.mk.inj (Except.ok.inj h)
              exact .written htarget hholds hfree hdry hwrite
            | error failure =>
              obtain ⟨rfl, rfl⟩ := Prod.mk.inj (Except.ok.inj h)
              exact .unwritten htarget hholds hfree hdry hwrite

/-- nothing stands where a file can be written whose path leads to nothing -/
theorem free_of_write {b : Bool} {bytes : List UInt8} (hd : d.tree.IsProper) (hdots : ".." ∉ t)
    (hholds : d.holds (Path.ofPlace t) = .ok b) (hfree : b = false ∨ x.overwrites = true)
    (hwrite : d.write (Path.ofPlace t) bytes = (d', .ok ())) :
    x.overwrites = true ∨ d.tree.find? t = none := by
  rcases hfree with rfl | hfree
  · refine .inr ?_
    -- the path can be followed once the file is there, so it could be if the place had been taken
    have hlook := Disk.look_of_write hdots hwrite
    have hd' : d'.tree.IsProper := by
      have hproper := Disk.isProper_write hd (Path.ofPlace t) bytes
      rw [hwrite] at hproper
      exact hproper
    cases hfind : d.tree.find? t with
    | none => rfl
    | some n =>
      obtain ⟨c, -, hc⟩ := Disk.holds_eq_false_iff.mp hholds
      rw [Disk.look_ofPlace hd' hd hdots hlook hfind] at hc
      cases hc
  · exact .inl hfree

/-- a placed file only grows the disk: towards its target, and by itself if it is written -/
theorem place_grows (hd : d.tree.IsProper) (h : x.place d f = .ok (d', p)) :
    d'.tree.IsProper ∧
      d.Grows x.overwrites (fun t => x.target f.path = .ok t)
        (fun t bytes => x.target f.path = .ok t ∧ bytes = Utf8.encode f.text ∧
          p = .written (recordOf f t)) d' := by
  cases placing_of_place h with
  | refused | skipped | simulated => exact ⟨hd, .refl d⟩
  | @written t _ _ htarget hholds hfree _ hwrite =>
    have hproper := Disk.isProper_write hd (Path.ofPlace t) (Utf8.encode f.text)
    rw [hwrite] at hproper
    have hdots := (target_eq_ok htarget).2.1
    exact ⟨hproper, (Disk.write_ok hdots htarget ⟨htarget, rfl, rfl⟩
      (free_of_write hd hdots hholds hfree hwrite) hwrite).1⟩
  | @unwritten t _ _ _ htarget _ _ _ hwrite =>
    have hproper := Disk.isProper_write hd (Path.ofPlace t) (Utf8.encode f.text)
    rw [hwrite] at hproper
    exact ⟨hproper, Disk.write_error (target_eq_ok htarget).2.1 htarget hwrite⟩

/-- a file that is placed without a problem, and not only for show, is there afterwards -/
theorem look_of_place (hdry : x.isDryRun = false)
    (hp : ∀ problem, p ≠ .failed problem) (h : x.place d f = .ok (d', p)) :
    ∃ t n, x.target f.path = .ok t ∧ d'.look (Path.ofPlace t) = .ok n := by
  cases placing_of_place h with
  | refused => exact absurd rfl (hp _)
  | unwritten => exact absurd rfl (hp _)
  | skipped htarget hholds =>
    obtain ⟨n, hn⟩ := Disk.holds_eq_true_iff.mp hholds
    exact ⟨_, n, htarget, hn⟩
  | simulated _ _ _ hdry' =>
    rw [hdry] at hdry'
    cases hdry'
  | written htarget _ _ _ hwrite =>
    exact ⟨_, _, htarget, Disk.look_of_write (target_eq_ok htarget).2.1 hwrite⟩

/-! ### Batches -/

/-- the places that a batch aims at -/
def IsTarget (x : Exporter) (files : List SourceFile) (t : Place) : Prop :=
  ∃ f ∈ files, x.target f.path = .ok t

/-- the files that are written in a batch, by their places -/
def IsWritten (x : Exporter) (files : List SourceFile) (placements : List Placement) (t : Place)
    (bytes : List UInt8) : Prop :=
  ∃ f ∈ files, x.target f.path = .ok t ∧ bytes = Utf8.encode f.text ∧
    .written (recordOf f t) ∈ placements

variable {fs : List SourceFile}

theorem placeAll_cons_ok (h : x.place d f = .ok (d', p)) (fs : List SourceFile) :
    x.placeAll d (f :: fs) =
      { x.placeAll d' fs with placements := p :: (x.placeAll d' fs).placements } := by
  rw [Exporter.placeAll, h]

theorem placeAll_cons_error {failure : Failure} (h : x.place d f = .error failure)
    (fs : List SourceFile) :
    x.placeAll d (f :: fs) = { disk := d, interruption := some failure } := by
  rw [Exporter.placeAll, h]

/-- a batch goes on with its second part, unless it was interrupted in the first one -/
theorem placeAll_append (d : Disk) (fs gs : List SourceFile) :
    x.placeAll d (fs ++ gs) =
      match (x.placeAll d fs).interruption with
      | some _ => x.placeAll d fs
      | none =>
        { x.placeAll (x.placeAll d fs).disk gs with
          placements := (x.placeAll d fs).placements ++
            (x.placeAll (x.placeAll d fs).disk gs).placements } := by
  induction fs generalizing d with
  | nil => rfl
  | cons f fs ih =>
    rw [List.cons_append]
    cases hplace : x.place d f with
    | error failure => rw [placeAll_cons_error hplace, placeAll_cons_error hplace]
    | ok placed =>
      rw [placeAll_cons_ok hplace, placeAll_cons_ok hplace, ih]
      show _ = match (x.placeAll placed.1 fs).interruption with
        | some _ => _
        | none => _
      cases (x.placeAll placed.1 fs).interruption with
      | none => rfl
      | some failure => rfl

/-- each placement is that of a file, on some disk on the way -/
theorem placing_of_mem (h : p ∈ (x.placeAll d fs).placements) :
    ∃ f ∈ fs, ∃ e e', Placing x e f e' p := by
  induction fs generalizing d with
  | nil => exact absurd h List.not_mem_nil
  | cons f fs ih =>
    cases hplace : x.place d f with
    | error failure =>
      rw [placeAll_cons_error hplace] at h
      exact absurd h List.not_mem_nil
    | ok placed =>
      rw [placeAll_cons_ok hplace] at h
      rcases List.mem_cons.mp h with rfl | h
      · exact ⟨f, List.mem_cons_self, d, placed.1, placing_of_place hplace⟩
      · obtain ⟨g, hg, hplacing⟩ := ih h
        exact ⟨g, List.mem_cons_of_mem f hg, hplacing⟩

/-- a batch only grows the disk, also if it is interrupted -/
theorem placeAll_grows (hd : d.tree.IsProper) (fs : List SourceFile) :
    (x.placeAll d fs).disk.tree.IsProper ∧
      d.Grows x.overwrites (IsTarget x fs) (IsWritten x fs (x.placeAll d fs).placements)
        (x.placeAll d fs).disk := by
  induction fs generalizing d with
  | nil => exact ⟨hd, .refl d⟩
  | cons f fs ih =>
    cases hplace : x.place d f with
    | error failure =>
      rw [placeAll_cons_error hplace]
      exact ⟨hd, .refl d⟩
    | ok placed =>
      obtain ⟨d₁, p⟩ := placed
      obtain ⟨hd₁, hfirst⟩ := place_grows hd hplace
      obtain ⟨hproper, hrest⟩ := ih hd₁
      rw [placeAll_cons_ok hplace]
      -- one file and the rest aim at different places, so both are widened to those of the batch
      refine ⟨hproper, (hfirst.mono ?_ ?_).trans (hrest.mono ?_ ?_)⟩
      · exact fun t ht => ⟨f, List.mem_cons_self, ht⟩
      · rintro t bytes ⟨ht, hbytes, rfl⟩
        exact ⟨f, List.mem_cons_self, ht, hbytes, List.mem_cons_self⟩
      · exact fun t ⟨g, hg, ht⟩ => ⟨g, List.mem_cons_of_mem f hg, ht⟩
      · exact fun t bytes ⟨g, hg, ht, hbytes, hmem⟩ =>
          ⟨g, List.mem_cons_of_mem f hg, ht, hbytes, List.mem_cons_of_mem p hmem⟩

/-- files whose targets are not the same, and do not lie below each other -/
def Apart (x : Exporter) (f g : SourceFile) : Prop :=
  ∀ t u, x.target f.path = .ok t → x.target g.path = .ok u → ¬ t <+: u ∧ ¬ u <+: t

/-- the second file does not have the target of the first one -/
def Elsewhere (x : Exporter) (f g : SourceFile) : Prop :=
  ∀ t, x.target f.path = .ok t → x.target g.path ≠ .ok t

theorem Elsewhere.symm {g : SourceFile} (h : Elsewhere x f g) : Elsewhere x g f :=
  fun t hg hf => h t hf hg

theorem Apart.elsewhere {g : SourceFile} (h : Apart x f g) : Elsewhere x f g :=
  fun t ht hg => (h t t ht hg).1 (List.prefix_refl t)

/-- a written file is there at the end with all its bytes, if the files after it have other
targets -/
theorem placeAll_written (hd : d.tree.IsProper) (hdry : x.isDryRun = false)
    (helse : fs.Pairwise (Elsewhere x)) {r : Record}
    (hr : .written r ∈ (x.placeAll d fs).placements) :
    ∃ f ∈ fs, x.target f.path = .ok r.target ∧ r = recordOf f r.target ∧
      (x.placeAll d fs).disk.look (Path.ofPlace r.target) = .ok (.file (Utf8.encode f.text)) := by
  induction fs generalizing d with
  | nil => exact absurd hr List.not_mem_nil
  | cons f fs ih =>
    cases hplace : x.place d f with
    | error failure =>
      rw [placeAll_cons_error hplace] at hr
      exact absurd hr List.not_mem_nil
    | ok placed =>
      obtain ⟨d₁, p⟩ := placed
      have hd₁ := (place_grows hd hplace).1
      rw [List.pairwise_cons] at helse
      rw [placeAll_cons_ok hplace] at hr ⊢
      rcases List.mem_cons.mp hr with rfl | hr
      · cases placing_of_place hplace with
        | simulated _ _ _ hdry' =>
          rw [hdry] at hdry'
          cases hdry'
        | @written t b _ htarget _ _ _ hwrite =>
          have hdots := (target_eq_ok htarget).2.1
          have hlook := Disk.look_of_write hdots hwrite
          refine ⟨f, List.mem_cons_self, htarget, rfl, ?_⟩
          have hfind := (Disk.look_eq_ok_iff.mp hlook).2
          rw [Path.resolved_ofPlace hdots] at hfind
          -- the files after this one leave its target alone
          obtain ⟨hlast, hgrows⟩ := placeAll_grows (x := x) hd₁ fs
          have hsame := (hgrows.change t).eq_of_unwritten (by rw [hfind]; rfl)
            fun bytes ⟨g, hg, hu, _⟩ => helse.1 g hg t htarget hu
          exact Disk.look_ofPlace hd₁ hlast hdots hlook (hsame.trans hfind)
      · obtain ⟨g, hg, hrest⟩ := ih hd₁ helse.2 hr
        exact ⟨g, List.mem_cons_of_mem f hg, hrest⟩

/-- a dry run leaves the disk as it is -/
theorem disk_placeAll_dry (hdry : x.isDryRun = true) (d : Disk) (fs : List SourceFile) :
    (x.placeAll d fs).disk = d := by
  induction fs with
  | nil => rfl
  | cons f fs ih =>
    cases hplace : x.place d f with
    | error failure => rw [placeAll_cons_error hplace]
    | ok placed =>
      obtain ⟨d₁, p⟩ := placed
      have hsame : d₁ = d := by
        cases placing_of_place hplace with
        | refused | skipped | simulated => rfl
        | written _ _ _ hdry' | unwritten _ _ _ hdry' =>
          rw [hdry] at hdry'
          cases hdry'
      rw [placeAll_cons_ok hplace, hsame]
      exact ih

/-! ### Outcomes -/

namespace Placement

def record? : Placement → Option Record
  | .written r => some r
  | _ => none

def skipped? : Placement → Option String
  | .skipped path => some path
  | _ => none

def problem? : Placement → Option Problem
  | .failed problem => some problem
  | _ => none

end Placement

/-- the outcome of a batch: records, skipped paths and problems, each in their order -/
theorem foldl_add (o : Outcome) (ps : List Placement) :
    ps.foldl Outcome.add o =
      { written := o.written ++ ps.filterMap Placement.record?
        skipped := o.skipped ++ ps.filterMap Placement.skipped?
        problems := o.problems ++ ps.filterMap Placement.problem? } := by
  induction ps generalizing o with
  | nil => simp only [List.foldl_nil, List.filterMap_nil, List.append_nil]
  | cons p ps ih =>
    rw [List.foldl_cons, ih]
    cases p <;> simp [Outcome.add, List.filterMap_cons, Placement.record?, Placement.skipped?,
      Placement.problem?]

/-- the outcome of the first batch -/
theorem foldl_add_empty (ps : List Placement) :
    ps.foldl Outcome.add {} = ⟨ps.filterMap Placement.record?, ps.filterMap Placement.skipped?,
      ps.filterMap Placement.problem?⟩ := by
  rw [foldl_add]
  rfl

theorem mem_records {ps : List Placement} {r : Record} :
    r ∈ ps.filterMap Placement.record? ↔ .written r ∈ ps := by
  rw [List.mem_filterMap]
  constructor
  · rintro ⟨p, hp, heq⟩
    cases p with
    | written r' =>
      obtain rfl := Option.some.inj heq
      exact hp
    | skipped path => cases heq
    | failed problem => cases heq
  · exact fun h => ⟨_, h, rfl⟩

theorem mem_inOrder {f : SourceFile} {files : List SourceFile} :
    f ∈ inOrder files ↔ f ∈ files := List.mem_mergeSort

theorem not_failed_of_filterMap {ps : List Placement}
    (h : ps.filterMap Placement.problem? = []) : ∀ p ∈ ps, ∀ problem, p ≠ .failed problem := by
  rintro p hp problem rfl
  have hmem : problem ∈ ps.filterMap Placement.problem? :=
    List.mem_filterMap.mpr ⟨_, hp, rfl⟩
  rw [h] at hmem
  exact absurd hmem List.not_mem_nil

end EndpointScaffold.Export
