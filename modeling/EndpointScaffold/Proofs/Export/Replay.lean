import EndpointScaffold.Proofs.Export.Placing

/-!
# The same batch once more, and what it leaves

A batch that was exported without a problem can be compared with two others. The same batch for show,
on the disk as it was before, has the same outcome: what is written of one file does not bear on
whether another one's target is taken, if their targets keep apart. The same batch on the disk
afterwards finds every target taken.

* `IsClean` batches without a problem, `isClean_cons` file by file;
* `placeAll_simulated` the batch for show;
* `look_of_placeAll`, `placeAll_of_look` the batch once more; `perm_paths` which files it skips.
-/

namespace EndpointScaffold.Export

open Encoding Files Support

variable {x : Exporter} {d e : Disk} {f : SourceFile} {fs : List SourceFile}

/-- a batch that was not interrupted, and of which no file failed -/
structure IsClean (b : Placed) : Prop where
  whole : b.interruption = none
  unfailed : ∀ p ∈ b.placements, ∀ problem, p ≠ .failed problem

theorem isClean_cons (h : IsClean (x.placeAll d (f :: fs))) :
    ∃ d' p, x.place d f = .ok (d', p) ∧ (∀ problem, p ≠ .failed problem) ∧
      IsClean (x.placeAll d' fs) := by
  cases hplace : x.place d f with
  | error failure =>
    have hwhole := h.whole
    rw [placeAll_cons_error hplace] at hwhole
    cases hwhole
  | ok placed =>
    obtain ⟨d', p⟩ := placed
    rw [placeAll_cons_ok hplace] at h
    exact ⟨d', p, rfl, h.unfailed p List.mem_cons_self, h.whole,
      fun q hq => h.unfailed q (List.mem_cons_of_mem p hq)⟩

/-! ### For show -/

/-- the exporter that leaves files unwritten -/
def Exporter.simulated (x : Exporter) : Exporter := { x with isDryRun := true }

/-- a placed file is placed likewise for show, on an earlier disk on which its target is the same -/
theorem place_simulated {d' : Disk} {p : Placement} {aims : Place → Prop}
    {files : Place → List UInt8 → Prop} (hd : d.tree.IsProper) (he : e.tree.IsProper)
    (hgrows : d.Grows x.overwrites aims files e)
    (hsame : ∀ t, x.target f.path = .ok t → e.tree.find? t = d.tree.find? t)
    (hp : ∀ problem, p ≠ .failed problem) (h : x.place e f = .ok (d', p)) :
    x.simulated.place d f = .ok (d, p) := by
  have hearlier : ∀ t b, x.target f.path = .ok t → e.holds (Path.ofPlace t) = .ok b →
      d.holds (Path.ofPlace t) = .ok b := fun t b ht hb =>
    hgrows.holds_ofPlace hd he (target_eq_ok ht).2.1 (hsame t ht) hb
  have hfree : ∀ {b : Bool}, (b = false ∨ x.overwrites = true) → (b && !x.overwrites) = false := by
    rintro b (rfl | hover)
    · rfl
    · rw [hover, Bool.not_true, Bool.and_false]
  have hplace : ∀ {t b}, x.target f.path = .ok t → e.holds (Path.ofPlace t) = .ok b →
      x.simulated.place d f = _ := fun {t b} ht hb =>
    place_of_holds (x := x.simulated) ht (hearlier t b ht hb)
  cases placing_of_place h with
  | refused | unwritten => exact absurd rfl (hp _)
  | skipped ht hholds hkept =>
    rw [hplace ht hholds, show x.simulated.overwrites = false from hkept]
    rfl
  | simulated ht hholds hover =>
    rw [hplace ht hholds, show x.simulated.overwrites = x.overwrites from rfl, hfree hover]
    rfl
  | written ht hholds hover =>
    rw [hplace ht hholds, show x.simulated.overwrites = x.overwrites from rfl, hfree hover]
    rfl

/-- the batch is placed likewise for show, on a disk from which the present one has grown by other
files -/
theorem placeAll_simulated_of_grows {aims : Place → Prop} (hd : d.tree.IsProper)
    (he : e.tree.IsProper) (hgrows : d.Grows x.overwrites aims (fun t _ => aims t) e)
    (haside : ∀ f ∈ fs, ∀ t, x.target f.path = .ok t → ∀ aim, aims aim → ¬ t <+: aim)
    (hapart : fs.Pairwise (Apart x)) (h : IsClean (x.placeAll e fs)) :
    x.simulated.placeAll d fs = { disk := d, placements := (x.placeAll e fs).placements } := by
  -- the real disk changes from file to file, and the one of the batch for show stays
  induction fs generalizing e aims with
  | nil => rfl
  | cons f fs ih =>
    obtain ⟨e', p, hplace, hp, hrest⟩ := isClean_cons h
    obtain ⟨he', hstep⟩ := place_grows he hplace
    rw [List.pairwise_cons] at hapart
    have hsame : ∀ t, x.target f.path = .ok t → e.tree.find? t = d.tree.find? t := fun t ht =>
      (hgrows.change t).eq_of_aside
        (fun aim haim habove => absurd habove (haside f List.mem_cons_self t ht aim haim))
        (fun _ haim => haside f List.mem_cons_self t ht t haim (List.prefix_refl t))
    have hfirst := place_simulated hd he hgrows hsame hp hplace
    -- from here on, the target of this file is among those to keep aside from
    have hgrows' : d.Grows x.overwrites (fun t => aims t ∨ x.target f.path = .ok t)
        (fun t _ => aims t ∨ x.target f.path = .ok t) e' :=
      (hgrows.mono (fun _ => .inl) fun _ _ => .inl).trans
        (hstep.mono (fun _ => .inr) fun _ _ h => .inr h.1)
    have haside' : ∀ g ∈ fs, ∀ t, x.target g.path = .ok t →
        ∀ aim, aims aim ∨ x.target f.path = .ok aim → ¬ t <+: aim := by
      rintro g hg t ht aim (haim | haim)
      · exact haside g (List.mem_cons_of_mem f hg) t ht aim haim
      · exact (hapart.1 g hg aim t haim ht).2
    rw [placeAll_cons_ok hfirst, ih he' hgrows' haside' hapart.2 hrest, placeAll_cons_ok hplace]

theorem placeAll_simulated (hd : d.tree.IsProper) (hapart : fs.Pairwise (Apart x))
    (h : IsClean (x.placeAll d fs)) :
    x.simulated.placeAll d fs = { disk := d, placements := (x.placeAll d fs).placements } := by
  have hsame : d.Grows x.overwrites (fun _ => False) (fun _ _ => False) d := .refl d
  exact placeAll_simulated_of_grows hd hd hsame (fun _ _ _ _ _ => False.elim) hapart h

/-! ### Once more -/

/-- after a clean batch something stands at every target -/
theorem look_of_placeAll (hd : d.tree.IsProper) (hdry : x.isDryRun = false)
    (h : IsClean (x.placeAll d fs)) :
    ∀ f ∈ fs, ∃ t n, x.target f.path = .ok t ∧
      (x.placeAll d fs).disk.look (Path.ofPlace t) = .ok n := by
  induction fs generalizing d with
  | nil => exact fun f hf => absurd hf List.not_mem_nil
  | cons f fs ih =>
    obtain ⟨d', p, hplace, hp, hrest⟩ := isClean_cons h
    have hd' := (place_grows hd hplace).1
    rw [placeAll_cons_ok hplace]
    intro g hg
    rcases List.mem_cons.mp hg with rfl | hg
    · obtain ⟨t, n, ht, hn⟩ := look_of_place hdry hp hplace
      obtain ⟨n', hn'⟩ := (placeAll_grows (x := x) hd' fs).2.look_ok hn
      exact ⟨t, n', ht, hn'⟩
    · exact ih hd' hrest g hg

/-- where every target is taken, all files are left alone -/
theorem placeAll_of_look (hkept : x.overwrites = false)
    (h : ∀ f ∈ fs, ∃ t n, x.target f.path = .ok t ∧ d.look (Path.ofPlace t) = .ok n) :
    x.placeAll d fs = { disk := d, placements := fs.map fun f => .skipped f.path } := by
  induction fs with
  | nil => rfl
  | cons f fs ih =>
    obtain ⟨t, n, ht, hn⟩ := h f List.mem_cons_self
    have hplace : x.place d f = .ok (d, .skipped f.path) := by
      rw [place_of_holds ht (Disk.holds_eq_true_iff.mpr ⟨n, hn⟩), hkept]
      rfl
    rw [placeAll_cons_ok hplace, ih fun g hg => h g (List.mem_cons_of_mem f hg)]
    rfl

/-- the files of a clean batch are those that it wrote and those that it left alone -/
theorem perm_paths (h : IsClean (x.placeAll d fs)) :
    (fs.map (·.path)).Perm
      (((x.placeAll d fs).placements.filterMap Placement.record?).map (·.path) ++
        (x.placeAll d fs).placements.filterMap Placement.skipped?) := by
  induction fs generalizing d with
  | nil => exact .nil
  | cons f fs ih =>
    obtain ⟨d', p, hplace, hp, hrest⟩ := isClean_cons h
    rw [placeAll_cons_ok hplace, List.map_cons]
    cases placing_of_place hplace with
    | refused | unwritten => exact absurd rfl (hp _)
    | skipped => exact ((ih hrest).cons _).trans List.perm_middle.symm
    | simulated | written => exact (ih hrest).cons _

end EndpointScaffold.Export

/-!
## What a clean batch leaves at its targets

After a batch without a problem every file has been dealt with. Its target holds exactly its text if
nothing stood there before or files may be replaced, and otherwise what stood there stands as it did.

* `IsSettled` a file that was dealt with; `isSettled_of_place` by itself, `isSettled_of_placeAll` in a
  batch.
-/

namespace EndpointScaffold.Export

open Encoding Files Support

variable {x : Exporter} {d d' e : Disk} {f : SourceFile} {p : Placement} {fs : List SourceFile}
  {t : Place}

/-- a file that was dealt with on the way from a disk `d` to a disk `d'` -/
structure IsSettled (x : Exporter) (d d' : Disk) (f : SourceFile) (t : Place) : Prop where
  target : x.target f.path = .ok t
  written : d.tree.find? t = none ∨ x.overwrites = true →
    d'.tree.find? t = some (.file (Utf8.encode f.text))
  /-- also below the target, if it is a folder -/
  kept : d.tree.find? t ≠ none → x.overwrites = false →
    ∀ q, t <+: q → d'.tree.find? q = d.tree.find? q

theorem IsSettled.below_root (h : IsSettled x d d' f t) : x.root <+: t :=
  (target_eq_ok h.target).1

/-- something stands at the target of a file that was dealt with -/
theorem IsSettled.find?_ne_none (h : IsSettled x d d' f t) : d'.tree.find? t ≠ none := by
  by_cases hold : d.tree.find? t = none ∨ x.overwrites = true
  · rw [h.written hold]
    exact Option.some_ne_none _
  · rw [not_or, Bool.not_eq_true] at hold
    rw [h.kept hold.1 hold.2 t (List.prefix_refl t)]
    exact hold.1

/-- a disk that grows aside from a target is the same there and below -/
theorem find?_of_aside {overwrites : Bool} (aims : Place → Prop)
    (hgrows : d.Grows overwrites aims (fun t _ => aims t) d')
    (haside : ∀ aim, aims aim → ¬ t <+: aim) {q : Place} (hq : t <+: q) :
    d'.tree.find? q = d.tree.find? q :=
  (hgrows.change q).eq_of_aside (fun aim haim h => absurd (hq.trans h) (haside aim haim))
    fun _ haim => haside q haim hq

/-- a file stays dealt with while the disk grows aside from it, before or afterwards -/
theorem IsSettled.of_same (h : IsSettled x d d' f t)
    (hbefore : ∀ q, t <+: q → d.tree.find? q = e.tree.find? q) :
    IsSettled x e d' f t where
  target := h.target
  written hold := h.written (by rwa [hbefore t (List.prefix_refl t)])
  kept hold hkept q hq := by
    rw [← hbefore q hq]
    exact h.kept (by rwa [hbefore t (List.prefix_refl t)]) hkept q hq

theorem IsSettled.trans_same (h : IsSettled x d d' f t)
    (hafter : ∀ q, t <+: q → e.tree.find? q = d'.tree.find? q) : IsSettled x d e f t where
  target := h.target
  written hold := (hafter t (List.prefix_refl t)).trans (h.written hold)
  kept hold hkept q hq := (hafter q hq).trans (h.kept hold hkept q hq)

theorem isSettled_of_place (hd : d.tree.IsProper) (hdry : x.isDryRun = false)
    (hp : ∀ problem, p ≠ .failed problem) (h : x.place d f = .ok (d', p)) :
    ∃ t, IsSettled x d d' f t := by
  cases placing_of_place h with
  | refused => exact absurd rfl (hp _)
  | unwritten => exact absurd rfl (hp _)
  | simulated _ _ _ hdry' =>
    rw [hdry] at hdry'
    cases hdry'
  | @skipped t htarget hholds hkept =>
    obtain ⟨n, hn⟩ := Disk.holds_eq_true_iff.mp hholds
    have hfind := (Disk.look_eq_ok_iff.mp hn).2
    rw [Path.resolved_ofPlace (target_eq_ok htarget).2.1] at hfind
    refine ⟨t, htarget, fun hold => ?_, fun _ _ _ _ => rfl⟩
    rw [hfind, hkept] at hold
    rcases hold with hold | hold <;> cases hold
  | @written t b _ htarget hholds hfree _ hwrite =>
    have hdots := (target_eq_ok htarget).2.1
    have hfind := (Disk.look_eq_ok_iff.mp (Disk.look_of_write hdots hwrite)).2
    rw [Path.resolved_ofPlace hdots] at hfind
    refine ⟨t, htarget, fun _ => hfind, fun hold hkept => ?_⟩
    rcases free_of_write hd hdots hholds hfree hwrite with hover | hnone
    · rw [hkept] at hover
      cases hover
    · exact absurd hnone hold

/-- a clean batch deals with each of its files, if their targets keep apart -/
theorem isSettled_of_placeAll (hd : d.tree.IsProper) (hdry : x.isDryRun = false)
    (hapart : fs.Pairwise (Apart x)) (h : IsClean (x.placeAll d fs)) :
    ∀ f ∈ fs, ∃ t, IsSettled x d (x.placeAll d fs).disk f t := by
  induction fs generalizing d with
  | nil => exact fun f hf => absurd hf List.not_mem_nil
  | cons f fs ih =>
    obtain ⟨d', p, hplace, hp, hrest⟩ := isClean_cons h
    obtain ⟨hd', hstep⟩ := place_grows hd hplace
    rw [List.pairwise_cons] at hapart
    rw [placeAll_cons_ok hplace]
    intro g hg
    rcases List.mem_cons.mp hg with rfl | hg
    · obtain ⟨t, ht⟩ := isSettled_of_place hd hdry hp hplace
      refine ⟨t, ht.trans_same fun q hq => ?_⟩
      -- the files after this one leave its target alone
      refine find?_of_aside (IsTarget x fs)
        ((placeAll_grows (x := x) hd' fs).2.mono (fun _ h => h)
          fun u bytes ⟨g, hg, hu, _⟩ => ⟨g, hg, hu⟩) ?_ hq
      exact fun u ⟨g, hg, hu⟩ => (hapart.1 g hg t u ht.target hu).1
    · obtain ⟨t, ht⟩ := ih hd' hapart.2 hrest g hg
      refine ⟨t, ht.of_same fun q hq => ?_⟩
      refine find?_of_aside (fun u => x.target f.path = .ok u)
        (hstep.mono (fun _ h => h) fun u bytes h => h.1) ?_ hq
      exact fun u hu => (hapart.1 g hg u t hu ht.target).2

end EndpointScaffold.Export
