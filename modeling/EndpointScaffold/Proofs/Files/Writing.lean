import EndpointScaffold.Proofs.Files.Growth
import Mathlib.Data.List.Perm.Basic

/-!
# Writing grows a disk

A file is written to a temporary one beside it, which is then put in place. Whatever becomes of
that, the temporary file is gone, and the disk has only grown: a file that was written is found at
its path with all its bytes, and a file that could not be written leaves at most folders above it.

* `locate_of_slot`, `slot_ofPlace` where a path leads whose slot is known;
* `makeTemporary_eq_ok`, `makeTemporary_ne_present` a temporary file, under a name that is free;
* `fill_temporary`, `discard_temporary`, `move_eq_ok` what becomes of it;
* `writeVia_cases`, `file_of_writeVia` what is left in the end, for any temporary names;
* `ensureFolder_grows` folders above a place;
* `write_ok`, `look_of_write`, `write_error` a file that was written, and one that was not.
-/

namespace EndpointScaffold.Files.Disk

variable {overwrites : Bool} {aims : Place → Prop} {files : Place → List UInt8 → Prop}
  {d d' : Disk} {p : Path} {place : Place}

/-! ### Slots -/

theorem parts_of_name (h : p.name ≠ "") : p.parts = p.parent.parts ++ [p.name] := by
  rw [Path.name] at h
  cases hlast : p.parts.getLast? with
  | none =>
    rw [hlast] at h
    exact absurd rfl h
  | some name =>
    rw [Path.name, hlast, Path.parent]
    exact (List.dropLast_append_getLast? name hlast).symm

/-- a path leads to its slot -/
theorem locate_of_slot (h : d.slot p = .ok (some place)) : d.locate p = .ok place := by
  obtain ⟨hfault, hlong, hempty, hdots, above, habove, hfolder, rfl⟩ := slot_eq_some h
  have hstep : Path.step above p.name = above ++ [p.name] := if_neg hdots
  rw [locate_of_clear hfault, parts_of_name hempty, Tree.walk_append]
  show (d.tree.walk (p.parent.start d.here) p.parent.parts).bind _ = _
  rw [walk_of_locate habove]
  show d.tree.walk above [p.name] = _
  rw [Tree.walk_cons, hfolder, hlong, hstep]
  rfl

theorem slot_ne_nil (h : d.slot p = .ok (some place)) : place ≠ [] := by
  obtain ⟨-, -, -, -, above, -, -, rfl⟩ := slot_eq_some h
  exact List.append_ne_nil_of_right_ne_nil above (List.cons_ne_nil _ _)

theorem slot_ofPlace {q : Place} (hdots : ".." ∉ place)
    (h : d.slot (Path.ofPlace place) = .ok (some q)) : q = place := by
  rw [locate_eq_ok (locate_of_slot h), Path.resolved_ofPlace hdots]

/-- a slot is the same on a disk that keeps the folders -/
theorem slot_of_kept (hhere : d'.here = d.here)
    (hkept : ∀ q, d.tree.find? q = some .folder → d'.tree.find? q = some .folder)
    (h : d.slot p = .ok (some place)) : d'.slot p = .ok (some place) := by
  obtain ⟨hfault, hlong, hempty, hdots, above, habove, hfolder, rfl⟩ := slot_eq_some h
  exact slot_eq_some_iff.mpr ⟨hfault, hlong, hempty, hdots, above,
    locate_of_kept hhere hkept habove, hkept above hfolder, rfl⟩

/-! ### Temporary files -/

def withFile (d : Disk) (place : Place) (bytes : List UInt8) : Disk :=
  { d with tree := d.tree.put place (.file bytes) }

section
variable {temporary target : Path} {made : Disk} {marks : Nat → String} {bytes : List UInt8}

theorem find?_withFile_eq_folder_iff (hfree : d.tree.find? place = none) {q : Place} :
    (d.withFile place bytes).tree.find? q = some .folder ↔ d.tree.find? q = some .folder := by
  rw [withFile]
  by_cases hq : q = place
  · subst hq
    have hne : q ≠ [] := fun hnil => by
      rw [hnil, Tree.find?_nil] at hfree
      cases hfree
    rw [Tree.find?_put_self _ _ hne, hfree]
    exact ⟨fun h => (by cases h), fun h => (by cases h)⟩
  · rw [Tree.find?_put_of_ne _ _ hq]

/-- paths lead past a new file as they do without it -/
theorem slot_withFile_iff (hfree : d.tree.find? place = none) {q : Place} :
    (d.withFile place bytes).slot p = .ok (some q) ↔ d.slot p = .ok (some q) :=
  ⟨slot_of_kept rfl fun _ => (find?_withFile_eq_folder_iff hfree).mp,
    slot_of_kept rfl fun _ => (find?_withFile_eq_folder_iff hfree).mpr⟩

/-- a temporary file is made where nothing is yet -/
theorem makeTemporary_eq_ok {left : Nat}
    (h : d.makeTemporary p marks left = .ok (made, temporary)) :
    ∃ place, d.slot temporary = .ok (some place) ∧ d.tree.find? place = none ∧
      made = d.withFile place [] ∧ ∃ n, temporary = d.temporaryPath p (marks n) := by
  induction left with
  | zero => cases h
  | succ left ih =>
    rw [makeTemporary] at h
    cases hmake : d.make (d.temporaryPath p (marks left)) (.file []) with
    | error c =>
      rw [hmake] at h
      cases c with
      | present => exact ih h
      | _ => cases h
    | ok after =>
      rw [hmake] at h
      obtain ⟨rfl, rfl⟩ := Prod.mk.inj (Except.ok.inj h)
      obtain ⟨place, hslot, hfind, hafter⟩ := make_eq_ok hmake
      exact ⟨place, hslot, hfind, hafter, left, rfl⟩

theorem move_eq_ok {old new : Path} (h : d.move old new = .ok d') :
    ∃ source target bytes, d.slot old = .ok (some source) ∧ d.slot new = .ok (some target) ∧
      d.tree.find? source = some (.file bytes) ∧ d.tree.find? target ≠ some .folder ∧
      d' = { d with tree := (d.tree.unlink source).put target (.file bytes) } := by
  rw [move] at h
  obtain ⟨source?, hsource, h⟩ := Schema.bind_eq_ok h
  obtain ⟨target?, htarget, h⟩ := Schema.bind_eq_ok h
  cases source? with
  | none => cases h
  | some source =>
    cases target? with
    | none => cases h
    | some target =>
      dsimp only at h
      cases hfrom : d.tree.find? source with
      | none =>
        rw [hfrom] at h
        cases h
      | some n =>
        cases n with
        | folder =>
          rw [hfrom] at h
          cases h
        | file bytes =>
          rw [hfrom] at h
          refine ⟨source, target, bytes, hsource, htarget, hfrom, ?_⟩
          cases hto : d.tree.find? target with
          | none =>
            rw [hto] at h
            exact ⟨nofun, (Except.ok.inj h).symm⟩
          | some m =>
            rw [hto] at h
            cases m with
            | folder => cases h
            | file b => exact ⟨nofun, (Except.ok.inj h).symm⟩

variable (hslot : d.slot temporary = .ok (some place)) (hfree : d.tree.find? place = none)
include hslot hfree

theorem fill_temporary (b : List UInt8) :
    (d.withFile place b).fill temporary bytes = d.withFile place bytes := by
  rw [fill, (slot_withFile_iff hfree).mpr hslot]
  show { d with tree := (d.tree.put place _).put place _ } = d.withFile place bytes
  rw [Tree.put_put]
  rfl

/-- a temporary file that is dropped leaves no trace -/
theorem discard_temporary : (d.withFile place bytes).discard temporary = d := by
  have hslot' : (d.withFile place bytes).slot temporary = .ok (some place) :=
    (slot_withFile_iff hfree).mpr hslot
  have hfind : (d.withFile place bytes).tree.find? place = some (.file bytes) :=
    Tree.find?_put_self _ _ (slot_ne_nil hslot)
  rw [discard, hslot', look_of_locate (locate_of_slot hslot'), hfind]
  show { d with tree := (d.tree.put place _).unlink place } = d
  rw [Tree.unlink_put, Tree.unlink_of_find? (slot_ne_nil hslot) hfree]

/-- a temporary file that is put in place leaves nothing else behind -/
theorem move_temporary (h : (d.withFile place bytes).move temporary target = .ok d') :
    ∃ q, d.slot target = .ok (some q) ∧ d.tree.find? q ≠ some .folder ∧
      d' = d.withFile q bytes := by
  obtain ⟨source, q, b, hsource, htarget, hfrom, hto, rfl⟩ := move_eq_ok h
  rw [slot_withFile_iff hfree] at hsource htarget
  obtain rfl := Option.some.inj (Except.ok.inj (hsource.symm.trans hslot))
  have hfind : (d.withFile source bytes).tree.find? source = some (.file bytes) :=
    Tree.find?_put_self _ _ (slot_ne_nil hslot)
  obtain rfl := Node.file.inj (Option.some.inj (hfrom.symm.trans hfind))
  refine ⟨q, htarget, fun hq => hto ((find?_withFile_eq_folder_iff hfree).mpr hq), ?_⟩
  show { d with tree := ((d.tree.put source _).unlink source).put q _ } = d.withFile q b
  rw [Tree.unlink_put, Tree.unlink_of_find? (slot_ne_nil hslot) hfree]
  rfl

end

/-- whatever the marks of temporary names, a file is put in place once the folders above it are
there, or nothing but folders is made -/
theorem writeVia_cases (marks : Nat → String) (d : Disk) (p : Path) (bytes : List UInt8) :
    (∃ f, d.writeVia marks p bytes = ((d.ensureFolder p.parent).1, .error f)) ∨
      ∃ place, (d.ensureFolder p.parent).1.slot p = .ok (some place) ∧
        (d.ensureFolder p.parent).1.tree.find? place ≠ some .folder ∧
        d.writeVia marks p bytes = ((d.ensureFolder p.parent).1.withFile place bytes, .ok ()) := by
  rw [writeVia]
  cases d.ensureFolder p.parent with
  | mk ensured outcome =>
    cases outcome with
    | error f => exact .inl ⟨f, rfl⟩
    | ok u =>
      dsimp only
      cases hmade : ensured.makeTemporary p marks (ensured.tree.entries.length + 1) with
      | error c => exact .inl ⟨_, rfl⟩
      | ok pair =>
        obtain ⟨made, temporary⟩ := pair
        obtain ⟨place, hslot, hfree, rfl, -⟩ := makeTemporary_eq_ok hmade
        dsimp only
        rw [fill_temporary hslot hfree]
        cases hmoved : (ensured.withFile place bytes).move temporary p with
        | error c =>
          dsimp only
          rw [discard_temporary hslot hfree]
          exact .inl ⟨_, rfl⟩
        | ok moved =>
          obtain ⟨q, htarget, hfolder, rfl⟩ := move_temporary hslot hfree hmoved
          exact .inr ⟨q, htarget, hfolder, rfl⟩

/-- writing a file, with the folders above it, keeps a tree proper, also if it fails -/
theorem isProper_write (hd : d.tree.IsProper) (p : Path) (bytes : List UInt8) :
    (d.write p bytes).1.tree.IsProper := by
  have hensured : (d.ensureFolder p.parent).1.tree.IsProper := isProper_ensureParts hd _ _
  rw [write]
  obtain ⟨f, hwrite⟩ | ⟨place, hslot, hfolder, hwrite⟩ := d.writeVia_cases mark p bytes
  · rw [hwrite]
    exact hensured
  · rw [hwrite]
    exact isProper_put hensured hslot hfolder

/-- making folders makes no file and does not move the working folder -/
theorem file_of_ensureFolder (d : Disk) (p : Path) :
    (d.ensureFolder p).1.here = d.here ∧ ∀ q b,
      (d.ensureFolder p).1.tree.find? q = some (.file b) → d.tree.find? q = some (.file b) := by
  refine ensureParts_steps (R := fun d d' => d'.here = d.here ∧ ∀ q b,
    d'.tree.find? q = some (.file b) → d.tree.find? q = some (.file b)) (fun _ => ⟨rfl, fun _ _ h => h⟩)
    (fun h h' => ⟨h'.1.trans h.1, fun q b hq => h.2 q b (h'.2 q b hq)⟩) fun {e e' ps} _ hmade => ?_
  obtain ⟨place, hslot, hfree, rfl⟩ := make_eq_ok hmade
  refine ⟨rfl, fun q b hq => ?_⟩
  by_cases heq : q = place
  · subst heq
    rw [Tree.find?_put_self _ _ (slot_ne_nil hslot)] at hq
    cases hq
  · rwa [Tree.find?_put_of_ne _ _ heq] at hq

/-- whatever becomes of a write, no file is new or different but the one that was written; the
temporary one is gone -/
theorem file_of_writeVia {marks : Nat → String} {bytes b : List UInt8} {q : Place}
    (h : (d.writeVia marks p bytes).1.tree.find? q = some (.file b)) :
    d.tree.find? q = some (.file b) ∨
      (d.writeVia marks p bytes).2 = .ok () ∧ q = p.resolved d.here ∧ b = bytes := by
  obtain ⟨hhere, hfiles⟩ := d.file_of_ensureFolder p.parent
  obtain ⟨f, hwrite⟩ | ⟨place, hslot, -, hwrite⟩ := d.writeVia_cases marks p bytes
  · rw [hwrite] at h
    exact .inl (hfiles q b h)
  · rw [hwrite] at h ⊢
    by_cases hq : q = place
    · subst hq
      refine .inr ⟨rfl, ?_, ?_⟩
      · rw [locate_eq_ok (locate_of_slot hslot), hhere]
      · have hput := Tree.find?_put_self (d.ensureFolder p.parent).1.tree (.file bytes)
          (slot_ne_nil hslot)
        exact Node.file.inj (Option.some.inj (h.symm.trans hput))
    · rw [withFile, Tree.find?_put_of_ne _ _ hq] at h
      exact .inl (hfiles q b h)

/-- a folder cannot be replaced, and the temporary file is gone -/
example :
    let d : Disk := ⟨⟨[(["Shop"], .folder)]⟩, []⟩
    d.write (Path.ofPlace ["Shop"]) [65] = (d, .error
      { cause := .isFolder, path := "/.Shop.<tmp>.tmp", target := some "/Shop" }) := by
  decide

/-! ### Names of temporary files -/

theorem temporaryName_injective (name : String) :
    Function.Injective fun mark => temporaryName mark name := fun m n h => by
  simp only [temporaryName, String.append_left_inj] at h
  exact (String.append_right_inj _).mp h

theorem mark_injective : Function.Injective mark := fun m n h => by
  have hdigits := congrArg (fun cs => Nat.ofDigitChars 10 cs 0) (String.ofList_injective h)
  simp only [Nat.ofDigitChars_toDigits (by decide : 1 < 10) (by decide : 10 ≤ 10)] at hdigits
  omega

theorem getLast?_temporaryName (mark name : String) :
    (temporaryName mark name).toList.getLast? = some 'p' := by
  have hend : ".tmp".toList.getLast? = some 'p' := by decide
  rw [temporaryName, String.toList_append, List.getLast?_append, hend]
  rfl

theorem name_temporaryPath (d : Disk) (p : Path) (mark : String) :
    (d.temporaryPath p mark).name = temporaryName mark p.name := by
  rw [temporaryPath, Path.extend, Path.name, List.getLast?_concat]
  rfl

theorem parent_temporaryPath (d : Disk) (p : Path) (mark : String) :
    (d.temporaryPath p mark).parent = p.parent.absolute d.here := by
  rw [temporaryPath, Path.extend, Path.parent, List.dropLast_concat]

theorem fault?_ne_present (p : Path) : p.fault? ≠ some .present := by
  intro h
  rw [Path.fault?] at h
  split at h
  · cases h
  · split at h <;> cases h

theorem walk_ne_present {t : Tree} {names : List String} :
    t.walk place names ≠ .error .present := by
  intro h
  induction names generalizing place with
  | nil => cases h
  | cons a names ih =>
    rw [Tree.walk_cons] at h
    cases hfind : t.find? place with
    | none =>
      rw [hfind] at h
      cases h
    | some n =>
      rw [hfind] at h
      cases n with
      | file bytes => cases h
      | folder =>
        dsimp only at h
        by_cases ha : isTooLong a = true
        · rw [if_pos ha] at h
          cases h
        · rw [if_neg ha] at h
          exact ih h

theorem locate_ne_present : d.locate p ≠ .error .present := by
  cases hfault : p.fault? with
  | none =>
    rw [locate_of_clear hfault]
    exact walk_ne_present
  | some c =>
    rw [locate_of_fault hfault]
    rintro ⟨rfl⟩
    exact fault?_ne_present p hfault

/-- a path that ends in a name has a slot, unless it cannot be followed -/
theorem slot_of_name (d : Disk) (hempty : p.name ≠ "") (hdots : p.name ≠ "..") :
    (∃ place, d.slot p = .ok (some place)) ∨ ∃ c, c ≠ .present ∧ d.slot p = .error c := by
  cases hfault : p.fault? with
  | some c =>
    refine .inr ⟨c, fun hc => fault?_ne_present p (hc ▸ hfault), ?_⟩
    rw [slot, hfault]
    rfl
  | none =>
    cases hlocate : d.locate p.parent with
    | error c =>
      refine .inr ⟨c, fun hc => locate_ne_present (hc ▸ hlocate), ?_⟩
      rw [slot, hfault, hlocate]
      rfl
    | ok above =>
      rw [slot_of_locate hfault hlocate]
      cases d.tree.find? above with
      | none => exact .inr ⟨.missing, by decide, rfl⟩
      | some n =>
        cases n with
        | file bytes => exact .inr ⟨.notFolder, by decide, rfl⟩
        | folder =>
          cases isTooLong p.name with
          | true => exact .inr ⟨.tooLong, by decide, rfl⟩
          | false => exact .inl ⟨above ++ [p.name], congrArg Except.ok
              (if_neg (not_or.mpr ⟨hempty, hdots⟩))⟩

/-- what cannot be made because something is there finds an entry in its place -/
theorem make_eq_present {n : Node} (hempty : p.name ≠ "") (hdots : p.name ≠ "..")
    (h : d.make p n = .error .present) :
    ∃ place, d.slot p = .ok (some place) ∧ place ∈ d.tree.entries.map Prod.fst := by
  obtain ⟨place, hslot⟩ | ⟨c, hc, hslot⟩ := slot_of_name d hempty hdots
  · refine ⟨place, hslot, ?_⟩
    cases hfind : d.tree.find? place with
    | some m => exact List.mem_map_of_mem (Tree.mem_of_find? (slot_ne_nil hslot) hfind)
    | none =>
      rw [make_of_free hslot hfind] at h
      cases h
  · rw [make, hslot] at h
    exact absurd (Except.error.inj h) hc

/-- if no temporary file can be made for want of a name, all of its names are taken -/
theorem taken_of_makeTemporary {marks : Nat → String} {left n : Nat}
    (h : d.makeTemporary p marks left = .error .present) (hn : n < left) :
    (p.parent.absolute d.here).resolved d.here ++ [temporaryName (marks n) p.name] ∈
      d.tree.entries.map Prod.fst := by
  induction left with
  | zero => exact absurd hn (Nat.not_lt_zero n)
  | succ left ih =>
    rw [makeTemporary] at h
    cases hmake : d.make (d.temporaryPath p (marks left)) (.file []) with
    | ok made =>
      rw [hmake] at h
      cases h
    | error c =>
      rw [hmake] at h
      obtain rfl : c = .present := by
        cases c with
        | present => rfl
        | _ => exact Except.error.inj h
      rcases Nat.lt_succ_iff_lt_or_eq.mp hn with hn | rfl
      · exact ih h hn
      · have hlast := getLast?_temporaryName (marks n) p.name
        rw [← name_temporaryPath d] at hlast
        obtain ⟨place, hslot, hmem⟩ := make_eq_present
          (fun hname => by rw [hname] at hlast; cases hlast)
          (fun hname => by rw [hname] at hlast; exact absurd hlast (by decide)) hmake
        obtain ⟨-, -, -, -, above, habove, -, rfl⟩ := slot_eq_some hslot
        rw [parent_temporaryPath] at habove
        rw [name_temporaryPath, locate_eq_ok habove] at hmem
        exact hmem

/-- there are more names than entries, so a temporary file never fails for want of a name -/
theorem makeTemporary_ne_present :
    d.makeTemporary p mark (d.tree.entries.length + 1) ≠ .error .present := by
  intro h
  let place : Nat → Place := fun n =>
    (p.parent.absolute d.here).resolved d.here ++ [temporaryName (mark n) p.name]
  have hnodup : ((List.range (d.tree.entries.length + 1)).map place).Nodup := by
    refine List.Nodup.map (fun m n heq => ?_) List.nodup_range
    exact mark_injective (temporaryName_injective p.name (List.singleton_inj.mp
      (List.append_cancel_left heq)))
  have hsub : (List.range (d.tree.entries.length + 1)).map place ⊆
      d.tree.entries.map Prod.fst := by
    intro q hq
    obtain ⟨n, hn, rfl⟩ := List.mem_map.mp hq
    exact taken_of_makeTemporary h (List.mem_range.mp hn)
  have hlength := (List.subperm_of_subset hnodup hsub).length_le
  rw [List.length_map, List.length_map, List.length_range] at hlength
  omega

/-! ### Folders -/

theorem makeFolder_grows {aim : Place} (hdots : ".." ∉ place) (haim : aims aim)
    (hq : place <+: aim) (hne : place ≠ [] → place ≠ aim)
    (h : d.makeFolder (Path.ofPlace place) = .ok d') : Grows overwrites aims files d d' := by
  obtain ⟨q, hslot, habsent, rfl⟩ := make_eq_ok h
  obtain rfl := slot_ofPlace hdots hslot
  exact Grows.put_folder (slot_ne_nil hslot) habsent haim hq (hne (slot_ne_nil hslot))

/-- folders are only made above the place that is aimed at -/
theorem ensureFolder_grows (d : Disk) (hdots : ".." ∉ place) (haim : aims place) :
    Grows overwrites aims files d (d.ensureFolder (Path.ofPlace place).parent).1 := by
  refine ensureParts_steps Grows.refl Grows.trans fun {e e' ps} hps hmade => ?_
  have habove : ps.reverse <+: place.dropLast := by
    rw [← List.reverse_suffix, List.reverse_reverse]
    exact hps
  refine makeFolder_grows (fun hmem => hdots (List.dropLast_subset place (habove.subset hmem))) haim
    (habove.trans (List.dropLast_prefix place)) (fun hne heq => ?_) hmade
  -- a folder that is made is shorter than the place, so it is not the place itself
  have hlength := habove.length_le
  rw [heq, List.length_dropLast] at hlength
  have hpositive := List.length_pos_of_ne_nil (heq ▸ hne)
  omega

/-! ### Files -/

theorem find?_ensureFolder (d : Disk) (hdots : ".." ∉ place) :
    (d.ensureFolder (Path.ofPlace place).parent).1.tree.find? place = d.tree.find? place := by
  have hgrows : Grows false (· = place) (fun _ _ => False) d
      (d.ensureFolder (Path.ofPlace place).parent).1 := ensureFolder_grows d hdots rfl
  exact (hgrows.change place).eq_of_aside (fun aim haim _ => haim.symm) fun _ => id

/-- a file that could not be written leaves at most folders above it -/
theorem write_error {bytes : List UInt8} {f : Failure} (hdots : ".." ∉ place) (haim : aims place)
    (h : d.write (Path.ofPlace place) bytes = (d', .error f)) :
    Grows overwrites aims files d d' := by
  rw [write] at h
  obtain ⟨g, hwrite⟩ | ⟨q, -, -, hwrite⟩ := d.writeVia_cases mark (Path.ofPlace place) bytes
  · rw [hwrite, Prod.mk.injEq] at h
    rw [← h.1]
    exact ensureFolder_grows d hdots haim
  · rw [hwrite, Prod.mk.injEq] at h
    cases h.2

/-- a file that was written is found with all its bytes -/
theorem write_ok {bytes : List UInt8} (hdots : ".." ∉ place) (haim : aims place)
    (hfile : files place bytes) (hfree : overwrites = true ∨ d.tree.find? place = none)
    (h : d.write (Path.ofPlace place) bytes = (d', .ok ())) :
    Grows overwrites aims files d d' ∧ d'.look (Path.ofPlace place) = .ok (.file bytes) := by
  rw [write] at h
  obtain ⟨g, hwrite⟩ | ⟨q, hslot, hfolder, hwrite⟩ :=
    d.writeVia_cases mark (Path.ofPlace place) bytes
  · rw [hwrite, Prod.mk.injEq] at h
    cases h.2
  · rw [hwrite, Prod.mk.injEq] at h
    obtain ⟨rfl, -⟩ := h
    have hensured : Grows overwrites aims files d (d.ensureFolder (Path.ofPlace place).parent).1 :=
      ensureFolder_grows d hdots haim
    have hsame := find?_ensureFolder d hdots
    generalize (d.ensureFolder (Path.ofPlace place).parent).1 = ensured
      at hslot hfolder hensured hsame ⊢
    obtain rfl := slot_ofPlace hdots hslot
    -- making the folders above did not touch the place, and a folder is never replaced
    have hold : ensured.tree.find? q = none ∨
        overwrites = true ∧ ∃ b, ensured.tree.find? q = some (.file b) := by
      cases hfind : ensured.tree.find? q with
      | none => exact .inl rfl
      | some n =>
        cases n with
        | folder => exact absurd hfind hfolder
        | file b =>
          refine .inr ⟨hfree.resolve_right fun hnone => ?_, b, rfl⟩
          rw [hsame, hnone] at hfind
          cases hfind
    have hput : Grows overwrites aims files ensured (ensured.withFile q bytes) :=
      Grows.put_file (slot_ne_nil hslot) hfile hold
    refine ⟨hensured.trans hput, look_eq_ok_iff.mpr ?_⟩
    rw [Path.resolved_ofPlace hdots]
    exact ⟨hput.locate_ok (locate_of_slot hslot), Tree.find?_put_self _ _ (slot_ne_nil hslot)⟩

/-- a written file is found, whatever stood there before -/
theorem look_of_write {bytes : List UInt8} (hdots : ".." ∉ place)
    (h : d.write (Path.ofPlace place) bytes = (d', .ok ())) :
    d'.look (Path.ofPlace place) = .ok (.file bytes) := by
  have hwritten : Grows true (fun _ => True) (fun _ _ => True) d d' ∧
      d'.look (Path.ofPlace place) = .ok (.file bytes) :=
    write_ok hdots trivial trivial (.inl rfl) h
  exact hwritten.2

end EndpointScaffold.Files.Disk
