import EndpointScaffold.Files.Disk
import EndpointScaffold.Proofs.Schema.Lists
import Mathlib.Data.List.Induction
import Mathlib.Data.List.Nodup

/-!
# Proper trees

In a proper tree every place has one entry, every entry stands in a folder, and no name is a double
dot. No operation makes a proper tree improper.

* `Tree.find?_of_append` all that is above an entry is a folder;
* `Tree.isProper_put` one more entry, in a folder;
* `Disk.make_eq_ok` what making a folder or a file changes;
* `Disk.ensureParts_steps` how a folder is made with all folders above it.
-/

namespace EndpointScaffold.Files

/-- every place has one entry, names are no double dots, and every entry stands in a folder -/
structure Tree.IsProper (t : Tree) : Prop where
  keys : (t.entries.map Prod.fst).Nodup
  names : ∀ e ∈ t.entries, ".." ∉ e.1
  above : ∀ e ∈ t.entries, e.1 ≠ [] ∧ t.find? e.1.dropLast = some .folder

namespace Tree

variable {t : Tree} {p : Place} {n : Node}

theorem mem_of_find? (hp : p ≠ []) (h : t.find? p = some n) : (p, n) ∈ t.entries := by
  rw [find?, if_neg hp, List.lookup_eq_some_iff] at h
  obtain ⟨front, back, hentries, -⟩ := h
  rw [hentries]
  exact List.mem_append_right _ List.mem_cons_self

theorem find?_of_mem (ht : t.IsProper) (h : (p, n) ∈ t.entries) : t.find? p = some n := by
  obtain ⟨front, back, hentries⟩ := List.append_of_mem h
  have hkeys := ht.keys
  rw [hentries, List.map_append, List.map_cons, List.nodup_append] at hkeys
  rw [find?, if_neg (ht.above _ h).1, List.lookup_eq_some_iff]
  refine ⟨front, back, hentries, fun e he => ?_⟩
  rw [bne_iff_ne]
  exact fun heq => hkeys.2.2 e.1 (List.mem_map_of_mem he) p List.mem_cons_self heq.symm

/-- all that is above an entry is a folder -/
theorem find?_of_append (ht : t.IsProper) {names : List String} (hnames : names ≠ [])
    (h : t.find? (p ++ names) = some n) : t.find? p = some .folder := by
  induction names using List.reverseRecOn generalizing n with
  | nil => exact absurd rfl hnames
  | append_singleton names m ih =>
    have hmem := mem_of_find? (by simp) h
    have habove := (ht.above _ hmem).2
    rw [show (p ++ (names ++ [m])).dropLast = p ++ names by
      rw [← List.append_assoc, List.dropLast_concat]] at habove
    by_cases hempty : names = []
    · rw [hempty, List.append_nil] at habove
      exact habove
    · exact ih hempty habove

theorem dots_not_mem (ht : t.IsProper) (h : t.find? p = some n) : ".." ∉ p := by
  by_cases hp : p = []
  · rw [hp]
    exact List.not_mem_nil
  · exact ht.names _ (mem_of_find? hp h)

/-! ### Changes -/

/-- places after an entry was put: the same ones, or one more at the end -/
theorem keys_putEntry (p : Place) (n : Node) (es : List (Place × Node)) :
    (putEntry p n es).map Prod.fst =
      if p ∈ es.map Prod.fst then es.map Prod.fst else es.map Prod.fst ++ [p] := by
  induction es with
  | nil => rfl
  | cons e es ih =>
    obtain ⟨q, m⟩ := e
    rw [putEntry, List.map_cons]
    by_cases hq : q = p
    · subst hq
      rw [if_pos rfl, if_pos List.mem_cons_self]
      rfl
    · rw [if_neg hq, List.map_cons, ih]
      by_cases hp : p ∈ es.map Prod.fst
      · rw [if_pos hp, if_pos (List.mem_cons_of_mem _ hp)]
      · have hcons : p ∉ q :: es.map Prod.fst := fun h =>
          (List.mem_cons.mp h).elim (fun h => hq h.symm) hp
        rw [if_neg hp, if_neg hcons]
        rfl

theorem mem_putEntry {e : Place × Node} {es : List (Place × Node)} (he : e ∈ putEntry p n es) :
    e = (p, n) ∨ e ∈ es := by
  induction es with
  | nil => exact .inl (List.mem_singleton.mp he)
  | cons a es ih =>
    rw [putEntry] at he
    by_cases ha : a.1 = p
    · rw [if_pos ha] at he
      exact (List.mem_cons.mp he).imp id (List.mem_cons_of_mem a)
    · rw [if_neg ha] at he
      rcases List.mem_cons.mp he with rfl | he
      · exact .inr List.mem_cons_self
      · exact (ih he).imp id (List.mem_cons_of_mem a)

/-- an entry may be put into a folder, unless it takes the place of a folder -/
theorem isProper_put (ht : t.IsProper) {above : Place} {name : String}
    (habove : t.find? above = some .folder) (hname : name ≠ "..")
    (hfree : t.find? (above ++ [name]) ≠ some .folder) : (t.put (above ++ [name]) n).IsProper := by
  have hne : above ++ [name] ≠ [] := by simp
  constructor
  · show ((putEntry _ _ _).map Prod.fst).Nodup
    rw [keys_putEntry]
    by_cases hmem : above ++ [name] ∈ t.entries.map Prod.fst
    · rw [if_pos hmem]
      exact ht.keys
    · rw [if_neg hmem, List.nodup_append]
      refine ⟨ht.keys, List.nodup_singleton _, fun p hp q hq => ?_⟩
      rw [List.mem_singleton] at hq
      exact fun heq => hmem (hq ▸ heq ▸ hp)
  · intro e he
    rcases mem_putEntry he with rfl | he
    · rw [List.mem_append, List.mem_singleton]
      exact fun h => h.elim (dots_not_mem ht habove) (fun h => hname h.symm)
    · exact ht.names e he
  · have hkept : ∀ p, t.find? p = some .folder → (t.put (above ++ [name]) n).find? p = some .folder :=
      fun p hp => by
        have hpne : p ≠ above ++ [name] := fun h => hfree (by rw [← h]; exact hp)
        rw [find?_put_of_ne t n hpne]
        exact hp
    intro e he
    rcases mem_putEntry he with rfl | he
    · refine ⟨hne, hkept _ ?_⟩
      rw [List.dropLast_concat]
      exact habove
    · exact ⟨(ht.above e he).1, hkept _ (ht.above e he).2⟩

end Tree

/-! ### Operations -/

namespace Disk

variable {d d' : Disk} {p : Path}

/-- a slot depends on what stands where the names before the last one lead -/
theorem slot_of_locate {above : Place} (hfault : p.fault? = none)
    (habove : d.locate p.parent = .ok above) :
    d.slot p = match d.tree.find? above with
      | none => .error .missing
      | some (.file _) => .error .notFolder
      | some .folder =>
        if isTooLong p.name then .error .tooLong
        else .ok (if p.name = "" ∨ p.name = ".." then none else some (above ++ [p.name])) := by
  rw [slot, hfault, habove]
  rfl

/-- a slot is the name of a path in the folder that the rest of the path leads to -/
theorem slot_eq_some {place : Place} (h : d.slot p = .ok (some place)) :
    p.fault? = none ∧ isTooLong p.name = false ∧ p.name ≠ "" ∧ p.name ≠ ".." ∧
      ∃ above, d.locate p.parent = .ok above ∧ d.tree.find? above = some .folder ∧
        place = above ++ [p.name] := by
  cases hfault : p.fault? with
  | some c =>
    rw [slot, hfault] at h
    cases h
  | none =>
    have hslot := h
    rw [slot, hfault] at hslot
    obtain ⟨above, habove, -⟩ := Schema.bind_eq_ok hslot
    rw [slot_of_locate hfault habove] at h
    cases hfind : d.tree.find? above with
    | none =>
      rw [hfind] at h
      cases h
    | some n =>
      rw [hfind] at h
      cases n with
      | file bytes => cases h
      | folder =>
        by_cases hlong : isTooLong p.name = true
        · replace h := (if_pos hlong).symm.trans h
          cases h
        · replace h := Except.ok.inj ((if_neg hlong).symm.trans h)
          by_cases hname : p.name = "" ∨ p.name = ".."
          · rw [if_pos hname] at h
            cases h
          · rw [if_neg hname] at h
            rw [not_or] at hname
            exact ⟨rfl, Bool.eq_false_iff.mpr hlong, hname.1, hname.2, above, habove, hfind,
              (Option.some.inj h).symm⟩

theorem slot_eq_some_iff {place : Place} :
    d.slot p = .ok (some place) ↔
      p.fault? = none ∧ isTooLong p.name = false ∧ p.name ≠ "" ∧ p.name ≠ ".." ∧
        ∃ above, d.locate p.parent = .ok above ∧ d.tree.find? above = some .folder ∧
          place = above ++ [p.name] := by
  refine ⟨slot_eq_some, ?_⟩
  rintro ⟨hfault, hlong, hempty, hdots, above, habove, hfolder, rfl⟩
  rw [slot_of_locate hfault habove, hfolder, hlong]
  show Except.ok (if p.name = "" ∨ p.name = ".." then none else some (above ++ [p.name])) = _
  rw [if_neg (not_or.mpr ⟨hempty, hdots⟩)]

theorem isProper_put (hd : d.tree.IsProper) {place : Place} {n : Node}
    (hslot : d.slot p = .ok (some place)) (hfree : d.tree.find? place ≠ some .folder) :
    (d.tree.put place n).IsProper := by
  obtain ⟨-, -, -, hname, above, -, habove, rfl⟩ := slot_eq_some hslot
  exact Tree.isProper_put hd habove hname hfree

theorem make_eq_ok {n : Node} (h : d.make p n = .ok d') :
    ∃ place, d.slot p = .ok (some place) ∧ d.tree.find? place = none ∧
      d' = { d with tree := d.tree.put place n } := by
  rw [make] at h
  obtain ⟨place?, hslot, h⟩ := Schema.bind_eq_ok h
  cases place? with
  | none => cases h
  | some place =>
    dsimp only at h
    cases hfind : d.tree.find? place with
    | some n =>
      rw [hfind] at h
      cases h
    | none =>
      rw [hfind] at h
      exact ⟨place, hslot, hfind, (Except.ok.inj h).symm⟩

theorem make_of_free {n : Node} (hslot : d.slot p = .ok (some place))
    (hfree : d.tree.find? place = none) :
    d.make p n = .ok { d with tree := d.tree.put place n } := by
  simp only [make, hslot, bind, Except.bind, hfree]

theorem isProper_makeFolder (hd : d.tree.IsProper) (h : d.makeFolder p = .ok d') :
    d'.tree.IsProper := by
  obtain ⟨place, hslot, hfind, rfl⟩ := make_eq_ok h
  exact isProper_put hd hslot (by rw [hfind]; exact nofun)

/-- a folder is made with all folders above it in steps that make one folder each -/
theorem ensureParts_steps {R : Disk → Disk → Prop} (hrefl : ∀ d, R d d)
    (htrans : ∀ {d e f}, R d e → R e f → R d f) {anchor : Anchor} {parts : List String}
    (hmake : ∀ {d d' : Disk} {ps : List String}, ps <:+ parts →
      d.makeFolder ⟨anchor, ps.reverse⟩ = .ok d' → R d d') :
    R d (d.ensureParts anchor parts).1 := by
  induction parts generalizing d with
  | nil =>
    rw [ensureParts]
    cases hmade : d.makeFolder ⟨anchor, []⟩ with
    | error c => exact hrefl d
    | ok made => exact hmake List.nil_suffix hmade
  | cons part above ih =>
    rw [ensureParts]
    cases hmade : d.makeFolder ⟨anchor, (part :: above).reverse⟩ with
    | ok made => exact hmake (List.suffix_refl _) hmade
    | error c =>
      cases c with
      | missing =>
        have habove := @ih d fun hps => hmake (hps.trans (List.suffix_cons part above))
        cases hensured : d.ensureParts anchor above with
        | mk ensured outcome =>
          rw [hensured] at habove
          cases outcome with
          | error f => exact habove
          | ok u =>
            dsimp only
            cases hagain : ensured.makeFolder ⟨anchor, (part :: above).reverse⟩ with
            | ok made => exact htrans habove (hmake (List.suffix_refl _) hagain)
            | error c => exact habove
      | _ => exact hrefl d

theorem isProper_ensureParts (hd : d.tree.IsProper) (anchor : Anchor) (parts : List String) :
    (d.ensureParts anchor parts).1.tree.IsProper :=
  ensureParts_steps (R := fun d d' => d.tree.IsProper → d'.tree.IsProper) (fun _ h => h)
    (fun h h' hd => h' (h hd)) (fun _ hmade hd => isProper_makeFolder hd hmade) hd

end Disk

end EndpointScaffold.Files
