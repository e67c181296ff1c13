import EndpointScaffold.Files.Path
import EndpointScaffold.Proofs.Text.Splitting

/-!
# Parts of paths

The parts of a path whose text is put together from a first text and names behind slashes, and the
place that such a path leads to.

* `IsName` texts that are one part of a path each, and no double dots;
* `slashed` names, each behind a slash;
* `partsOf_slashed`, `anchorOf_slashed` what such a text is read as;
* `resolved_ofPlace`, `dots_not_mem_resolved` the place of a path.
-/

namespace EndpointScaffold.Files.Path

open Text

/-- a text that is one part of a path, and not the one that leads upwards -/
structure IsName (s : String) : Prop where
  nonempty : s ≠ ""
  undotted : s ≠ "."
  noDots : s ≠ ".."
  noSlash : '/' ∉ s.toList

def slashed (names : List String) : String := String.join (names.map ("/" ++ ·))

theorem slashed_cons (name : String) (names : List String) :
    slashed (name :: names) = "/" ++ name ++ slashed names := by
  rw [slashed, slashed, List.map_cons, String.join_cons]

/-! ### Reading -/

theorem split_slash (a b : String) : split '/' (a ++ "/" ++ b) = split '/' a ++ split '/' b := by
  have hchars : (a ++ "/" ++ b).toList = a.toList ++ '/' :: b.toList := by
    rw [String.toList_append, String.toList_append, List.append_assoc]
    rfl
  rw [split, split, split, hchars, splitChars_append, List.map_append]

theorem partsOf_slash (a b : String) : partsOf (a ++ "/" ++ b) = partsOf a ++ partsOf b := by
  rw [partsOf, partsOf, partsOf, split_slash, List.filter_append]

theorem partsOf_trimOf (s : String) : partsOf (trimOf '/' s) = partsOf s :=
  filter_split_trimOf rfl '/' s

theorem partsOf_of_isName {s : String} (h : IsName s) : partsOf s = [s] := by
  have hsplit : split '/' s = [s] := by
    rw [split, splitChars_of_not_mem h.noSlash, List.map_singleton, String.ofList_toList]
  rw [partsOf, hsplit, List.filter_cons, bne_iff_ne.mpr h.nonempty, bne_iff_ne.mpr h.undotted]
  rfl

/-- names behind a text are its last parts -/
theorem partsOf_slashed (s : String) {names : List String} (h : ∀ n ∈ names, IsName n) :
    partsOf (s ++ slashed names) = partsOf s ++ names := by
  induction names generalizing s with
  | nil =>
    rw [slashed, List.map_nil, String.join_nil, String.append_empty, List.append_nil]
  | cons n names ih =>
    rw [slashed_cons, ← String.append_assoc, ← String.append_assoc,
      ih _ fun m hm => h m (List.mem_cons_of_mem n hm), partsOf_slash,
      partsOf_of_isName (h n List.mem_cons_self), List.append_assoc, List.singleton_append]

/-- a text that starts with something other than a slash is read as a relative path -/
theorem anchorOf_cons {c : Char} (hc : c ≠ '/') (cs : List Char) : anchorOf (c :: cs) = .here := by
  unfold anchorOf
  split
  · rename_i h
    exact absurd (List.cons.inj h).1 hc
  · rename_i h
    exact absurd (List.cons.inj h).1 hc
  · rename_i h
    exact absurd (List.cons.inj h).1 hc
  · rfl

theorem ofText_of_isName {s : String} (h : IsName s) : ofText s = ⟨.here, [s]⟩ := by
  obtain ⟨c, cs, hs⟩ := List.exists_cons_of_ne_nil (mt String.toList_eq_nil_iff.mp h.nonempty)
  have hc : c ≠ '/' := fun hc => h.noSlash (by rw [hs, hc]; exact List.mem_cons_self)
  rw [ofText, partsOf_of_isName h, hs, anchorOf_cons hc]

theorem anchorOf_slashed {s : String} (hs : ∃ c ∈ s.toList.head?, c ≠ '/') (names : List String) :
    anchorOf (s ++ slashed names).toList = .here := by
  obtain ⟨c, hhead, hc⟩ := hs
  obtain ⟨cs, hcs⟩ := List.head?_eq_some_iff.mp hhead
  rw [String.toList_append, hcs, List.cons_append]
  exact anchorOf_cons hc _

/-- names behind an empty text are read as an absolute path -/
theorem anchorOf_slashed_empty {name : String} (h : IsName name) (names : List String) :
    anchorOf ("" ++ slashed (name :: names)).toList = .root := by
  obtain ⟨c, cs, hname⟩ := List.exists_cons_of_ne_nil (mt String.toList_eq_nil_iff.mp h.nonempty)
  have hc : c ≠ '/' := fun hc => h.noSlash (by rw [hname, hc]; exact List.mem_cons_self)
  rw [slashed_cons, String.empty_append, String.toList_append, String.toList_append, hname]
  show anchorOf ('/' :: c :: _) = .root
  unfold anchorOf
  split
  · rfl
  · rename_i heq
    exact absurd (List.cons.inj (List.cons.inj heq).2).1 hc
  · rfl
  · rename_i hother
    exact absurd rfl (hother _)

/-! ### Places -/

theorem text_ofPlace (place : Place) : (ofPlace place).text = "/" ++ Text.join "/" place := by
  rw [text]
  refine if_neg fun hempty => ?_
  rw [String.isEmpty_iff, String.append_eq_empty_iff] at hempty
  have hslash : "/" = "" := hempty.1
  exact absurd hslash (by decide)

theorem foldl_step {names : List String} (h : ".." ∉ names) (place : Place) :
    names.foldl step place = place ++ names := by
  induction names generalizing place with
  | nil => exact (List.append_nil place).symm
  | cons n names ih =>
    rw [List.mem_cons, not_or] at h
    rw [List.foldl_cons, ih h.2, step, if_neg (Ne.symm h.1), List.append_assoc,
      List.singleton_append]

theorem dots_not_mem_foldl_step {place : Place} (h : ".." ∉ place) (names : List String) :
    ".." ∉ names.foldl step place := by
  induction names generalizing place with
  | nil => exact h
  | cons n names ih =>
    rw [List.foldl_cons]
    refine ih ?_
    rw [step]
    by_cases hn : n = ".."
    · rw [if_pos hn]
      exact fun hmem => h (List.dropLast_subset place hmem)
    · rw [if_neg hn, List.mem_append, List.mem_singleton]
      exact fun hmem => hmem.elim h (fun heq => hn heq.symm)

theorem resolved_ofPlace {place : Place} (h : ".." ∉ place) (here : Place) :
    (ofPlace place).resolved here = place := foldl_step h []

/-- no place holds double dots -/
theorem dots_not_mem_resolved {here : Place} (h : ".." ∉ here) (p : Path) :
    ".." ∉ p.resolved here := by
  refine dots_not_mem_foldl_step ?_ p.parts
  rw [start]
  cases p.anchor with
  | here => exact h
  | root => exact List.not_mem_nil
  | doubleRoot => exact List.not_mem_nil

end EndpointScaffold.Files.Path
