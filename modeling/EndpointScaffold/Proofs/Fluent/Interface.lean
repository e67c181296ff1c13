import EndpointScaffold.Fluent.Configured
import EndpointScaffold.Proofs.Text.Spacing

/-!
# The interface among base types

The first base type that is read as `IEntityTypeConfiguration<T>` decides which entity a class
configures. Its qualifier may have names and points only, so that it is overlooked behind `global::`,
and of its argument only what stands before the first comma is kept.

* `genericParts?_eq_some_iff` what is read as a name with arguments;
* `Implements` base types that are read as the interface, `Decides` the first of them;
* `implements_qualified_iff` which qualified base types these are;
* `entityFound` the entity, and when it is the whole argument.
-/

namespace EndpointScaffold.Fluent

open Text

/-- names and points, the last of which is a point; a single point is none -/
structure IsQualifier (q : List Char) : Prop where
  parts : ∀ c ∈ q, isWordChar c = true ∨ c = '.'
  pointed : ∀ c ∈ q.getLast?, c = '.'
  length_ne : q.length ≠ 1

def bracketed (arguments : List Char) : List Char := enclosed '<' '>' arguments

/-- a base type that is read as the interface with these arguments -/
def Implements (base : String) (arguments : List Char) : Prop :=
  ∃ q, IsQualifier q ∧ Spelled [q ++ configurationInterface, bracketed arguments] base.toList

/-- the first base type that is read as the interface has these arguments -/
def Decides (bases : List String) (arguments : List Char) : Prop :=
  ∃ front base back, bases = front ++ base :: back ∧ Implements base arguments ∧
    ∀ b ∈ front, ∀ as, ¬ Implements b as

/-- what is kept of arguments -/
def firstArgument (arguments : List Char) : List Char :=
  dropAround isBlank (arguments.takeWhile (· != ','))

/-- a qualifier as it is written, maybe from the global namespace on -/
def qualification (isGlobal : Bool) (spaces : List (List Char)) : List Char :=
  (if isGlobal then "global::".toList else []) ++ spaces.flatMap (· ++ ['.'])

/-! ### Generic types -/

variable {cs q name arguments : List Char}

theorem isFirm_bracketed (arguments : List Char) : IsFirm (bracketed arguments) :=
  isFirm_enclosed (by decide) (by decide) arguments

theorem bracketed_iff {inside : List Char} : '<' :: inside = bracketed arguments ↔
    inside.getLast? = some '>' ∧ inside.dropLast = arguments := by
  rw [bracketed, enclosed, List.cons.injEq, and_iff_right rfl, eq_concat_iff]

theorem isBlank_of_part {c : Char} (h : isWordChar c = true ∨ c = '.') : isBlank c = false := by
  rcases h with h | rfl
  · exact isBlank_of_isWordChar h
  · decide

/-- a qualified name is taken apart behind its last point -/
theorem qualified_iff : (∃ q, IsQualifier q ∧ cs = q ++ name) ∧ (∀ c ∈ name, isWordChar c = true) ↔
    (∀ c ∈ cs, isWordChar c = true ∨ c = '.') ∧ name = (cs.reverse.takeWhile isWordChar).reverse ∧
      (cs.take (cs.length - name.length)).length ≠ 1 := by
  constructor
  · rintro ⟨⟨q, hq, rfl⟩, hname⟩
    have hpoint : ∀ c ∈ q.reverse.head?, isWordChar c = false := by
      rw [List.head?_reverse]
      intro c hc
      rw [hq.pointed c hc]
      decide
    refine ⟨List.forall_mem_append.2 ⟨hq.parts, fun c hc => .inl (hname c hc)⟩, ?_, ?_⟩
    · rw [List.reverse_append, takeWhile_run (fun c hc => hname c (List.mem_reverse.1 hc)) hpoint,
        List.reverse_reverse]
    · rw [List.length_append, Nat.add_sub_cancel, List.take_left]
      exact hq.length_ne
  · rintro ⟨hparts, rfl, hlength⟩
    have hsplit := List.takeWhile_append_dropWhile (p := isWordChar) (l := cs.reverse)
    have hcs : cs = (cs.reverse.dropWhile isWordChar).reverse ++
        (cs.reverse.takeWhile isWordChar).reverse := by
      rw [← List.reverse_append, hsplit, List.reverse_reverse]
    have hmem : ∀ c ∈ (cs.reverse.dropWhile isWordChar).reverse, c ∈ cs := fun c hc =>
      hcs ▸ List.mem_append_left _ hc
    refine ⟨⟨_, ⟨fun c hc => hparts c (hmem c hc), fun c hc => ?_, ?_⟩, hcs⟩,
      fun c hc => List.mem_takeWhile_imp (List.mem_reverse.1 hc)⟩
    · refine (hparts c (hmem c (List.mem_of_mem_getLast? hc))).resolve_left ?_
      rw [List.getLast?_reverse] at hc
      rw [head?_dropWhile isWordChar _ c hc]
      exact Bool.false_ne_true
    · have hlen := congrArg List.length hcs
      rw [List.length_append] at hlen
      rwa [List.length_take, hlen, Nat.add_sub_cancel, Nat.min_eq_left (Nat.le_add_right _ _)]
        at hlength

theorem isFirm_qualified (hq : IsQualifier q) (hname : ∀ c ∈ name, isWordChar c = true)
    (hne : name ≠ []) : IsFirm (q ++ name) :=
  isFirm_of_forall (List.append_ne_nil_of_right_ne_nil q hne) fun c hc =>
    isBlank_of_part ((qualified_iff.1 ⟨⟨q, hq, rfl⟩, hname⟩).1 c hc)

theorem forall_isFirm_generic (hq : IsQualifier q) (hname : ∀ c ∈ name, isWordChar c = true)
    (hne : name ≠ []) : ∀ t ∈ [q ++ name, bracketed arguments], IsFirm t := by
  simp only [List.forall_mem_cons]
  exact ⟨isFirm_qualified hq hname hne, isFirm_bracketed arguments, nofun⟩

/-- what stands before the first bracket and behind it, if both are as they should be -/
def checkedParts? (left inside : List Char) : Option (List Char × List Char) :=
  let name := (left.reverse.takeWhile isWordChar).reverse
  let qualifier := left.take (left.length - name.length)
  if inside.getLast? = some '>' && !name.isEmpty
      && left.all (fun c => isWordChar c || c == '.') && qualifier.length != 1 then
    some (name, inside.dropLast)
  else none

theorem genericParts?_eq (cs : List Char) : genericParts? cs =
    match (dropAround isBlank cs).dropWhile (· != '<') with
    | _ :: inside =>
      checkedParts? (dropEndWhile isBlank ((dropAround isBlank cs).takeWhile (· != '<'))) inside
    | [] => none := rfl

theorem checkedParts?_eq_some_iff {left inside : List Char} :
    checkedParts? left inside = some (name, arguments) ↔
      name ≠ [] ∧ ((∃ q, IsQualifier q ∧ left = q ++ name) ∧ ∀ c ∈ name, isWordChar c = true) ∧
        '<' :: inside = bracketed arguments := by
  rw [qualified_iff, bracketed_iff]
  simp only [checkedParts?, Option.ite_none_right_eq_some, Option.some.injEq, Prod.mk.injEq,
    Bool.and_eq_true, Bool.or_eq_true, Bool.not_eq_true', List.all_eq_true, decide_eq_true_eq,
    bne_iff_ne, beq_iff_eq, List.isEmpty_eq_false_iff]
  constructor
  · rintro ⟨⟨⟨⟨hlast, hne⟩, hparts⟩, hlength⟩, rfl, hinside⟩
    exact ⟨hne, ⟨hparts, rfl, hlength⟩, hlast, hinside⟩
  · rintro ⟨hne, ⟨hparts, rfl, hlength⟩, hlast, hinside⟩
    exact ⟨⟨⟨⟨hlast, hne⟩, hparts⟩, hlength⟩, rfl, hinside⟩

/-- the first bracket parts a text -/
theorem genericParts?_of_cut {left blanks : List Char} (hleft : IsFirm left) (hbracket : '<' ∉ left)
    (hblanks : AreBlanks blanks)
    (hcs : dropAround isBlank cs = left ++ blanks ++ bracketed arguments) :
    genericParts? cs = checkedParts? left (arguments ++ ['>']) := by
  have hrun : ∀ c ∈ left ++ blanks, (c != '<') = true := by
    intro c hc
    rw [bne_iff_ne]
    rintro rfl
    rcases List.mem_append.1 hc with hc | hc
    · exact hbracket hc
    · exact absurd (hblanks _ hc) (by decide)
  have hstop : ∀ c ∈ (bracketed arguments).head?, (c != '<') = false := by
    rintro c hc
    obtain rfl := Option.some.inj hc
    rfl
  rw [genericParts?_eq, hcs, takeWhile_run hrun hstop, dropWhile_run hrun hstop,
    dropEndWhile_append hblanks hleft.last]
  rfl

/-- a generic type is a qualified name and arguments in brackets -/
theorem genericParts?_eq_some_iff : genericParts? cs = some (name, arguments) ↔
    name ≠ [] ∧ (∀ c ∈ name, isWordChar c = true) ∧
      ∃ q, IsQualifier q ∧ Spelled [q ++ name, bracketed arguments] cs := by
  rw [genericParts?_eq]
  constructor
  · intro h
    have hcs := List.takeWhile_append_dropWhile (p := (· != '<')) (l := dropAround isBlank cs)
    have hfirst := head?_dropWhile (· != '<') (dropAround isBlank cs)
    obtain ⟨blanks, hblanks, hleft⟩ :=
      exists_dropEndWhile isBlank ((dropAround isBlank cs).takeWhile (· != '<'))
    split at h
    · next c inside hinside =>
      rw [hinside] at hcs hfirst
      obtain rfl : c = '<' := by simpa using hfirst c rfl
      obtain ⟨hne, ⟨⟨q, hq, hqualified⟩, hname⟩, hbrackets⟩ := checkedParts?_eq_some_iff.1 h
      rw [hleft, hqualified, hbrackets] at hcs
      refine ⟨hne, hname, q, hq, (spelled_iff_dropAround (List.cons_ne_nil _ _)
        (forall_isFirm_generic hq hname hne)).2 ?_⟩
      exact ⟨[], blanks ++ bracketed arguments, areBlanks_nil,
        by rw [← hcs, List.append_assoc]; rfl, blanks, [], hblanks, (List.append_nil _).symm, rfl⟩
    · cases h
  · rintro ⟨hne, hname, q, hq, h⟩
    rw [spelled_iff_dropAround (List.cons_ne_nil _ _) (forall_isFirm_generic hq hname hne),
      begins_cons_iff_of_head (isFirm_qualified hq hname hne) (head?_dropAround isBlank cs)] at h
    obtain ⟨more, hcs, blanks, rest, hblanks, rfl, hrest⟩ := h
    obtain rfl : rest = [] := hrest
    have hparts := (qualified_iff.1 ⟨⟨q, hq, rfl⟩, hname⟩).1
    have hbracket : '<' ∉ q ++ name := fun hmem => absurd (hparts _ hmem) (by decide)
    rw [List.append_nil, ← List.append_assoc] at hcs
    rw [← genericParts?_eq,
      genericParts?_of_cut (isFirm_qualified hq hname hne) hbracket hblanks hcs]
    exact checkedParts?_eq_some_iff.2 ⟨hne, ⟨⟨q, hq, rfl⟩, hname⟩, rfl⟩

/-! ### Base types -/

variable {bases : List String} {base : String}

theorem implements_iff : Implements base arguments ↔
    genericParts? base.toList = some (configurationInterface, arguments) := by
  rw [genericParts?_eq_some_iff, and_iff_right (by decide), and_iff_right (by decide)]
  rfl

/-- no two arguments -/
theorem Implements.unique {as bs : List Char} (has : Implements base as) (hbs : Implements base bs) :
    as = bs := by
  have h := (implements_iff.1 has).symm.trans (implements_iff.1 hbs)
  exact (Prod.mk.inj (Option.some.inj h)).2

theorem any_genericParts?_iff :
    (genericParts? base.toList).any (·.1 == configurationInterface) = true ↔
      ∃ as, Implements base as := by
  simp only [Option.any_eq_true, implements_iff, beq_iff_eq, Prod.exists]
  constructor
  · rintro ⟨name, as, h, rfl⟩
    exact ⟨as, h⟩
  · rintro ⟨as, h⟩
    exact ⟨_, as, h, rfl⟩

theorem decides_iff : Decides bases arguments ↔
    (bases.filterMap fun b => genericParts? b.toList).find? (·.1 == configurationInterface) =
      some (configurationInterface, arguments) := by
  rw [List.find?_filterMap, Option.bind_eq_some_iff]
  simp only [List.find?_eq_some_iff_append, any_genericParts?_iff, Bool.not_eq_true',
    ← Bool.not_eq_true, not_exists]
  constructor
  · rintro ⟨front, base, back, rfl, hbase, hfront⟩
    exact ⟨base, ⟨⟨arguments, hbase⟩, front, back, rfl, hfront⟩, implements_iff.1 hbase⟩
  · rintro ⟨base, ⟨-, front, back, rfl, hfront⟩, hparts⟩
    exact ⟨front, base, back, rfl, implements_iff.2 hparts, hfront⟩

theorem Decides.unique {as bs : List Char} (has : Decides bases as) (hbs : Decides bases bs) :
    as = bs := by
  have h := (decides_iff.1 has).symm.trans (decides_iff.1 hbs)
  exact (Prod.mk.inj (Option.some.inj h)).2

theorem configuredEntity?_of_decides (h : Decides bases arguments) :
    configuredEntity? bases = if (firstArgument arguments).isEmpty then none
      else some (String.ofList (firstArgument arguments)) := by
  rw [configuredEntity?, decides_iff.1 h]
  rfl

theorem configuredEntity?_of_not_decides (h : ∀ as, ¬ Decides bases as) :
    configuredEntity? bases = none := by
  rw [configuredEntity?]
  split
  · rfl
  · next name as hparts =>
    have hname := List.find?_some
      (p := fun x : List Char × List Char => x.1 == configurationInterface) hparts
    obtain rfl : name = configurationInterface := beq_iff_eq.1 hname
    exact absurd (decides_iff.2 hparts) (h as)

theorem configuredEntity?_eq_some_iff {entity : String} :
    configuredEntity? bases = some entity ↔ ∃ arguments, Decides bases arguments ∧
      entity.toList = firstArgument arguments ∧ entity ≠ "" := by
  constructor
  · intro h
    by_cases hdecides : ∃ arguments, Decides bases arguments
    · obtain ⟨arguments, hdecides⟩ := hdecides
      rw [configuredEntity?_of_decides hdecides] at h
      obtain ⟨hne, h⟩ := Option.ite_none_left_eq_some.1 h
      obtain rfl := Option.some.inj h
      refine ⟨arguments, hdecides, String.toList_ofList, fun hempty => hne ?_⟩
      rw [List.isEmpty_iff, ← String.toList_ofList (l := firstArgument arguments), hempty]
      rfl
    · rw [configuredEntity?_of_not_decides (not_exists.1 hdecides)] at h
      cases h
  · rintro ⟨arguments, hdecides, hentity, hne⟩
    have hfilled : ¬ (firstArgument arguments).isEmpty = true := fun hempty => by
      rw [← hentity, List.isEmpty_iff] at hempty
      exact hne (String.toList_eq_nil_iff.1 hempty)
    rw [configuredEntity?_of_decides hdecides, if_neg hfilled, ← hentity, String.ofList_toList]

/-- a base type that is not read as the interface may as well not be there -/
theorem configuredEntity?_of_not_implements (h : ∀ as, ¬ Implements base as)
    (front back : List String) :
    configuredEntity? (front ++ base :: back) = configuredEntity? (front ++ back) := by
  have hother : ¬ (genericParts? base.toList).any (·.1 == configurationInterface) = true := by
    rw [any_genericParts?_iff]
    exact not_exists.2 h
  have hskip : (base :: back).find?
      (fun b => (genericParts? b.toList).any (·.1 == configurationInterface)) =
        back.find? fun b => (genericParts? b.toList).any (·.1 == configurationInterface) :=
    List.find?_cons_of_neg hother
  rw [configuredEntity?, configuredEntity?, List.find?_filterMap, List.find?_filterMap,
    List.find?_append, List.find?_append, hskip]

/-- nothing is lost of an argument without a comma, and something of any other -/
theorem firstArgument_eq_iff : firstArgument arguments = dropAround isBlank arguments ↔
    ',' ∉ arguments := by
  constructor
  · intro h hcomma
    have hkept : ',' ∈ firstArgument arguments := h ▸ (mem_dropAround (by decide) arguments).2 hcomma
    rw [firstArgument, mem_dropAround (by decide)] at hkept
    exact absurd (List.mem_takeWhile_imp hkept) (by decide)
  · intro hcomma
    have hall : ∀ c ∈ arguments, (c != ',') = true := fun c hc => by
      rw [bne_iff_ne]
      rintro rfl
      exact hcomma hc
    rw [firstArgument, List.takeWhile_eq_self_iff.2 hall]

/-! ### Qualified base types -/

section
variable {isGlobal : Bool} {spaces : List (List Char)}
  (hspaces : ∀ s ∈ spaces, s ≠ [] ∧ ∀ c ∈ s, isWordChar c = true)
include hspaces

theorem mem_qualification {c : Char} (h : c ∈ qualification isGlobal spaces) :
    (isWordChar c = true ∨ c = '.') ∨ isGlobal = true ∧ c = ':' := by
  rcases List.mem_append.1 h with h | h
  · cases isGlobal with
    | false => cases h
    | true =>
      have hmark : ∀ d ∈ "global::".toList, isWordChar d = true ∨ d = ':' := by decide
      exact (hmark c h).imp .inl fun h => ⟨rfl, h⟩
  · obtain ⟨s, hs, hc⟩ := List.mem_flatMap.1 h
    rcases List.mem_append.1 hc with hc | hc
    · exact .inl (.inl ((hspaces s hs).2 c hc))
    · exact .inl (.inr (List.mem_singleton.1 hc))

theorem isQualifier_qualification_iff :
    IsQualifier (qualification isGlobal spaces) ↔ isGlobal = false := by
  constructor
  · intro h
    rw [← Bool.not_eq_true]
    rintro rfl
    exact absurd (h.parts ':' (List.mem_append_left _ (by decide))) (by decide)
  · rintro rfl
    refine ⟨fun c hc => (mem_qualification hspaces hc).resolve_right nofun, fun c hc => ?_, ?_⟩
    · cases spaces using List.reverseRecOn with
      | nil => cases hc
      | append_singleton front s =>
        rw [qualification, List.flatMap_append, List.flatMap_singleton, ← List.append_assoc,
          ← List.append_assoc, List.getLast?_concat] at hc
        exact (Option.some.inj hc).symm
    · cases spaces with
      | nil => exact Nat.zero_ne_one
      | cons s rest =>
        have hlength := List.length_pos_of_ne_nil (hspaces s List.mem_cons_self).1
        rw [qualification, List.flatMap_cons, List.length_append, List.length_append,
          List.length_append, List.length_singleton]
        omega

/-- the interface behind any qualification is read, but not from the global namespace on -/
theorem implements_qualified_iff {found : List Char} (hbase : base.toList =
      qualification isGlobal spaces ++ configurationInterface ++ bracketed arguments) :
    Implements base found ↔ isGlobal = false ∧ found = arguments := by
  have hchars : ∀ c ∈ qualification isGlobal spaces ++ configurationInterface,
      isBlank c = false ∧ c ≠ '<' := by
    intro c hc
    rcases List.mem_append.1 hc with hc | hc
    · rcases mem_qualification hspaces hc with h | ⟨-, rfl⟩
      · exact ⟨isBlank_of_part h, fun heq => absurd (heq ▸ h) (by decide)⟩
      · decide
    · exact (show ∀ c ∈ configurationInterface, isBlank c = false ∧ c ≠ '<' by decide) c hc
  have hleft : IsFirm (qualification isGlobal spaces ++ configurationInterface) :=
    isFirm_of_forall (List.append_ne_nil_of_right_ne_nil _ (by decide)) fun c hc => (hchars c hc).1
  have htrim : dropAround isBlank base.toList =
      (qualification isGlobal spaces ++ configurationInterface) ++ [] ++ bracketed arguments := by
    rw [List.append_nil, hbase]
    have hfirm := hleft.append (isFirm_bracketed arguments)
    exact dropAround_eq_self hfirm.first hfirm.last
  rw [implements_iff, genericParts?_of_cut hleft (fun h => (hchars _ h).2 rfl) areBlanks_nil htrim,
    checkedParts?_eq_some_iff, ← isQualifier_qualification_iff hspaces]
  constructor
  · rintro ⟨-, ⟨⟨q, hq, h⟩, -⟩, hfound⟩
    rw [List.append_cancel_right h]
    exact ⟨hq, (bracketed_iff.1 hfound).2.symm.trans List.dropLast_concat⟩
  · rintro ⟨hq, rfl⟩
    exact ⟨by decide, ⟨⟨_, hq, rfl⟩, by decide⟩, rfl⟩

end

/-! ### Configured entities -/

/-- what a class with these base types configures -/
structure EntityFound (bases : List String) : Prop where
  /-- the first base type that is read as the interface decides, and nothing else does -/
  entity_iff : ∀ entity, configuredEntity? bases = some entity ↔
    ∃ arguments, Decides bases arguments ∧ entity.toList = firstArgument arguments ∧ entity ≠ ""
  /-- it is the whole argument if there is no comma in it -/
  whole_iff : ∀ arguments, Decides bases arguments → ¬ AreBlanks arguments →
    (configuredEntity? bases = some (String.ofList (dropAround isBlank arguments)) ↔
      ',' ∉ arguments)
  other : ∀ front base back, bases = front ++ base :: back → (∀ as, ¬ Implements base as) →
    configuredEntity? bases = configuredEntity? (front ++ back)
  eq_none : (∀ base ∈ bases, ∀ as, ¬ Implements base as) → configuredEntity? bases = none
  /-- the interface is read behind names and points, and overlooked from the global namespace on -/
  implements_iff : ∀ base ∈ bases, ∀ isGlobal spaces arguments,
    (∀ s ∈ spaces, s ≠ [] ∧ ∀ c ∈ s, isWordChar c = true) → base.toList =
      qualification isGlobal spaces ++ configurationInterface ++ bracketed arguments →
    ∀ found, Implements base found ↔ isGlobal = false ∧ found = arguments

theorem entityFound (bases : List String) : EntityFound bases where
  entity_iff _ := configuredEntity?_eq_some_iff
  whole_iff arguments h hfilled := by
    rw [configuredEntity?_eq_some_iff, ← firstArgument_eq_iff]
    constructor
    · rintro ⟨as, has, hentity, -⟩
      rw [h.unique has, ← hentity, String.toList_ofList, ← h.unique has]
    · intro hwhole
      refine ⟨arguments, h, ?_, fun hempty => hfilled ?_⟩
      · rw [String.toList_ofList, hwhole]
      · have hnil : dropAround isBlank arguments = [] := String.ofList_eq_empty_iff.1 hempty
        obtain ⟨front, back, hfront, hback, harguments⟩ := exists_dropAround arguments
        rw [hnil, List.append_nil] at harguments
        exact harguments ▸ hfront.append hback
  other front _ back hbases h := hbases ▸ configuredEntity?_of_not_implements h front back
  eq_none h := configuredEntity?_of_not_decides fun as ⟨_, base, _, hbases, hbase, _⟩ =>
    h base (hbases ▸ List.mem_append_right _ List.mem_cons_self) as hbase
  implements_iff base _ isGlobal spaces arguments hspaces hbase found :=
    implements_qualified_iff hspaces hbase

example : configuredEntity? ["Base", "IEntityTypeConfiguration<Dictionary<string, object>>"] =
    some "Dictionary<string" := by decide +kernel

end EndpointScaffold.Fluent
