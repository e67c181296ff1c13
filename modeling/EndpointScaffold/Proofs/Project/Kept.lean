import EndpointScaffold.Proofs.Project.Configured
import EndpointScaffold.Proofs.Validation.Accepted

/-!
# What is kept of a class

Of the declarations of a class that are public and columns, the first of each name is kept. A
declaration that is left out for another reason does not claim its name.

* `IsFirst`, `firsts` which declarations are kept, each judged by those before it;
* `columns_eq_firsts` one pass over the declarations keeps these;
* `KeepsFirst` what an entity has of them under each policy;
* `RepeatsNothing` no finding about a repeated name, whatever rules are added;
* `keepsFirst` all of this for every class and every scan.
-/

namespace EndpointScaffold.Entity

open CSharp Schema Text

/-! ### One declaration after others -/

/-- whether a declaration is kept that stands behind the declarations `before` -/
structure IsFirst (before : List PropertyDeclaration) (p : PropertyDeclaration) : Prop where
  isPublic : p.isPublic = true
  isScalar : verdictOf p = .scalar
  isNew : ∀ q ∈ before, q.isPublic = true → verdictOf q = .scalar → q.name ≠ p.name

variable {before ps : List PropertyDeclaration} {p : PropertyDeclaration} {seen : List String}

theorem isEligible_iff : isEligible p = true ↔ p.isPublic = true ∧ verdictOf p = .scalar := by
  rw [isEligible, Bool.and_eq_true, TypeVerdict.isColumn, beq_iff_eq]

theorem isFirst_iff : IsFirst before p ↔
    isEligible p = true ∧ p.name ∉ (before.filter isEligible).map PropertyDeclaration.name := by
  rw [isEligible_iff]
  constructor
  · intro h
    refine ⟨⟨h.isPublic, h.isScalar⟩, fun hmem => ?_⟩
    obtain ⟨q, hq, hname⟩ := List.mem_map.mp hmem
    obtain ⟨hq, heligible⟩ := List.mem_filter.mp hq
    obtain ⟨hpublic, hscalar⟩ := isEligible_iff.mp heligible
    exact h.isNew q hq hpublic hscalar hname
  · rintro ⟨⟨hpublic, hscalar⟩, hnew⟩
    refine ⟨hpublic, hscalar, fun q hq hqpublic hqscalar hname => hnew ?_⟩
    exact List.mem_map.mpr
      ⟨q, List.mem_filter.mpr ⟨hq, isEligible_iff.mpr ⟨hqpublic, hqscalar⟩⟩, hname⟩

instance (before : List PropertyDeclaration) : DecidablePred (IsFirst before) := fun _ =>
  decidable_of_iff' _ isFirst_iff

/-- the declarations that are kept, in source order -/
def firsts (ps : List PropertyDeclaration) : List PropertyDeclaration :=
  ps.zipIdx.filterMap fun x => if IsFirst (ps.take x.2) x.1 then some x.1 else none

theorem firsts_concat :
    firsts (ps ++ [p]) = firsts ps ++ if IsFirst ps p then [p] else [] := by
  have hfront : ∀ x ∈ ps.zipIdx, (ps ++ [p]).take x.2 = ps.take x.2 := by
    intro x hx
    have hlt : x.2 < ps.length := (List.mem_zipIdx' hx).1
    exact List.take_append_of_le_length hlt.le
  have hback : (ps ++ [p]).take (0 + ps.length) = ps := by
    rw [Nat.zero_add, List.take_left]
  rw [firsts, List.zipIdx_append, List.filterMap_append,
    List.filterMap_congr fun x hx => by rw [hfront x hx]]
  show firsts ps ++ List.filterMap _ [(p, 0 + ps.length)] = _
  congr 1
  by_cases h : IsFirst ps p
  · rw [if_pos h, List.filterMap_cons_some (by rw [hback, if_pos h]), List.filterMap_nil]
  · rw [if_neg h, List.filterMap_cons_none (by rw [hback, if_neg h]), List.filterMap_nil]

theorem firstOfEachName_concat :
    firstOfEachName seen (ps ++ [p]) = firstOfEachName seen ps ++
      if p.name ∈ ps.map PropertyDeclaration.name ++ seen then [] else [p] := by
  induction ps generalizing seen with
  | nil =>
    show (if seen.contains p.name then [] else [p]) = if p.name ∈ seen then [] else [p]
    exact if_congr List.contains_iff_mem rfl rfl
  | cons q ps ih =>
    rw [List.cons_append, firstOfEachName, firstOfEachName, ih, ih]
    by_cases hq : seen.contains q.name = true
    · -- the name of `q` is among the taken ones already
      have hmem : p.name ∈ ps.map PropertyDeclaration.name ++ seen ↔
          p.name ∈ (q :: ps).map PropertyDeclaration.name ++ seen := by
        rw [List.map_cons, List.cons_append, List.mem_cons, iff_or_self]
        intro heq
        rw [heq]
        exact List.mem_append_right _ (List.contains_iff_mem.mp hq)
      rw [if_pos hq, if_pos hq, if_congr hmem rfl rfl]
    · have hmem : p.name ∈ ps.map PropertyDeclaration.name ++ q.name :: seen ↔
          p.name ∈ (q :: ps).map PropertyDeclaration.name ++ seen := by
        rw [List.map_cons, List.cons_append, List.mem_cons, List.mem_append, List.mem_cons,
          List.mem_append, or_left_comm]
      rw [if_neg hq, if_neg hq, if_congr hmem rfl rfl]
      rfl

theorem columns_concat : columns (ps ++ [p]) = columns ps ++ if IsFirst ps p then [p] else [] := by
  unfold columns
  rw [List.filter_append]
  by_cases heligible : isEligible p = true
  · rw [List.filter_singleton, heligible, cond_true, firstOfEachName_concat, List.append_nil]
    by_cases hnew : p.name ∈ (ps.filter isEligible).map PropertyDeclaration.name
    · rw [if_pos hnew, if_neg fun h => (isFirst_iff.mp h).2 hnew]
    · rw [if_neg hnew, if_pos (isFirst_iff.mpr ⟨heligible, hnew⟩)]
  · rw [if_neg fun h => heligible (isFirst_iff.mp h).1, List.filter_singleton,
      Bool.eq_false_iff.mpr heligible, cond_false, List.append_nil, List.append_nil]

/-- the names taken on the way are those of the declarations that were kept -/
theorem columns_eq_firsts (ps : List PropertyDeclaration) : columns ps = firsts ps := by
  induction ps using List.reverseRecOn with
  | nil => rfl
  | append_singleton ps p ih => rw [columns_concat, firsts_concat, ih]

/-! ### One entity under both policies -/

/-- the properties that are made of declarations -/
structure IsSelected (policy : NullabilityPolicy) (ps : List PropertyDeclaration)
    (kept : List Property) : Prop where
  declared : kept.map (fun q => (q.name, q.type, q.attributes)) =
    (firsts ps).map fun p => (p.name, p.type, p.attributes)
  noKeys : ∀ q ∈ kept, q.isPrimaryKey = false
  nullable : ∀ q ∈ kept, q.isNullable = Entity.isNullable knownScalars policy q.type
  distinct : (kept.map Property.name).Nodup
  single : ∀ q ∈ kept, ∀ start ∈ collectionStarts, ¬ start.toList <+: q.type.toList

/-- properties that differ at most in whether they may be null; what may if strictly read, may -/
def PoliciesAgree (preserve strict : List Property) : Prop :=
  List.Forall₂ (fun a b =>
    b = { a with isNullable := b.isNullable } ∧ (b.isNullable = true → a.isNullable = true))
    preserve strict

/-- the entities that the declarations make of a class, one under each policy -/
structure KeepsFirst (file : Option String) (c : ClassDeclaration) (ps : List PropertyDeclaration)
    (made : NullabilityPolicy → Entity) : Prop where
  makes : ∀ policy, ofDeclarations policy file c ps = .ok (made policy)
  header : ∀ policy, made policy = ⟨c.name, (made policy).properties, file, c.namespaceName⟩
  selected : ∀ policy, IsSelected policy ps (made policy).properties
  policies : PoliciesAgree (made .preserve).properties (made .strict).properties

theorem isEligible_of_mem_columns (h : p ∈ columns ps) : isEligible p = true :=
  (List.mem_filter.mp (mem_firstOfEachName h).1).2

theorem not_isPrefix_of_isEligible (h : isEligible p = true) {start : String}
    (hstart : start ∈ collectionStarts) : ¬ start.toList <+: p.type.toList := by
  intro hprefix
  have hany : collectionStarts.any (beginsWith p.type) = true :=
    List.any_eq_true.mpr ⟨start, hstart, List.isPrefixOf_iff_prefix.mpr hprefix⟩
  have hscalar : TypeVerdict.of knownScalars collectionStarts p.type = .scalar :=
    (isEligible_iff.mp h).2
  rw [TypeVerdict.of, if_pos hany] at hscalar
  cases hscalar

theorem isSelected_columns (policy : NullabilityPolicy) (ps : List PropertyDeclaration) :
    IsSelected policy ps ((columns ps).map (columnFor policy)) where
  declared := by
    rw [List.map_map, columns_eq_firsts]
    rfl
  noKeys := List.forall_mem_map.mpr fun _ _ => rfl
  nullable := List.forall_mem_map.mpr fun _ _ => rfl
  distinct := nodup_columns policy ps
  single := List.forall_mem_map.mpr fun _ hp _ hstart =>
    not_isPrefix_of_isEligible (isEligible_of_mem_columns hp) hstart

theorem policiesAgree_columns (ps : List PropertyDeclaration) :
    PoliciesAgree ((columns ps).map (columnFor .preserve))
      ((columns ps).map (columnFor .strict)) := by
  have hpreserve : ∀ type, Entity.isNullable knownScalars .preserve type = true := by
    intro type
    rw [Entity.isNullable, beq_self_eq_true, Bool.or_true, Bool.true_or]
  unfold PoliciesAgree
  rw [List.forall₂_map_left_iff, List.forall₂_map_right_iff, List.forall₂_same]
  exact fun p _ => ⟨rfl, fun _ => hpreserve p.type⟩

end EndpointScaffold.Entity

/-!
## Names of scanned properties

No name stands twice in a scanned entity. Rules change no names, so no check finds one repeated.
-/

namespace EndpointScaffold.Validation

open Entity Project

/-- no finding says that a property is declared more than once -/
def RepeatsNothing (es : List Entity) : Prop :=
  ∀ f ∈ (propertyProblems es).map Problem.finding, f.code ≠ "DUPLICATE_PROPERTY_NAME"

theorem code_of_mem_problemsOfProperties {entity : String} {taken names : List String}
    (hnames : names.Nodup) (hnew : ∀ name ∈ names, name ∉ taken) {p : Problem}
    (hp : p ∈ problemsOfProperties entity taken names) : p.code ≠ "DUPLICATE_PROPERTY_NAME" := by
  induction names generalizing taken with
  | nil => exact absurd hp List.not_mem_nil
  | cons name names ih =>
    have hnodup := List.nodup_cons.mp hnames
    rw [List.forall_mem_cons] at hnew
    rw [problemsOfProperties, List.mem_append] at hp
    rcases hp with hp | hp
    · rcases eq_of_mem_problemsOfProperty hp with ⟨-, htaken⟩ | rfl | rfl
      · exact absurd htaken hnew.1
      · show "INVALID_PROPERTY_NAME" ≠ _
        decide
      · show "PROPERTY_NAMED_AFTER_ENTITY" ≠ _
        decide
    · refine ih hnodup.2 (fun other hother hmem => ?_) hp
      rcases List.mem_cons.mp hmem with heq | hmem
      · exact hnodup.1 (heq ▸ hother)
      · exact hnew.2 other hother hmem

theorem repeatsNothing_of_nodup {es : List Entity} (h : ∀ e ∈ es, e.propertyNames.Nodup) :
    RepeatsNothing es := by
  intro f hf
  obtain ⟨p, hp, rfl⟩ := List.mem_map.mp hf
  obtain ⟨e, he, hp⟩ := List.mem_flatMap.mp hp
  exact code_of_mem_problemsOfProperties (h e he) (fun _ _ => List.not_mem_nil) hp

theorem repeatsNothing_merge (rules : Fluent.RuleMap) {es : List Entity}
    (h : ∀ e ∈ es, IsMade e) : RepeatsNothing (merge rules es).value := by
  apply repeatsNothing_of_nodup
  intro merged hmerged
  obtain ⟨e, he, rfl⟩ := List.mem_map.mp hmerged
  rw [propertyNames_addRulesOf]
  exact (isScanned_of_isMade (h e he)).names

/-- a class keeps the first public column of each name, under either policy alike; so no name is
found repeated in what a scan yields, whatever rules are added -/
theorem keepsFirst :
    (∀ (file : Option String) (c : CSharp.ClassDeclaration) (ps : List CSharp.PropertyDeclaration),
      (∀ p ∈ ps, isWhole p = true) → ∃ made, KeepsFirst file c ps made) ∧
    (∀ (d : Files.Disk) (s : ScanSettings) (folder : Files.Path) (es : List Entity),
      (scan d s folder).value = .ok es → ∀ e ∈ es, IsMade e) ∧
    ∀ (rules : Fluent.RuleMap) (es : List Entity),
      (∀ e ∈ es, IsMade e) → RepeatsNothing (merge rules es).value := by
  refine ⟨fun file c ps hwhole => ?_, fun d s folder es h => isMade_of_scan d s h,
    fun rules es h => repeatsNothing_merge rules h⟩
  have hcolumns : ∀ p ∈ columns ps, isWhole p = true := fun p hp =>
    hwhole p (List.mem_filter.mp (mem_firstOfEachName hp).1).1
  refine ⟨fun policy => ⟨c.name, (columns ps).map (columnFor policy), file, c.namespaceName⟩,
    ?_, fun _ => rfl, fun policy => isSelected_columns policy ps, policiesAgree_columns ps⟩
  exact fun policy => ofDeclarations_of_isWhole policy hcolumns

def order : CSharp.ClassDeclaration :=
  ⟨"Order", ["public"], [], some "Shop", .missing none .other, by decide⟩

/-- a private, a navigation and two columns of one name, a collection and an array -/
def shadowed : List CSharp.PropertyDeclaration := [
  ⟨"Total", "decimal", ["private"], ["Hidden"]⟩,
  ⟨"Total", "Money", ["public"], []⟩,
  ⟨"Total", "long", ["public"], ["Range(0, 9)", "Required"]⟩,
  ⟨"Total", "int", ["public"], []⟩,
  ⟨"Lines", "List<Line>", ["public"], []⟩,
  ⟨"Tag", "byte[]", ["public"], []⟩]

theorem keepsFirst_shadowed :
    (∃ made, KeepsFirst (some "Order.cs") order shadowed made ∧
      RepeatsNothing (merge [("Order", [("Total", ["HasKey()"])])]
        [made .preserve, made .strict]).value) ∧
    firsts shadowed = [
      ⟨"Total", "long", ["public"], ["Range(0, 9)", "Required"]⟩,
      ⟨"Tag", "byte[]", ["public"], []⟩] ∧
    ∀ e ∈ [⟨"A", [⟨"Id", "int", ["Key"], false, true⟩], some "Models/A.cs", none⟩], IsMade e := by
  obtain ⟨made, hmade⟩ := keepsFirst.1 (some "Order.cs") order shadowed (by decide)
  have hall : ∀ e ∈ [made .preserve, made .strict], IsMade e := by
    rw [List.forall_mem_cons, List.forall_mem_singleton]
    exact ⟨⟨_, _, _, _, hmade.makes .preserve⟩, ⟨_, _, _, _, hmade.makes .strict⟩⟩
  exact ⟨⟨made, hmade, keepsFirst.2.2 _ _ hall⟩, by decide,
    keepsFirst.2.1 _ _ _ _ scan_twiceConfigured⟩

end EndpointScaffold.Validation
