import EndpointScaffold.Entity.OfClass
import EndpointScaffold.Proofs.Schema.Lists

/-!
# Columns of a class

The entity of a class is made whenever each of its columns has a name and a type.

* `columnOf_of_isWhole`, `columnOf_isOk_iff` one column;
* `mem_firstOfEachName`, `nodup_firstOfEachName` what is kept where names repeat;
* `ofSource_isOk_iff` when a text has entities.
-/

namespace EndpointScaffold.Entity

open CSharp Schema Text

/-! ### One column -/

/-- whether a property has a name and a type -/
def isWhole (p : PropertyDeclaration) : Bool := !p.name.isEmpty && !p.type.isEmpty

/-- the column of a property with a name and a type -/
def columnFor (policy : NullabilityPolicy) (p : PropertyDeclaration) : Property :=
  ⟨p.name, p.type, p.attributes, false, Entity.isNullable knownScalars policy p.type⟩

variable (policy : NullabilityPolicy)

theorem columnOf_of_isWhole {p : PropertyDeclaration} (h : isWhole p = true) :
    columnOf policy p = .ok (columnFor policy p) := by
  rw [isWhole, Bool.and_eq_true, Bool.not_eq_true', Bool.not_eq_true'] at h
  have hread : ∀ s : String, s.isEmpty = false → Reader.nonEmptyText (.text s) = .ok s := fun s hs =>
    if_neg (by rw [hs]; exact Bool.false_ne_true)
  rw [columnOf, hread _ h.1, hread _ h.2]
  rfl

theorem columnOf_isOk_iff {p : PropertyDeclaration} :
    (columnOf policy p).isOk = true ↔ isWhole p = true := by
  have hread : ∀ s : String, s.isEmpty = true →
      Reader.nonEmptyText (.text s) = .fault .tooShort (.text s) := fun s hs => if_pos hs
  refine ⟨fun hok => ?_, fun h => by rw [columnOf_of_isWhole policy h]; rfl⟩
  rw [isWhole, Bool.and_eq_true, Bool.not_eq_true', Bool.not_eq_true']
  constructor
  · refine Bool.eq_false_iff.mpr fun hname => ?_
    rw [columnOf, hread _ hname] at hok
    cases htype : Reader.nonEmptyText (.text p.type) <;> rw [htype] at hok <;>
      exact absurd hok Bool.false_ne_true
  · refine Bool.eq_false_iff.mpr fun htype => ?_
    rw [columnOf, hread _ htype] at hok
    cases hname : Reader.nonEmptyText (.text p.name) <;> rw [hname] at hok <;>
      exact absurd hok Bool.false_ne_true

/-! ### Repeated names -/

theorem mem_firstOfEachName {seen : List String} {ps : List PropertyDeclaration}
    {p : PropertyDeclaration} (hp : p ∈ firstOfEachName seen ps) : p ∈ ps ∧ p.name ∉ seen := by
  induction ps generalizing seen with
  | nil => exact absurd hp List.not_mem_nil
  | cons q ps ih =>
    rw [firstOfEachName] at hp
    by_cases hq : seen.contains q.name = true
    · rw [if_pos hq] at hp
      exact ⟨List.mem_cons_of_mem q (ih hp).1, (ih hp).2⟩
    · rw [if_neg hq, List.mem_cons] at hp
      rcases hp with rfl | hp
      · exact ⟨List.mem_cons_self, fun h => hq (List.contains_iff_mem.mpr h)⟩
      · exact ⟨List.mem_cons_of_mem q (ih hp).1, fun h => (ih hp).2 (List.mem_cons_of_mem _ h)⟩

/-- no name is kept twice -/
theorem nodup_firstOfEachName (seen : List String) (ps : List PropertyDeclaration) :
    ((firstOfEachName seen ps).map PropertyDeclaration.name).Nodup := by
  induction ps generalizing seen with
  | nil => exact List.nodup_nil
  | cons q ps ih =>
    rw [firstOfEachName]
    by_cases hq : seen.contains q.name = true
    · rw [if_pos hq]
      exact ih seen
    · rw [if_neg hq, List.map_cons, List.nodup_cons]
      refine ⟨fun hmem => ?_, ih _⟩
      obtain ⟨p, hp, hname⟩ := List.mem_map.mp hmem
      exact (mem_firstOfEachName hp).2 (hname ▸ List.mem_cons_self)

/-! ### Classes -/

theorem nodup_columns (ps : List PropertyDeclaration) :
    (((columns ps).map (columnFor policy)).map Property.name).Nodup := by
  rw [List.map_map]
  exact nodup_firstOfEachName [] _

theorem ofDeclarations_of_isWhole {file : Option String} {c : ClassDeclaration}
    {ps : List PropertyDeclaration} (h : ∀ p ∈ columns ps, isWhole p = true) :
    ofDeclarations policy file c ps =
      .ok ⟨c.name, (columns ps).map (columnFor policy), file, c.namespaceName⟩ := by
  rw [ofDeclarations, mapM_ok fun p hp => columnOf_of_isWhole policy (h p hp)]
  rfl

theorem ofDeclarations_isOk_iff {file : Option String} {c : ClassDeclaration}
    {ps : List PropertyDeclaration} :
    (ofDeclarations policy file c ps).isOk = true ↔ ∀ p ∈ columns ps, isWhole p = true := by
  have hcolumns : ((columns ps).mapM (columnOf policy)).isOk = true ↔
      ∀ p ∈ columns ps, isWhole p = true := by
    rw [mapM_isOk_iff]
    exact forall₂_congr fun p _ => columnOf_isOk_iff policy
  rw [← hcolumns, ofDeclarations]
  cases (columns ps).mapM (columnOf policy) <;> exact Iff.rfl

/-- an entity that some declarations make, of whichever class -/
def IsMade (e : Entity) : Prop :=
  ∃ policy file c ps, ofDeclarations policy file c ps = .ok e

theorem ofClass_of_isWhole {file : Option String} {c : ClassDeclaration}
    (h : ∀ p ∈ columns c.properties, isWhole p = true) :
    ofClass policy file c = .ok ⟨c.name, (columns c.properties).map (columnFor policy), file,
      c.namespaceName⟩ := ofDeclarations_of_isWhole policy h

theorem ofClass_isOk_iff {file : Option String} {c : ClassDeclaration} :
    (ofClass policy file c).isOk = true ↔ ∀ p ∈ columns c.properties, isWhole p = true :=
  ofDeclarations_isOk_iff policy

theorem sourceFile_of_ofClass {file : Option String} {c : ClassDeclaration} {e : Entity}
    (h : ofClass policy file c = .ok e) : e.sourceFile = file := by
  rw [ofClass, ofDeclarations] at h
  cases hcolumns : (columns c.properties).mapM (columnOf policy) with
  | error issues =>
    rw [hcolumns] at h
    cases h
  | ok ps =>
    rw [hcolumns] at h
    obtain rfl := Except.ok.inj h
    rfl

/-! ### Source texts -/

/-- whether each column of each entity of a text has a name and a type -/
def isFit (s : ScanSettings) (source : String) : Bool :=
  ((Tree.ofSource source).classes.filter (isEntity s.baseEntity)).all fun c =>
    (columns c.properties).all isWhole

/-- a text has entities exactly when each of their columns has a name and a type -/
theorem ofSource_isOk_iff {s : ScanSettings} {file : Option String} {source : String} :
    (ofSource s file source).value.isOk = true ↔ isFit s source = true := by
  rw [isFit, List.all_eq_true, ofSource, ofTree, ofClasses, mapM_isOk_iff]
  refine forall₂_congr fun c _ => ?_
  rw [ofClass_isOk_iff, List.all_eq_true]

theorem sourceFile_of_ofSource {s : ScanSettings} {file : Option String} {source : String}
    {es : List Entity} (h : (ofSource s file source).value = .ok es) {e : Entity} (he : e ∈ es) :
    e.sourceFile = file := by
  obtain ⟨c, -, hc⟩ := mem_of_mapM_ok h he
  exact sourceFile_of_ofClass s.nullability hc

end EndpointScaffold.Entity
