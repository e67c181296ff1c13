import EndpointScaffold.Proofs.Naming.Plural
import EndpointScaffold.Proofs.Plain.ClassNames
import EndpointScaffold.Proofs.Project.Configured

/-!
# Names of entities

An entity is called what its class is called, and a class has a name of the source language: plain
classes are named by words, any other by characters of names. So the name of an entity can stand in
a path.

* `isStemChar_of_mem_declaredClasses` the names of classes, whichever reader has read them;
* `isStem_of_entities` the names of the entities of a project.
-/

namespace EndpointScaffold

open CSharp Entity Files Log Naming Schema Text

/-! ### Classes -/

namespace CSharp

theorem isStemChar_of_isNameChar {c : Char} (h : isNameChar c = true) : isStemChar c = true := by
  rw [isStemChar_iff]
  refine ⟨?_, ?_, ?_⟩ <;> rintro rfl <;> exact absurd h (by decide)

theorem isStemChar_of_isWordPart {c : Char} (h : Plain.isWordPart c = true) :
    isStemChar c = true := isStemChar_of_isIdentifierPart h

theorem isStemChar_of_mem_declaredClasses {source : String} {c : Option String × Tree}
    (hc : c ∈ (Tree.ofSource source).declaredClasses) :
    ∀ d ∈ (c.2.partText .name).toList, isStemChar d = true := by
  intro d hd
  rw [Tree.ofSource] at hc
  cases hplain : Plain.tree? source with
  | some t =>
    rw [hplain] at hc
    exact isStemChar_of_isWordPart (Plain.isWordText_of_tree? hplain hc d hd)
  | none =>
    rw [hplain] at hc
    dsimp only [Dialect.tree] at hc
    split at hc
    · split at hc
      · rename_i hnamed
        exact isStemChar_of_isNameChar
          (List.all_eq_true.mp (List.all_eq_true.mp hnamed c hc) d hd)
      · exact absurd hc List.not_mem_nil
    · exact absurd hc List.not_mem_nil

/-- a class without a name is none -/
theorem isStem_of_mem_classes {source : String} {c : ClassDeclaration}
    (hc : c ∈ (Tree.ofSource source).classes) : IsStem c.name := by
  obtain ⟨⟨space, t⟩, ht, hclass⟩ := List.mem_filterMap.mp hc
  have hchars := isStemChar_of_mem_declaredClasses ht
  rw [Tree.class?] at hclass
  split at hclass
  · cases hclass
  · split at hclass
    · cases hclass
    · rename_i hne
      obtain ⟨body, -, rfl⟩ := Option.map_eq_some_iff.mp hclass
      exact ⟨fun hempty => hne (String.isEmpty_iff.mpr hempty), hchars⟩

end CSharp

/-! ### Entities -/

theorem Entity.isStem_of_ofSource {s : ScanSettings} {file : Option String} {source : String}
    {es : List Entity} (h : (ofSource s file source).value = .ok es) : ∀ e ∈ es, IsStem e.name := by
  intro e he
  obtain ⟨c, hc, hclass⟩ := mem_of_mapM_ok h he
  obtain ⟨ps, -, rfl⟩ := map_eq_ok hclass
  exact isStem_of_mem_classes (List.mem_filter.mp hc).1

theorem Entity.name_addRulesOf (rules : Fluent.RuleMap) (e : Entity) :
    (addRulesOf rules e).name = e.name := by
  rw [addRulesOf]
  split <;> rfl

namespace Project

theorem isStem_of_scan {d : Disk} {s : ScanSettings} {folder : Path} {es : List Entity}
    (h : (scan d s folder).value = .ok es) : ∀ e ∈ es, IsStem e.name := by
  intro e he
  obtain ⟨p, source, found, hfound, he⟩ := exists_source_of_scan d s h he
  exact Entity.isStem_of_ofSource hfound e he

theorem isStem_of_entities {d : Disk} {c : Config} {root : Path} {es : List Entity}
    (h : (entities d c root).value = .ok es) : ∀ e ∈ es, IsStem e.name := by
  obtain ⟨scanned, map, hscan, -, rfl⟩ := (entities_eq_ok_iff d).mp h
  intro e he
  obtain ⟨f, hf, rfl⟩ := List.mem_map.mp he
  rw [Entity.name_addRulesOf]
  exact isStem_of_scan hscan f hf

end Project

end EndpointScaffold
