import EndpointScaffold.Entity.OfClass
import EndpointScaffold.Proofs.CSharp.Namespaces
import EndpointScaffold.Proofs.Schema.Lists
import EndpointScaffold.Proofs.Support.Readable

/-!
# Namespaces that mappers use

The mapper of an entity uses the namespace that was found around its class, unless it is in that
namespace itself. Only the innermost namespace is found, so a mapper names the one that the class is
declared in if no second one is around it.

* `Uses`, `uses_mapperText` the namespaces that a text uses;
* `IsDrawn` an entity with the class that it is made of;
* `NamespacesFound`, `namespacesFound` the namespaces of all classes of a text, and of its mappers.
-/

namespace EndpointScaffold.Support

open CSharp Schema Text

variable {c : Config} {e : Entity} {t : Tree}

/-- the namespaces that a text uses, in the order of its lines -/
def Uses (readable : Prop) (text : String) (spaces : List String) : Prop :=
  ∃ lines, HasLines readable text lines ∧
    lines.filterMap (after? "using ") = spaces.map (· ++ ";")

/-! ### Mappers -/

theorem filterMap_using {lines : List String}
    (h : ∀ line ∈ lines, line.toList.head? ≠ some 'u') :
    lines.filterMap (after? "using ") = [] :=
  List.filterMap_eq_nil_iff.2 fun line hline => after?_eq_none_of_head (by decide) (h line hline)

theorem ne_of_isInner {line : String} (h : IsInner line) : line.toList.head? ≠ some 'u' :=
  fun hu => absurd (h 'u' hu) (by decide)

theorem filterMap_using_header (uses : List String) (space : String) :
    (header uses space).filterMap (after? "using ") =
      (uses.mergeSort fun a b => decide (a ≤ b)).eraseDups.map (· ++ ";") := by
  have hmark : ∀ line ∈ ["// <auto-generated> by fescaffold </auto-generated>", ""],
      line.toList.head? ≠ some 'u' := by decide
  have hgap : ∀ line ∈ if uses.isEmpty then [] else [""], line.toList.head? ≠ some 'u' := by
    split <;> decide
  have hspace : ∀ line ∈ ["namespace " ++ space ++ ";", ""], line.toList.head? ≠ some 'u' := by
    refine List.forall_mem_cons.2 ⟨?_, by decide⟩
    exact head?_namespaceHead space ▸ by decide
  have huse : after? "using " ∘ (fun use : String => "using " ++ use ++ ";") =
      some ∘ (· ++ ";") := funext fun use =>
    (congrArg (after? "using ") String.append_assoc).trans (after?_append _ _)
  rw [header, List.filterMap_append, List.filterMap_append, List.filterMap_append,
    filterMap_using hmark, filterMap_using hgap, filterMap_using hspace, List.filterMap_map, huse,
    List.filterMap_eq_map, List.append_nil, List.append_nil, List.nil_append]

theorem mapperUses_sorted (c : Config) (e : Entity) :
    ((mapperUses c e).mergeSort fun a b => decide (a ≤ b)).eraseDups = mapperUses c e := by
  have hnil : (([] : List String).mergeSort fun a b => decide (a ≤ b)).eraseDups = [] := by
    rw [List.mergeSort_nil, List.eraseDups_nil]
  rw [mapperUses]
  split
  · split
    · exact hnil
    · rw [List.mergeSort_singleton, List.eraseDups_cons, List.filter_nil, List.eraseDups_nil]
  · exact hnil

theorem uses_mapperText (c : Config) (e : Entity) :
    Uses (IsReadable c e) (mapperText c e) (mapperUses c e) := by
  refine ⟨mapperLines c e, FileLines.mapper.hasLines, ?_⟩
  have hhead : ∀ line ∈ ["public static class " ++ e.name ++ "Mapper", "\x7b"],
      line.toList.head? ≠ some 'u' := by
    refine List.forall_mem_cons.2 ⟨?_, by decide⟩
    exact head?_mapperHead e.name ▸ by decide
  have hinner : ∀ methods, ∀ line ∈ indented 1 methods ++ ["\x7d", ""],
      line.toList.head? ≠ some 'u' := fun methods => List.forall_mem_append.2
    ⟨fun line hline => ne_of_isInner (isInner_of_mem_indented Nat.one_pos hline), by decide⟩
  rw [mapperLines, List.append_assoc, List.filterMap_append, List.filterMap_append,
    filterMap_using_header, mapperUses_sorted, filterMap_using hhead,
    filterMap_using (hinner _), List.append_nil, List.append_nil]

/-- what is read as the name of a namespace is not empty -/
theorem mapperUses_eq (hne : e.namespaceName ≠ some "") :
    mapperUses c e = e.namespaceName.toList.filter (· != entityNamespace c e) := by
  rw [mapperUses]
  cases hspace : e.namespaceName with
  | none => rfl
  | some space =>
    have hempty : space.isEmpty = false := by
      rw [Bool.eq_false_iff]
      intro hempty
      rw [String.isEmpty_iff] at hempty
      exact hne (hspace.trans (congrArg some hempty))
    show (if (space.isEmpty || space == entityNamespace c e) = true then [] else [space]) =
      [space].filter (· != entityNamespace c e)
    rw [hempty, Bool.false_or, List.filter_cons, bne]
    cases space == entityNamespace c e <;> rfl

/-! ### Entities of a text -/

/-- an entity that is made of a class, and whose mapper uses the namespace found around it -/
structure IsDrawn (d : ClassDeclaration) (e : Entity) : Prop where
  name : e.name = d.name
  space : e.namespaceName = d.namespaceName
  uses : ∀ c, Uses (IsReadable c e) (mapperText c e)
    (d.namespaceName.toList.filter (· != entityNamespace c e))

theorem isDrawn_of_ofClass {d : ClassDeclaration} (hd : d.namespaceName ≠ some "")
    {policy : Entity.NullabilityPolicy} {file : Option String}
    (h : Entity.ofClass policy file d = .ok e) : IsDrawn d e := by
  obtain ⟨ps, -, rfl⟩ := map_eq_ok h
  refine ⟨rfl, rfl, fun c => ?_⟩
  rw [← mapperUses_eq hd]
  exact uses_mapperText c _

/-- the namespaces that are found around the classes of a text, and used by the mappers of its
entities -/
structure NamespacesFound (t : Tree) : Prop where
  places : ∀ p, p ∈ t.places ↔ Stands t p.around p.tree
  classes : t.classes =
    t.places.filterMap fun p => p.tree.class? (innermost? t.fileNamespaces.head? p.around)
  /-- it is the namespace they are declared in if no other one with a name is around -/
  declaring : ∀ p ∈ t.places, innermost? t.fileNamespaces.head? p.around =
      declaring? t.fileNamespaces.head? p.around ↔ outerNames t.fileNamespaces.head? p.around = []
  entities : ∀ s file es, (Entity.ofTree s file t).value = .ok es →
    List.Forall₂ IsDrawn (t.classes.filter (Entity.isEntity s.baseEntity)) es

theorem namespacesFound (t : Tree) : NamespacesFound t where
  places p := Tree.mem_places_iff
  classes := Tree.classes_eq t
  declaring p _ := innermost?_eq_declaring?_iff
  entities s file es h := by
    have hspaces : ∀ d ∈ t.classes.filter (Entity.isEntity s.baseEntity),
        d.namespaceName ≠ some "" := fun d hd =>
      namespaceName_ne_of_mem_classes (List.mem_of_mem_filter hd)
    have hmade := forall₂_of_mapM_ok (h : Entity.ofClasses s file t.classes = .ok es)
    refine ((List.forall₂_and_left _ _).2 ⟨hspaces, hmade⟩).imp fun d e hde => ?_
    exact isDrawn_of_ofClass hde.1 hde.2

end EndpointScaffold.Support
