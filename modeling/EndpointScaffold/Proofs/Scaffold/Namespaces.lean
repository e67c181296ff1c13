import EndpointScaffold.Feature.Basic
import EndpointScaffold.Proofs.Naming.PluralName
import EndpointScaffold.Proofs.Support.Readable
import EndpointScaffold.Proofs.Validation.Valid

/-!
# Namespaces of what is generated

The namespaces of a valid project are put together from the configured one, the plural of the name
of an entity, and fixed words. So they are namespaces exactly if the plurals are identifiers.

* `Opens` the namespace that a file is in;
* `isNamespace_entityNamespace` when it is one;
* `AreNamespaces`, `areNamespaces_of_isValid` all namespaces of a valid project.
-/

namespace EndpointScaffold.Scaffold

open Naming Support Text Validation

variable {c : Config} {e : Entity} {es : List Entity}

/-- a text in one namespace: one of its lines names it, and no other line names any -/
def Opens (readable : Prop) (text space : String) : Prop :=
  ∃ lines, HasLines readable text lines ∧
    lines.filterMap (after? "namespace ") = [space ++ ";"]

/-! ### Files -/

theorem after?_eq_none_of_first {line : String} {ch : Char} (h : line.toList.head? = some ch)
    (hne : ch ≠ 'n') : after? "namespace " line = none :=
  after?_eq_none_of_head (c := 'n') (by decide) fun hn => hne (Option.some.inj (h.symm.trans hn))

theorem readsHeads_namespace : ReadsHeads (after? "namespace ") where
  inner line hline := after?_eq_none_of_head (c := 'n') (by decide) fun hn => by
    have hletter := hline 'n' hn
    cases hletter
  uses space := after?_eq_none_of_first (head?_useLine space) (by decide)

theorem filterMap_heads (space : String) {heads : List String}
    (h : ∀ head ∈ heads, head.toList.head? = some 'p') :
    (namespaceHead space :: heads).filterMap (after? "namespace ") = [space ++ ";"] := by
  have hspace : after? "namespace " (namespaceHead space) = some (space ++ ";") := by
    rw [namespaceHead, String.append_assoc, after?_append]
  have hheads := List.filterMap_eq_nil_iff.2 fun head hhead =>
    after?_eq_none_of_first (h head hhead) (by decide)
  rw [List.filterMap_cons, hspace, hheads]

/-- the files of an entity are in its namespace, or in the one of its validators -/
theorem exists_opens {lines : List String} (h : FileLines c e lines) :
    ∃ space ∈ [entityNamespace c e, validatorNamespace c e],
      Opens (IsReadable c e) (ofLines lines) space := by
  have hg := readsHeads_namespace
  have hlines := h.hasLines
  cases h with
  | contracts =>
    refine ⟨_, List.mem_cons_self, _, hlines, ?_⟩
    rw [hg.filterMap_contractsLines]
    refine filterMap_heads _ fun head hhead => ?_
    obtain ⟨contract, -, rfl⟩ := List.mem_map.1 hhead
    exact head?_contractHead contract.name
  | mapper =>
    refine ⟨_, List.mem_cons_self, _, hlines, ?_⟩
    rw [hg.filterMap_mapperLines]
    refine filterMap_heads _ fun head hhead => ?_
    exact List.mem_singleton.1 hhead ▸ head?_mapperHead e.name
  | validator request rules _ _ =>
    refine ⟨_, List.mem_cons_of_mem _ List.mem_cons_self, _, hlines, ?_⟩
    rw [hg.filterMap_validatorLines]
    refine filterMap_heads _ fun head hhead => ?_
    exact List.mem_singleton.1 hhead ▸ head?_validatorHead request.name

theorem opens_sharedFiles {f : SourceFile} (hf : f ∈ sharedFiles c) :
    Opens (IsLine c.baseNamespace) f.text (commonNamespace c) := by
  have hopens : ∀ body : List String, body ≠ [] → (∀ line ∈ body, IsLine line) →
      body.filterMap (after? "namespace ") = [] → Opens (IsLine c.baseNamespace)
        (ofLines (header [] (commonNamespace c) ++ body)) (commonNamespace c) := by
    intro body hne hbody hnone
    refine ⟨_, hasLines_ofLines (List.append_ne_nil_of_right_ne_nil _ hne) fun hbase => ?_, ?_⟩
    · exact List.forall_mem_append.2 ⟨isLine_header nofun (hbase.append (by decide)), hbody⟩
    · rw [List.filterMap_append, readsHeads_namespace.filterMap_header, hnone, List.append_nil]
      exact filterMap_heads _ nofun
  rw [sharedFiles] at hf
  split at hf
  · rcases List.mem_cons.1 hf with rfl | hf
    · exact hopens _ (List.cons_ne_nil _ _) (by decide) (by decide)
    · obtain rfl := List.mem_singleton.1 hf
      exact hopens _ (List.cons_ne_nil _ _) (by decide) (by decide)
  · cases hf

/-! ### Namespaces -/

/-- the namespaces of an entity have its plural as a part -/
theorem isNamespace_entityNamespace (hbase : isNamespace c.baseNamespace = true)
    (hname : isIdentifier e.name = true) :
    isNamespace (entityNamespace c e) = true ↔ ¬ IsUnnamed e.name := by
  have hpoint : '.' ∉ (plural e.name).toList := fun hmem =>
    absurd ((isStem_plural (isStem_of_isIdentifier hname)).chars '.' hmem) (by decide)
  rw [entityNamespace, isNamespace_append_iff, and_iff_right hbase,
    isNamespace_iff_isIdentifier hpoint, isIdentifier_plural_iff hname]

theorem validatorNamespace_eq (c : Config) (e : Entity) :
    validatorNamespace c e = entityNamespace c e ++ "." ++ "Validators" := by
  rw [String.append_assoc]
  rfl

theorem commonNamespace_eq (c : Config) :
    commonNamespace c = c.baseNamespace ++ "." ++ "Common" := by
  rw [String.append_assoc]
  rfl

theorem isNamespace_append_iff_left {s t : String} (ht : isNamespace t = true) :
    isNamespace (s ++ "." ++ t) = true ↔ isNamespace s = true := by
  rw [isNamespace_append_iff, and_iff_left ht]

theorem isNamespace_kind (kind : FeatureKind) : isNamespace kind.name = true := by
  cases kind <;> decide

/-- the namespaces of features and files of entities: all of them are namespaces, but those of
entities whose plurals are no names -/
structure AreNamespaces (c : Config) (es : List Entity) : Prop where
  plurals : ∀ name, isIdentifier name = true →
    (isIdentifier (plural name) = true ↔ ¬ IsUnnamed name)
  features : ∀ e ∈ es, ∀ f ∈ Feature.planned c e,
    (isNamespace f.namespaceName = true ↔ ¬ IsUnnamed e.name)
  files : ∀ e ∈ es, ∀ files, entityFiles c e = .ok files → ∀ f ∈ files,
    ∃ space ∈ [entityNamespace c e, validatorNamespace c e],
      Opens (IsReadable c e) f.text space ∧ (isNamespace space = true ↔ ¬ IsUnnamed e.name)
  shared : ∀ f ∈ sharedFiles c,
    Opens (IsLine c.baseNamespace) f.text (commonNamespace c) ∧
      isNamespace (commonNamespace c) = true

theorem areNamespaces_of_isValid (h : (ofProject es c).value.isValid = true) :
    AreNamespaces c es := by
  have hbase := isNamespace_of_isValid h
  have hnames := isIdentifier_of_isValid h
  refine ⟨fun name => isIdentifier_plural_iff, ?_, ?_, ?_⟩
  · intro e he f hf
    obtain ⟨kind, -, rfl⟩ := List.mem_map.1 hf
    have hspace : (Feature.ofKind c e.name kind).namespaceName =
        entityNamespace c e ++ "." ++ kind.name := rfl
    rw [← isNamespace_entityNamespace hbase (hnames e he), hspace]
    exact isNamespace_append_iff_left (isNamespace_kind kind)
  · intro e he files hfiles f hf
    obtain ⟨lines, htext, hlines⟩ := exists_fileLines hfiles hf
    obtain ⟨space, hspace, hopens⟩ := exists_opens hlines
    refine ⟨space, hspace, htext ▸ hopens, ?_⟩
    rw [← isNamespace_entityNamespace hbase (hnames e he)]
    rcases List.mem_cons.1 hspace with rfl | hspace
    · rfl
    · rw [List.mem_singleton.1 hspace, validatorNamespace_eq]
      exact isNamespace_append_iff_left (by decide)
  · refine fun f hf => ⟨opens_sharedFiles hf, ?_⟩
    rw [commonNamespace_eq]
    exact (isNamespace_append_iff_left (by decide)).2 hbase

/-- an entity with an ordinary name, and two whose plurals are no names -/
def unnamedEntities : List Entity :=
  ["Order", "param", "Line_\n"].map fun name => ⟨name, [], none, none⟩

theorem areNamespaces_unnamedEntities :
    (ofProject unnamedEntities {}).value.isValid = true ∧ AreNamespaces {} unnamedEntities ∧
      unnamedEntities.map (fun e => isNamespace (entityNamespace {} e)) = [true, false, false] := by
  have hvalid : (ofProject unnamedEntities {}).value.isValid = true := by decide
  exact ⟨hvalid, areNamespaces_of_isValid hvalid, by decide⟩

end EndpointScaffold.Scaffold
