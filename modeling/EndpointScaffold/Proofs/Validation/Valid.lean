import EndpointScaffold.Proofs.Files.Parts
import EndpointScaffold.Proofs.Naming.Plural
import EndpointScaffold.Validation.Checks
import Mathlib.Data.List.Nodup

/-!
# What the checks of a project make sure of

If the check of the names of entities finds no error, all names are identifiers, so that they and
their plurals are ASCII texts, and no two plurals are the same in lower case.

* `isAscii_plural` plurals of ASCII names, `IsPart` parts of names;
* `AreApart` entities with such names, `areApart_of_isValid` what the check finds.
-/

namespace EndpointScaffold.Validation

open Naming Text

variable {e : Entity} {es seen : List Entity} {name : String}

/-! ### ASCII -/

theorem isAscii_plural (h : IsAscii name) (hne : name ≠ "") : IsAscii (plural name) := by
  intro c hc
  rcases (plural_spec hne).2 c hc with hletter | hname
  · rw [isAsciiLetter_iff] at hletter
    omega
  · exact h c hname

/-- texts that stand by themselves between points and between slashes -/
structure IsPart (s : String) : Prop where
  ascii : IsAscii s
  noPoint : '.' ∉ s.toList
  noSlash : '/' ∉ s.toList

/-! ### Names of entities -/

/-- entities whose names are identifiers, and lead to folders that differ without regard to case -/
structure AreApart (es : List Entity) : Prop where
  names : ∀ e ∈ es, isIdentifier e.name = true
  folders : es.Pairwise fun a b => folderKey a ≠ folderKey b

theorem AreApart.isAscii (h : AreApart es) (he : e ∈ es) : IsAscii e.name :=
  isAscii_of_isIdentifier (h.names e he)

theorem AreApart.isStem (h : AreApart es) (he : e ∈ es) : IsStem e.name :=
  isStem_of_isIdentifier (h.names e he)

theorem AreApart.isPart (h : AreApart es) (he : e ∈ es) : IsPart (plural e.name) where
  ascii := isAscii_plural (h.isAscii he) (h.isStem he).nonempty
  noPoint hmem := absurd ((isStem_plural (h.isStem he)).chars '.' hmem) (by decide)
  noSlash hmem := absurd ((isStem_plural (h.isStem he)).chars '/' hmem) (by decide)

/-- what is made of each entity differs, if it differs for the same entity, and for two entities
tells their folders -/
theorem AreApart.nodup_flatMap {α : Type} {f : Entity → List α} (h : AreApart es)
    (hown : ∀ e ∈ es, (f e).Nodup)
    (hother : ∀ a ∈ es, ∀ b ∈ es, ∀ x, x ∈ f a → x ∈ f b → folderKey a = folderKey b) :
    (es.flatMap f).Nodup := by
  refine List.nodup_flatMap.2 ⟨hown, h.folders.imp_of_mem fun {a b} ha hb hne => ?_⟩
  exact fun x hxa hxb => hne (hother a ha b hb x hxa hxb)

theorem nameProblem?_eq_none (h : nameProblem? seen e = none) :
    isIdentifier e.name = true ∧ (∀ s ∈ seen, s.name ≠ e.name) ∧
      ∀ s ∈ seen, folderKey s ≠ folderKey e := by
  rw [nameProblem?] at h
  split at h
  · cases h
  · rename_i hname
    rw [Bool.not_eq_true', Bool.not_eq_false] at hname
    split at h
    · cases h
    · rename_i hfirst
      rw [Option.map_eq_none_iff] at h
      rw [List.find?_eq_none] at hfirst h
      exact ⟨hname, fun s hs heq => hfirst s hs (beq_iff_eq.2 heq),
        fun s hs heq => h s hs (beq_iff_eq.2 heq)⟩

/-- without a problem every entity is compared with all those before it -/
theorem areApart_after (h : nameProblemsAfter seen es = []) :
    AreApart es ∧ ∀ s ∈ seen, ∀ e ∈ es, folderKey s ≠ folderKey e := by
  induction es generalizing seen with
  | nil => exact ⟨⟨fun e he => absurd he List.not_mem_nil, .nil⟩, fun s _ e he =>
      absurd he List.not_mem_nil⟩
  | cons e es ih =>
    rw [nameProblemsAfter, List.append_eq_nil_iff, Option.toList_eq_nil_iff] at h
    obtain ⟨hname, hnew, hfolder⟩ := nameProblem?_eq_none h.1
    have hcounts : countsAsSeen seen e = true := by
      rw [countsAsSeen, hname, Bool.true_and, Bool.not_eq_true', List.any_eq_false]
      exact fun s hs heq => hnew s hs (beq_iff_eq.1 heq)
    rw [if_pos hcounts] at h
    obtain ⟨hapart, hafter⟩ := ih h.2
    refine ⟨⟨List.forall_mem_cons.2 ⟨hname, hapart.names⟩, .cons ?_ hapart.folders⟩, ?_⟩
    · exact fun b hb => hafter e (List.mem_append_right _ (List.mem_singleton_self e)) b hb
    · exact fun s hs => List.forall_mem_cons.2
        ⟨hfolder s hs, hafter s (List.mem_append_left _ hs)⟩

theorem severity_of_nameProblem? {p : Problem} (h : nameProblem? seen e = some p) :
    p.severity = .error := by
  rw [nameProblem?] at h
  split at h
  · obtain rfl := Option.some.inj h
    rfl
  · split at h
    · obtain rfl := Option.some.inj h
      rfl
    · obtain ⟨first, -, rfl⟩ := Option.map_eq_some_iff.1 h
      rfl

/-- every problem of a name is an error -/
theorem severity_of_mem_nameProblems {p : Problem} (h : p ∈ nameProblemsAfter seen es) :
    p.severity = .error := by
  induction es generalizing seen with
  | nil => exact absurd h List.not_mem_nil
  | cons e es ih =>
    rw [nameProblemsAfter, List.mem_append, Option.mem_toList] at h
    exact h.elim severity_of_nameProblem? ih

/-- a result is valid if no problem is an error -/
theorem isValid_iff {ps : List Problem} :
    Findings.isValid (ps.map Problem.finding) = true ↔ ∀ p ∈ ps, p.severity ≠ .error := by
  rw [Findings.isValid, List.isEmpty_iff, Findings.errors, Findings.ofSeverity,
    List.filter_eq_nil_iff, List.forall_mem_map]
  exact forall₂_congr fun p _ => not_congr beq_iff_eq

theorem areApart_of_isValid
    (h : Findings.isValid ((nameProblems es).map Problem.finding) = true) : AreApart es := by
  have hnone : nameProblems es = [] := List.eq_nil_iff_forall_not_mem.2 fun p hp =>
    isValid_iff.1 h p hp (severity_of_mem_nameProblems hp)
  exact (areApart_after hnone).1

end EndpointScaffold.Validation

/-!
## What validation makes sure of

If validation finds no error, the names of all entities are identifiers, and the folder settings
neither start at the root of all files nor lead upwards.

* `severity_of_isValid` no problem of a valid project is an error;
* `isIdentifier_of_isValid`, `isStem_of_isValid` the names of its entities;
* `isNamespace_of_isValid` the namespace that all of its namespaces start with;
* `featuresFolder_of_isValid`, `anchor_modelsFolder_of_isValid` the folders of its generated files and
  of its entities.
-/

namespace EndpointScaffold.Validation

open Files Naming Text

variable {c : Config} {es : List Entity}

theorem severity_of_isValid (h : (ofProject es c).value.isValid = true) {p : Problem}
    (hp : p ∈ projectProblems es c) : p.severity ≠ .error := isValid_iff.1 h p hp

/-! ### Names -/

theorem mem_nameProblemsAfter {seen : List Entity} {e : Entity} (he : e ∈ es)
    (hname : isIdentifier e.name = false) :
    .invalidEntityName e.name e.sourceFile ∈ nameProblemsAfter seen es := by
  induction es generalizing seen with
  | nil => exact absurd he List.not_mem_nil
  | cons a es ih =>
    rw [nameProblemsAfter, List.mem_append]
    rcases List.mem_cons.mp he with rfl | he
    · have hproblem : nameProblem? seen e = some (.invalidEntityName e.name e.sourceFile) := by
        rw [nameProblem?, hname]
        rfl
      rw [hproblem]
      exact .inl List.mem_cons_self
    · exact .inr (ih he)

theorem isIdentifier_of_isValid (h : (ofProject es c).value.isValid = true) :
    ∀ e ∈ es, isIdentifier e.name = true := by
  intro e he
  refine Bool.of_not_eq_false fun hname => ?_
  have hmem : Problem.invalidEntityName e.name e.sourceFile ∈ projectProblems es c := by
    rw [projectProblems, List.append_assoc, List.append_assoc, List.append_assoc, List.append_assoc]
    exact List.mem_append_left _ (mem_nameProblemsAfter he hname)
  exact severity_of_isValid h hmem rfl

theorem isStem_of_isValid (h : (ofProject es c).value.isValid = true) :
    ∀ e ∈ es, IsStem e.name := fun e he => isStem_of_isIdentifier (isIdentifier_of_isValid h e he)

theorem isNamespace_of_isValid (h : (ofProject es c).value.isValid = true) :
    isNamespace c.baseNamespace = true := by
  refine Bool.of_not_eq_false fun hspace => ?_
  have hmem : Problem.invalidNamespace c.baseNamespace ∈ projectProblems es c := by
    rw [projectProblems, configProblems, hspace]
    simp only [List.mem_append]
    exact .inl (.inr (.inl (.inl (.inl (.inl List.mem_cons_self)))))
  exact severity_of_isValid h hmem rfl

/-! ### Folders -/

/-- a setting that does not lead out has no double dots, and does not start with a slash -/
theorem parts_of_not_leavesRoot {folder : String} (h : leavesRoot folder = false) :
    ".." ∉ Path.partsOf folder ∧ folder.toList.head? ≠ some '/' := by
  let change := fun c : Char => if c == '\\' then '/' else c
  replace h : ((folder.toList.map change).head? == some '/' ||
    (splitChars '/' (folder.toList.map change)).contains ['.', '.']) = false := h
  rw [Bool.or_eq_false_iff, beq_eq_false_iff_ne, List.contains_eq_mem, decide_eq_false_iff_not] at h
  constructor
  · intro hmem
    obtain ⟨piece, hpiece, hdots⟩ := List.mem_map.mp (List.mem_filter.mp hmem).1
    have hchars : piece = ['.', '.'] := by
      rw [← String.toList_ofList (l := piece), hdots]
      rfl
    rw [hchars] at hpiece
    exact h.2 (mem_splitChars_map (f := change) rfl hpiece (by decide))
  · intro hhead
    refine h.1 ?_
    rw [List.head?_map, hhead]
    rfl

theorem leavesRoot_of_isValid (h : (ofProject es c).value.isValid = true) :
    leavesRoot c.modelsFolder = false ∧ leavesRoot c.featuresFolder = false := by
  have hproblem : ∀ setting folder, folderProblem? setting folder ∈
      [folderProblem? "models_dir" c.modelsFolder, folderProblem? "features_dir" c.featuresFolder] →
        leavesRoot folder = false := fun setting folder hmem => by
    refine Bool.of_not_eq_true fun hleaves => ?_
    rw [show folderProblem? setting folder = some (.outsideRoot setting folder) from if_pos hleaves]
      at hmem
    have hall : Problem.outsideRoot setting folder ∈ projectProblems es c := by
      rw [projectProblems, configProblems]
      simp only [List.mem_append, Option.mem_toList]
      rcases List.mem_cons.mp hmem with heq | hmem
      · exact .inl (.inr (.inl (.inr heq.symm)))
      · exact .inl (.inr (.inr (List.mem_singleton.mp hmem).symm))
    exact severity_of_isValid h hall rfl
  exact ⟨hproblem _ _ List.mem_cons_self,
    hproblem _ _ (List.mem_cons_of_mem _ List.mem_cons_self)⟩

theorem featuresFolder_of_isValid (h : (ofProject es c).value.isValid = true) :
    ".." ∉ Path.partsOf c.featuresFolder ∧ c.featuresFolder.toList.head? ≠ some '/' :=
  parts_of_not_leavesRoot (leavesRoot_of_isValid h).2

/-- the folder of the entities of a valid project is looked for below the project -/
theorem anchor_modelsFolder_of_isValid (h : (ofProject es c).value.isValid = true) :
    (Path.ofText c.modelsFolder).anchor = .here := by
  have hhead := (parts_of_not_leavesRoot (leavesRoot_of_isValid h).1).2
  show Path.anchorOf c.modelsFolder.toList = .here
  cases hchars : c.modelsFolder.toList with
  | nil => rfl
  | cons ch cs =>
    rw [hchars] at hhead
    exact Path.anchorOf_cons (fun hslash => hhead (congrArg some hslash)) cs

end EndpointScaffold.Validation
