import EndpointScaffold.Proofs.Plain.FileForm
import Mathlib.Data.List.Basic

/-!
# What files on paper declare

The classes that are found in the tree of a file on paper are those that were printed, in their
order, each with what was printed of it and with the namespace of the file.

* `ClassForm.class?_part` one class, `ClassForm.filterMap_members` what is found in its body;
* `FileForm.classes_tree` all classes.
-/

namespace EndpointScaffold.CSharp.Plain

open Text Printed CSharp.Tree

/-! ### Trees of parts -/

theorem tree_node {k : Kind} {ps : List Part} (h : ∀ p ∈ ps.tail, p.lead = []) :
    (Part.node k ps).tree = .node none k (ps.map Part.tree) := by
  cases ps with
  | nil => rfl
  | cons p ps =>
    have hps : ∀ q ∈ ps, q.lead = [] := h
    show Tree.node none k (p.tree :: Part.trees ps) = _
    rw [trees_of_lead hps]
    rfl

section
variable {β : Type} {g : Tree → List β}
  (hg : ∀ l k gap text, k = .comment ∨ k = .mark → g (.leaf l k gap text) = [])
include hg

/-- comments give nothing -/
theorem flatMap_lead (p : Printed) : p.token.lead.flatMap g = [] := by
  rw [List.flatMap_eq_nil_iff]
  intro t ht
  obtain ⟨c, -, rfl⟩ := List.mem_map.mp ht
  exact hg _ _ _ _ (.inl rfl)

theorem flatMap_clauses (bs : List Clause) :
    (Part.trees (bs.map Clause.part)).flatMap g = bs.flatMap fun b => g b.part.tree := by
  induction bs with
  | nil => rfl
  | cons b bs ih =>
    obtain ⟨p, ps, -, -, hlead, -⟩ := b.starts
    rw [List.map_cons, trees_cons, List.flatMap_append, hlead, flatMap_lead hg, List.nil_append,
      List.flatMap_cons, ih, List.flatMap_cons]

/-- what is found in braces is found in the clauses between them -/
theorem flatMap_braces (k : Kind) (gap : String) (bs : List Clause) (closing : List Comment) :
    (Part.node k (bracesParts gap bs closing)).tree.parts.flatMap g =
      bs.flatMap fun b => g b.part.tree := by
  have hopen : g ((sign gap "\x7b").leaf .mark).tree = [] := hg _ _ _ _ (.inr rfl)
  have hclose : g (((sign gap "\x7d").behind closing).leaf .mark).tree = [] :=
    hg _ _ _ _ (.inr rfl)
  have hlead : (((sign gap "\x7d").behind closing).leaf .mark).lead.flatMap g = [] :=
    flatMap_lead hg ((sign gap "\x7d").behind closing)
  show (((sign gap "\x7b").leaf .mark).tree ::
    Part.trees (bs.map Clause.part ++ [((sign gap "\x7d").behind closing).leaf .mark])).flatMap g = _
  rw [List.flatMap_cons, hopen, List.nil_append, trees_append, List.flatMap_append,
    flatMap_clauses hg bs, trees_cons, List.flatMap_append, hlead, List.nil_append,
    List.flatMap_cons, hclose, List.nil_append]
  exact List.append_nil _

end

/-- what is picked from a node of clauses and further parts -/
theorem filter_node {p : Tree → Bool} (hp : ∀ gap text, p (.leaf none .comment gap text) = false)
    (k : Kind) {bs : List Clause} (hbs : bs ≠ []) {ps : List Part} (hps : ∀ q ∈ ps, q.lead = []) :
    (Part.node k (bs.map Clause.part ++ ps)).tree.parts.filter p =
      (bs.map fun b => b.part.tree).filter p ++ (ps.map Part.tree).filter p := by
  have hlead : ∀ q : Printed, q.token.lead.filter p = [] := by
    intro q
    rw [List.filter_eq_nil_iff]
    intro t ht
    obtain ⟨c, -, rfl⟩ := List.mem_map.mp ht
    rw [comment, hp]
    exact Bool.false_ne_true
  have hclauses : ∀ cs : List Clause, (Part.trees (cs.map Clause.part)).filter p =
      (cs.map fun b => b.part.tree).filter p := by
    intro cs
    induction cs with
    | nil => rfl
    | cons c cs ih =>
      obtain ⟨q, qs, -, -, hq, -⟩ := c.starts
      rw [List.map_cons, trees_cons, List.filter_append, hq, hlead, List.nil_append, List.map_cons,
        List.filter_cons, List.filter_cons, ih]
  obtain ⟨b, bs, rfl⟩ := List.exists_cons_of_ne_nil hbs
  show (b.part.tree :: Part.trees (bs.map Clause.part ++ ps)).filter p = _
  rw [List.map_cons, trees_append, trees_of_lead hps, ← List.cons_append, List.filter_append,
    List.filter_cons, List.filter_cons, hclauses]

/-! ### Classes -/

namespace ClassForm

variable (c : ClassForm)

def modifierTexts : List String := "public" :: if c.isAbstract then ["abstract"] else []

def baseTexts : List String := c.base.toList.map TypeForm.text

/-- the class as it is found in a namespace -/
def declaration (space : Option String) : ClassDeclaration :=
  ⟨c.name.text, c.modifierTexts, c.baseTexts, space, (c.bodyPart.as .body).tree,
    c.name.isEmpty_text⟩

def modifierTrees (cs : List Comment) : List Tree := (c.modifiers cs).map fun p => (modifierPart p).tree

/-- what is directly in a class -/
def partTrees (cs : List Comment) : List Tree :=
  c.modifierTrees cs ++ ((term " " "class").leaf .mark).tree ::
    ((term " " c.name.text).name.as .name).tree ::
      (c.baseParts.map Part.tree ++ [(c.bodyPart.as .body).tree, omittedSemicolon.tree])

theorem tree_part (cs : List Comment) :
    (c.part cs).tree = .node none .classDeclaration (c.partTrees cs) := by
  have hbase : ∀ p ∈ c.baseParts, p.lead = [] := by
    unfold baseParts
    cases c.base with
    | none => exact fun p hp => absurd hp List.not_mem_nil
    | some t =>
      intro p hp
      rw [List.mem_singleton.mp hp]
      rfl
  have hlead : ∀ p ∈ ((c.modifiers cs).map modifierPart ++ (term " " "class").leaf .mark ::
      (term " " c.name.text).name.as .name :: c.baseParts ++
        [c.bodyPart.as .body, omittedSemicolon]).tail, p.lead = [] := by
    have hrest : ∀ p ∈ (term " " "class").leaf .mark :: (term " " c.name.text).name.as .name ::
        c.baseParts ++ [c.bodyPart.as .body, omittedSemicolon], p.lead = [] := by
      intro p hp
      simp only [List.cons_append, List.mem_cons, List.mem_append, List.not_mem_nil, or_false] at hp
      rcases hp with rfl | rfl | hp | rfl | rfl
      · rfl
      · rfl
      · exact hbase p hp
      · rfl
      · rfl
    unfold modifiers
    by_cases habstract : c.isAbstract = true
    · rw [if_pos habstract]
      exact List.forall_mem_cons.mpr ⟨rfl, hrest⟩
    · rw [if_neg habstract]
      exact hrest
  rw [part, partBehind, tree_node hlead, partTrees, modifierTrees]
  simp [Function.comp_def]

theorem find?_modifierTrees (cs : List Comment) (l : Label) :
    (c.modifierTrees cs).find? (hasLabel l) = none := by
  rw [modifierTrees, List.find?_eq_none]
  intro t ht
  obtain ⟨p, -, rfl⟩ := List.mem_map.mp ht
  exact Bool.false_ne_true

theorem kind_modifierTrees (cs : List Comment) : ∀ t ∈ c.modifierTrees cs, t.kind = .modifier := by
  intro t ht
  obtain ⟨p, -, rfl⟩ := List.mem_map.mp ht
  rfl

theorem text_modifier (p : Printed) : (modifierPart p).tree.text = trim p.text := by
  show trim (p.text ++ joinTokens []) = trim p.text
  rw [show joinTokens [] = "" from rfl, String.append_empty]

theorem texts_modifierTrees (cs : List Comment) :
    (c.modifierTrees cs).map Tree.text = c.modifierTexts := by
  have htrim : trim "public" = "public" ∧ trim "abstract" = "abstract" := by decide
  unfold modifierTrees modifiers modifierTexts
  by_cases habstract : c.isAbstract = true
  · simp [habstract, text_modifier, htrim]
  · simp [habstract, text_modifier, htrim]

theorem kind_baseParts : ∀ t ∈ c.baseParts.map Part.tree, t.kind = .baseList := by
  unfold baseParts
  intro t ht
  cases hbase : c.base with
  | none =>
    rw [hbase] at ht
    exact absurd ht List.not_mem_nil
  | some u =>
    rw [hbase, List.map_singleton, List.mem_singleton] at ht
    rw [ht]
    rfl

theorem textsOf_modifier (cs : List Comment) :
    (c.part cs).tree.textsOf .modifier = c.modifierTexts := by
  have hmodifiers : (c.modifierTrees cs).filter (hasKind .modifier) = c.modifierTrees cs :=
    List.filter_eq_self.mpr fun t ht => by rw [hasKind, c.kind_modifierTrees cs t ht]; rfl
  have hbase : (c.baseParts.map Part.tree).filter (hasKind .modifier) = [] :=
    List.filter_eq_nil_iff.mpr fun t ht => by rw [hasKind, c.kind_baseParts t ht]; decide
  rw [textsOf, tree_part]
  show ((c.partTrees cs).filter (hasKind .modifier)).map Tree.text = c.modifierTexts
  rw [partTrees, List.filter_append, hmodifiers, List.map_append, texts_modifierTrees,
    List.filter_cons_of_neg (by exact Bool.false_ne_true),
    List.filter_cons_of_neg (by exact Bool.false_ne_true), List.filter_append, hbase]
  exact List.append_nil _

theorem find?_baseList (cs : List Comment) : (c.partTrees cs).find? (hasKind .baseList) =
    (c.baseParts.map Part.tree).head? := by
  have hmodifiers : (c.modifierTrees cs).find? (hasKind .baseList) = none := by
    rw [List.find?_eq_none]
    intro t ht
    rw [hasKind, c.kind_modifierTrees cs t ht]
    decide
  rw [partTrees, List.find?_append, hmodifiers, Option.none_or,
    List.find?_cons_of_neg (by exact Bool.false_ne_true),
    List.find?_cons_of_neg (by exact Bool.false_ne_true)]
  unfold baseParts
  cases c.base with
  | none => rfl
  | some t => rfl

theorem bases_part (cs : List Comment) : (c.part cs).tree.bases = c.baseTexts := by
  rw [bases, tree_part, show (Tree.node none .classDeclaration (c.partTrees cs)).parts =
    c.partTrees cs from rfl, find?_baseList]
  unfold baseParts baseTexts
  cases c.base with
  | none => rfl
  | some t =>
    have hkind : (t.phrase.part " ").tree.kind.isNamed = true ∧
        hasKind .comment (t.phrase.part " ").tree = false := by
      rcases t with ⟨w, hw, _ | _ | _⟩ | n | ⟨n, a⟩ <;> exact ⟨rfl, rfl⟩
    have hparts : (Part.node .baseList [(sign " " ":").leaf .mark, t.phrase.part " "]).tree.parts =
        [((sign " " ":").leaf .mark).tree, (t.phrase.part " ").tree] := by
      rw [tree_node]
      · rfl
      · intro p hp
        rw [List.mem_singleton.mp hp]
        exact t.phrase.lead " "
    show ((Part.node .baseList _).tree.parts.filter _).map Tree.text = [t.text]
    rw [hparts, List.filter_cons_of_neg (by exact Bool.false_ne_true),
      List.filter_cons_of_pos (by rw [hkind.1, hkind.2]; rfl)]
    exact congrArg (fun s => [s]) (t.phrase.text_part rfl)

theorem part?_name (cs : List Comment) : (c.part cs).tree.part? .name =
    some ((term " " c.name.text).name.as .name).tree := by
  rw [part?, tree_part, show (Tree.node none .classDeclaration (c.partTrees cs)).parts =
    c.partTrees cs from rfl, partTrees, List.find?_append, find?_modifierTrees]
  rfl

theorem part?_body (cs : List Comment) : (c.part cs).tree.part? .body =
    some (c.bodyPart.as .body).tree := by
  have hbase : (c.baseParts.map Part.tree).find? (hasLabel .body) = none := by
    unfold baseParts
    cases c.base <;> rfl
  rw [part?, tree_part, show (Tree.node none .classDeclaration (c.partTrees cs)).parts =
    c.partTrees cs from rfl, partTrees, List.find?_append, find?_modifierTrees, Option.none_or,
    List.find?_cons_of_neg (by exact Bool.false_ne_true),
    List.find?_cons_of_neg (by exact Bool.false_ne_true), List.find?_append, hbase]
  rfl

theorem class?_part (cs : List Comment) (space : Option String) :
    (c.part cs).tree.class? space = some (c.declaration space) := by
  have hkind : ((c.part cs).tree.kind != .classDeclaration) = false := by
    rw [tree_part]
    rfl
  have hname : (c.part cs).tree.partText .name = c.name.text := by
    rw [partText, part?_name, Option.map_some, Option.getD_some, Name.text_name_as]
  have hnamed : ¬ ((c.part cs).tree.partText .name).isEmpty := hname ▸ c.name.isEmpty_text
  rw [class?, hkind, if_neg Bool.false_ne_true, dif_neg hnamed, part?_body, Option.map_some,
    Tree.modifiers, textsOf_modifier, bases_part]
  simp only [hname]
  rfl

/-- what is found among the members of a class is found in its clauses -/
theorem filterMap_members {β : Type} {f : Tree → Option β}
    (hf : ∀ l k gap text, k = .comment ∨ k = .mark → f (.leaf l k gap text) = none) :
    (c.bodyPart.as .body).tree.members.filterMap f = c.members.filterMap fun b => f b.part.tree := by
  have hall : ∀ ts : List Tree, undamagedAll ts = ts.flatMap undamaged := by
    intro ts
    induction ts with
    | nil => rfl
    | cons t ts ih => rw [undamagedAll, ih, List.flatMap_cons]
  have hmember : ∀ b ∈ c.members, (undamaged b.part.tree).filterMap f = (f b.part.tree).toList := by
    intro b hb
    rw [undamaged_eq_singleton (c.areMembers b hb).fits]
    cases hfound : f b.part.tree with
    | none => rw [List.filterMap_cons_none hfound, List.filterMap_nil, Option.toList_none]
    | some x => rw [List.filterMap_cons_some hfound, List.filterMap_nil, Option.toList_some]
  have hbraces := flatMap_braces (g := fun t => (undamaged t).filterMap f) (by
    intro l k gap text hk
    have hfits : (Tree.leaf l k gap text).kind ≠ .damage := by
      rcases hk with rfl | rfl
      · exact Kind.noConfusion
      · exact Kind.noConfusion
    rw [undamaged_eq_singleton hfits, List.filterMap_cons_none (hf l k gap text hk),
      List.filterMap_nil]) .other "\n" c.members c.closing
  rw [Tree.members, Part.parts_as, hall, List.filterMap_flatMap, bodyPart, hbraces,
    List.flatMap_congr hmember]
  exact (List.filterMap_eq_flatMap_toList _ _).symm

theorem isInner_bodyPart : c.bodyPart.isInner = true :=
  Part.isInner_node rfl (inner_bracesParts _ _ _ fun b hb => (c.areMembers b hb).inner)

theorem areInner_partTrees (cs : List Comment) : areInner (c.partTrees cs) = true := by
  have htree : ∀ p : Part, p.isInner = true → p.tree.isInner = true := fun p hp =>
    (Bool.and_eq_true _ _ ▸ hp : _ ∧ _).2
  have hbase : ∀ t ∈ c.baseParts.map Part.tree, t.isInner = true := by
    unfold baseParts
    intro t ht
    cases hbase : c.base with
    | none =>
      rw [hbase] at ht
      exact absurd ht List.not_mem_nil
    | some u =>
      rw [hbase, List.map_singleton, List.mem_singleton] at ht
      rw [ht]
      refine htree _ (Part.isInner_node rfl fun p hp => ?_)
      simp only [List.mem_cons, List.not_mem_nil, or_false] at hp
      rcases hp with rfl | rfl
      · exact Part.isInner_leaf _ _
      · exact u.phrase.inner " "
  rw [areInner_iff]
  intro t ht
  rw [partTrees, List.mem_append, List.mem_cons, List.mem_cons, List.mem_append, List.mem_cons,
    List.mem_singleton] at ht
  rcases ht with ht | rfl | rfl | ht | rfl | rfl
  · obtain ⟨p, -, rfl⟩ := List.mem_map.mp ht
    rfl
  · rfl
  · rfl
  · exact hbase t ht
  · exact htree _ (by rw [Part.isInner_as]; exact c.isInner_bodyPart)
  · rfl

theorem classTrees_part (cs : List Comment) (space : Option String) :
    classTrees space (c.part cs).tree = [(space, (c.part cs).tree)] := by
  rw [tree_part, classTrees, classTreesOfAll_of_inner _ _ (c.areInner_partTrees cs)]
  rfl

theorem fileNamespaces_part (cs : List Comment) : fileNamespaces (c.part cs).tree = [] := by
  rw [tree_part, fileNamespaces, fileNamespacesOfAll_of_inner _ (c.areInner_partTrees cs)]
  rfl

end ClassForm

/-! ### Files -/

namespace FileForm

variable (f : FileForm)

theorem lead_spaceParts (space : Option Dotted) : ∀ p ∈ spaceParts space, p.lead = [] := by
  intro p hp
  cases space with
  | none => exact absurd hp List.not_mem_nil
  | some d =>
    rw [List.mem_singleton.mp hp]
    rfl

/-- what is found in a file is found in its namespace and its classes -/
theorem flatMap_parts {β : Type} {g : Tree → List β}
    (hg : ∀ l k gap text, g (.leaf l k gap text) = []) :
    (Part.trees f.parts).flatMap g =
      (spaceParts f.space).flatMap (fun p => g p.tree) ++ f.clauses.flatMap fun b => g b.part.tree := by
  have hlead : (f.stop.leaf .hidden).lead.flatMap g = [] :=
    flatMap_lead (fun l k gap text _ => hg l k gap text) f.stop
  have hstop : g (f.stop.leaf .hidden).tree = [] := hg _ _ _ _
  rw [parts, trees_append, trees_append, trees_of_lead (lead_spaceParts f.space),
    List.flatMap_append, List.flatMap_append, List.flatMap_map,
    flatMap_clauses fun l k gap text _ => hg l k gap text, trees_cons, List.flatMap_append, hlead,
    List.flatMap_cons, hstop, List.nil_append, List.nil_append]
  exact List.append_nil _

/-- the tree of a namespace -/
theorem tree_space (d : Dotted) : (Part.node .fileNamespace
    [(term "" "namespace").leaf .mark, (d.part " ").as .name, (sign "" ";").leaf .mark]).tree =
    .node none .fileNamespace [((term "" "namespace").leaf .mark).tree,
      ((d.part " ").as .name).tree, ((sign "" ";").leaf .mark).tree] := by
  rw [tree_node]
  · rfl
  · intro p hp
    simp only [List.tail_cons, List.mem_cons, List.not_mem_nil, or_false] at hp
    rcases hp with rfl | rfl
    · exact d.lead_part " "
    · rfl

theorem namespaceName?_space (d : Dotted) (l : Option Label) :
    namespaceName? (.node l .fileNamespace [((term "" "namespace").leaf .mark).tree,
      ((d.part " ").as .name).tree, ((sign "" ";").leaf .mark).tree]) = some d.text := by
  have hpart : part? .name (.node l .fileNamespace [((term "" "namespace").leaf .mark).tree,
      ((d.part " ").as .name).tree, ((sign "" ";").leaf .mark).tree]) =
      some ((d.part " ").as .name).tree := by
    simp [part?, Tree.parts]
  rw [namespaceName?, partText, hpart, Option.map_some, Option.getD_some, d.text_part rfl,
    nonEmpty?, if_neg d.isEmpty_text]

theorem areInner_space (d : Dotted) :
    areInner [((term "" "namespace").leaf .mark).tree, ((d.part " ").as .name).tree,
      ((sign "" ";").leaf .mark).tree] = true := by
  have hname := d.isInner_part " "
  rw [← Part.isInner_as _ .name, Part.isInner, Bool.and_eq_true] at hname
  rw [areInner, areInner, hname.2]
  rfl

theorem fileNamespace?_tree : f.tree.fileNamespace? = f.space.map Dotted.text := by
  have hclasses : (f.clauses.flatMap fun b => fileNamespaces b.part.tree) = [] := by
    rw [List.flatMap_eq_nil_iff]
    intro b hb
    obtain ⟨c, -, rfl⟩ := List.mem_map.mp hb
    exact c.2.fileNamespaces_part c.1
  have hall : f.tree.fileNamespaces = (spaceParts f.space).flatMap fun p => fileNamespaces p.tree := by
    rw [tree, fileNamespaces, if_neg (by decide), fileNamespacesOfAll_eq,
      f.flatMap_parts fun _ _ _ _ => rfl, hclasses, List.append_nil]
  rw [fileNamespace?, hall]
  cases f.space with
  | none => rfl
  | some d =>
    rw [spaceParts, List.flatMap_singleton, tree_space, fileNamespaces, if_pos rfl]
    exact namespaceName?_space d none

/-- the classes of a file are found as they were printed -/
theorem classes_tree :
    f.tree.classes = f.classes.map fun c => c.2.declaration (f.space.map Dotted.text) := by
  have hspace : ∀ space, ((spaceParts f.space).flatMap fun p => classTrees space p.tree) = [] := by
    intro space
    cases f.space with
    | none => rfl
    | some d =>
      rw [spaceParts, List.flatMap_singleton, tree_space, classTrees,
        classTreesOfAll_of_inner _ _ (areInner_space d)]
      rfl
  have hclasses : ∀ space, (f.clauses.flatMap fun b => classTrees space b.part.tree) =
      f.classes.map fun c => (space, (c.2.part c.1).tree) := by
    intro space
    rw [clauses, List.flatMap_map, ← List.flatMap_singleton' (f.classes.map _), List.flatMap_map]
    exact List.flatMap_congr fun c _ => c.2.classTrees_part c.1 space
  have hdeclared : f.tree.declaredClasses =
      f.classes.map fun c => (f.space.map Dotted.text, (c.2.part c.1).tree) := by
    rw [declaredClasses, fileNamespace?_tree, tree, classTrees, if_neg (by decide),
      if_neg (by decide), classTreesOfAll_eq, f.flatMap_parts fun _ _ _ _ => rfl, hspace, hclasses,
      List.nil_append]
  rw [Tree.classes, hdeclared, List.filterMap_map, ← List.filterMap_eq_map]
  exact List.filterMap_congr fun c _ => c.2.class?_part c.1 _

end FileForm

end EndpointScaffold.CSharp.Plain
