import EndpointScaffold.CSharp.Reading
import EndpointScaffold.Proofs.Plain.ClassForm

/-!
# Files on paper

A file on paper has at most one namespace, for all of it, and then its classes, each on a line of
its own.

* `Dotted` names with points;
* `FileForm.text` what is on paper, `FileForm.tree` the tree that stands for it;
* `FileForm.ofSource_text` the tree of what is on paper.
-/

namespace EndpointScaffold.CSharp.Plain

open Text Printed

/-! ### Names with points -/

structure Dotted where
  first : Name
  rest : List Name

namespace Dotted

def pointed (n : Name) : List Printed := [sign "" ".", term "" n.text]

def extend (left : Part) (n : Name) : Part :=
  .node .other [left, (sign "" ".").leaf .mark, (term "" n.text).name.as .name]

variable (d : Dotted)

def printed (gap : String) : List Printed := term gap d.first.text :: d.rest.flatMap pointed

def part (gap : String) : Part := d.rest.foldl extend (term gap d.first.text).name

def text : String := d.first.text ++ String.join (d.rest.map fun n => "." ++ n.text)

theorem legible_pointed (ns : List Name) {q : Printed} {qs : List Printed} (hq : Legible (q :: qs))
    (hbefore : ∀ p : Printed, p.kind = .word → p.Before q) :
    Legible (ns.flatMap pointed ++ q :: qs) ∧
      ∀ p : Printed, p.kind = .word → ∀ r ∈ (ns.flatMap pointed ++ q :: qs).head?, p.Before r := by
  induction ns with
  | nil =>
    refine ⟨hq, fun p hp r hr => ?_⟩
    obtain rfl : q = r := by simpa using hr
    exact hbefore p hp
  | cons n ns ih =>
    constructor
    · show Legible (sign "" "." :: term "" n.text :: (ns.flatMap pointed ++ q :: qs))
      exact legible_cons_cons.mpr ⟨fit_sign rfl rfl, before_name rfl n,
        legible_cons.mpr ⟨fit_name rfl n, ih.2 _ rfl, ih.1⟩⟩
    · intro p hp r hr
      obtain rfl : sign "" "." = r := by simpa [pointed] using hr
      exact before_sign_of_word hp (c := '.') rfl (by decide)

theorem chars_printed (gap : String) :
    (d.printed gap).flatMap chars = gap.toList ++ d.text.toList := by
  have hrest : (d.rest.flatMap pointed).flatMap chars =
      (String.join (d.rest.map fun n => "." ++ n.text)).toList := by
    rw [String.toList_join, List.flatMap_map, List.flatMap_assoc]
    refine List.flatMap_congr fun n _ => ?_
    simp [pointed, chars_sign, chars_term]
  rw [printed, List.flatMap_cons, hrest, text]
  simp [chars_term]

theorem isBare_printed {gap : String} (hgap : gap.toList.all isSpace = true) :
    IsBare (d.printed gap) := by
  refine isBare_cons (fit_name hgap d.first) (by simp) rfl fun p hp => ?_
  obtain ⟨n, -, hn⟩ := List.mem_flatMap.mp hp
  rw [pointed, List.mem_cons, List.mem_singleton] at hn
  rcases hn with rfl | rfl
  · exact ⟨fit_sign rfl rfl, by simp, rfl⟩
  · exact ⟨fit_name rfl n, by simp, rfl⟩

theorem spells_part (gap : String) : Spells [(d.part gap).tree] (d.printed gap) := by
  have h : ∀ (ns : List Name) (left : Part) (ps : List Printed), left.lead = [] →
      Spells [left.tree] ps → Spells [(ns.foldl extend left).tree] (ps ++ ns.flatMap pointed) := by
    intro ns
    induction ns with
    | nil =>
      intro left ps _ hps
      rw [List.flatMap_nil, List.append_nil]
      exact hps
    | cons n ns ih =>
      intro left ps hleft hps
      rw [List.foldl_cons, List.flatMap_cons, ← List.append_assoc]
      refine ih (extend left n) (ps ++ pointed n) hleft ?_
      refine spells_node_parts ?_ (spells_cons hps rfl)
      intro p hp
      simp only [List.mem_cons, List.not_mem_nil, or_false] at hp
      rcases hp with rfl | rfl | rfl
      · exact hleft
      · rfl
      · rfl
  exact h d.rest (term gap d.first.text).name [term gap d.first.text] rfl rfl

theorem lead_part (gap : String) : (d.part gap).lead = [] := by
  have h : ∀ (ns : List Name) (left : Part), (ns.foldl extend left).lead = left.lead := by
    intro ns
    induction ns with
    | nil => exact fun left => rfl
    | cons n ns ih => exact fun left => ih (extend left n)
  exact h d.rest _

theorem isInner_part (gap : String) : (d.part gap).isInner = true := by
  have h : ∀ (ns : List Name) (left : Part), left.isInner = true →
      (ns.foldl extend left).isInner = true := by
    intro ns
    induction ns with
    | nil => exact fun left hleft => hleft
    | cons n ns ih =>
      intro left hleft
      refine ih (extend left n) (Part.isInner_node rfl fun p hp => ?_)
      simp only [List.mem_cons, List.not_mem_nil, or_false] at hp
      rcases hp with rfl | rfl | rfl
      · exact hleft
      · exact Part.isInner_leaf _ _
      · rw [Part.isInner_as]
        exact Printed.isInner_name _
  exact h d.rest _ (Printed.isInner_name _)

theorem isEmpty_text : ¬ d.text.isEmpty = true := by
  have h := d.first.isEmpty_text
  rw [String.isEmpty_iff] at h ⊢
  intro htext
  exact h (String.append_eq_empty_iff.mp htext).1

theorem text_part {gap : String} (hgap : gap.toList.all isSpace = true) (l : Label) :
    ((d.part gap).as l).tree.text = d.text :=
  textOfAll_of_spells ((spells_as l).mpr (d.spells_part gap)) (d.isBare_printed hgap)
    (rfl : _ = some gap) (d.chars_printed gap)

theorem dottedName_reads (gap : String) {ts : List Token} (hts : Ends ts) {fuel : Nat}
    (hfuel : d.rest.length < fuel) :
    dottedName fuel (tokensOf (d.printed gap) ++ ts) = some (d.part gap, ts) := by
  have h : ∀ (ns : List Name) (left : Part) (n : Nat), ns.length < n →
      dotted n left (tokensOf (ns.flatMap pointed) ++ ts) = some (ns.foldl extend left, ts) := by
    intro ns
    induction ns with
    | nil =>
      intro left n hn
      obtain ⟨k, rfl⟩ : ∃ k, n = k + 1 := ⟨n - 1, by simp at hn; omega⟩
      have hpoint := isMarkNext_of_ends "." (by decide) hts
      simp [dotted, hpoint]
    | cons m ns ih =>
      intro left n hn
      obtain ⟨k, rfl⟩ : ∃ k, n = k + 1 := ⟨n - 1, by simp at hn; omega⟩
      have htail := ih (extend left m) k (by simpa using hn)
      have hsplit : tokensOf ((m :: ns).flatMap pointed) ++ ts = (sign "" ".").token ::
          (term "" m.text).token :: (tokensOf (ns.flatMap pointed) ++ ts) := by
        simp [pointed]
      rw [hsplit, dotted]
      simp [m.isName_text]
      exact htail
  have hrest := h d.rest (term gap d.first.text).name fuel hfuel
  simp [dottedName, printed, d.first.isName_text]
  exact hrest

end Dotted

/-! ### Files -/

structure FileForm where
  space : Option Dotted
  /-- classes with the comments before them -/
  classes : List (List Comment × ClassForm)
  /-- comments at the end -/
  closing : List Comment
  isFilled : space = none → classes ≠ []

namespace FileForm

def spacePrinted : Option Dotted → List Printed
  | none => []
  | some d => term "" "namespace" :: (d.printed " " ++ [sign "" ";"])

def spaceParts : Option Dotted → List Part
  | none => []
  | some d => [.node .fileNamespace [(term "" "namespace").leaf .mark, (d.part " ").as .name,
      (sign "" ";").leaf .mark]]

def spaceText : Option Dotted → String
  | none => ""
  | some d => "namespace " ++ d.text ++ ";"

variable (f : FileForm)

/-- the classes with the comments before them -/
def clauses : List Clause := f.classes.map fun c => c.2.clause c.1

def stop : Printed := ⟨f.closing, "\n", .stop, ""⟩

def printed : List Printed := spacePrinted f.space ++ f.clauses.flatMap Clause.printed

/-- what is on paper -/
def text : String :=
  spaceText f.space ++ String.join (f.clauses.map Clause.text) ++ commentText "\n" f.closing ++ "\n"

def parts : List Part := spaceParts f.space ++ f.clauses.map Clause.part ++ [f.stop.leaf .hidden]

def tree : Tree := .node none .other (Part.trees f.parts)

/-! ### Printing -/

theorem chars_printed : (f.printed ++ [f.stop]).flatMap chars = f.text.toList := by
  have hspace : (spacePrinted f.space).flatMap chars = (spaceText f.space).toList := by
    cases f.space with
    | none => rfl
    | some d =>
      rw [spacePrinted, spaceText, List.flatMap_cons, List.flatMap_append, d.chars_printed]
      simp [chars_sign, chars_term]
  have hstop : f.stop.chars = (commentText "\n" f.closing).toList ++ "\n".toList := by
    rw [toList_commentText]
    exact List.append_nil _
  rw [List.flatMap_append, List.flatMap_singleton, printed, List.flatMap_append, hspace,
    Clause.chars_clauses, hstop, text]
  simp

theorem plain_printed : ∀ p ∈ f.printed, p.kind ≠ .stop := by
  intro p hp
  rcases List.mem_append.mp hp with hp | hp
  · cases hspace : f.space with
    | none =>
      rw [hspace] at hp
      exact absurd hp List.not_mem_nil
    | some d =>
      rw [hspace, spacePrinted, List.mem_cons, List.mem_append, List.mem_singleton] at hp
      rcases hp with rfl | hp | rfl
      · simp
      · exact (d.isBare_printed rfl p hp).2.1
      · simp
  · exact Clause.plain_clauses f.clauses p hp

theorem legible_printed : Legible (f.printed ++ [f.stop]) := by
  have hstop : Legible [f.stop] := legible_singleton.mpr
    ⟨by simp [stop]; decide, .inr (by decide : "\n".toList.head? = some '\n'), rfl⟩
  have hclauses := Clause.legible_clauses f.clauses hstop (by decide : "\n".toList.head? = some '\n')
  rw [printed, List.append_assoc]
  cases f.space with
  | none => exact hclauses.1
  | some d =>
    have hsemicolon : Legible (sign "" ";" :: (f.clauses.flatMap Clause.printed ++ [f.stop])) :=
      legible_cons.mpr ⟨fit_sign rfl rfl, fun q _ => before_any (by decide) q, hclauses.1⟩
    have hrest := Dotted.legible_pointed d.rest hsemicolon
      (fun p hp => before_sign_of_word hp (c := ';') rfl (by decide))
    have hname : Legible (d.printed " " ++ sign "" ";" ::
        (f.clauses.flatMap Clause.printed ++ [f.stop])) :=
      legible_cons.mpr ⟨fit_name rfl d.first, hrest.2 _ rfl, hrest.1⟩
    rw [spacePrinted, List.cons_append, List.append_assoc]
    exact legible_cons.mpr ⟨fit_term rfl rfl, fun q hq => by
      obtain rfl : term " " d.first.text = q := by simpa [Dotted.printed] using hq
      exact before_of_blank rfl, hname⟩

/-! ### Reading -/

theorem tokens?_text (hnull : ∀ c ∈ f.text.toList, c ≠ '\x00') :
    tokens? f.text.toList = some (tokensOf f.printed ++ [f.stop.token]) := by
  have hchars := f.chars_printed
  rw [← hchars] at hnull ⊢
  rw [tokens?_printed rfl f.plain_printed f.legible_printed hnull, List.map_append]
  rfl

theorem declarations_reads {fuel : Nat} (hfuel : f.printed.length < fuel) :
    repeated (do pure (!(← isAtEnd))) (declaration fuel) fuel
        (tokensOf (f.clauses.flatMap Clause.printed) ++ [f.stop.token]) =
      some (f.clauses.map Clause.part, [f.stop.token]) := by
  have hlength : (f.clauses.flatMap Clause.printed).length < fuel := by
    rw [printed, List.length_append] at hfuel
    omega
  refine repeated_reads Clause.IsNext (Clause.isNext_cons rfl []) (by simp [isAtEnd, stop]) f.clauses
    (fun b _ => b.isNext_printed) ?_ ?_ fuel ?_
  · intro b hb us
    obtain ⟨c, -, rfl⟩ := List.mem_map.mp hb
    simp [isAtEnd, ClassForm.clause, ClassForm.printed, ClassForm.modifiers]
  · intro b hb us hus
    have hb' := Clause.length_le_clauses hb
    obtain ⟨c, -, rfl⟩ := List.mem_map.mp hb
    exact c.2.clause_reads c.1 (by
      have h : (c.2.clause c.1).printed.length = (c.2.modifiers c.1).length + c.2.rest.length :=
        List.length_append
      omega) us hus
  · have h := Clause.length_le_flatMap f.clauses
    omega

/-- a file without a namespace starts with a class -/
theorem starts_of_none (h : f.space = none) :
    ∃ cs ps, f.printed = (term "\n" "public").behind cs :: ps := by
  obtain ⟨c, cs, hcs⟩ := List.exists_cons_of_ne_nil (f.isFilled h)
  have hclauses : f.clauses = c.2.clause c.1 :: cs.map fun c => c.2.clause c.1 := by
    rw [clauses, hcs, List.map_cons]
  rw [printed, h, hclauses]
  exact ⟨c.1, _, rfl⟩

theorem declaresFileNamespace_space (d : Dotted) (ts : List Token) :
    declaresFileNamespace (tokensOf (spacePrinted (some d)) ++ ts) = true := by
  have hrest : ∀ ns : List Name,
      (tokensOf (ns.flatMap Dotted.pointed) ++ (sign "" ";").token :: ts).find?
        (fun u => u.kind == .mark && u.text != ".") = some (sign "" ";").token := by
    intro ns
    induction ns with
    | nil => rfl
    | cons n ns ih => exact ih
  have hsplit : tokensOf (spacePrinted (some d)) ++ ts = (term "" "namespace").token ::
      (term " " d.first.text).token ::
        (tokensOf (d.rest.flatMap Dotted.pointed) ++ (sign "" ";").token :: ts) := by
    simp [spacePrinted, Dotted.printed]
  rw [hsplit, declaresFileNamespace, List.find?_cons_of_neg (by simp [Printed.token]), hrest]
  rfl

theorem fileNamespace_reads (ts : List Token) {fuel : Nat}
    (hfuel : ∀ d ∈ f.space, d.rest.length < fuel) :
    fileNamespace fuel (tokensOf f.printed ++ ts) =
      some (spaceParts f.space, tokensOf (f.clauses.flatMap Clause.printed) ++ ts) := by
  cases hspace : f.space with
  | none =>
    obtain ⟨cs, ps, hps⟩ := f.starts_of_none hspace
    have hdeclares : declaresFileNamespace (tokensOf f.printed ++ ts) = false := by
      rw [hps]
      rfl
    have hprinted : f.printed = f.clauses.flatMap Clause.printed := by
      rw [printed, hspace]
      rfl
    simp [fileNamespace, hdeclares, spaceParts]
    rw [hprinted]
  | some d =>
    have hdeclares := declaresFileNamespace_space d (tokensOf (f.clauses.flatMap Clause.printed) ++ ts)
    have hend : Ends ((sign "" ";").token :: (tokensOf (f.clauses.flatMap Clause.printed) ++ ts)) :=
      ends_cons (fun _ => by decide) _
    have hname := d.dottedName_reads " " hend (hfuel d hspace)
    have hprinted : tokensOf f.printed ++ ts = tokensOf (spacePrinted (some d)) ++
        (tokensOf (f.clauses.flatMap Clause.printed) ++ ts) := by
      rw [printed, hspace, tokensOf, List.map_append, List.append_assoc]
    have hsplit : tokensOf (spacePrinted (some d)) ++
        (tokensOf (f.clauses.flatMap Clause.printed) ++ ts) =
        (term "" "namespace").token :: (tokensOf (d.printed " ") ++ (sign "" ";").token ::
          (tokensOf (f.clauses.flatMap Clause.printed) ++ ts)) := by
      simp [spacePrinted]
    rw [hprinted, fileNamespace, bind_reads, get_reads, Option.bind_some]
    simp only [hdeclares, if_true]
    rw [hsplit]
    simp [hname, spaceParts]

theorem unit_reads {fuel : Nat} (hfuel : f.printed.length < fuel) :
    unit fuel (tokensOf f.printed ++ [f.stop.token]) = some (f.parts, []) := by
  have hdeclarations := f.declarations_reads hfuel
  have hspace := f.fileNamespace_reads [f.stop.token] (fun d hd => by
    have h : (d.rest.flatMap Dotted.pointed).length = d.rest.length * 2 := by
      simp [List.length_flatMap, Dotted.pointed]
    rw [printed, Option.mem_def.mp hd, List.length_append, spacePrinted, List.length_cons,
      List.length_append, Dotted.printed, List.length_cons, h] at hfuel
    omega : ∀ d ∈ f.space, d.rest.length < fuel)
  have husing : repeated (isWordNext "using") (usingDirective fuel) fuel
      (tokensOf f.printed ++ [f.stop.token]) = some ([], tokensOf f.printed ++ [f.stop.token]) := by
    obtain ⟨n, rfl⟩ : ∃ n, fuel = n + 1 := ⟨fuel - 1, by omega⟩
    have hnext : isWordNext "using" (tokensOf f.printed ++ [f.stop.token]) =
        some (false, tokensOf f.printed ++ [f.stop.token]) := by
      cases hspace : f.space with
      | none =>
        obtain ⟨cs, ps, hps⟩ := f.starts_of_none hspace
        rw [hps]
        rfl
      | some d =>
        rw [printed, hspace]
        rfl
    rw [repeated, bind_reads, hnext]
    rfl
  rw [unit, bind_reads, husing, Option.bind_some, bind_reads, hspace, Option.bind_some, bind_reads,
    hdeclarations]
  simp [stop, parts]

/-- what is on paper has the tree that stands for it -/
theorem ofSource_text (hnull : ∀ c ∈ f.text.toList, c ≠ '\x00') :
    Tree.ofSource f.text = f.tree := by
  have hlength : f.printed.length < (tokensOf f.printed ++ [f.stop.token]).length + 1 := by
    rw [List.length_append, List.length_map]
    omega
  have hunit := f.unit_reads hlength
  have hparts : ¬ f.parts.length = 1 := by
    intro h
    rw [parts, List.length_append, List.length_append, List.length_map, clauses,
      List.length_map] at h
    cases hspace : f.space with
    | none =>
      have hpos := List.length_pos_of_ne_nil (f.isFilled hspace)
      rw [List.length_singleton] at h
      omega
    | some d =>
      rw [hspace, spaceParts, List.length_singleton, List.length_singleton] at h
      omega
  have htree : tree? f.text = some f.tree := by
    rw [tree?, f.tokens?_text hnull]
    show (unit _ _).bind _ = _
    rw [hunit]
    exact if_neg hparts
  rw [Tree.ofSource, htree]

end FileForm

end EndpointScaffold.CSharp.Plain
