import EndpointScaffold.CSharp.ClassDeclaration
import EndpointScaffold.Proofs.Plain.Spelling

/-!
# Trees without classes, and clauses

An inner tree holds neither classes nor namespaces, so none are found in it.

* `classTrees_of_inner`, `fileNamespaces_of_inner`;
* `Part.isInner_node` a node of inner parts.
-/

namespace EndpointScaffold.CSharp

namespace Tree

mutual
/-- whether a tree holds neither classes nor namespaces -/
def isInner : Tree → Bool
  | node _ k ps => k != .classDeclaration && !k.isNamespace && areInner ps
  | _ => true

def areInner : List Tree → Bool
  | [] => true
  | t :: ts => t.isInner && areInner ts
end

theorem areInner_append (ts us : List Tree) :
    areInner (ts ++ us) = (areInner ts && areInner us) := by
  induction ts with
  | nil => rfl
  | cons t ts ih => rw [List.cons_append, areInner, areInner, ih, Bool.and_assoc]

theorem areInner_iff {ts : List Tree} : areInner ts = true ↔ ∀ t ∈ ts, t.isInner = true := by
  induction ts with
  | nil => simp [areInner]
  | cons t ts ih => rw [areInner, Bool.and_eq_true, ih, List.forall_mem_cons]

theorem classTreesOfAll_eq (space : Option String) (ts : List Tree) :
    classTreesOfAll space ts = ts.flatMap (classTrees space) := by
  induction ts with
  | nil => rfl
  | cons t ts ih => rw [classTreesOfAll, ih, List.flatMap_cons]

theorem fileNamespacesOfAll_eq (ts : List Tree) :
    fileNamespacesOfAll ts = ts.flatMap fileNamespaces := by
  induction ts with
  | nil => rfl
  | cons t ts ih => rw [fileNamespacesOfAll, ih, List.flatMap_cons]

mutual
theorem classTrees_of_inner (space : Option String) :
    ∀ t : Tree, t.isInner = true → classTrees space t = []
  | leaf _ _ _ _, _ => rfl
  | missing _ _, _ => rfl
  | node l k ps, h => by
    rw [isInner, Bool.and_eq_true, Bool.and_eq_true, bne_iff_ne] at h
    rw [classTrees, if_neg h.1.1]
    exact classTreesOfAll_of_inner _ ps h.2

theorem classTreesOfAll_of_inner (space : Option String) :
    ∀ ts : List Tree, areInner ts = true → classTreesOfAll space ts = []
  | [], _ => rfl
  | t :: ts, h => by
    rw [areInner, Bool.and_eq_true] at h
    rw [classTreesOfAll, classTrees_of_inner space t h.1, classTreesOfAll_of_inner space ts h.2]
    rfl
end

mutual
theorem fileNamespaces_of_inner : ∀ t : Tree, t.isInner = true → fileNamespaces t = []
  | leaf _ _ _ _, _ => rfl
  | missing _ _, _ => rfl
  | node l k ps, h => by
    rw [isInner, Bool.and_eq_true, Bool.and_eq_true, Bool.not_eq_true', Kind.isNamespace,
      Bool.or_eq_false_iff, beq_eq_false_iff_ne, beq_eq_false_iff_ne] at h
    rw [fileNamespaces, if_neg h.1.2.2]
    exact fileNamespacesOfAll_of_inner ps h.2

theorem fileNamespacesOfAll_of_inner :
    ∀ ts : List Tree, areInner ts = true → fileNamespacesOfAll ts = []
  | [], _ => rfl
  | t :: ts, h => by
    rw [areInner, Bool.and_eq_true] at h
    rw [fileNamespacesOfAll, fileNamespaces_of_inner t h.1, fileNamespacesOfAll_of_inner ts h.2]
    rfl
end

end Tree

namespace Plain

/-! ### Parts -/

/-- comments before a printed token are inner -/
theorem Printed.areInner_lead (p : Printed) : Tree.areInner p.token.lead = true := by
  rw [Tree.areInner_iff]
  intro t ht
  obtain ⟨c, -, rfl⟩ := List.mem_map.mp ht
  rfl

namespace Part

/-- parts that hold neither classes nor namespaces; comments before them may be there -/
def isInner (p : Part) : Bool := Tree.areInner p.lead && p.tree.isInner

theorem isInner_leaf (p : Printed) (k : Kind) : (p.leaf k).isInner = true := by
  rw [isInner, Bool.and_eq_true]
  exact ⟨p.areInner_lead, rfl⟩

theorem isInner_as (p : Part) (l : Label) : (p.as l).isInner = p.isInner := by
  unfold isInner Part.as
  cases p.tree <;> simp [Tree.isInner]

theorem areInner_trees (ps : List Part) : Tree.areInner (trees ps) = ps.all isInner := by
  induction ps with
  | nil => rfl
  | cons p ps ih =>
    rw [trees, List.flatMap_cons, Tree.areInner_append, Tree.areInner_append, List.all_cons, isInner]
    rw [trees] at ih
    rw [ih, Tree.areInner, Tree.areInner, Bool.and_true]

theorem isInner_node {k : Kind} (hk : (k != .classDeclaration && !k.isNamespace) = true)
    {ps : List Part} (h : ∀ p ∈ ps, p.isInner = true) : (Part.node k ps).isInner = true := by
  cases ps with
  | nil =>
    show (true && (k != .classDeclaration && !k.isNamespace && true)) = true
    rw [hk]
    rfl
  | cons p ps =>
    have hp := h p List.mem_cons_self
    rw [isInner, Bool.and_eq_true] at hp
    show (Tree.areInner p.lead && (k != .classDeclaration && !k.isNamespace &&
      (p.tree.isInner && Tree.areInner (trees ps)))) = true
    rw [hp.1, hk, hp.2, areInner_trees,
      List.all_eq_true.mpr fun q hq => h q (List.mem_cons_of_mem p hq)]
    rfl

end Part

theorem Printed.isInner_name (p : Printed) : p.name.isInner = true :=
  Part.isInner_node rfl fun q hq => by
    rw [List.mem_singleton.mp hq]
    exact Part.isInner_leaf p .hidden

end Plain

end EndpointScaffold.CSharp

/-!
## Clauses

A clause is a piece of source that starts on a new line, with the part that is read from it. Clauses
never run into each other.

* `Clause.legible_clauses`, `Clause.chars_clauses` clauses behind each other;
* `braces` clauses in braces, `braced_reads` what is read of them.
-/

namespace EndpointScaffold.CSharp.Plain

open Text Printed

/-- comments as they are written, each behind blanks -/
def commentText (gap : String) (cs : List Comment) : String :=
  String.join (cs.map fun c => gap ++ c.written)

theorem toList_commentText (gap : String) (cs : List Comment) :
    (commentText gap cs).toList = commentChars gap.toList cs := by
  rw [commentText, String.toList_join, commentChars, List.flatMap_map]
  simp

theorem chars_behind_sign (cs : List Comment) (gap text : String) :
    ((sign gap text).behind cs).chars =
      (commentText gap cs).toList ++ gap.toList ++ text.toList := by
  rw [toList_commentText]
  rfl

theorem chars_behind_term (cs : List Comment) (gap text : String) :
    ((term gap text).behind cs).chars =
      (commentText gap cs).toList ++ gap.toList ++ text.toList := by
  rw [toList_commentText]
  rfl

structure Clause where
  printed : List Printed
  part : Part
  /-- what is on paper, from the end of the line before on -/
  text : String
  plain : ∀ p ∈ printed, p.kind ≠ .stop
  legible : Legible printed
  starts : ∃ p ps, printed = p :: ps ∧ p.gap.toList.head? = some '\n' ∧
    part.lead = p.token.lead ∧ (p.kind == .mark && p.text == "=") = false
  chars : printed.flatMap Printed.chars = text.toList

/-- a new line may start anywhere -/
theorem legible_newline {ps qs : List Printed} {q : Printed} (hps : Legible ps)
    (hq : Legible (q :: qs)) (hgap : q.gap.toList.head? = some '\n') :
    Legible (ps ++ q :: qs) := by
  refine legible_append hps hq fun p _ r hr => ?_
  rw [List.head?_cons, Option.mem_some_iff] at hr
  rw [← hr]
  exact before_of_gap hgap (by decide)

namespace Clause

/-- what comes next gives no value to a property -/
def IsNext (ts : List Token) : Prop := isMarkNext "=" ts = some (false, ts)

theorem isNext_cons {p : Printed} (hp : (p.kind == .mark && p.text == "=") = false)
    (ts : List Token) : IsNext (p.token :: ts) := by
  rw [IsNext, isMarkNext_reads, hp]

theorem isNext_printed (b : Clause) (ts : List Token) : IsNext (tokensOf b.printed ++ ts) := by
  obtain ⟨p, ps, hps, -, -, hp⟩ := b.starts
  rw [hps, tokensOf, List.map_cons, List.cons_append]
  exact isNext_cons hp _

def ReadBy (item : Reads Part) (b : Clause) : Prop :=
  ∀ ts, IsNext ts → item (tokensOf b.printed ++ ts) = some (b.part, ts)

theorem legible_clauses (bs : List Clause) {q : Printed} {qs : List Printed}
    (hq : Legible (q :: qs)) (hgap : q.gap.toList.head? = some '\n') :
    Legible (bs.flatMap printed ++ q :: qs) ∧
      ∀ r ∈ (bs.flatMap printed ++ q :: qs).head?, r.gap.toList.head? = some '\n' := by
  induction bs with
  | nil =>
    refine ⟨hq, fun r hr => ?_⟩
    rw [List.flatMap_nil, List.nil_append, List.head?_cons, Option.mem_some_iff] at hr
    rw [← hr]
    exact hgap
  | cons b bs ih =>
    obtain ⟨p, ps, hps, hp, -⟩ := b.starts
    rw [List.flatMap_cons, List.append_assoc]
    constructor
    · refine legible_append b.legible ih.1 fun r _ s hs => ?_
      exact before_of_gap (ih.2 s hs) (by decide)
    · intro r hr
      rw [hps, List.cons_append, List.head?_cons, Option.mem_some_iff] at hr
      rw [← hr]
      exact hp

theorem chars_clauses (bs : List Clause) :
    (bs.flatMap printed).flatMap Printed.chars = (String.join (bs.map text)).toList := by
  rw [String.toList_join, List.flatMap_map, List.flatMap_assoc]
  exact List.flatMap_congr fun b _ => b.chars

theorem plain_clauses (bs : List Clause) : ∀ p ∈ bs.flatMap printed, p.kind ≠ .stop := by
  intro p hp
  obtain ⟨b, -, hb⟩ := List.mem_flatMap.mp hp
  exact b.plain p hb

theorem length_le_flatMap (bs : List Clause) : bs.length ≤ (bs.flatMap printed).length := by
  induction bs with
  | nil => exact Nat.le_refl 0
  | cons b bs ih =>
    obtain ⟨p, ps, hps, -, -⟩ := b.starts
    rw [List.flatMap_cons, List.length_append, hps, List.length_cons, List.length_cons]
    omega

theorem length_le_clauses {b : Clause} {bs : List Clause} (hb : b ∈ bs) :
    b.printed.length ≤ (bs.flatMap printed).length := by
  obtain ⟨front, back, rfl⟩ := List.append_of_mem hb
  simp only [List.flatMap_append, List.flatMap_cons, List.length_append]
  omega

end Clause

/-! ### Braces -/

/-- clauses in braces; both braces stand on lines of their own -/
def braces (gap : String) (bs : List Clause) (closing : List Comment) : List Printed :=
  sign gap "\x7b" :: bs.flatMap Clause.printed ++ [(sign gap "\x7d").behind closing]

def bracesParts (gap : String) (bs : List Clause) (closing : List Comment) : List Part :=
  (sign gap "\x7b").leaf .mark :: bs.map Clause.part ++
    [((sign gap "\x7d").behind closing).leaf .mark]

def bracesText (gap : String) (bs : List Clause) (closing : List Comment) : String :=
  gap ++ "\x7b" ++ String.join (bs.map Clause.text) ++ commentText gap closing ++ gap ++ "\x7d"

section
variable (gap : String) (bs : List Clause) (closing : List Comment)

theorem legible_braces {gap : String} (hgap : gap.toList.all isSpace = true)
    (hline : gap.toList.head? = some '\n') : Legible (braces gap bs closing) := by
  have hlast : Legible [(sign gap "\x7d").behind closing] :=
    legible_singleton.mpr ((fit_sign hgap rfl).behind hline closing)
  refine legible_cons.mpr ⟨fit_sign hgap rfl, fun q _ => before_any (by decide) q, ?_⟩
  exact (Clause.legible_clauses bs hlast hline).1

theorem chars_braces : (braces gap bs closing).flatMap chars = (bracesText gap bs closing).toList := by
  rw [braces, List.cons_append, List.flatMap_cons, List.flatMap_append, Clause.chars_clauses,
    List.flatMap_singleton, chars_behind_sign, bracesText]
  simp [chars_sign]

theorem plain_braces : ∀ p ∈ braces gap bs closing, p.kind ≠ .stop := by
  intro p hp
  rw [braces, List.cons_append, List.mem_cons, List.mem_append, List.mem_singleton] at hp
  rcases hp with rfl | hp | rfl
  · simp
  · exact Clause.plain_clauses bs p hp
  · simp

theorem inner_bracesParts (h : ∀ b ∈ bs, b.part.isInner = true) :
    ∀ p ∈ bracesParts gap bs closing, p.isInner = true := by
  intro p hp
  rw [bracesParts, List.cons_append, List.mem_cons, List.mem_append, List.mem_singleton] at hp
  rcases hp with rfl | hp | rfl
  · exact Part.isInner_leaf _ _
  · obtain ⟨b, hb, rfl⟩ := List.mem_map.mp hp
    exact h b hb
  · exact Part.isInner_leaf _ _

theorem braced_reads {gap : String} {begins : Reads Bool} {item : Reads Part}
    (hend : ∀ ts, begins (((sign gap "\x7d").behind closing).token :: ts) =
      some (false, ((sign gap "\x7d").behind closing).token :: ts))
    (hbegins : ∀ b ∈ bs, ∀ ts,
      begins (tokensOf b.printed ++ ts) = some (true, tokensOf b.printed ++ ts))
    (hitem : ∀ b ∈ bs, b.ReadBy item) (ts : List Token) {fuel : Nat} (hfuel : bs.length < fuel) :
    braced begins item fuel (tokensOf (braces gap bs closing) ++ ts) =
      some (bracesParts gap bs closing, ts) := by
  have hinner := repeated_reads Clause.IsNext
    (Clause.isNext_cons (p := (sign gap "\x7d").behind closing) rfl ts) (hend ts) bs
    (fun b _ => b.isNext_printed) hbegins hitem fuel hfuel
  have hsplit : tokensOf (braces gap bs closing) ++ ts = (sign gap "\x7b").token ::
      (tokensOf (bs.flatMap Clause.printed) ++ ((sign gap "\x7d").behind closing).token :: ts) := by
    simp [braces, tokensOf]
  rw [hsplit]
  simp [braced, hinner, bracesParts]

theorem length_le_braces : bs.length + 2 ≤ (braces gap bs closing).length := by
  have h := Clause.length_le_flatMap bs
  simp only [braces, List.cons_append, List.length_cons, List.length_append, List.length_nil]
  omega

theorem length_mem_braces {b : Clause} (hb : b ∈ bs) :
    b.printed.length + 2 ≤ (braces gap bs closing).length := by
  have h := Clause.length_le_clauses hb
  simp only [braces, List.cons_append, List.length_cons, List.length_append, List.length_nil]
  omega

end

end EndpointScaffold.CSharp.Plain
