import EndpointScaffold.Proofs.Plain.Header
import EndpointScaffold.Proofs.Plain.TypeForm

/-!
# Classes on paper

A class on paper is public, abstract or not, has at most one base type, and its members are clauses.

* `ClassForm.clause` a class behind comments, `ClassForm.clause_reads` what is read of it.
-/

namespace EndpointScaffold.CSharp.Plain

open Text Printed

/-- clauses that are read as members of a class -/
structure Clause.IsMember (b : Clause) : Prop where
  fits : b.part.tree.kind ≠ .damage
  inner : b.part.isInner = true
  reads : ∀ fuel, b.printed.length ≤ fuel → b.ReadBy (member fuel)
  opens : ∀ ts, isOpen (tokensOf b.printed ++ ts) = some (true, tokensOf b.printed ++ ts)

structure ClassForm where
  isAbstract : Bool
  name : Name
  base : Option TypeForm
  members : List Clause
  areMembers : ∀ b ∈ members, b.IsMember
  /-- comments before the brace that closes the class -/
  closing : List Comment

namespace ClassForm

def modifiers (c : ClassForm) (cs : List Comment) : List Printed :=
  (term "\n" "public").behind cs :: if c.isAbstract then [term " " "abstract"] else []

def basePrinted (c : ClassForm) : List Printed :=
  match c.base with
  | none => []
  | some t => sign " " ":" :: t.phrase.printed " "

def baseParts (c : ClassForm) : List Part :=
  match c.base with
  | none => []
  | some t => [.node .baseList [(sign " " ":").leaf .mark, t.phrase.part " "]]

def body (c : ClassForm) : List Printed := braces "\n" c.members c.closing

def bodyPart (c : ClassForm) : Part := .node .other (bracesParts "\n" c.members c.closing)

/-- a class from its keyword on -/
def rest (c : ClassForm) : List Printed :=
  term " " "class" :: term " " c.name.text :: (c.basePrinted ++ c.body)

def printed (c : ClassForm) (cs : List Comment) : List Printed :=
  c.modifiers cs ++ c.rest

/-- a class behind the parts before its keyword -/
def partBehind (c : ClassForm) (front : List Part) : Part :=
  .node .classDeclaration (front ++ (term " " "class").leaf .mark ::
    (term " " c.name.text).name.as .name :: c.baseParts ++ [c.bodyPart.as .body, omittedSemicolon])

def part (c : ClassForm) (cs : List Comment) : Part :=
  c.partBehind ((c.modifiers cs).map modifierPart)

def text (c : ClassForm) (cs : List Comment) : String :=
  commentText "\n" cs ++ "\npublic " ++ (if c.isAbstract then "abstract " else "") ++ "class "
    ++ c.name.text ++ ((c.base.map fun t => " : " ++ t.text).getD "")
    ++ bracesText "\n" c.members c.closing

variable (c : ClassForm)

/-! ### Printing -/

theorem legible_basePrinted : Legible (c.basePrinted ++ c.body) := by
  have hbody : Legible c.body := legible_braces c.members c.closing rfl rfl
  unfold basePrinted
  cases c.base with
  | none => exact hbody
  | some t =>
    show Legible (sign " " ":" :: (t.phrase.printed " " ++ c.body))
    refine legible_cons.mpr ⟨fit_sign rfl rfl, fun q hq => ?_, ?_⟩
    · rw [List.head?_append_of_ne_nil _ (t.phrase.printed_ne_nil " ")] at hq
      have hfirst := t.phrase.first " "
      rw [Option.mem_def.mp hq] at hfirst
      exact before_of_blank (by simpa using hfirst)
    · exact legible_newline (t.phrase.legible " " rfl) hbody rfl

theorem legible_rest : Legible c.rest := by
  refine legible_cons_cons.mpr ⟨fit_term rfl rfl, before_of_blank rfl, ?_⟩
  refine legible_cons.mpr ⟨fit_name rfl c.name, fun q hq => ?_, c.legible_basePrinted⟩
  unfold basePrinted at hq
  cases hbase : c.base with
  | none =>
    rw [hbase] at hq
    obtain rfl : sign "\n" "\x7b" = q := by simpa [body, braces] using hq
    exact before_of_gap (c := '\n') rfl (by decide)
  | some t =>
    rw [hbase] at hq
    obtain rfl : sign " " ":" = q := by simpa using hq
    exact before_of_blank rfl

theorem legible_printed (cs : List Comment) : Legible (c.printed cs) := by
  have hfit : ((term "\n" "public").behind cs).Fit := (fit_term rfl rfl).behind rfl cs
  have hclass : Legible (term " " "class" :: c.rest.tail) := c.legible_rest
  unfold printed modifiers
  by_cases habstract : c.isAbstract = true
  · rw [if_pos habstract]
    exact legible_cons_cons.mpr ⟨hfit, before_of_blank rfl,
      legible_cons_cons.mpr ⟨fit_term rfl rfl, before_of_blank rfl, hclass⟩⟩
  · rw [if_neg habstract]
    exact legible_cons_cons.mpr ⟨hfit, before_of_blank rfl, hclass⟩

theorem chars_printed (cs : List Comment) :
    (c.printed cs).flatMap chars = (c.text cs).toList := by
  have hbody : c.body.flatMap chars = (bracesText "\n" c.members c.closing).toList :=
    chars_braces "\n" c.members c.closing
  have hbase : c.basePrinted.flatMap chars =
      ((c.base.map fun t => " : " ++ t.text).getD "").toList := by
    unfold basePrinted
    cases c.base with
    | none => rfl
    | some t =>
      rw [List.flatMap_cons, t.phrase.chars]
      simp [chars_sign, TypeForm.phrase]
  have hmodifiers : (c.modifiers cs).flatMap chars = (commentText "\n" cs ++ "\npublic"
      ++ (if c.isAbstract then " abstract" else "")).toList := by
    unfold modifiers
    rw [List.flatMap_cons, chars_behind_term]
    by_cases habstract : c.isAbstract = true
    · simp [habstract, chars_term]
    · simp [habstract]
  rw [printed, List.flatMap_append, hmodifiers, rest, List.flatMap_cons, List.flatMap_cons,
    List.flatMap_append, hbase, hbody, text]
  by_cases habstract : c.isAbstract = true
  · simp [habstract, chars_term]
  · simp [habstract, chars_term]

theorem plain_printed (cs : List Comment) :
    ∀ p ∈ c.printed cs, p.kind ≠ .stop := by
  have hbase : ∀ p ∈ c.basePrinted, p.kind ≠ .stop := by
    unfold basePrinted
    intro p hp
    cases hbase : c.base with
    | none =>
      rw [hbase] at hp
      exact absurd hp List.not_mem_nil
    | some t =>
      rw [hbase] at hp
      rcases List.mem_cons.mp hp with rfl | hp
      · simp
      · exact (t.phrase.plain " " p hp).1
  intro p hp
  rw [printed, rest, modifiers, List.mem_append, List.mem_cons, List.mem_cons, List.mem_cons,
    List.mem_append] at hp
  rcases hp with (rfl | hp) | rfl | rfl | hp | hp
  · simp
  · split at hp
    · rw [List.mem_singleton.mp hp]
      simp
    · exact absurd hp List.not_mem_nil
  · simp
  · simp
  · exact hbase p hp
  · exact plain_braces "\n" c.members c.closing p hp

def clause (cs : List Comment) : Clause where
  printed := c.printed cs
  part := c.part cs
  text := c.text cs
  plain := c.plain_printed cs
  legible := c.legible_printed cs
  starts := ⟨_, _, rfl, (by decide : "\n".toList.head? = some '\n'), rfl, rfl⟩
  chars := c.chars_printed cs

/-! ### Reading -/

theorem length_rest : c.rest.length = c.basePrinted.length + c.body.length + 2 := by
  simp [rest]

theorem modifiers_ok (cs : List Comment) :
    ∀ p ∈ c.modifiers cs, p.kind = .word ∧ p.text ∈ plainModifiers := by
  intro p hp
  rw [modifiers, List.mem_cons] at hp
  rcases hp with rfl | hp
  · exact ⟨rfl, (by decide : "public" ∈ plainModifiers)⟩
  · split at hp
    · rw [List.mem_singleton.mp hp]
      exact ⟨rfl, (by decide : "abstract" ∈ plainModifiers)⟩
    · exact absurd hp List.not_mem_nil

theorem baseList_reads (ts : List Token) {fuel : Nat} (hfuel : c.basePrinted.length + 3 ≤ fuel) :
    baseList fuel (tokensOf c.basePrinted ++ (tokensOf c.body ++ ts)) =
      some (c.baseParts, tokensOf c.body ++ ts) := by
  obtain ⟨ps, hps⟩ : ∃ ps, c.body = sign "\n" "\x7b" :: ps := ⟨_, rfl⟩
  unfold basePrinted at hfuel ⊢
  unfold baseParts
  rw [hps]
  cases hbase : c.base with
  | none => simp [baseList]
  | some t =>
    have hend : Ends (tokensOf (sign "\n" "\x7b" :: ps) ++ ts) := ends_cons (fun _ => by decide) _
    have hlength := List.length_pos_of_ne_nil (t.phrase.printed_ne_nil " ")
    simp only [hbase, List.length_cons] at hfuel
    obtain ⟨n, rfl⟩ : ∃ n, fuel = n + 1 := ⟨fuel - 1, by omega⟩
    have htype := t.phrase_reads (by omega : 5 ≤ n + 1) " " _ hend
    simp only [tokensOf, List.map_cons, List.cons_append] at htype ⊢
    simp [baseList, listed, htype]

theorem classRest_reads {fuel : Nat} (hfuel : c.rest.length ≤ fuel) (front : List Part)
    (ts : List Token) :
    classRest fuel front (tokensOf c.rest ++ ts) = some (c.partBehind front, ts) := by
  have hlength := length_le_braces "\n" c.members c.closing
  have hrest := c.length_rest
  rw [body] at hrest
  obtain ⟨n, rfl⟩ : ∃ n, fuel = n + 1 := ⟨fuel - 1, by omega⟩
  have hbase := c.baseList_reads ts (by omega : c.basePrinted.length + 3 ≤ n)
  have hbody : braced isOpen (member n) n (tokensOf c.body ++ ts) =
      some (bracesParts "\n" c.members c.closing, ts) := by
    refine braced_reads _ _ ?_ (fun b hb => (c.areMembers b hb).opens) ?_ ts (by omega)
    · intro us
      simp [isOpen]
    · intro b hb
      have hb' := length_mem_braces "\n" c.members c.closing hb
      exact (c.areMembers b hb).reads n (by omega)
  have hsplit : tokensOf c.rest ++ ts = (term " " "class").token ::
      (term " " c.name.text).token :: (tokensOf c.basePrinted ++ (tokensOf c.body ++ ts)) := by
    simp [rest]
  rw [hsplit, classRest]
  simp [c.name.isName_text, hbase, hbody, partBehind, bodyPart]

theorem header_modifiers (cs : List Comment) (ts : List Token) {fuel : Nat}
    (hfuel : 3 ≤ fuel) :
    header fuel (tokensOf (c.modifiers cs) ++ (tokensOf c.rest ++ ts)) =
      some ((c.modifiers cs).map modifierPart, tokensOf c.rest ++ ts) := by
  have hlength : (c.modifiers cs).length ≤ 2 := by
    unfold modifiers
    split <;> simp
  have h := header_reads [] (c.modifiers_ok cs) (List.cons_ne_nil _ _)
    (fun _ => by decide : (term " " "class").kind = .word → (term " " "class").text ∉ plainModifiers)
    (tokensOf c.rest.tail ++ ts) (fun a ha => absurd ha List.not_mem_nil)
    (by simp; omega : _ < fuel)
  exact h

theorem clause_reads (cs : List Comment) {fuel : Nat} (hfuel : c.rest.length < fuel) :
    (c.clause cs).ReadBy (declaration fuel) := by
  intro ts _
  obtain ⟨n, rfl⟩ : ∃ n, fuel = n + 1 := ⟨fuel - 1, by omega⟩
  have hlength := length_le_braces "\n" c.members c.closing
  have hlength' := c.length_rest
  rw [body] at hlength'
  have hheader := c.header_modifiers cs ts (by omega : 3 ≤ n)
  have hrest := c.classRest_reads (by omega : c.rest.length ≤ n)
    ((c.modifiers cs).map modifierPart) ts
  have hnext : isWordNext "namespace" (tokensOf (c.printed cs) ++ ts) =
      some (false, tokensOf (c.printed cs) ++ ts) := by
    simp [printed, modifiers]
  show declaration (n + 1) (tokensOf (c.printed cs) ++ ts) = some (c.part cs, ts)
  rw [declaration, bind_reads, hnext, Option.bind_some, ite_reads, if_neg Bool.false_ne_true,
    bind_reads, printed, tokensOf, List.map_append, List.append_assoc, hheader]
  exact hrest

end ClassForm

end EndpointScaffold.CSharp.Plain
