import EndpointScaffold.Proofs.Plain.Inner
import EndpointScaffold.Proofs.Plain.TypeForm

/-!
# Headers of declarations on paper

Before a declaration stand its attributes, each in brackets on a line of its own, and its modifiers.
An attribute on paper is a name, with or without literals in parentheses.

* `Attribute.clause`, `Attribute.clause_reads` attributes;
* `header_reads` attributes and modifiers together.
-/

namespace EndpointScaffold.CSharp.Plain

open Text Printed

structure Attribute where
  /-- comments before it -/
  comments : List Comment
  name : Name
  arguments : Option (List Literal)

namespace Attribute

def argumentPhrases (ls : List Literal) : List Phrase := ls.map fun l => l.phrase.under .other rfl

/-- the literals in parentheses, if there are any parentheses -/
def call? (a : Attribute) : Option Phrase := a.arguments.map fun ls => .parens (argumentPhrases ls)

/-- what is written between the brackets -/
def text (a : Attribute) : String := a.name.text ++ (a.call?.map Phrase.text).getD ""

/-- what stands between the brackets -/
def inside (a : Attribute) : List Printed :=
  term "" a.name.text :: (a.call?.map fun c => c.printed "").getD []

def insidePart (a : Attribute) : Part :=
  .node .attribute ((term "" a.name.text).name.as .name :: (a.call?.map fun c => c.part "").toList)

variable (a : Attribute)

theorem legible_inside : Legible (a.inside ++ [sign "" "]"]) := by
  have hclose : Legible [sign "" "]"] := legible_singleton.mpr (fit_sign rfl rfl)
  unfold inside
  cases hcall : a.call? with
  | none =>
    exact legible_cons_cons.mpr ⟨fit_name rfl a.name,
      before_sign_of_word rfl (c := ']') rfl (by decide), hclose⟩
  | some c =>
    obtain ⟨ls, -, rfl⟩ := Option.map_eq_some_iff.mp hcall
    refine legible_cons.mpr ⟨fit_name rfl a.name, ?_, ?_⟩
    · intro q hq
      obtain rfl : sign "" "(" = q := by simpa [Phrase.parens] using hq
      exact before_sign_of_word rfl (c := '(') rfl (by decide)
    · refine legible_append (Phrase.legible _ "" rfl) hclose fun p hp q hq => ?_
      obtain rfl : sign "" "]" = q := by simpa using hq
      exact before_closing (Phrase.last _ "" p hp) (by decide)

theorem chars_inside : a.inside.flatMap chars = a.text.toList := by
  unfold inside text
  cases a.call? with
  | none => simp [chars_term]
  | some c => simp [chars_term, c.chars]

theorem plain_inside : ∀ p ∈ a.inside, p.kind ≠ .stop ∧ p.comments = [] := by
  unfold inside
  intro p hp
  cases hcall : a.call? with
  | none =>
    rw [hcall] at hp
    rw [List.mem_singleton.mp hp]
    exact ⟨by simp, rfl⟩
  | some c =>
    rw [hcall] at hp
    rcases List.mem_cons.mp hp with rfl | hp
    · exact ⟨by simp, rfl⟩
    · exact c.plain "" p hp

theorem spells_insidePart : Spells [a.insidePart.tree] a.inside := by
  unfold insidePart inside
  have hname : Spells [((term "" a.name.text).name.as .name).tree] [term "" a.name.text] := rfl
  cases a.call? with
  | none => rfl
  | some c =>
    refine spells_node_parts ?_ (spells_cons hname (c.spells ""))
    intro p hp
    rcases List.mem_cons.mp hp with rfl | hp
    · rfl
    · rw [List.mem_singleton.mp hp]
      exact c.lead ""

/-- an attribute as it is found in a declaration -/
theorem text_insidePart : a.insidePart.tree.text = a.text := by
  have hlegible := a.legible_inside.1
  refine textOfAll_of_spells a.spells_insidePart (fun p hp => ⟨?_, a.plain_inside p hp⟩)
    (rfl : _ = some "") a.chars_inside
  exact hlegible p (List.mem_append_left _ hp)

def clause : Clause where
  printed := (sign "\n    " "[").behind a.comments :: a.inside ++ [sign "" "]"]
  part := .node .attributeList [((sign "\n    " "[").behind a.comments).leaf .mark, a.insidePart,
    (sign "" "]").leaf .mark]
  text := commentText "\n    " a.comments ++ "\n    [" ++ a.text ++ "]"
  plain := by
    intro p hp
    rw [List.cons_append, List.mem_cons, List.mem_append, List.mem_singleton] at hp
    rcases hp with rfl | hp | rfl
    · simp
    · exact (a.plain_inside p hp).1
    · simp
  legible := legible_cons.mpr ⟨(fit_sign rfl rfl).behind rfl a.comments,
    fun q _ => (before_any (by decide) q).behind a.comments, a.legible_inside⟩
  starts := ⟨_, _, rfl, (by decide : "\n    ".toList.head? = some '\n'), rfl, rfl⟩
  chars := by
    rw [List.cons_append, List.flatMap_cons, List.flatMap_append, a.chars_inside,
      chars_behind_sign]
    simp [chars_sign]

theorem isInner : a.clause.part.isInner = true := by
  have hinside : a.insidePart.isInner = true := by
    refine Part.isInner_node rfl fun q hq => ?_
    rcases List.mem_cons.mp hq with rfl | hq
    · rw [Part.isInner_as]
      exact Printed.isInner_name _
    · rw [Option.mem_toList, Option.map_eq_some_iff] at hq
      obtain ⟨c, -, rfl⟩ := hq
      exact c.inner ""
  refine Part.isInner_node rfl fun q hq => ?_
  simp only [List.mem_cons, List.not_mem_nil, or_false] at hq
  rcases hq with rfl | rfl | rfl
  · exact Part.isInner_leaf _ _
  · exact hinside
  · exact Part.isInner_leaf _ _

theorem length_arguments : (a.arguments.getD []).length ≤ a.clause.printed.length := by
  cases hcall : a.arguments with
  | none => exact Nat.zero_le _
  | some ls =>
    have hlength := Phrase.length_le_commas "" (argumentPhrases ls)
    rw [argumentPhrases, List.length_map] at hlength
    have hinside : a.inside =
        term "" a.name.text :: (Phrase.parens (argumentPhrases ls)).printed "" := by
      simp [inside, call?, hcall]
    simp only [clause, hinside, Phrase.parens, Option.getD_some, List.length_cons,
      List.length_append, List.length_nil, argumentPhrases]
    omega

theorem clause_reads {fuel : Nat} (hfuel : (a.arguments.getD []).length ≤ fuel) (ts : List Token) :
    attributeList fuel (tokensOf a.clause.printed ++ ts) = some (a.clause.part, ts) := by
  have hsplit : tokensOf a.clause.printed ++ ts = ((sign "\n    " "[").behind a.comments).token ::
      (tokensOf a.inside ++ (sign "" "]").token :: ts) := by
    simp [clause]
  rw [hsplit]
  cases hcall : a.arguments with
  | none => simp [attributeList, clause, inside, insidePart, call?, hcall, a.name.isName_text]
  | some ls =>
    rw [hcall] at hfuel
    have hitem : ∀ b ∈ argumentPhrases ls, b.ReadBy (do pure (.node .other [← literal])) := by
      intro b hb
      obtain ⟨l, -, rfl⟩ := List.mem_map.mp hb
      exact Phrase.under_reads l.phrase_reads .other rfl
    have hread : attributeArguments fuel _ = _ :=
      Phrase.parens_reads hitem "" ((sign "" "]").token :: ts)
        (by simpa [argumentPhrases] using hfuel)
    obtain ⟨ps, hps⟩ : ∃ ps, (Phrase.parens (argumentPhrases ls)).printed "" = sign "" "(" :: ps :=
      ⟨_, rfl⟩
    rw [hps] at hread
    simp only [tokensOf, List.map_cons, List.cons_append] at hread
    simp [attributeList, clause, inside, insidePart, call?, hcall, a.name.isName_text, hps,
      hread]

end Attribute

/-! ### Modifiers -/

def modifierPart (p : Printed) : Part := .node .modifier [p.leaf .mark]

theorem isInner_modifierPart (p : Printed) : (modifierPart p).isInner = true :=
  Part.isInner_node rfl fun q hq => by
    rw [List.mem_singleton.mp hq]
    exact Part.isInner_leaf _ _

/-- attributes and modifiers are read as they stand before what is declared -/
theorem header_reads (attributes : List Attribute) {modifiers : List Printed}
    (hmodifiers : ∀ p ∈ modifiers, p.kind = .word ∧ p.text ∈ plainModifiers) (hne : modifiers ≠ [])
    {q : Printed} (hq : q.kind = .word → q.text ∉ plainModifiers) (ts : List Token) {fuel : Nat}
    (harguments : ∀ a ∈ attributes, (a.arguments.getD []).length ≤ fuel)
    (hfuel : attributes.length + modifiers.length < fuel) :
    header fuel (tokensOf ((attributes.map Attribute.clause).flatMap Clause.printed ++ modifiers)
        ++ q.token :: ts) =
      some (attributes.map (·.clause.part) ++ modifiers.map modifierPart, q.token :: ts) := by
  have hmods : repeated (isNext .word plainModifiers.contains) modifier fuel
      (tokensOf (modifiers.flatMap fun p => [p]) ++ q.token :: ts) =
      some (modifiers.map modifierPart, q.token :: ts) := by
    refine repeated_reads (fun _ => True) trivial ?_ modifiers (fun _ _ _ => trivial) ?_ ?_ fuel
      (by omega)
    · simpa using hq
    · intro p hp us
      simp [hmodifiers p hp]
    · intro p hp us _
      simp [modifier, hmodifiers p hp, modifierPart]
  rw [show (modifiers.flatMap fun p => [p]) = modifiers from List.flatMap_singleton' modifiers]
    at hmods
  have hattrs : repeated (isMarkNext "[") (attributeList fuel) fuel
      (tokensOf ((attributes.map Attribute.clause).flatMap Clause.printed) ++
        (tokensOf modifiers ++ q.token :: ts)) =
      some ((attributes.map Attribute.clause).map Clause.part,
        tokensOf modifiers ++ q.token :: ts) := by
    refine repeated_reads (fun _ => True) trivial ?_ (attributes.map Attribute.clause)
      (fun _ _ _ => trivial) ?_ ?_ fuel (by simp; omega)
    · obtain ⟨p, ps, rfl⟩ := List.exists_cons_of_ne_nil hne
      simp [hmodifiers p List.mem_cons_self]
    · intro b hb us
      obtain ⟨a, -, rfl⟩ := List.mem_map.mp hb
      rfl
    · intro b hb us _
      obtain ⟨a, ha, rfl⟩ := List.mem_map.mp hb
      exact a.clause_reads (harguments a ha) us
  rw [tokensOf, List.map_append, List.append_assoc, header, bind_reads, hattrs, Option.bind_some,
    bind_reads, hmods, List.map_map]
  rfl

end EndpointScaffold.CSharp.Plain
