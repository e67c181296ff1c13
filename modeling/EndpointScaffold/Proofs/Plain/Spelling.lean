import EndpointScaffold.Proofs.Plain.Reading
import EndpointScaffold.Proofs.Text.Splitting

/-!
# Spelling of parts

A part spells printed tokens if its leaves are theirs, the comments before the part left out. The
text of a part is then what is on paper.

* `spells_node`, `spells_append` a node spells what its parts spell, one behind the other;
* `textOfAll_of_spells` the text of parts.
-/

namespace EndpointScaffold.CSharp.Plain

open Text

namespace Printed

/-- the leaves of a printed token: blanks and text; a string gives its quotes leaves of their own -/
def leaves (p : Printed) : List (String × String) :=
  if p.kind = .quoted then
    (p.gap, "\"") :: (if p.text.isEmpty then [] else [("", p.text)]) ++ [("", "\"")]
  else [(p.gap, p.text)]

theorem flatMap_leaves (p : Printed) :
    p.leaves.flatMap (fun l => l.1.toList ++ l.2.toList) = p.gap.toList ++ p.body := by
  unfold leaves body
  by_cases hkind : p.kind = .quoted
  · rw [if_pos hkind, if_pos hkind]
    by_cases htext : p.text.isEmpty
    · have h : p.text = "" := String.isEmpty_iff.mp htext
      rw [if_pos htext, h]
      simp
    · rw [if_neg htext]
      simp
  · rw [if_neg hkind, if_neg hkind]
    simp

end Printed

theorem toList_joinTokens (ls : List (String × String)) :
    (Tree.joinTokens ls).toList = ls.flatMap fun l => l.1.toList ++ l.2.toList := by
  unfold Tree.joinTokens
  rw [String.toList_join, List.flatMap_assoc]
  simp

/-- trees whose leaves are those of printed tokens -/
def Spells (ts : List Tree) (ps : List Printed) : Prop :=
  Tree.tokensOfAll ts = ps.flatMap Printed.leaves

theorem spells_nil : Spells [] [] := rfl

theorem spells_append {ts us : List Tree} {ps qs : List Printed} (h : Spells ts ps)
    (h' : Spells us qs) : Spells (ts ++ us) (ps ++ qs) := by
  unfold Spells at *
  rw [Tree.tokensOfAll_append, h, h', List.flatMap_append]

theorem spells_cons {t : Tree} {us : List Tree} {ps qs : List Printed} (h : Spells [t] ps)
    (h' : Spells us qs) : Spells (t :: us) (ps ++ qs) := spells_append h h'

theorem spells_node {l : Option Label} {k : Kind} {ts : List Tree} {ps : List Printed}
    (h : Spells ts ps) : Spells [.node l k ts] ps := by
  unfold Spells at *
  rw [Tree.tokensOfAll, Tree.tokensOfAll, Tree.tokens, List.append_nil, h]

theorem spells_leaf {p : Printed} (hp : p.kind ≠ .quoted) (l : Option Label) (k : Kind) :
    Spells [.leaf l k p.gap p.text] [p] := by
  unfold Spells
  rw [List.flatMap_singleton, Printed.leaves, if_neg hp]
  rfl

theorem spells_as {part : Part} {ps : List Printed} (label : Label) :
    Spells [(part.as label).tree] ps ↔ Spells [part.tree] ps := by
  have h : (part.as label).tree.tokens = part.tree.tokens := by
    unfold Part.as
    cases part.tree <;> rfl
  unfold Spells
  rw [Tree.tokensOfAll, Tree.tokensOfAll, h, Tree.tokensOfAll, Tree.tokensOfAll]

theorem spells_token {p : Printed} (hp : p.kind ≠ .quoted) (k : Kind) {us : List Tree}
    {qs : List Printed} (h : Spells us qs) : Spells ((p.leaf k).tree :: us) (p :: qs) :=
  spells_cons (spells_leaf hp none k) h

theorem trees_cons (p : Part) (ps : List Part) :
    Part.trees (p :: ps) = p.lead ++ p.tree :: Part.trees ps := by
  rw [Part.trees, List.flatMap_cons, List.append_assoc]
  rfl

theorem trees_append (ps qs : List Part) :
    Part.trees (ps ++ qs) = Part.trees ps ++ Part.trees qs := List.flatMap_append

/-- parts without comments before them give nothing but their trees -/
theorem trees_of_lead {ps : List Part} (h : ∀ p ∈ ps, p.lead = []) :
    Part.trees ps = ps.map Part.tree := by
  induction ps with
  | nil => rfl
  | cons p ps ih =>
    rw [trees_cons, h p List.mem_cons_self, List.nil_append, List.map_cons,
      ih fun q hq => h q (List.mem_cons_of_mem p hq)]

theorem spells_node_parts {k : Kind} {ps : List Part} {qs : List Printed}
    (hlead : ∀ p ∈ ps, p.lead = []) (h : Spells (ps.map Part.tree) qs) :
    Spells [(Part.node k ps).tree] qs := by
  cases ps with
  | nil => exact spells_node h
  | cons p ps =>
    refine spells_node ?_
    rw [trees_of_lead fun q hq => hlead q (List.mem_cons_of_mem p hq)]
    exact h

/-! ### Texts -/

namespace Printed

variable {p : Printed}

theorem isBlank_of_mem_body (hp : p.Fit) (hkind : p.kind ≠ .quoted) {c : Char} (hc : c ∈ p.body) :
    isBlank c = false := by
  obtain ⟨comments, gap, kind, text⟩ := p
  have hbody := hp.body
  cases kind with
  | word =>
    have hword : isBody .word text.toList = true := hbody
    simp only [isBody, Bool.and_eq_true, List.all_eq_true] at hword
    exact isBlank_of_isWordPart (hword.2 c hc)
  | integer =>
    have hinteger : isBody .integer text.toList = true := hbody
    simp only [isBody, Bool.and_eq_true, List.all_eq_true] at hinteger
    exact isBlank_of_isWordPart (by rw [isWordPart, hinteger.2 c hc, Bool.or_true])
  | quoted => exact absurd rfl hkind
  | mark =>
    have hc' : c ∈ text.toList := hc
    obtain h | ⟨d, hd, h⟩ := isBody_mark hbody
    · rw [h] at hc'
      have hall : ∀ d ∈ ['=', '>'], isBlank d = false := by decide
      exact hall c hc'
    · rw [h] at hc'
      obtain rfl := List.mem_singleton.mp hc'
      have hall : ∀ d ∈ marks, isBlank d = false := by decide
      exact hall c hd
  | stop =>
    have hstop : isBody .stop text.toList = true := hbody
    have hc' : c ∈ text.toList := hc
    rw [List.isEmpty_iff.mp hstop] at hc'
    exact absurd hc' List.not_mem_nil

/-- a token neither starts nor ends with a blank -/
theorem isBlank_of_body_ends (hp : p.Fit) {c : Char}
    (hc : c ∈ p.body.head? ∨ c ∈ p.body.getLast?) : isBlank c = false := by
  by_cases hkind : p.kind = .quoted
  · have hquote : c = '"' := by
      rw [body, if_pos hkind] at hc
      rcases hc with hc | hc
      · simpa using hc.symm
      · rw [List.getLast?_append_of_ne_nil _ (by simp)] at hc
        simpa using hc.symm
    rw [hquote]
    decide
  · rcases hc with hc | hc
    · exact isBlank_of_mem_body hp hkind (List.mem_of_mem_head? hc)
    · exact isBlank_of_mem_body hp hkind (List.mem_of_getLast? hc)

/-- phrases without comments -/
def IsBare (ps : List Printed) : Prop := ∀ p ∈ ps, p.Fit ∧ p.kind ≠ .stop ∧ p.comments = []

theorem isBare_cons {ps : List Printed} (hp : p.Fit) (hkind : p.kind ≠ .stop)
    (hcomments : p.comments = []) (hps : IsBare ps) : IsBare (p :: ps) := by
  intro q hq
  rcases List.mem_cons.mp hq with rfl | hq
  · exact ⟨hp, hkind, hcomments⟩
  · exact hps q hq

theorem chars_of_bare (hcomments : p.comments = []) : p.chars = p.gap.toList ++ p.body := by
  rw [chars, hcomments]
  rfl

/-- a bare phrase is trimmed once the blanks before it are left out -/
theorem isTrimmed_of_bare {ps : List Printed} (h : IsBare (p :: ps)) {text : String}
    (htext : text.toList = p.body ++ ps.flatMap chars) : IsTrimmed text := by
  obtain ⟨hp, hkind, -⟩ := h p List.mem_cons_self
  obtain ⟨c, cs, hbody, -⟩ := body_eq_cons hp hkind
  constructor
  · intro d hd
    rw [htext, List.head?_append_of_ne_nil _ (by rw [hbody]; simp)] at hd
    exact isBlank_of_body_ends hp (.inl hd)
  · intro d hd
    rw [htext] at hd
    rcases List.eq_nil_or_concat ps with rfl | ⟨qs, q, rfl⟩
    · rw [List.flatMap_nil, List.append_nil] at hd
      exact isBlank_of_body_ends hp (.inr hd)
    · obtain ⟨hq, hqkind, hqcomments⟩ := h q (by simp)
      obtain ⟨e, es, hqbody, -⟩ := body_eq_cons hq hqkind
      rw [List.concat_eq_append, List.flatMap_append, List.flatMap_singleton, chars_of_bare hqcomments,
        ← List.append_assoc, ← List.append_assoc,
        List.getLast?_append_of_ne_nil _ (by rw [hqbody]; simp)] at hd
      exact isBlank_of_body_ends hq (.inr hd)

end Printed

/-- the text of trees that spell a bare phrase is what is on paper, the blanks before it left out -/
theorem textOfAll_of_spells {ts : List Tree} {ps : List Printed} (h : Spells ts ps)
    (hps : Printed.IsBare ps) {gap text : String} (hgap : ps.head?.map Printed.gap = some gap)
    (hchars : ps.flatMap Printed.chars = gap.toList ++ text.toList) : Tree.textOfAll ts = text := by
  obtain ⟨p, ps, rfl⟩ : ∃ p qs, ps = p :: qs := by
    cases ps with
    | nil => exact absurd hgap (by simp)
    | cons p ps => exact ⟨p, ps, rfl⟩
  obtain rfl : p.gap = gap := by simpa using hgap
  have hbare := hps p List.mem_cons_self
  have htext : text.toList = p.body ++ ps.flatMap Printed.chars := by
    rw [List.flatMap_cons, Printed.chars_of_bare hbare.2.2, List.append_assoc] at hchars
    exact (List.append_cancel_left hchars).symm
  have hleaves : ∀ q ∈ ps, q.chars = q.leaves.flatMap fun l => l.1.toList ++ l.2.toList := by
    intro q hq
    rw [q.flatMap_leaves, Printed.chars_of_bare (hps q (List.mem_cons_of_mem p hq)).2.2]
  obtain ⟨first, rest, hp, hbody⟩ : ∃ first rest, p.leaves = (p.gap, first) :: rest ∧
      p.body = first.toList ++ rest.flatMap fun l => l.1.toList ++ l.2.toList := by
    have hflat := p.flatMap_leaves
    unfold Printed.leaves at hflat ⊢
    split at hflat
    · next hkind =>
      rw [if_pos hkind]
      refine ⟨_, _, rfl, ?_⟩
      rw [List.cons_append, List.flatMap_cons, List.append_assoc] at hflat
      exact (List.append_cancel_left hflat).symm
    · next hkind =>
      rw [if_neg hkind]
      refine ⟨_, _, rfl, ?_⟩
      rw [List.flatMap_cons, List.append_assoc] at hflat
      exact (List.append_cancel_left hflat).symm
  have hall : first ++ Tree.joinTokens (rest ++ ps.flatMap Printed.leaves) = text := by
    rw [← String.toList_inj, String.toList_append, toList_joinTokens, List.flatMap_append,
      ← List.append_assoc, ← hbody, htext, List.flatMap_assoc]
    congr 1
    exact List.flatMap_congr fun q hq => (hleaves q hq).symm
  unfold Spells at h
  rw [List.flatMap_cons, hp, List.cons_append] at h
  unfold Tree.textOfAll
  rw [h]
  show trim (first ++ Tree.joinTokens (rest ++ ps.flatMap Printed.leaves)) = text
  rw [hall, trim_eq_self (Printed.isTrimmed_of_bare hps htext)]

/-! ### Labels and names -/

namespace Part

variable (p : Part) (l : Label)

theorem parts_as : (p.as l).tree.parts = p.tree.parts := by
  unfold Part.as
  cases p.tree <;> rfl

@[simp] theorem kind_as : (p.as l).tree.kind = p.tree.kind := by
  unfold Part.as
  cases p.tree <;> rfl

theorem kind_node (k : Kind) (ps : List Part) : (Part.node k ps).tree.kind = k := by
  cases ps <;> rfl

@[simp] theorem lead_as : (p.as l).lead = p.lead := rfl

@[simp] theorem hasLabel_as (m : Label) : (p.as l).tree.hasLabel m = (l == m) := by
  unfold Part.as Tree.hasLabel
  cases p.tree <;> simp [Tree.label]

@[simp] theorem hasLabel_leaf (p : Printed) (k : Kind) (m : Label) :
    (p.leaf k).tree.hasLabel m = false := rfl

end Part

theorem text_name_eq_trim (gap w : String) : (Printed.term gap w).name.tree.text = trim w := by
  show trim (w ++ Tree.joinTokens []) = trim w
  rw [show Tree.joinTokens [] = "" from rfl, String.append_empty]

namespace Name

variable (n : Name)

theorem isTrimmed_text : IsTrimmed n.text :=
  ⟨fun _ hc => isBlank_of_isWordPart (n.isWordPart_of_mem (List.mem_of_mem_head? hc)),
    fun _ hc => isBlank_of_isWordPart (n.isWordPart_of_mem (List.mem_of_getLast? hc))⟩

theorem text_name (gap : String) : (Printed.term gap n.text).name.tree.text = n.text := by
  rw [text_name_eq_trim, trim_eq_self n.isTrimmed_text]

theorem text_name_as (gap : String) (l : Label) :
    ((Printed.term gap n.text).name.as l).tree.text = n.text := n.text_name gap

end Name

end EndpointScaffold.CSharp.Plain
