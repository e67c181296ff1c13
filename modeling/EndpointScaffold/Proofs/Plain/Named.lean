import EndpointScaffold.CSharp.ClassDeclaration
import EndpointScaffold.CSharp.Plain.Declaration
import EndpointScaffold.Proofs.Plain.Spelling

/-!
# Trees whose classes are named by words

A tree without damage in which every class is named by a word, and readers that only make such trees.
A node other than a class is fine if its parts are; a class has to have a word where its name is.

* `Named`, `Part.IsNamed` such trees and parts; `isNamed_node`, `isNamed_class` nodes of parts;
* `part?_node_of_ne_nil` the part of a node with a label, whatever comments are between;
* `Yields` what holds of everything that a reader reads, with `pure`, `bind` and `ite`;
* `yields_name`, `yields_listed`, `yields_repeated` the readers that the others are made of.
-/

namespace EndpointScaffold.CSharp.Plain

open Text

variable {α β : Type}

/-! ### Trees -/

def IsWordText (s : String) : Prop := ∀ c ∈ s.toList, isWordPart c = true

/-- every class in a tree is named by a word, and nothing is damage -/
inductive Named : Tree → Prop
  | leaf {l : Option Label} {k : Kind} {gap text : String} (hk : k ≠ .damage) :
      Named (.leaf l k gap text)
  | missing {l : Option Label} {k : Kind} (hk : k ≠ .damage) : Named (.missing l k)
  | node {l : Option Label} {k : Kind} {ps : List Tree} (hparts : ∀ p ∈ ps, Named p)
      (hname : k = .classDeclaration → IsWordText (Tree.partText .name (.node l k ps)))
      (hk : k ≠ .damage) : Named (.node l k ps)

theorem Named.kind_ne {t : Tree} (h : Named t) : t.kind ≠ .damage := by
  cases h with
  | leaf hk | missing hk => exact hk
  | node _ _ hk => exact hk

theorem Named.of_mem_parts {t p : Tree} (h : Named t) (hp : p ∈ t.parts) : Named p := by
  cases h with
  | leaf | missing => exact absurd hp List.not_mem_nil
  | node hparts => exact hparts p hp

mutual
theorem isWordText_of_mem_classTrees {t : Tree} (h : Named t) {space : Option String}
    {c : Option String × Tree} (hc : c ∈ t.classTrees space) : IsWordText (c.2.partText .name) := by
  cases t with
  | leaf | missing => exact absurd hc List.not_mem_nil
  | node l k ps =>
    cases h with
    | node hparts hname =>
      rw [Tree.classTrees] at hc
      by_cases hk : k = .classDeclaration
      · rw [if_pos hk] at hc
        rcases List.mem_cons.mp hc with rfl | hc
        · exact hname hk
        · exact isWordText_of_mem_classTreesOfAll hparts hc
      · rw [if_neg hk] at hc
        exact isWordText_of_mem_classTreesOfAll hparts hc

theorem isWordText_of_mem_classTreesOfAll {ts : List Tree} (h : ∀ t ∈ ts, Named t)
    {space : Option String} {c : Option String × Tree} (hc : c ∈ Tree.classTreesOfAll space ts) :
    IsWordText (c.2.partText .name) := by
  cases ts with
  | nil => exact absurd hc List.not_mem_nil
  | cons t ts =>
    rw [Tree.classTreesOfAll, List.mem_append] at hc
    rcases hc with hc | hc
    · exact isWordText_of_mem_classTrees (h t List.mem_cons_self) hc
    · exact isWordText_of_mem_classTreesOfAll (fun u hu => h u (List.mem_cons_of_mem t hu)) hc
end

/-! ### Parts -/

def IsComment (t : Tree) : Prop := ∃ gap text, t = comment gap text

/-- a part behind comments, in which every class is named by a word -/
structure Part.IsNamed (p : Part) : Prop where
  lead : ∀ t ∈ p.lead, IsComment t
  tree : Named p.tree

theorem named_of_isComment {t : Tree} (h : IsComment t) : Named t := by
  obtain ⟨gap, text, rfl⟩ := h
  exact .leaf (by decide)

theorem named_of_mem_trees {ps : List Part} (h : ∀ p ∈ ps, p.IsNamed) :
    ∀ t ∈ Part.trees ps, Named t := by
  intro t ht
  obtain ⟨p, hp, ht⟩ := List.mem_flatMap.mp ht
  rcases List.mem_append.mp ht with ht | ht
  · exact named_of_isComment ((h p hp).lead t ht)
  · rw [List.mem_singleton.mp ht]
    exact (h p hp).tree

theorem Part.IsNamed.as {p : Part} (h : p.IsNamed) (l : Label) : (p.as l).IsNamed := by
  obtain ⟨lead, t⟩ := p
  refine ⟨h.lead, ?_⟩
  cases t with
  | leaf => exact .leaf h.tree.kind_ne
  | missing => exact .missing h.tree.kind_ne
  | node _ k ps =>
    cases h.tree with
    | node hparts hname hk => exact .node hparts hname hk

/-- the comments before the first part stay outside the node -/
theorem isNamed_cons {k : Kind} (hk : k ≠ .damage) {p : Part} {ps : List Part}
    (h : ∀ q ∈ p :: ps, q.IsNamed)
    (hname : k = .classDeclaration → IsWordText ((Part.node k (p :: ps)).tree.partText .name)) :
    (Part.node k (p :: ps)).IsNamed := by
  rw [List.forall_mem_cons] at h
  refine ⟨h.1.lead, .node (fun t ht => ?_) hname hk⟩
  rcases List.mem_cons.mp ht with rfl | ht
  · exact h.1.tree
  · exact named_of_mem_trees h.2 t ht

theorem isNamed_node {k : Kind} (hk : k ≠ .classDeclaration ∧ k ≠ .damage) {ps : List Part}
    (h : ∀ p ∈ ps, p.IsNamed) : (Part.node k ps).IsNamed := by
  cases ps with
  | nil => exact ⟨fun t ht => absurd ht List.not_mem_nil,
      .node (fun t ht => absurd ht List.not_mem_nil) (fun heq => absurd heq hk.1) hk.2⟩
  | cons p ps => exact isNamed_cons hk.2 h fun heq => absurd heq hk.1

/-! ### Names of classes -/

theorem Part.IsNamed.find?_lead {p : Part} (h : p.IsNamed) (l : Label) :
    p.lead.find? (Tree.hasLabel l) = none := by
  rw [List.find?_eq_none]
  intro t ht
  obtain ⟨gap, text, rfl⟩ := h.lead t ht
  exact Bool.false_ne_true

theorem find?_trees_of_label_none {ps : List Part} (h : ∀ p ∈ ps, p.IsNamed)
    (hlabel : ∀ p ∈ ps, p.tree.label = none) (l : Label) :
    (Part.trees ps).find? (Tree.hasLabel l) = none := by
  rw [List.find?_eq_none]
  intro t ht
  obtain ⟨p, hp, ht⟩ := List.mem_flatMap.mp ht
  rcases List.mem_append.mp ht with ht | ht
  · exact (List.find?_eq_none.mp ((h p hp).find?_lead l)) t ht
  · rw [List.mem_singleton.mp ht, Tree.hasLabel, hlabel p hp]
    exact Bool.false_ne_true

theorem find?_trees_cons {p : Part} (h : p.IsNamed) (ps : List Part) (l : Label) :
    (Part.trees (p :: ps)).find? (Tree.hasLabel l) =
      (p.tree :: Part.trees ps).find? (Tree.hasLabel l) := by
  rw [Part.trees, List.flatMap_cons, List.find?_append, List.find?_append, h.find?_lead l,
    Option.none_or, ← List.find?_append]
  rfl

theorem part?_node_of_ne_nil {ps : List Part} (h : ∀ p ∈ ps, p.IsNamed) (hne : ps ≠ []) (k : Kind)
    (l : Label) : (Part.node k ps).tree.part? l = (Part.trees ps).find? (Tree.hasLabel l) := by
  obtain ⟨p, rest, rfl⟩ := List.exists_cons_of_ne_nil hne
  exact (find?_trees_cons (h p List.mem_cons_self) rest l).symm

theorem Part.text_as (p : Part) (l : Label) : (p.as l).tree.text = p.tree.text := by
  obtain ⟨lead, t⟩ := p
  cases t <;> rfl

/-- parts without labels come before the name of a class -/
theorem isNamed_class {front rest : List Part} {n : Part} (hfront : ∀ p ∈ front, p.IsNamed)
    (hlabel : ∀ p ∈ front, p.tree.label = none) (hn : n.IsNamed) (hword : IsWordText n.tree.text)
    (hrest : ∀ p ∈ rest, p.IsNamed) (hne : front ≠ []) :
    (Part.node .classDeclaration (front ++ n.as .name :: rest)).IsNamed := by
  have hall : ∀ q ∈ front ++ n.as .name :: rest, q.IsNamed :=
    List.forall_mem_append.2 ⟨hfront, List.forall_mem_cons.2 ⟨hn.as .name, hrest⟩⟩
  -- neither comments nor the parts in front have a label, so the name is the first with its own
  have hpart : (Part.node .classDeclaration (front ++ n.as .name :: rest)).tree.part? .name =
      some (n.as .name).tree := by
    rw [part?_node_of_ne_nil hall (List.append_ne_nil_of_left_ne_nil hne _), Part.trees,
      List.flatMap_append, List.find?_append]
    have hbefore := find?_trees_of_label_none hfront hlabel .name
    have hbehind := find?_trees_cons (hn.as .name) rest .name
    rw [Part.trees] at hbefore hbehind
    rw [hbefore, hbehind, Option.none_or, List.find?_cons, Part.hasLabel_as]
    rfl
  have hname : IsWordText ((Part.node .classDeclaration
      (front ++ n.as .name :: rest)).tree.partText .name) := by
    rw [Tree.partText, hpart]
    show IsWordText (n.as .name).tree.text
    rw [Part.text_as]
    exact hword
  obtain ⟨p, ps, rfl⟩ := List.exists_cons_of_ne_nil hne
  exact isNamed_cons (by decide) hall fun _ => hname

/-! ### Readers -/

/-- a token with comments before it; a word is made of characters of words -/
def Token.IsSound (t : Token) : Prop :=
  (∀ c ∈ t.lead, IsComment c) ∧ (t.kind = .word → IsWordText t.text)

def IsRead (ts : List Token) : Prop := ∀ t ∈ ts, t.IsSound

/-- what holds of everything that a reader reads -/
def Yields (x : Reads α) (P : α → Prop) : Prop :=
  ∀ ts a rest, IsRead ts → x ts = some (a, rest) → P a ∧ IsRead rest

section
variable {P : α → Prop} {Q : β → Prop} {x y : Reads α}

theorem Yields.pure {a : α} (h : P a) : Yields (Pure.pure a) P := by
  intro ts b rest hts heq
  obtain ⟨rfl, rfl⟩ := Prod.mk.inj (Option.some.inj heq)
  exact ⟨h, hts⟩

theorem Yields.failure : Yields (failure : Reads α) P := fun _ _ _ _ heq => by cases heq

theorem Yields.bind {f : α → Reads β} (hx : Yields x P) (hf : ∀ a, P a → Yields (f a) Q) :
    Yields (x >>= f) Q := by
  intro ts b rest hts heq
  rw [bind_reads] at heq
  obtain ⟨⟨a, between⟩, ha, hb⟩ := Option.bind_eq_some_iff.mp heq
  obtain ⟨hP, hbetween⟩ := hx ts a between hts ha
  exact hf a hP between b rest hbetween hb

theorem Yields.ite {c : Prop} [Decidable c] (hx : Yields x P) (hy : Yields y P) :
    Yields (if c then x else y) P := by
  split
  · exact hx
  · exact hy

theorem Yields.imp {P' : α → Prop} (hx : Yields x P) (h : ∀ a, P a → P' a) : Yields x P' :=
  fun ts a rest hts heq => (hx ts a rest hts heq).imp (h a) id

/-- a question leaves the tokens as they are -/
theorem yields_isNext (kind : TokenKind) (p : String → Bool) :
    Yields (isNext kind p) fun _ => True := by
  intro ts b rest hts heq
  obtain ⟨-, rfl⟩ := Prod.mk.inj (Option.some.inj heq)
  exact ⟨trivial, hts⟩

end

theorem yields_token (kind : TokenKind) (p : String → Bool) :
    Yields (token kind p) fun t => t.kind = kind ∧ t.IsSound := by
  intro ts t rest hts heq
  cases ts with
  | nil => cases heq
  | cons u us =>
    rw [token] at heq
    split at heq
    · rename_i hu
      obtain ⟨rfl, rfl⟩ := Prod.mk.inj (Option.some.inj heq)
      rw [Bool.and_eq_true, beq_iff_eq] at hu
      exact ⟨⟨hu.1, hts u List.mem_cons_self⟩, fun v hv => hts v (List.mem_cons_of_mem u hv)⟩
    · cases heq

theorem Token.IsSound.leaf {t : Token} (h : t.IsSound) {kind : Kind} (hk : kind ≠ .damage) :
    (t.leaf kind).IsNamed :=
  ⟨h.1, .leaf hk⟩

theorem yields_leaf (kind : TokenKind) (p : String → Bool) {shown : Kind} (hk : shown ≠ .damage) :
    Yields (do Pure.pure ((← token kind p).leaf shown)) Part.IsNamed :=
  (yields_token kind p).bind fun _ ht => .pure (ht.2.leaf hk)

theorem yields_mark (text : String) : Yields (mark text) Part.IsNamed :=
  yields_leaf _ _ (by decide)

theorem yields_word (text : String) :
    Yields (word text) fun p => p.IsNamed ∧ p.tree.label = none :=
  (yields_token _ _).bind fun _ ht => .pure ⟨ht.2.leaf (by decide), rfl⟩

theorem isWordText_trim {s : String} (h : IsWordText s) : IsWordText (trim s) := by
  intro c hc
  rw [trim, String.toList_ofList, dropAround, dropEndWhile, List.mem_reverse] at hc
  have hinner := (List.dropWhile_suffix _).subset hc
  rw [List.mem_reverse] at hinner
  exact h c ((List.dropWhile_suffix _).subset hinner)

/-- a name is a word -/
theorem yields_name : Yields name fun p => p.IsNamed ∧ IsWordText p.tree.text := by
  refine (yields_token _ _).bind fun t ht => .pure ⟨isNamed_node (by decide) ?_, ?_⟩
  · intro p hp
    rw [List.mem_singleton.mp hp]
    exact ht.2.leaf (by decide)
  · have htext : (Part.node .identifier [t.leaf .hidden]).tree.text = trim (t.text ++ "") := rfl
    rw [htext, String.append_empty]
    exact isWordText_trim (ht.2.2 ht.1)

theorem yields_namePart : Yields name Part.IsNamed := yields_name.imp fun _ h => h.1

/-! ### Lists of parts -/

abbrev AllNamed (ps : List Part) : Prop := ∀ p ∈ ps, p.IsNamed

theorem allNamed_cons {p : Part} {ps : List Part} (hp : p.IsNamed) (hps : AllNamed ps) :
    AllNamed (p :: ps) := List.forall_mem_cons.mpr ⟨hp, hps⟩

theorem allNamed_nil : AllNamed [] := fun _ h => absurd h List.not_mem_nil

theorem allNamed_append {ps qs : List Part} (hps : AllNamed ps) (hqs : AllNamed qs) :
    AllNamed (ps ++ qs) := fun p hp => (List.mem_append.mp hp).elim (hps p) (hqs p)

section
variable {item : Reads Part} {begins : Reads Bool} (hitem : Yields item Part.IsNamed)

include hitem

theorem yields_listed (fuel : Nat) : Yields (listed item fuel) AllNamed := by
  induction fuel with
  | zero => exact .failure
  | succ fuel ih =>
    refine hitem.bind fun first hfirst => (yields_isNext _ _).bind fun more _ => .ite ?_ ?_
    · exact (yields_mark ",").bind fun comma hcomma => ih.bind fun rest hrest =>
        .pure (allNamed_cons hfirst (allNamed_cons hcomma hrest))
    · exact .pure (allNamed_cons hfirst allNamed_nil)

theorem yields_parenthesized (fuel : Nat) : Yields (parenthesized item fuel) Part.IsNamed := by
  refine (yields_mark "(").bind fun left hleft => (yields_isNext _ _).bind fun isEmpty _ => ?_
  have hclose : ∀ inner, AllNamed inner → Yields (do
      let right ← mark ")"
      Pure.pure (Part.node .other (left :: inner ++ [right]))) Part.IsNamed := fun inner hinner =>
    (yields_mark ")").bind fun right hright => .pure (isNamed_node (by decide)
      (allNamed_append (allNamed_cons hleft hinner) (allNamed_cons hright allNamed_nil)))
  exact .ite (hclose [] allNamed_nil) ((yields_listed hitem fuel).bind hclose)

variable (hbegins : Yields begins fun _ => True)

include hbegins

theorem yields_repeated (fuel : Nat) : Yields (repeated begins item fuel) AllNamed := by
  induction fuel with
  | zero => exact .failure
  | succ fuel ih =>
    refine hbegins.bind fun more _ => .ite ?_ (.pure allNamed_nil)
    exact hitem.bind fun first hfirst => ih.bind fun rest hrest =>
      .pure (allNamed_cons hfirst hrest)

theorem yields_braced (fuel : Nat) : Yields (braced begins item fuel) AllNamed :=
  (yields_mark "\x7b").bind fun _ hleft => (yields_repeated hitem hbegins fuel).bind fun _ hinner =>
    (yields_mark "\x7d").bind fun _ hright => .pure
      (allNamed_append (allNamed_cons hleft hinner) (allNamed_cons hright allNamed_nil))

end

/-- a node of parts that are all named, other than a class -/
theorem yields_node {k : Kind} (hk : k ≠ .classDeclaration ∧ k ≠ .damage) {ps : List Part} (h : AllNamed ps) :
    Yields (Pure.pure (Part.node k ps)) Part.IsNamed := .pure (isNamed_node hk h)

end EndpointScaffold.CSharp.Plain
