import EndpointScaffold.Proofs.Plain.Named
import Mathlib.Data.List.TakeWhile

/-!
# Names of plain classes

Whatever plain source is read, its tree has no damage and the classes in it are named by words: only
the reader of classes makes a node for a class, and it reads a name first.

* `yields_types`, `yields_expressions`, `yields_members`, `yields_declaration` one group of readers
  after the other;
* `named_of_tree?`, `isWordText_of_tree?` the tree of a plain text and the names of its classes.
-/

namespace EndpointScaffold.CSharp.Plain

open Text

/-! ### Types -/

/-- names with type arguments, qualified names and types, which are made of each other -/
theorem yields_types (fuel : Nat) :
    Yields (simpleName fuel) Part.IsNamed ∧
      (∀ left : Part, left.IsNamed → Yields (qualified fuel left) Part.IsNamed) ∧
      Yields (type fuel) Part.IsNamed := by
  induction fuel with
  | zero => exact ⟨.failure, fun _ _ => .failure, .failure⟩
  | succ fuel ih =>
    obtain ⟨hsimple, hqualified, htype⟩ := ih
    refine ⟨?_, fun left hleft => ?_, ?_⟩
    · refine yields_namePart.bind fun n hn => (yields_isNext _ _).bind fun _ _ => .ite ?_ (.pure hn)
      exact (yields_mark "<").bind fun open' hopen => (yields_listed htype fuel).bind fun arguments
        harguments => (yields_mark ">").bind fun close hclose => yields_node (by decide)
          (allNamed_cons hn (allNamed_cons (isNamed_node (by decide) (allNamed_append
            (allNamed_cons hopen harguments) (allNamed_cons hclose allNamed_nil))) allNamed_nil))
    · refine (yields_isNext _ _).bind fun _ _ => .ite ?_ (.pure hleft)
      exact (yields_mark ".").bind fun dot hdot => hsimple.bind fun member hmember =>
        hqualified _ (isNamed_node (by decide) (allNamed_cons hleft (allNamed_cons hdot
          (allNamed_cons (hmember.as .name) allNamed_nil))))
    · have hquestion : ∀ whole : Part, whole.IsNamed → Yields (do
          if ← isMarkNext "?" then Pure.pure (.node .other [whole.as .type, ← mark "?"])
          else Pure.pure whole) Part.IsNamed := fun whole hwhole =>
        (yields_isNext _ _).bind fun _ _ => .ite
          ((yields_mark "?").bind fun mark hmark => yields_node (by decide)
            (allNamed_cons (hwhole.as .type) (allNamed_cons hmark allNamed_nil))) (.pure hwhole)
      have harray : ∀ named : Part, named.IsNamed → Yields (do
          let whole ←
            if ← isMarkNext "[" then
              let left ← mark "["
              let right ← mark "]"
              Pure.pure (.node .other [named.as .type, .node .other [left, right]])
            else Pure.pure named
          if ← isMarkNext "?" then Pure.pure (.node .other [whole.as .type, ← mark "?"])
          else Pure.pure whole) Part.IsNamed := fun named hnamed =>
        (yields_isNext _ _).bind fun _ _ => .ite
          ((yields_mark "[").bind fun left hleft => (yields_mark "]").bind fun right hright =>
            hquestion _ (isNamed_node (by decide) (allNamed_cons (hnamed.as .type)
              (allNamed_cons (isNamed_node (by decide) (allNamed_cons hleft
                (allNamed_cons hright allNamed_nil))) allNamed_nil))))
          (hquestion _ hnamed)
      refine (yields_isNext _ _).bind fun _ _ => .ite ?_ ?_
      · exact (yields_token _ _).bind fun t ht => harray _ (ht.2.leaf (by decide))
      · exact hsimple.bind fun first hfirst => (hqualified first hfirst).bind harray

theorem yields_type (fuel : Nat) : Yields (type fuel) Part.IsNamed := (yields_types fuel).2.2

/-! ### Expressions -/

theorem yields_number : Yields number Part.IsNamed := yields_leaf _ _ (by decide)

theorem yields_literal : Yields literal Part.IsNamed := by
  refine (yields_isNext _ _).bind fun _ _ => .ite yields_number ?_
  refine (yields_isNext _ _).bind fun _ _ => .ite ?_ ?_
  · exact (yields_mark "-").bind fun minus hminus => yields_number.bind fun n hn =>
      yields_node (by decide) (allNamed_cons hminus (allNamed_cons hn allNamed_nil))
  refine (yields_isNext _ _).bind fun _ _ => .ite ?_ ?_
  · refine (yields_token _ _).bind fun t ht =>
      .pure ⟨ht.2.1, .node (fun p hp => ?_) nofun (by decide)⟩
    rw [List.cons_append, List.mem_cons, List.mem_append, List.mem_singleton] at hp
    rcases hp with rfl | hp | rfl
    · exact .leaf (by decide)
    · split at hp
      · exact absurd hp List.not_mem_nil
      · rw [List.mem_singleton.mp hp]
        exact .leaf (by decide)
    · exact .leaf (by decide)
  · exact (yields_token _ _).bind fun t ht => yields_node (by decide)
      (allNamed_cons (ht.2.leaf (by decide)) allNamed_nil)

theorem yields_isLiteralNext : Yields isLiteralNext fun _ => True :=
  (yields_isNext _ _).bind fun _ _ => (yields_isNext _ _).bind fun _ _ =>
    (yields_isNext _ _).bind fun _ _ => (yields_isNext _ _).bind fun _ _ => .pure trivial

theorem yields_isLambdaNext : Yields isLambdaNext fun _ => True := by
  intro ts b rest hts heq
  unfold isLambdaNext at heq
  split at heq <;>
  · obtain ⟨-, rfl⟩ := Prod.mk.inj (Option.some.inj heq)
    exact ⟨trivial, hts⟩

theorem yields_guarded {p : Part → Bool} {item : Reads Part} (h : Yields item Part.IsNamed) :
    Yields (guarded p item) Part.IsNamed :=
  h.bind fun _ hpart => .ite (.pure hpart) .failure

/-- chains, their arguments and all other expressions, which are made of each other -/
theorem yields_expressions (fuel : Nat) :
    (∀ left : Part, left.IsNamed → Yields (links fuel left) Part.IsNamed) ∧
      Yields (chain fuel) Part.IsNamed ∧ Yields (arguments fuel) Part.IsNamed ∧
      Yields (argument fuel) Part.IsNamed ∧ Yields (expression fuel) Part.IsNamed ∧
      Yields (anonymousObject fuel) Part.IsNamed := by
  induction fuel with
  | zero => exact ⟨fun _ _ => .failure, .failure, .failure, .failure, .failure, .failure⟩
  | succ fuel ih =>
    obtain ⟨hlinks, hchain, harguments, hargument, hexpression, hobject⟩ := ih
    refine ⟨fun left hleft => ?_, ?_, ?_, ?_, ?_, ?_⟩
    · refine (yields_isNext _ _).bind fun _ _ => .ite ?_ ?_
      · exact (yields_mark ".").bind fun dot hdot => yields_namePart.bind fun member hmember =>
          hlinks _ (isNamed_node (by decide) (allNamed_cons (hleft.as .expression)
            (allNamed_cons hdot (allNamed_cons (hmember.as .name) allNamed_nil))))
      · refine (yields_isNext _ _).bind fun _ _ => .ite ?_ (.pure hleft)
        exact harguments.bind fun args hargs => hlinks _ (isNamed_node (by decide)
          (allNamed_cons (hleft.as .function) (allNamed_cons (hargs.as .arguments) allNamed_nil)))
    · exact yields_namePart.bind hlinks
    · exact yields_parenthesized hargument fuel
    · exact hexpression.bind fun inner hinner =>
        yields_node (by decide) (allNamed_cons hinner allNamed_nil)
    · refine yields_isLiteralNext.bind fun _ _ => .ite yields_literal ?_
      refine yields_isLambdaNext.bind fun _ _ => .ite ?_ hchain
      refine (yields_token _ _).bind fun t ht => (yields_mark "=>").bind fun arrow harrow => ?_
      have hlambda : ∀ body : Part, body.IsNamed → Yields (Pure.pure (Part.node .other
          [.node .other [t.leaf .hidden], arrow, body.as .body])) Part.IsNamed := fun body hbody =>
        yields_node (by decide) (allNamed_cons (isNamed_node (by decide)
          (allNamed_cons (ht.2.leaf (by decide)) allNamed_nil)) (allNamed_cons harrow
            (allNamed_cons (hbody.as .body) allNamed_nil)))
      exact (yields_isNext _ _).bind fun _ _ => .ite (hobject.bind hlambda) (hexpression.bind hlambda)
    · exact (yields_word "new").bind fun new hnew => (yields_mark "\x7b").bind fun left hleft =>
        (yields_listed (yields_guarded hchain) fuel).bind fun inner hinner =>
          (yields_mark "\x7d").bind fun right hright => yields_node (by decide)
            (allNamed_append (allNamed_cons hnew.1 (allNamed_cons hleft hinner))
              (allNamed_cons hright allNamed_nil))

theorem yields_chain (fuel : Nat) : Yields (chain fuel) Part.IsNamed := (yields_expressions fuel).2.1

/-! ### Headers -/

theorem yields_dotted (fuel : Nat) {left : Part} (hleft : left.IsNamed) :
    Yields (dotted fuel left) Part.IsNamed := by
  induction fuel generalizing left with
  | zero => exact .failure
  | succ fuel ih =>
    refine (yields_isNext _ _).bind fun _ _ => .ite ?_ (.pure hleft)
    exact (yields_mark ".").bind fun dot hdot => yields_namePart.bind fun member hmember =>
      ih (isNamed_node (by decide) (allNamed_cons hleft (allNamed_cons hdot
        (allNamed_cons (hmember.as .name) allNamed_nil))))

theorem yields_dottedName (fuel : Nat) : Yields (dottedName fuel) Part.IsNamed :=
  yields_namePart.bind fun _ hfirst => yields_dotted fuel hfirst

/-- a part of a declaration before its name, which has no label -/
def Part.IsFront (p : Part) : Prop := p.IsNamed ∧ p.tree.label = none

theorem isFront_node {k : Kind} (hk : k ≠ .classDeclaration ∧ k ≠ .damage) {ps : List Part} (h : AllNamed ps) :
    (Part.node k ps).IsFront := by
  refine ⟨isNamed_node hk h, ?_⟩
  cases ps <;> rfl

theorem yields_attributeList (fuel : Nat) : Yields (attributeList fuel) Part.IsFront := by
  have harguments : Yields (attributeArguments fuel) Part.IsNamed :=
    yields_parenthesized (yields_literal.bind fun l hl =>
      yields_node (by decide) (allNamed_cons hl allNamed_nil)) fuel
  refine (yields_mark "[").bind fun left hleft => yields_namePart.bind fun n hn =>
    (yields_isNext _ _).bind fun _ _ => ?_
  have hclose : ∀ arguments, AllNamed arguments → Yields (do
      let right ← mark "]"
      Pure.pure (Part.node .attributeList [left, .node .attribute (n.as .name :: arguments), right]))
        Part.IsFront := fun arguments hargs =>
    (yields_mark "]").bind fun right hright => .pure (isFront_node (by decide)
      (allNamed_cons hleft (allNamed_cons (isNamed_node (by decide)
        (allNamed_cons (hn.as .name) hargs)) (allNamed_cons hright allNamed_nil))))
  exact .ite (harguments.bind fun a ha => hclose [a] (allNamed_cons ha allNamed_nil))
    (hclose [] allNamed_nil)

theorem yields_modifier : Yields modifier Part.IsFront :=
  (yields_token _ _).bind fun _ ht => .pure (isFront_node (by decide)
    (allNamed_cons (ht.2.leaf (by decide)) allNamed_nil))

/-- items that have no label stay so one behind the other -/
theorem yields_repeated_front {item : Reads Part} {begins : Reads Bool}
    (hitem : Yields item Part.IsFront) (hbegins : Yields begins fun _ => True) (fuel : Nat) :
    Yields (repeated begins item fuel) fun ps => ∀ p ∈ ps, p.IsFront := by
  induction fuel with
  | zero => exact .failure
  | succ fuel ih =>
    refine hbegins.bind fun _ _ => .ite ?_ (.pure fun _ h => absurd h List.not_mem_nil)
    exact hitem.bind fun first hfirst => ih.bind fun rest hrest =>
      .pure (List.forall_mem_cons.mpr ⟨hfirst, hrest⟩)

theorem yields_header (fuel : Nat) : Yields (header fuel) fun ps => ∀ p ∈ ps, p.IsFront :=
  (yields_repeated_front (yields_attributeList fuel) (yields_isNext _ _) fuel).bind fun _ hattributes =>
    (yields_repeated_front yields_modifier (yields_isNext _ _) fuel).bind fun _ hmodifiers =>
      .pure fun p hp => (List.mem_append.mp hp).elim (hattributes p) (hmodifiers p)

/-! ### Members -/

theorem yields_accessor : Yields accessor Part.IsNamed :=
  (yields_token _ _).bind fun _ ht => (yields_mark ";").bind fun _ hmark => yields_node (by decide)
    (allNamed_cons ((ht.2.leaf (by decide)).as .name) (allNamed_cons hmark allNamed_nil))

theorem yields_propertyRest (fuel : Nat) : Yields (propertyRest fuel) AllNamed := by
  refine (yields_mark "\x7b").bind fun left hleft => yields_accessor.bind fun first hfirst =>
    (yields_repeated yields_accessor (yields_isNext _ _) fuel).bind fun more hmore =>
      (yields_mark "\x7d").bind fun right hright => (yields_isNext _ _).bind fun _ _ => ?_
  have haccessors : (Part.node .other (left :: first :: more ++ [right])).IsNamed :=
    isNamed_node (by decide) (allNamed_append (allNamed_cons hleft (allNamed_cons hfirst hmore))
      (allNamed_cons hright allNamed_nil))
  refine .ite ?_ (.pure (allNamed_cons haccessors allNamed_nil))
  exact (yields_mark "=").bind fun equals hequals => yields_literal.bind fun value hvalue =>
    (yields_mark ";").bind fun stop hstop => .pure (allNamed_cons haccessors
      (allNamed_cons hequals (allNamed_cons hvalue (allNamed_cons hstop allNamed_nil))))

theorem yields_parameters (fuel : Nat) : Yields (parameters fuel) Part.IsNamed :=
  yields_parenthesized ((yields_type fuel).bind fun _ ht => yields_namePart.bind fun _ hn =>
    yields_node (by decide) (allNamed_cons (ht.as .type) (allNamed_cons (hn.as .name) allNamed_nil)))
    fuel

theorem yields_block (fuel : Nat) : Yields (block fuel) Part.IsNamed := by
  have hstatement : Yields (statement fuel) Part.IsNamed :=
    (yields_guarded (yields_chain fuel)).bind fun call hcall => (yields_mark ";").bind fun stop hstop =>
      yields_node (by decide) (allNamed_cons hcall (allNamed_cons hstop allNamed_nil))
  exact (yields_braced hstatement (yields_isNext _ _) fuel).bind fun _ h => yields_node (by decide) h

theorem yields_memberRest (fuel : Nat) {front : List Part} (hfront : AllNamed front) :
    Yields (memberRest fuel front) Part.IsNamed := by
  refine (yields_type fuel).bind fun t ht => yields_namePart.bind fun n hn =>
    (yields_isNext _ _).bind fun _ _ => .ite ?_ ?_
  · exact (yields_parameters fuel).bind fun ps hps => (yields_block fuel).bind fun body hbody =>
      yields_node (by decide) (allNamed_append hfront (allNamed_cons ht (allNamed_cons (hn.as .name)
        (allNamed_cons hps (allNamed_cons (hbody.as .body) allNamed_nil)))))
  · exact (yields_propertyRest fuel).bind fun rest hrest => yields_node (by decide)
      (allNamed_append hfront (allNamed_cons (ht.as .type) (allNamed_cons (hn.as .name) hrest)))

/-! ### Classes and namespaces -/

theorem isNamed_omittedSemicolon : omittedSemicolon.IsNamed :=
  ⟨fun _ h => absurd h List.not_mem_nil, .leaf (by decide)⟩

theorem yields_baseList (fuel : Nat) : Yields (baseList fuel) AllNamed := by
  refine (yields_isNext _ _).bind fun _ _ => .ite ?_ (.pure allNamed_nil)
  exact (yields_mark ":").bind fun colon hcolon => (yields_listed (yields_type fuel) fuel).bind
    fun types htypes => .pure (allNamed_cons (isNamed_node (by decide)
      (allNamed_cons hcolon htypes)) allNamed_nil)

theorem yields_isOpen : Yields isOpen fun _ => True :=
  (yields_isNext _ _).bind fun _ _ => .pure trivial

/-- classes and members, which are made of each other; the name of a class is read as a name -/
theorem yields_members (fuel : Nat) :
    (∀ front : List Part, (∀ p ∈ front, p.IsFront) → Yields (classRest fuel front) Part.IsNamed) ∧
      Yields (member fuel) Part.IsNamed := by
  induction fuel with
  | zero => exact ⟨fun _ _ => .failure, .failure⟩
  | succ fuel ih =>
    obtain ⟨hclass, hmember⟩ := ih
    refine ⟨fun front hfront => ?_, ?_⟩
    · refine (yields_word "class").bind fun keyword hkeyword => yields_name.bind fun n hn =>
        (yields_baseList fuel).bind fun bases hbases =>
          (yields_braced hmember yields_isOpen fuel).bind fun inner hinner => .pure ?_
      have hbody : (Part.node .other inner).IsNamed := isNamed_node (by decide) hinner
      have hrest : AllNamed (bases ++ [(Part.node .other inner).as .body, omittedSemicolon]) :=
        allNamed_append hbases (allNamed_cons (hbody.as .body)
          (allNamed_cons isNamed_omittedSemicolon allNamed_nil))
      have hbefore : ∀ p ∈ front ++ [keyword], p.IsFront := fun p hp =>
        (List.mem_append.mp hp).elim (hfront p) fun hp => by
          rw [List.mem_singleton.mp hp]
          exact hkeyword
      have hnode := isNamed_class (fun p hp => (hbefore p hp).1) (fun p hp => (hbefore p hp).2)
        hn.1 hn.2 hrest (List.append_ne_nil_of_right_ne_nil front (List.cons_ne_nil _ _))
      simpa only [List.append_assoc, List.cons_append, List.nil_append] using hnode
    · refine (yields_header fuel).bind fun front hfront => (yields_isNext _ _).bind fun _ _ => ?_
      exact .ite (hclass front hfront) (yields_memberRest fuel fun p hp => (hfront p hp).1)

theorem yields_declaration (fuel : Nat) : Yields (declaration fuel) Part.IsNamed := by
  induction fuel with
  | zero => exact .failure
  | succ fuel ih =>
    refine (yields_isNext _ _).bind fun _ _ => .ite ?_ ?_
    · exact (yields_word "namespace").bind fun keyword hkeyword => (yields_dottedName fuel).bind
        fun n hn => (yields_braced ih yields_isOpen fuel).bind fun inner hinner =>
          yields_node (by decide) (allNamed_cons hkeyword.1 (allNamed_cons (hn.as .name)
            (allNamed_cons ((isNamed_node (by decide) hinner).as .body)
              (allNamed_cons isNamed_omittedSemicolon allNamed_nil))))
    · exact (yields_header fuel).bind (yields_members fuel).1

/-! ### Whole texts -/

theorem yields_unit (fuel : Nat) : Yields (unit fuel) AllNamed := by
  have husing : Yields (usingDirective fuel) Part.IsNamed :=
    (yields_word "using").bind fun keyword hkeyword => (yields_dottedName fuel).bind fun n hn =>
      (yields_mark ";").bind fun stop hstop => yields_node (by decide)
        (allNamed_cons hkeyword.1 (allNamed_cons hn (allNamed_cons hstop allNamed_nil)))
  have hspace : Yields (fileNamespace fuel) AllNamed := by
    have hget : Yields (get : Reads (List Token)) fun _ => True := fun ts a rest hts heq => by
      obtain ⟨-, rfl⟩ := Prod.mk.inj (Option.some.inj heq)
      exact ⟨trivial, hts⟩
    refine hget.bind fun _ _ => .ite ?_ (.pure allNamed_nil)
    exact (yields_word "namespace").bind fun keyword hkeyword => (yields_dottedName fuel).bind
      fun n hn => (yields_mark ";").bind fun stop hstop => .pure (allNamed_cons
        (isNamed_node (by decide) (allNamed_cons hkeyword.1 (allNamed_cons (hn.as .name)
          (allNamed_cons hstop allNamed_nil)))) allNamed_nil)
  have hnotAtEnd : Yields (do Pure.pure (!(← isAtEnd)) : Reads Bool) fun _ => True :=
    (yields_isNext _ _).bind fun _ _ => .pure trivial
  exact (yields_repeated husing (yields_isNext _ _) fuel).bind fun usings husings =>
    hspace.bind fun space hspaces =>
      (yields_repeated (yields_declaration fuel) hnotAtEnd fuel).bind fun declarations hdeclarations =>
        (yields_token _ _).bind fun stop hstop => .pure (allNamed_append (allNamed_append
          (allNamed_append husings hspaces) hdeclarations)
            (allNamed_cons (hstop.2.leaf (by decide)) allNamed_nil))

/-- only a token that begins like a word is one, and it goes on as long as characters of words do -/
theorem isWordText_of_splitToken? {cs text rest : List Char}
    (h : splitToken? cs = some (.word, text, rest)) : IsWordText (String.ofList text) := by
  unfold splitToken? at h
  split at h
  · cases h
  · split at h
    · split at h <;> cases h
    · cases h
  · cases h
  · rename_i c cs _ _
    split at h
    · rename_i hc
      obtain ⟨-, heq⟩ := Prod.mk.inj (Option.some.inj h)
      obtain ⟨rfl, -⟩ := Prod.mk.inj heq
      intro d hd
      rw [String.toList_ofList] at hd
      rcases List.mem_cons.mp hd with rfl | hd
      · rw [isWordPart, Bool.or_eq_true]
        exact .inl hc
      · exact List.mem_takeWhile_imp hd
    · dsimp only at h
      split at h
      · split at h <;> cases h
      · split at h <;> cases h

theorem isRead_of_tokensFrom? {fuel : Nat} {lead : List Tree} {cs : List Char} {ts : List Token}
    (hlead : ∀ t ∈ lead, IsComment t) (h : tokensFrom? fuel lead cs = some ts) : IsRead ts := by
  induction fuel generalizing lead cs ts with
  | zero => cases h
  | succ fuel ih =>
    have hmore : ∀ gap text, ∀ t ∈ lead ++ [comment gap text], IsComment t := fun gap text t ht =>
      (List.mem_append.mp ht).elim (hlead t) fun ht => ⟨gap, text, List.mem_singleton.mp ht⟩
    rw [tokensFrom?] at h
    split at h
    · obtain rfl := Option.some.inj h
      intro t ht
      rw [List.mem_singleton.mp ht]
      exact ⟨hlead, fun hkind => (by cases hkind)⟩
    · exact ih (hmore _ _) h
    · obtain ⟨r, -, h⟩ := Option.bind_eq_some_iff.mp h
      exact ih (hmore _ _) h
    · obtain ⟨⟨kind, text, rest⟩, hsplit, h⟩ := Option.bind_eq_some_iff.mp h
      obtain ⟨us, hus, rfl⟩ := Option.map_eq_some_iff.mp h
      refine List.forall_mem_cons.mpr ⟨⟨hlead, fun hkind => ?_⟩,
        ih (fun t ht => absurd ht List.not_mem_nil) hus⟩
      obtain rfl : kind = .word := hkind
      exact isWordText_of_splitToken? hsplit

theorem named_of_tree? {source : String} {t : Tree} (h : tree? source = some t) : Named t := by
  obtain ⟨ts, hts, h⟩ := Option.bind_eq_some_iff.mp h
  obtain ⟨⟨parts, rest⟩, hparts, h⟩ := Option.bind_eq_some_iff.mp h
  have hnamed := (yields_unit _ ts parts rest
    (isRead_of_tokensFrom? (fun t ht => absurd ht List.not_mem_nil) hts) hparts).1
  dsimp only at h
  split at h
  · cases h
  · obtain rfl := Option.some.inj h
    exact .node (named_of_mem_trees hnamed) (fun heq => absurd heq (by decide)) (by decide)

theorem isWordText_of_tree? {source : String} {t : Tree} (h : tree? source = some t)
    {c : Option String × Tree} (hc : c ∈ t.declaredClasses) : IsWordText (c.2.partText .name) :=
  isWordText_of_mem_classTrees (named_of_tree? h) hc

end EndpointScaffold.CSharp.Plain
