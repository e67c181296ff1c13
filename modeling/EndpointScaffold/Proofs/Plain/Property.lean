import EndpointScaffold.Proofs.Plain.Declared

/-!
# Properties on paper

A property on paper is public and has its attributes on lines before it; it can be read and set.

* `PropertyForm.clause`, `PropertyForm.clause_reads`;
* `PropertyForm.property?_part` the property that is found in what is read.
-/

namespace EndpointScaffold.CSharp.Plain

open Text Printed CSharp.Tree

structure PropertyForm where
  attributes : List Attribute
  /-- comments behind the attributes -/
  comments : List Comment
  type : TypeForm
  name : Name

/-- the modifier `public` on a line of its own -/
def publicClause (cs : List Comment) : Clause where
  printed := [(term "\n    " "public").behind cs]
  part := modifierPart ((term "\n    " "public").behind cs)
  text := commentText "\n    " cs ++ "\n    public"
  plain p hp := by
    rw [List.mem_singleton.mp hp]
    simp
  legible := legible_singleton.mpr ((fit_term rfl rfl).behind rfl cs)
  starts := ⟨_, _, rfl, (by decide : "\n    ".toList.head? = some '\n'), rfl, rfl⟩
  chars := by
    rw [List.flatMap_singleton, chars_behind_term]
    simp

namespace PropertyForm

variable (p : PropertyForm)

/-- what stands before the type -/
def front : List Clause := p.attributes.map Attribute.clause ++ [publicClause p.comments]

def accessors : List Printed := [sign " " "\x7b", term " " "get", sign "" ";", term " " "set",
  sign "" ";", sign " " "\x7d"]

def accessorPart (w : String) : Part :=
  .node .other [((term " " w).leaf .mark).as .name, (sign "" ";").leaf .mark]

def accessorsPart : Part := .node .other [(sign " " "\x7b").leaf .mark, accessorPart "get",
  accessorPart "set", (sign " " "\x7d").leaf .mark]

def rest : List Printed := p.type.phrase.printed " " ++ term " " p.name.text :: accessors

def restParts : List Part :=
  [(p.type.phrase.part " ").as .type, (term " " p.name.text).name.as .name, accessorsPart]

/-! ### Printing -/

theorem legible_rest : Legible p.rest := by
  have haccessors : Legible accessors := by
    refine legible_cons_cons.mpr ⟨fit_sign rfl rfl, before_of_blank rfl, ?_⟩
    refine legible_cons_cons.mpr ⟨fit_term rfl rfl,
      before_sign_of_word rfl (c := ';') rfl (by decide), ?_⟩
    refine legible_cons_cons.mpr ⟨fit_sign rfl rfl, before_of_blank rfl, ?_⟩
    refine legible_cons_cons.mpr ⟨fit_term rfl rfl,
      before_sign_of_word rfl (c := ';') rfl (by decide), ?_⟩
    exact legible_cons_cons.mpr ⟨fit_sign rfl rfl, before_of_blank rfl,
      legible_singleton.mpr (fit_sign rfl rfl)⟩
  refine legible_append (p.type.phrase.legible " " rfl) ?_ fun q _ r hr => ?_
  · exact legible_cons.mpr ⟨fit_name rfl p.name, fun q hq => by
      obtain rfl : sign " " "\x7b" = q := by simpa [accessors] using hq
      exact before_of_blank rfl, haccessors⟩
  · obtain rfl : term " " p.name.text = r := by simpa using hr
    exact before_of_blank rfl

theorem chars_rest : p.rest.flatMap chars =
    (" " ++ p.type.text ++ " " ++ p.name.text ++ " \x7b get; set; \x7d").toList := by
  rw [rest, List.flatMap_append, p.type.phrase.chars]
  simp [accessors, chars_term, chars_sign, TypeForm.phrase]

/-- a type starts with a word that is no modifier and opens no class -/
theorem exists_rest : ∃ q qs, p.rest = q :: qs ∧ q.gap = " " ∧ q.kind = .word ∧
    q.text ∉ plainModifiers ∧ q.text ≠ "class" := by
  have hword : ∀ w ∈ predefinedTypes, w ∉ plainModifiers ∧ w ≠ "class" := by decide
  have hname : ∀ n : Name, n.text ∉ plainModifiers ∧ n.text ≠ "class" := fun n => by
    have hclass : n.text ∉ ["class"] := n.not_mem (by decide)
    exact ⟨n.not_mem (by decide), fun h => hclass (h ▸ List.mem_cons_self)⟩
  obtain ⟨_, _, t, n⟩ := p
  rcases t with ⟨w, hw, _ | _ | _⟩ | m | ⟨m, a⟩
  · exact ⟨_, _, rfl, rfl, rfl, hword w hw⟩
  · exact ⟨_, _, rfl, rfl, rfl, hword w hw⟩
  · exact ⟨_, _, rfl, rfl, rfl, hword w hw⟩
  · exact ⟨_, _, rfl, rfl, rfl, hname m⟩
  · exact ⟨_, _, rfl, rfl, rfl, hname m⟩

theorem flatMap_front : p.front.flatMap Clause.printed =
    (p.attributes.map Attribute.clause).flatMap Clause.printed ++
      [(term "\n    " "public").behind p.comments] := by
  rw [front, List.flatMap_append, List.flatMap_singleton]
  rfl

def clause : Clause where
  printed := p.front.flatMap Clause.printed ++ p.rest
  part := .node .propertyDeclaration (p.front.map Clause.part ++ p.restParts)
  text := String.join (p.front.map Clause.text) ++ " " ++ p.type.text ++ " " ++ p.name.text
    ++ " \x7b get; set; \x7d"
  plain := by
    intro q hq
    rw [rest, List.mem_append, List.mem_append, List.mem_cons] at hq
    rcases hq with hq | hq | rfl | hq
    · exact Clause.plain_clauses p.front q hq
    · exact (p.type.phrase.plain " " q hq).1
    · simp
    · have hall : ∀ q ∈ accessors, q.kind ≠ .stop := by decide
      exact hall q hq
  legible := by
    have hpublic : Legible ((term "\n    " "public").behind p.comments :: p.rest) := by
      refine legible_cons.mpr
        ⟨(fit_term rfl rfl).behind rfl p.comments, fun q hq => ?_, p.legible_rest⟩
      obtain ⟨r, rs, hrest, hgap, -⟩ := p.exists_rest
      obtain rfl : r = q := by simpa [hrest] using hq
      exact before_of_blank hgap
    rw [flatMap_front, List.append_assoc]
    exact (Clause.legible_clauses _ hpublic (by decide : "\n    ".toList.head? = some '\n')).1
  starts := by
    unfold front
    cases p.attributes with
    | nil => exact ⟨_, _, rfl, (by decide : "\n    ".toList.head? = some '\n'), rfl, rfl⟩
    | cons a as => exact ⟨_, _, rfl, (by decide : "\n    ".toList.head? = some '\n'), rfl, rfl⟩
  chars := by
    rw [List.flatMap_append, Clause.chars_clauses, p.chars_rest]
    simp

/-! ### Reading -/

theorem accessor_reads {w : String} (hw : isAccessor w = true) (ts : List Token) :
    accessor ((term " " w).token :: (sign "" ";").token :: ts) = some (accessorPart w, ts) := by
  simp [accessor, hw, accessorPart]

theorem propertyRest_reads {ts : List Token} (hts : Clause.IsNext ts) {fuel : Nat}
    (hfuel : 2 ≤ fuel) :
    propertyRest fuel (tokensOf accessors ++ ts) = some ([accessorsPart], ts) := by
  obtain ⟨n, rfl⟩ : ∃ n, fuel = n + 2 := ⟨fuel - 2, by omega⟩
  unfold Clause.IsNext at hts
  have hget : ∀ ts, accessor ((term " " "get").token :: (sign "" ";").token :: ts) =
      some (accessorPart "get", ts) := accessor_reads rfl
  have hset : ∀ ts, accessor ((term " " "set").token :: (sign "" ";").token :: ts) =
      some (accessorPart "set", ts) := accessor_reads rfl
  have hmore : repeated (isNext .word isAccessor) accessor (n + 2)
      ((term " " "set").token :: (sign "" ";").token :: (sign " " "\x7d").token :: ts) =
        some ([accessorPart "set"], (sign " " "\x7d").token :: ts) := by
    simp [repeated, isAccessor, hset]
  simp [propertyRest, accessors, hget, hmore, hts, accessorsPart]

theorem memberRest_reads {ts : List Token} (hts : Clause.IsNext ts) (front : List Part) {fuel : Nat}
    (hfuel : 5 ≤ fuel) :
    memberRest fuel front (tokensOf p.rest ++ ts) =
      some (.node .propertyDeclaration (front ++ p.restParts), ts) := by
  have hend : Ends ((term " " p.name.text).token :: (tokensOf accessors ++ ts)) :=
    ends_cons (fun h => by simp at h) _
  have htype := p.type.phrase_reads hfuel " " _ hend
  have haccessors := propertyRest_reads hts (by omega : 2 ≤ fuel)
  have hcall : ∀ us, isMarkNext "(" (tokensOf accessors ++ us) =
      some (false, tokensOf accessors ++ us) :=
    fun us => rfl
  have hsplit : tokensOf p.rest ++ ts = tokensOf (p.type.phrase.printed " ") ++
      (term " " p.name.text).token :: (tokensOf accessors ++ ts) := by
    simp [rest]
  rw [hsplit, memberRest, bind_reads, htype]
  simp only [Option.bind_some, bind_reads, name_reads, kind_term, text_term, beq_self_eq_true,
    p.name.isName_text, Bool.and_self, hcall, ite_reads, Bool.false_eq_true, if_false, haccessors,
    pure_reads, restParts]

theorem length_printed : p.clause.printed.length =
    ((p.attributes.map Attribute.clause).flatMap Clause.printed).length + p.rest.length + 1 := by
  show (p.front.flatMap Clause.printed ++ p.rest).length = _
  rw [flatMap_front, List.length_append, List.length_append, List.length_singleton]
  omega

theorem length_rest : 8 ≤ p.rest.length := by
  have htype := List.length_pos_of_ne_nil (p.type.phrase.printed_ne_nil " ")
  simp only [rest, accessors, List.length_append, List.length_cons, List.length_nil]
  omega

theorem header_front (ts : List Token) {fuel : Nat} (hfuel : p.clause.printed.length ≤ fuel + 1) :
    header fuel (tokensOf (p.front.flatMap Clause.printed) ++ (tokensOf p.rest ++ ts)) =
      some (p.front.map Clause.part, tokensOf p.rest ++ ts) := by
  obtain ⟨q, qs, hrest, -, -, hmodifier, -⟩ := p.exists_rest
  have hlength := p.length_printed
  have hlength' := p.length_rest
  have hattributes := Clause.length_le_flatMap (p.attributes.map Attribute.clause)
  rw [List.length_map] at hattributes
  have harguments : ∀ a ∈ p.attributes, (a.arguments.getD []).length ≤ fuel := by
    intro a ha
    have h := Clause.length_le_clauses (List.mem_map_of_mem (f := Attribute.clause) ha)
    have h' := a.length_arguments
    omega
  have hpublic : ∀ r ∈ [(term "\n    " "public").behind p.comments],
      r.kind = .word ∧ r.text ∈ plainModifiers := by
    intro r hr
    rw [List.mem_singleton.mp hr]
    exact ⟨rfl, (by decide : "public" ∈ plainModifiers)⟩
  have hheader := header_reads p.attributes hpublic (List.cons_ne_nil _ _) (fun _ => hmodifier)
    (tokensOf qs ++ ts) harguments (by rw [List.length_singleton]; omega)
  rw [hrest, flatMap_front]
  show header fuel (tokensOf (_ ++ [_]) ++ q.token :: (tokensOf qs ++ ts)) = _
  rw [hheader, front, List.map_append, List.map_map]
  rfl

theorem clause_reads {fuel : Nat} (hfuel : p.clause.printed.length ≤ fuel) :
    p.clause.ReadBy (member fuel) := by
  intro ts hts
  have hlength := p.length_printed
  have hlength' := p.length_rest
  obtain ⟨n, rfl⟩ : ∃ n, fuel = n + 1 := ⟨fuel - 1, by omega⟩
  obtain ⟨q, qs, hrest, -, -, -, hclass⟩ := p.exists_rest
  have hheader := p.header_front ts hfuel
  have hmember := p.memberRest_reads hts (p.front.map Clause.part) (by omega : 5 ≤ n)
  have hnext : isWordNext "class" (tokensOf p.rest ++ ts) = some (false, tokensOf p.rest ++ ts) := by
    rw [hrest, tokensOf, List.map_cons, List.cons_append, isWordNext_reads,
      beq_false_of_ne hclass, Bool.and_false]
  show member (n + 1) (tokensOf (p.front.flatMap Clause.printed ++ p.rest) ++ ts) = _
  rw [member, bind_reads, tokensOf, List.map_append, List.append_assoc, hheader, Option.bind_some,
    bind_reads, hnext, Option.bind_some, ite_reads, if_neg Bool.false_ne_true, hmember]
  rfl

theorem lead_restParts : ∀ q ∈ p.restParts, q.lead = [] := by
  intro q hq
  simp only [restParts, List.mem_cons, List.not_mem_nil, or_false] at hq
  rcases hq with rfl | rfl | rfl
  · exact p.type.phrase.lead " "
  · rfl
  · rfl

theorem isInner : p.clause.part.isInner = true := by
  refine Part.isInner_node rfl fun q hq => ?_
  rw [List.mem_append, front, List.map_append, List.mem_append, List.map_map] at hq
  rcases hq with (hq | hq) | hq
  · obtain ⟨a, -, rfl⟩ := List.mem_map.mp hq
    exact a.isInner
  · rw [List.mem_singleton.mp hq]
    exact isInner_modifierPart _
  · simp only [restParts, List.mem_cons, List.not_mem_nil, or_false] at hq
    rcases hq with rfl | rfl | rfl
    · rw [Part.isInner_as]
      exact p.type.phrase.inner " "
    · rw [Part.isInner_as]
      exact Printed.isInner_name _
    · rfl

theorem isOpen_clause (ts : List Token) : isOpen (tokensOf p.clause.printed ++ ts) =
    some (true, tokensOf p.clause.printed ++ ts) := by
  obtain ⟨q, qs, hq, hopen⟩ : ∃ q qs, p.clause.printed = q :: qs ∧
      (q.kind == .mark && q.text == "\x7d") = false := by
    show ∃ q qs, p.front.flatMap Clause.printed ++ p.rest = q :: qs ∧ _
    rw [flatMap_front]
    cases p.attributes with
    | nil => exact ⟨_, _, rfl, rfl⟩
    | cons a as => exact ⟨_, _, rfl, rfl⟩
  rw [hq, tokensOf, List.map_cons, List.cons_append, isOpen, bind_reads, isMarkNext_reads, hopen]
  rfl

theorem isMember : p.clause.IsMember where
  fits := by
    show (Part.node .propertyDeclaration _).tree.kind ≠ .damage
    rw [Part.kind_node]
    decide
  inner := p.isInner
  reads _ hfuel := p.clause_reads hfuel
  opens := p.isOpen_clause

/-! ### What is found -/

def declaration : PropertyDeclaration :=
  ⟨p.name.text, p.type.text, ["public"], p.attributes.map Attribute.text⟩

theorem filter_parts {test : Tree → Bool}
    (htest : ∀ gap text, test (.leaf none .comment gap text) = false) :
    p.clause.part.tree.parts.filter test =
      (p.attributes.map fun a => a.clause.part.tree).filter test ++
        ((modifierPart (term "\n    " "public")).tree :: p.restParts.map Part.tree).filter test := by
  have hfront : (p.front.map fun b => b.part.tree) =
      (p.attributes.map fun a => a.clause.part.tree) ++
        [(modifierPart (term "\n    " "public")).tree] := by
    rw [front, List.map_append, List.map_map]
    rfl
  have hne : p.front ≠ [] := by
    rw [front]
    exact List.append_ne_nil_of_right_ne_nil _ (List.cons_ne_nil _ _)
  show (Part.node .propertyDeclaration (p.front.map Clause.part ++ p.restParts)).tree.parts.filter test
    = _
  rw [filter_node htest _ hne p.lead_restParts, hfront, List.filter_append, List.append_assoc,
    ← List.filter_append]
  rfl

theorem filter_attributes {test : Tree → Bool}
    (htest : ∀ a : Attribute, test a.clause.part.tree = false) :
    (p.attributes.map fun a => a.clause.part.tree).filter test = [] := by
  rw [List.filter_eq_nil_iff]
  intro t ht
  obtain ⟨a, -, rfl⟩ := List.mem_map.mp ht
  rw [htest a]
  exact Bool.false_ne_true

theorem find?_parts {test : Tree → Bool}
    (htest : ∀ gap text, test (.leaf none .comment gap text) = false)
    (hattributes : ∀ a : Attribute, test a.clause.part.tree = false) :
    p.clause.part.tree.parts.find? test =
      ((modifierPart (term "\n    " "public")).tree :: p.restParts.map Part.tree).find? test := by
  rw [← List.head?_filter, p.filter_parts htest, p.filter_attributes hattributes, List.nil_append,
    List.head?_filter]

theorem part?_type :
    p.clause.part.tree.part? .type = some ((p.type.phrase.part " ").as .type).tree := by
  have htype : ((p.type.phrase.part " ").as .type).tree.hasLabel .type = true := by
    rw [Part.hasLabel_as]
    rfl
  rw [part?, p.find?_parts (fun _ _ => rfl) (fun _ => rfl),
    List.find?_cons_of_neg (by exact Bool.false_ne_true)]
  exact List.find?_cons_of_pos htype

theorem part?_name :
    p.clause.part.tree.part? .name = some ((term " " p.name.text).name.as .name).tree := by
  have htype : ¬ ((p.type.phrase.part " ").as .type).tree.hasLabel .name = true := by
    rw [Part.hasLabel_as]
    exact Bool.false_ne_true
  rw [part?, p.find?_parts (fun _ _ => rfl) (fun _ => rfl),
    List.find?_cons_of_neg (by exact Bool.false_ne_true), restParts, List.map_cons,
    List.find?_cons_of_neg htype]
  rfl

theorem kind_restParts (k : Kind) (hk : k = .modifier ∨ k = .attributeList) :
    (p.restParts.map Part.tree).filter (hasKind k) = [] := by
  have htype : ∀ t : TypeForm, ((t.phrase.part " ").tree.kind == k) = false := by
    intro t
    rcases t with ⟨w, hw, _ | _ | _⟩ | n | ⟨n, a⟩ <;> rcases hk with rfl | rfl <;> rfl
  have htype' : ¬ hasKind k ((p.type.phrase.part " ").as .type).tree = true := by
    rw [hasKind, Part.kind_as, htype]
    exact Bool.false_ne_true
  rw [restParts, List.map_cons, List.filter_cons_of_neg htype']
  rcases hk with rfl | rfl <;> rfl

theorem modifiers_part : Tree.modifiers p.clause.part.tree = ["public"] := by
  have hpublic : (modifierPart (term "\n    " "public")).tree.text = "public" := by decide
  rw [Tree.modifiers, textsOf, p.filter_parts (fun _ _ => rfl), p.filter_attributes (fun _ => rfl),
    List.nil_append, List.filter_cons_of_pos rfl, p.kind_restParts _ (.inl rfl), List.map_singleton,
    hpublic]

theorem textsOf_attribute (a : Attribute) : a.clause.part.tree.textsOf .attribute = [a.text] := by
  have hparts : a.clause.part.tree.parts = [((sign "\n    " "[").leaf .mark).tree,
      a.insidePart.tree, ((sign "" "]").leaf .mark).tree] := by
    show (Part.node .attributeList _).tree.parts = _
    rw [tree_node]
    · rfl
    · intro q hq
      simp only [List.tail_cons, List.mem_cons, List.not_mem_nil, or_false] at hq
      rcases hq with rfl | rfl <;> rfl
  rw [textsOf, hparts, ← a.text_insidePart]
  rfl

theorem attributes_part :
    Tree.attributes p.clause.part.tree = p.attributes.map Attribute.text := by
  have hall : (p.attributes.map fun a => a.clause.part.tree).filter (hasKind .attributeList) =
      p.attributes.map fun a => a.clause.part.tree := by
    rw [List.filter_eq_self]
    intro t ht
    obtain ⟨a, -, rfl⟩ := List.mem_map.mp ht
    rfl
  rw [Tree.attributes, p.filter_parts (fun _ _ => rfl), hall,
    List.filter_cons_of_neg (by exact Bool.false_ne_true), p.kind_restParts _ (.inr rfl),
    List.append_nil, List.flatMap_map, ← List.flatMap_singleton' (p.attributes.map _),
    List.flatMap_map]
  exact List.flatMap_congr fun a _ => textsOf_attribute a

/-- the property that is found is the one that was printed -/
theorem property?_part : p.clause.part.tree.property? = some p.declaration := by
  have hkind : (p.clause.part.tree.kind != .propertyDeclaration) = false := by
    show ((Part.node .propertyDeclaration _).tree.kind != _) = false
    rw [Part.kind_node]
    rfl
  rw [property?, hkind, p.part?_type, p.part?_name]
  show some (PropertyDeclaration.mk _ _ _ _) = _
  rw [p.type.phrase.text_as rfl, Name.text_name_as, p.modifiers_part, p.attributes_part]
  rfl

end PropertyForm

end EndpointScaffold.CSharp.Plain
