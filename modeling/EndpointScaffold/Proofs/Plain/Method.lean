import EndpointScaffold.Proofs.Plain.Declared
import EndpointScaffold.Proofs.Plain.Segments

/-!
# Methods on paper

A method on paper is public, has one parameter `builder`, and its body is a list of statements, each
a chain of calls from that parameter.

* `CallStatement.clause`, `CallStatement.clause_reads` statements;
* `Method.clause`, `Method.clause_reads` methods;
* `Method.methodBody?_declaration`, `Method.chainsOf_body` a class whose only member is a method has
  the printed body under its name, and the chains in that are the statements in their order.
-/

namespace EndpointScaffold.CSharp.Plain

open Text Printed

/-! ### Statements -/

/-- the parameter that all chains start from -/
def builderName : String := "builder"

structure CallStatement where
  /-- comments before it -/
  comments : List Comment
  links : List Link
  hasLink : links ≠ []

theorem Link.legible_links (ls : List Link) :
    Legible (ls.flatMap Link.printed ++ [sign "" ";"]) ∧
      ∀ p : Printed, p.kind = .word →
        ∀ q ∈ (ls.flatMap Link.printed ++ [sign "" ";"]).head?, p.Before q := by
  induction ls with
  | nil =>
    refine ⟨legible_singleton.mpr (fit_sign rfl rfl), fun p hp q hq => ?_⟩
    obtain rfl : sign "" ";" = q := by simpa using hq
    exact before_sign_of_word hp (c := ';') rfl (by decide)
  | cons l ls ih =>
    constructor
    · rw [List.flatMap_cons, List.append_assoc]
      refine legible_cons_cons.mpr ⟨fit_sign rfl rfl, before_name rfl l.name, ?_⟩
      refine legible_cons.mpr ⟨fit_name rfl l.name, ?_, ?_⟩
      · intro q hq
        obtain rfl : sign "" "(" = q := by simpa [Link.call, Phrase.parens] using hq
        exact before_sign_of_word rfl (c := '(') rfl (by decide)
      · refine legible_append (l.call.legible "" rfl) ih.1 fun p hp q hq => ?_
        obtain rfl : sign "" ")" = p := by
          rw [Link.call, Phrase.parens, List.getLast?_append_of_ne_nil _ (List.cons_ne_nil _ _)] at hp
          simpa using hp
        exact before_any (by decide) q
    · intro p hp q hq
      obtain rfl : sign "" "." = q := by simpa [Link.printed] using hq
      exact before_sign_of_word hp (c := '.') rfl (by decide)

theorem Link.chars_links (ls : List Link) :
    (ls.flatMap Link.printed).flatMap chars =
      (String.join (ls.map fun l => "." ++ l.text)).toList := by
  rw [String.toList_join, List.flatMap_map, List.flatMap_assoc]
  refine List.flatMap_congr fun l _ => ?_
  rw [Link.printed, List.flatMap_cons, List.flatMap_cons, l.call.chars, Link.text]
  simp [chars_sign, chars_term]

theorem Link.plain_links (ls : List Link) : ∀ p ∈ ls.flatMap Link.printed, p.kind ≠ .stop := by
  intro p hp
  obtain ⟨l, -, hl⟩ := List.mem_flatMap.mp hp
  rw [Link.printed, List.mem_cons, List.mem_cons] at hl
  rcases hl with rfl | rfl | hl
  · simp
  · simp
  · exact (l.call.plain "" p hl).1

namespace CallStatement

variable (s : CallStatement)

/-- the name that the chain starts from -/
def root : Printed := (term "\n        " builderName).behind s.comments

def clause : Clause where
  printed := s.root :: (s.links.flatMap Link.printed ++ [sign "" ";"])
  part := .node .other [s.links.foldl Link.part s.root.name, (sign "" ";").leaf .mark]
  text := commentText "\n        " s.comments ++ "\n        " ++ builderName
    ++ String.join (s.links.map fun l => "." ++ l.text) ++ ";"
  plain := by
    intro p hp
    rw [List.mem_cons, List.mem_append, List.mem_singleton] at hp
    rcases hp with rfl | hp | rfl
    · simp [root]
    · exact Link.plain_links s.links p hp
    · simp
  legible := legible_cons.mpr ⟨(fit_term rfl rfl).behind rfl s.comments,
    (Link.legible_links s.links).2 s.root rfl, (Link.legible_links s.links).1⟩
  starts := ⟨_, _, rfl, (by decide : "\n        ".toList.head? = some '\n'),
    Link.lead_links s.links s.root.name, rfl⟩
  chars := by
    rw [List.flatMap_cons, List.flatMap_append, Link.chars_links, root, chars_behind_term]
    simp [chars_sign]

theorem clause_reads {fuel : Nat} (hfuel : s.clause.printed.length ≤ fuel) :
    s.clause.ReadBy (statement fuel) := by
  intro ts _
  have hlength : (s.links.flatMap Link.printed).length + 2 ≤ fuel := by
    rw [clause, List.length_cons, List.length_append] at hfuel
    exact hfuel
  obtain ⟨n, rfl⟩ : ∃ n, fuel = n + 1 := ⟨fuel - 1, by omega⟩
  have hend : Ends ((sign "" ";").token :: ts) := ends_cons (fun _ => by decide) ts
  have hlinks := links_reads s.links s.root.name hend
    (by omega : (s.links.flatMap Link.printed).length < n)
  have hname : isName builderName = true := by decide
  have hcall : isCall (s.links.foldl Link.part s.root.name) = true := by
    rcases List.eq_nil_or_concat s.links with h | ⟨init, l, h⟩
    · exact absurd h s.hasLink
    · rw [h, List.concat_eq_append, List.foldl_append]
      rfl
  have hsplit : tokensOf s.clause.printed ++ ts = s.root.token ::
      (tokensOf (s.links.flatMap Link.printed) ++ (sign "" ";").token :: ts) := by
    simp [clause]
  have hroot : s.root.kind = .word ∧ s.root.text = builderName := ⟨rfl, rfl⟩
  rw [hsplit]
  simp [statement, guarded, chain, hroot, hname, hlinks, hcall, clause]

theorem isInner : s.clause.part.isInner = true := by
  refine Part.isInner_node rfl fun p hp => ?_
  simp only [List.mem_cons, List.not_mem_nil, or_false] at hp
  rcases hp with rfl | rfl
  · exact Link.isInner_links s.links (Printed.isInner_name _)
  · exact Part.isInner_leaf _ _

end CallStatement

/-! ### Methods -/

/-- the parameter `builder` of a type -/
def builderOf (t : TypeForm) : Phrase where
  printed gap := t.phrase.printed gap ++ [term " " builderName]
  part gap := .node .other [(t.phrase.part gap).as .type, (term " " builderName).name.as .name]
  text := t.text ++ " " ++ builderName
  plain gap := by
    intro p hp
    rcases List.mem_append.mp hp with hp | hp
    · exact t.phrase.plain gap p hp
    · rw [List.mem_singleton.mp hp]
      exact ⟨by simp, rfl⟩
  legible gap hgap := by
    refine legible_append (t.phrase.legible gap hgap) (legible_singleton.mpr (fit_term rfl rfl)) ?_
    intro p _ q hq
    obtain rfl : term " " builderName = q := by simpa using hq
    exact before_of_blank rfl
  first gap := by
    rw [List.head?_append_of_ne_nil _ (t.phrase.printed_ne_nil gap)]
    exact t.phrase.first gap
  opens gap := by
    rw [List.head?_append_of_ne_nil _ (t.phrase.printed_ne_nil gap)]
    exact t.phrase.opens gap
  last gap := by simp [closes, term]
  chars gap := by
    rw [List.flatMap_append, t.phrase.chars]
    simp [chars_term, TypeForm.phrase]
  spells gap := by
    refine spells_node_parts ?_ ?_
    · intro p hp
      simp only [List.mem_cons, List.not_mem_nil, or_false] at hp
      rcases hp with rfl | rfl
      · exact t.phrase.lead gap
      · rfl
    · exact spells_cons ((spells_as .type).mpr (t.phrase.spells gap)) rfl
  lead gap := t.phrase.lead gap
  inner gap := by
    refine Part.isInner_node rfl fun p hp => ?_
    simp only [List.mem_cons, List.not_mem_nil, or_false] at hp
    rcases hp with rfl | rfl
    · rw [Part.isInner_as]
      exact t.phrase.inner gap
    · rw [Part.isInner_as]
      exact Printed.isInner_name _

theorem builderOf_reads (t : TypeForm) {fuel : Nat} (hfuel : 5 ≤ fuel) :
    (builderOf t).ReadBy (parameter fuel) := by
  intro gap ts _
  have hend : Ends ((term " " builderName).token :: ts) := ends_cons (fun h => by simp at h) ts
  have htype := t.phrase_reads hfuel gap ((term " " builderName).token :: ts) hend
  have hname : isName builderName = true := by decide
  have hsplit : tokensOf ((builderOf t).printed gap) ++ ts =
      tokensOf (t.phrase.printed gap) ++ (term " " builderName).token :: ts := by
    simp [builderOf]
  rw [hsplit, parameter, bind_reads, htype]
  simp [hname, builderOf]

structure Method where
  name : Name
  /-- type of the parameter -/
  parameter : TypeForm
  statements : List CallStatement
  /-- comments before the brace that closes the body -/
  closing : List Comment

namespace Method

variable (m : Method)

def parameters : Phrase := .parens [builderOf m.parameter]

def body : List Printed := braces "\n    " (m.statements.map CallStatement.clause) m.closing

def bodyPart : Part :=
  .node .block (bracesParts "\n    " (m.statements.map CallStatement.clause) m.closing)

def clause : Clause where
  printed := term "\n    " "public" :: term " " "void" :: term " " m.name.text ::
    (m.parameters.printed "" ++ m.body)
  part := .node .methodDeclaration [modifierPart (term "\n    " "public"),
    (term " " "void").leaf .other, (term " " m.name.text).name.as .name, m.parameters.part "",
    m.bodyPart.as .body]
  text := "\n    public void " ++ m.name.text ++ m.parameters.text
    ++ bracesText "\n    " (m.statements.map CallStatement.clause) m.closing
  plain := by
    intro p hp
    rw [List.mem_cons, List.mem_cons, List.mem_cons, List.mem_append] at hp
    rcases hp with rfl | rfl | rfl | hp | hp
    · simp
    · simp
    · simp
    · exact (m.parameters.plain "" p hp).1
    · exact plain_braces _ _ _ p hp
  legible := by
    refine legible_cons_cons.mpr ⟨fit_term rfl rfl, before_of_blank rfl, ?_⟩
    refine legible_cons_cons.mpr ⟨fit_term rfl rfl, before_of_blank rfl, ?_⟩
    refine legible_cons.mpr ⟨fit_name rfl m.name, ?_, ?_⟩
    · intro q hq
      obtain rfl : sign "" "(" = q := by simpa [parameters, Phrase.parens] using hq
      exact before_sign_of_word rfl (c := '(') rfl (by decide)
    · exact legible_newline (m.parameters.legible "" rfl) (legible_braces _ _ rfl rfl) rfl
  starts := ⟨_, _, rfl, (by decide : "\n    ".toList.head? = some '\n'), rfl, rfl⟩
  chars := by
    rw [List.flatMap_cons, List.flatMap_cons, List.flatMap_cons, List.flatMap_append,
      m.parameters.chars, body, chars_braces]
    simp [chars_term]

theorem length_le_body {s : CallStatement} (hs : s ∈ m.statements) :
    s.clause.printed.length ≤ m.body.length := by
  have h := length_mem_braces "\n    " (m.statements.map CallStatement.clause) m.closing
    (List.mem_map_of_mem hs)
  rw [body]
  omega

theorem body_reads {fuel : Nat} (hfuel : m.body.length ≤ fuel) (ts : List Token) :
    block fuel (tokensOf m.body ++ ts) = some (m.bodyPart, ts) := by
  have hlength := length_le_braces "\n    " (m.statements.map CallStatement.clause) m.closing
  have hname : isName builderName = true := by decide
  have hbraces : braced (isNext .word isName) (statement fuel) fuel (tokensOf m.body ++ ts) =
      some (bracesParts "\n    " (m.statements.map CallStatement.clause) m.closing, ts) := by
    refine braced_reads _ _ ?_ ?_ ?_ ts (by rw [body] at hfuel; omega)
    · simp
    · intro b hb us
      obtain ⟨s, hs, rfl⟩ := List.mem_map.mp hb
      simp [CallStatement.clause, CallStatement.root, hname]
    · intro b hb
      obtain ⟨s, hs, rfl⟩ := List.mem_map.mp hb
      have h := m.length_le_body hs
      exact s.clause_reads (by omega)
  rw [block, bind_reads, hbraces]
  rfl

theorem parameters_reads (ts : List Token) {fuel : Nat} (hfuel : 5 ≤ fuel) :
    Plain.parameters fuel (tokensOf (m.parameters.printed "") ++ ts) =
      some (m.parameters.part "", ts) := by
  refine Phrase.parens_reads (fun b hb => ?_) "" ts (by simp; omega)
  rw [List.mem_singleton.mp hb]
  exact builderOf_reads m.parameter hfuel

theorem clause_reads {fuel : Nat} (hfuel : m.clause.printed.length ≤ fuel) :
    m.clause.ReadBy (member fuel) := by
  intro ts _
  have hbody : 2 ≤ m.body.length :=
    Nat.le_of_add_left_le (length_le_braces "\n    " _ m.closing)
  have hlength : m.body.length + 5 ≤ fuel := by
    simp [clause, parameters, Phrase.parens] at hfuel
    omega
  obtain ⟨n, rfl⟩ : ∃ n, fuel = n + 1 := ⟨fuel - 1, by omega⟩
  have hsplit : tokensOf m.clause.printed ++ ts = tokensOf [term "\n    " "public"] ++
      (term " " "void").token :: (term " " m.name.text).token ::
        (tokensOf (m.parameters.printed "") ++ (tokensOf m.body ++ ts)) := by
    simp [clause]
  have hheader : ∀ us, header n (tokensOf [term "\n    " "public"] ++ (term " " "void").token :: us) =
      some ([modifierPart (term "\n    " "public")], (term " " "void").token :: us) := by
    intro us
    refine header_reads [] ?_ (List.cons_ne_nil _ _) (fun _ => by decide) us ?_ (by simp; omega)
    · intro p hp
      rw [List.mem_singleton.mp hp]
      exact ⟨rfl, by decide⟩
    · exact fun a ha => absurd ha List.not_mem_nil
  have hvoid : ∀ us, type n ((term " " "void").token :: (term " " m.name.text).token :: us) =
      some ((term " " "void").leaf .other, (term " " m.name.text).token :: us) := fun us =>
    (TypeForm.predefined "void" (by decide) .plain).phrase_reads (by omega) " " _
      (ends_cons (fun h => by simp at h) us)
  have hparameters := m.parameters_reads (tokensOf m.body ++ ts) (by omega : 5 ≤ n)
  have hblock := m.body_reads (by omega : m.body.length ≤ n) ts
  obtain ⟨ps, hps⟩ : ∃ ps, m.parameters.printed "" = sign "" "(" :: ps := ⟨_, rfl⟩
  rw [hsplit, member, bind_reads, hheader, Option.bind_some, hps]
  rw [hps] at hparameters
  simp only [tokensOf, List.map_cons, List.cons_append] at hparameters hblock ⊢
  simp [memberRest, hvoid, m.name.isName_text, hparameters, hblock, clause]

theorem isInner : m.clause.part.isInner = true := by
  refine Part.isInner_node rfl fun p hp => ?_
  simp only [List.mem_cons, List.not_mem_nil, or_false] at hp
  rcases hp with rfl | rfl | rfl | rfl | rfl
  · exact Part.isInner_node rfl fun q hq => by
      rw [List.mem_singleton.mp hq]
      exact Part.isInner_leaf _ _
  · exact Part.isInner_leaf _ _
  · rw [Part.isInner_as]
    exact Printed.isInner_name _
  · exact m.parameters.inner ""
  · rw [Part.isInner_as]
    refine Part.isInner_node rfl (inner_bracesParts _ _ _ fun b hb => ?_)
    obtain ⟨s, -, rfl⟩ := List.mem_map.mp hb
    exact s.isInner

theorem isMember : m.clause.IsMember where
  fits := Kind.noConfusion
  inner := m.isInner
  reads _ hfuel := m.clause_reads hfuel
  opens ts := by simp [isOpen, clause]

end Method

/-! ### Bodies -/

open CSharp.Tree

theorem chainsInAll_eq (root : String) (ts : List Tree) :
    chainsInAll root none ts = ts.flatMap (chainsIn root false) := by
  induction ts with
  | nil => rfl
  | cons t ts ih =>
    rw [chainsInAll, if_neg (by simp), ih, List.flatMap_cons]

/-- a statement is one chain -/
theorem CallStatement.chainsIn_part (s : CallStatement) :
    chainsIn builderName false s.clause.part.tree = [s.links.map Link.segment] := by
  have hroot : builderName ≠ "x" := by decide
  have hchain := chainsIn_root hroot (by decide : trim builderName = builderName) "\n        "
    s.comments s.hasLink
  show chainsIn builderName false (.node none .other [(s.links.foldl Link.part s.root.name).tree,
    ((sign "" ";").leaf .mark).tree]) = _
  rw [chainsIn, show receiverLabel? .other = none from rfl, Option.isNone_none, Bool.or_true,
    if_pos rfl, chainsInAll_eq, List.flatMap_cons, root, hchain]
  rfl

namespace Method

variable (m : Method)

theorem tree_part : m.clause.part.tree = .node none .methodDeclaration
    [(modifierPart (term "\n    " "public")).tree, ((term " " "void").leaf .other).tree,
      ((term " " m.name.text).name.as .name).tree, (m.parameters.part "").tree,
      (m.bodyPart.as .body).tree] := by
  show (Part.node .methodDeclaration _).tree = _
  rw [tree_node]
  · rfl
  · intro p hp
    simp only [List.tail_cons, List.mem_cons, List.not_mem_nil, or_false] at hp
    rcases hp with rfl | rfl | rfl | rfl <;> rfl

theorem partText_name : m.clause.part.tree.partText .name = m.name.text := by
  have hpart : m.clause.part.tree.part? .name =
      some ((term " " m.name.text).name.as .name).tree := by
    rw [part?, m.tree_part]
    rfl
  rw [partText, hpart, Option.map_some, Option.getD_some, Name.text_name_as]

theorem find?_body : (m.clause.part.tree.parts.find? fun p => p.kind.isMethodBody) =
    some (m.bodyPart.as .body).tree := by
  rw [m.tree_part]
  rfl

theorem methodBody?_declaration {c : ClassForm} (hc : c.members = [m.clause])
    (space : Option String) :
    (c.declaration space).methodBody? m.name.text = some (m.bodyPart.as .body).tree := by
  have hmethods : (c.declaration space).methods = [m.clause.part.tree] := by
    have hkind : hasKind .methodDeclaration m.clause.part.tree = true := by
      rw [m.tree_part]
      rfl
    rw [ClassDeclaration.methods, ← List.filterMap_eq_filter, ClassForm.declaration,
      c.filterMap_members, hc]
    · simp [Option.guard, hkind]
    · intro l k gap text hk
      rcases hk with rfl | rfl <;> rfl
  rw [ClassDeclaration.methodBody?, hmethods, List.filter_cons_of_pos (by
    rw [m.partText_name, beq_self_eq_true]), List.filter_nil, List.findSome?_cons, m.find?_body]

/-- the chains in the body of a method are its statements -/
theorem chainsOf_body : chainsOf builderName (m.bodyPart.as .body).tree =
    m.statements.map fun s => s.links.map Link.segment := by
  have hnode : ∀ t : Tree, t = m.bodyPart.tree →
      chainsIn builderName false t = m.bodyPart.tree.parts.flatMap (chainsIn builderName false) := by
    intro t ht
    rw [ht, ← chainsInAll_eq]
    rfl
  rw [chainsOf, chainsIn_as, hnode _ rfl, bodyPart, flatMap_braces fun _ _ _ _ _ => rfl,
    List.flatMap_map, ← List.flatMap_singleton' (m.statements.map _), List.flatMap_map]
  exact List.flatMap_congr fun s _ => s.chainsIn_part

end Method

end EndpointScaffold.CSharp.Plain
