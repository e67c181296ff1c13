import EndpointScaffold.Proofs.Fluent.Accumulation
import EndpointScaffold.Proofs.Fluent.Interface
import EndpointScaffold.Proofs.Fluent.Selection
import EndpointScaffold.Proofs.Plain.Method

/-!
# Configurations on paper

A configuration on paper is a class that implements `IEntityTypeConfiguration<T>`; the statements of
its method `Configure` select keys and give calls to properties.

* `Statement.given` what a statement gives to which members, `Configuration.given` all of it;
* `Configuration.text` what is on paper, `Configuration.tree` the tree that stands for it;
* `Configuration.ofSource_configuration` the entity and its rules are read as they were printed.
-/

namespace EndpointScaffold.Fluent

open CSharp CSharp.Plain Text

/-! ### Statements -/

structure Call where
  name : Name
  arguments : List Literal

def Call.text (c : Call) : String :=
  c.name.text ++ "(" ++ Text.join ", " (c.arguments.map Literal.text) ++ ")"

def Call.link (c : Call) : Link := ⟨c.name, c.arguments.map .literal⟩

inductive Statement where
  /-- `builder.HasKey(x => x.M);` -/
  | key (member : Name)
  /-- `builder.HasKey(x => new { x.M, … });` -/
  | keys (member : Name) (others : List Name)
  /-- `builder.Property(x => x.M)` and calls -/
  | property (member : Name) (calls : List Call)

namespace Statement

/-- the members that a statement mentions, each with the tokens that the mention gives it -/
def given : Statement → List (String × List String)
  | key m => [(m.text, ["HasKey"])]
  | keys m ms => (m :: ms).map fun n => (n.text, ["HasKey"])
  | property m calls => [(m.text, calls.map Call.text)]

def keyName : Name := ⟨"HasKey", by decide⟩

def propertyName : Name := ⟨"Property", by decide⟩

def links : Statement → List Link
  | key m => [⟨keyName, [.member m]⟩]
  | keys m ms => [⟨keyName, [.members m ms]⟩]
  | property m calls => ⟨propertyName, [.member m]⟩ :: calls.map Call.link

theorem links_ne_nil (s : Statement) : s.links ≠ [] := by
  cases s with
  | key m => exact List.cons_ne_nil _ _
  | keys m ms => exact List.cons_ne_nil _ _
  | property m calls => exact List.cons_ne_nil _ _

def behind (cs : List Comment) (s : Statement) : CallStatement := ⟨cs, s.links, s.links_ne_nil⟩

end Statement

theorem Call.text_link (c : Call) : c.link.text = c.text := by
  have harguments : c.link.argumentPhrases.map Phrase.text = c.arguments.map Literal.text := by
    rw [Link.argumentPhrases, Call.link, List.map_map, List.map_map]
    rfl
  show c.name.text ++ ("(" ++ Text.join ", " (c.link.argumentPhrases.map Phrase.text) ++ ")") = _
  rw [harguments, Call.text, ← String.append_assoc, ← String.append_assoc]

/-- the chain of a statement gives what the statement gives -/
theorem Statement.chainRules?_segments (s : Statement) :
    chainRules? (s.links.map Link.segment) = some s.given := by
  cases s with
  | key m =>
    show some ((membersOf (Argument.member m).phrase.text).map fun m => (m, [Entity.keyToken])) = _
    rw [membersOf_member]
    rfl
  | keys m ms =>
    show some ((membersOf (Argument.members m ms).phrase.text).map fun m =>
      (m, [Entity.keyToken])) = _
    rw [membersOf_members, List.map_map]
    rfl
  | property m calls =>
    have htexts : ((calls.map Call.link).map Link.segment).map ChainSegment.text =
        calls.map Call.text := by
      rw [List.map_map, List.map_map]
      exact List.map_congr_left fun c _ => c.text_link
    show (memberOf? (Argument.member m).phrase.text).map (fun m =>
      [(m, ((calls.map Call.link).map Link.segment).map ChainSegment.text)]) = _
    rw [memberOf?_member, htexts]
    rfl

/-! ### Classes -/

def interfaceName : Name := ⟨"IEntityTypeConfiguration", by decide⟩

def configureName : Name := ⟨"Configure", by decide⟩

def builderTypeName : Name := ⟨"EntityTypeBuilder", by decide⟩

/-- the entity in the base type of a configuration -/
theorem configuredEntity?_interface (entity : Name) :
    configuredEntity? [(TypeForm.generic interfaceName entity).text] = some entity.text := by
  have hname : interfaceName.text.toList = qualification false [] ++ configurationInterface := rfl
  have htext : (TypeForm.generic interfaceName entity).text.toList =
      interfaceName.text.toList ++ bracketed entity.text.toList := by
    simp [TypeForm.text, bracketed, enclosed]
  rw [hname] at htext
  have himplements := (implements_qualified_iff (List.forall_mem_nil _) htext).2 ⟨rfl, rfl⟩
  have hcomma : ',' ∉ entity.text.toList := fun h => absurd (entity.isWordPart_of_mem h) (by decide)
  refine configuredEntity?_eq_some_iff.2 ⟨entity.text.toList,
    ⟨[], _, [], rfl, himplements, List.forall_mem_nil _⟩, ?_, fun hempty => entity.isEmpty_text ?_⟩
  · rw [firstArgument_eq_iff.2 hcomma]
    exact (dropAround_eq_self entity.isTrimmed_text.1 entity.isTrimmed_text.2).symm
  · rw [String.isEmpty_iff, hempty]

structure Configuration where
  space : Option Dotted
  className : Name
  entity : Name
  /-- statements with the comments before them -/
  statements : List (List Comment × Statement)
  /-- comments behind the last statement -/
  closing : List Comment

namespace Configuration

variable (c : Configuration)

def method : Method where
  name := configureName
  parameter := .generic builderTypeName c.entity
  statements := c.statements.map fun s => s.2.behind s.1
  closing := c.closing

def classForm : ClassForm where
  isAbstract := false
  name := c.className
  base := some (.generic interfaceName c.entity)
  members := [c.method.clause]
  areMembers b hb := by
    rw [List.mem_singleton.mp hb]
    exact c.method.isMember
  closing := []

def file : FileForm where
  space := c.space
  classes := [([], c.classForm)]
  closing := []
  isFilled _ := List.cons_ne_nil _ _

/-- what is on paper -/
def text : String := c.file.text

def tree : Tree := c.file.tree

/-- what all statements give, in their order -/
def given : List (String × List String) := c.statements.flatMap fun s => s.2.given

/-- the tree of a configuration has its entity and rules -/
theorem ofTree_tree : (ofTree builderName c.tree).value =
    some (c.entity.text, c.given.foldl (fun rs g => Rules.extend g.1 g.2 rs) []) := by
  have hclasses : c.tree.classes = [c.classForm.declaration (c.space.map Dotted.text)] :=
    c.file.classes_tree
  have hentity : configuredEntity? (c.classForm.declaration (c.space.map Dotted.text)).bases =
      some c.entity.text := configuredEntity?_interface c.entity
  have hbody := c.method.methodBody?_declaration (c := c.classForm) rfl (c.space.map Dotted.text)
  have hchains : chainsOf builderName (c.method.bodyPart.as .body).tree =
      c.statements.map fun s => s.2.links.map Link.segment := by
    rw [c.method.chainsOf_body, method, List.map_map]
    rfl
  have hgiven : (c.statements.map fun s => s.2.links.map Link.segment).flatMap
      (fun chain => (chainRules? chain).getD []) = c.given := by
    rw [List.flatMap_map, given]
    refine List.flatMap_congr fun s _ => ?_
    rw [s.2.chainRules?_segments, Option.getD_some]
  have hname : c.method.name.text = "Configure" := rfl
  rw [hname] at hbody
  rw [ofTree, hclasses]
  simp only [List.head?_cons, Option.bind_eq_bind, Option.bind_some, hentity, hbody, hchains,
    rulesOf, hgiven]

/-- parsing undoes printing: the entity is read, and every member that is mentioned has the tokens
of all its mentions, in the order of the statements -/
theorem ofSource_configuration
    (hread : (∀ d ∈ c.text.toList, d ≠ '\x00') ∨ Tree.ofSource c.text = c.tree) :
    ∃ rules : Rules, (ofSource builderName c.text).value = some (c.entity.text, rules) ∧
      (rules.map Prod.fst).Nodup ∧
      ∀ m, rules.lookup m =
        if m ∈ c.given.map Prod.fst then some (tokensGiven m c.given) else none := by
  have htree : Tree.ofSource c.text = c.tree := hread.elim c.file.ofSource_text id
  refine ⟨c.given.foldl (fun rs g => Rules.extend g.1 g.2 rs) [], ?_, ?_,
    Rules.lookup_foldl c.given []⟩
  · rw [ofSource, htree]
    exact c.ofTree_tree
  · exact Rules.nodup_foldl c.given List.nodup_nil

/-- a configuration with a comment that looks like a statement -/
def ofOrder : Configuration where
  space := none
  className := ⟨"OrderConfiguration", rfl⟩
  entity := ⟨"Order", rfl⟩
  statements := [
    ([], .keys ⟨"Id", rfl⟩ [⟨"Line", rfl⟩]),
    ([.line " builder.HasKey(x => x.Total);" (by decide)],
      .property ⟨"Id", rfl⟩ [⟨⟨"HasMaxLength", rfl⟩, [.integer false "50" (by decide)]⟩])]
  closing := []

theorem ofSource_ofOrder : (∀ d ∈ ofOrder.text.toList, d ≠ '\x00') ∧
    ∃ rules, (ofSource builderName ofOrder.text).value = some ("Order", rules) ∧
      rules.lookup "Id" = some ["HasKey", "HasMaxLength(50)"] ∧
      rules.lookup "Line" = some ["HasKey"] ∧ rules.lookup "Total" = none := by
  have hchars : ∀ d ∈ (ofOrder.file.printed ++ [ofOrder.file.stop]).flatMap Printed.chars,
      d ≠ '\x00' := by decide +kernel
  have hnull : ∀ d ∈ ofOrder.text.toList, d ≠ '\x00' := by
    rw [ofOrder.file.chars_printed] at hchars
    exact hchars
  obtain ⟨rules, hrules, -, hlookup⟩ := ofOrder.ofSource_configuration (.inl hnull)
  refine ⟨hnull, rules, hrules, ?_, ?_, ?_⟩
  · rw [hlookup]
    decide
  · rw [hlookup]
    decide
  · rw [hlookup]
    decide

end Configuration

end EndpointScaffold.Fluent
