import EndpointScaffold.Proofs.Entity.Columns
import EndpointScaffold.Proofs.Plain.Property

/-!
# Entity classes on paper

A file of entities on paper has a namespace for all of it and classes with properties, each abstract
or not and derived from `BaseEntity` or not.

* `DeclaredType.isColumn` which types make columns, `DeclaredClass.columns` the columns of a class;
* `DeclaredFile.text` what is on paper, `DeclaredFile.tree` the tree that stands for it;
* `DeclaredFile.ofSource_declared` the entities are read as they were printed.
-/

namespace EndpointScaffold.Entity

open CSharp CSharp.Plain Schema Text

/-! ### Types -/

/-- the known scalars in lower case -/
def builtInScalars : List String := knownScalars.filter fun w => !startsUpper w

/-- the known scalars in Pascal case -/
def namedScalars : List String := ["DateTime", "Guid", "TimeSpan"]

inductive DeclaredType where
  /-- a scalar in lower case, also nullable or as an array -/
  | builtIn (word : String) (isScalar : word ∈ builtInScalars) (mark : TypeMark)
  | named (n : Name)
  /-- `List<X>` -/
  | list (item : Name)

namespace DeclaredType

theorem mem_predefinedTypes {w : String} (h : w ∈ builtInScalars) : w ∈ predefinedTypes := by
  have hall : ∀ v ∈ builtInScalars, v ∈ predefinedTypes := by decide
  exact hall w h

def form : DeclaredType → TypeForm
  | builtIn w h m => .predefined w (mem_predefinedTypes h) m
  | named n => .named n
  | list n => .generic ⟨"List", by decide⟩ n

def isColumn : DeclaredType → Bool
  | builtIn _ _ _ => true
  | named n => namedScalars.contains n.text
  | list _ => false

theorem beginsWith_name (n : Name) {start : String} (h : '<' ∈ start.toList) :
    beginsWith n.text start = false := by
  refine Bool.eq_false_iff.mpr fun hprefix => ?_
  have hmem := (List.isPrefixOf_iff_prefix.mp hprefix).subset h
  exact absurd (n.isWordPart_of_mem hmem) (by decide)

theorem isColumn_named (n : Name) :
    (TypeVerdict.of knownScalars collectionStarts n.text).isColumn = namedScalars.contains n.text := by
  have hstarts : collectionStarts.any (beginsWith n.text) = false := by
    have hall : ∀ s ∈ collectionStarts, '<' ∈ s.toList := by decide
    exact List.any_eq_false.mpr fun s hs => by
      rw [beginsWith_name n (hall s hs)]
      exact Bool.false_ne_true
  have hupper : n.text.toList.head?.any isUpper = true := by
    obtain ⟨c, cs, hlist, hc, -⟩ := n.toList_eq
    have hascii : c.toNat < 128 := by
      rw [isAsciiUpper_iff] at hc
      omega
    rw [hlist, List.head?_cons, Option.any_some, isUpper, if_pos hascii, hc]
  have hgeneric : isGenericType n.text = false := by
    rw [isGenericType, List.contains_eq_mem, decide_eq_false_iff_not]
    intro hmem
    exact absurd (n.isWordPart_of_mem hmem) (by decide)
  have hknown : knownScalars.contains n.text = namedScalars.contains n.text := by
    have hupper : ∀ v ∈ knownScalars, startsUpper v = true → v ∈ namedScalars := by decide
    have hnamed : ∀ v ∈ namedScalars, v ∈ knownScalars := by decide
    rw [List.contains_eq_mem, List.contains_eq_mem, decide_eq_decide]
    exact ⟨fun h => hupper _ h n.startsUpper_text, hnamed _⟩
  rw [TypeVerdict.of, hstarts, hupper, hgeneric, hknown]
  cases namedScalars.contains n.text <;> rfl

/-- the verdict on a type is read off its text -/
theorem isColumn_verdict (t : DeclaredType) :
    (TypeVerdict.of knownScalars collectionStarts t.form.text).isColumn = t.isColumn := by
  cases t with
  | builtIn w h m =>
    have hall : ∀ v ∈ builtInScalars, ∀ k ∈ [TypeMark.plain, .nullable, .array],
        (TypeVerdict.of knownScalars collectionStarts (v ++ k.text)).isColumn = true := by decide
    exact hall w h m (by cases m <;> decide)
  | named n => exact isColumn_named n
  | list n =>
    have hstart : beginsWith ("List" ++ "<" ++ n.text ++ ">") "List<" = true := by
      rw [beginsWith, List.isPrefixOf_iff_prefix]
      exact ⟨n.text.toList ++ ['>'], by simp⟩
    have hstarts : collectionStarts.any (beginsWith ("List" ++ "<" ++ n.text ++ ">")) = true :=
      List.any_eq_true.mpr ⟨"List<", by decide, hstart⟩
    show (TypeVerdict.of knownScalars collectionStarts ("List" ++ "<" ++ n.text ++ ">")).isColumn = _
    rw [TypeVerdict.of, hstarts]
    rfl

end DeclaredType

/-! ### Properties -/

structure DeclaredProperty where
  attributes : List Attribute
  /-- comments behind the attributes -/
  comments : List Comment
  type : DeclaredType
  name : Name

namespace DeclaredProperty

def form (p : DeclaredProperty) : PropertyForm := ⟨p.attributes, p.comments, p.type.form, p.name⟩

def column (policy : NullabilityPolicy) (p : DeclaredProperty) : Property where
  name := p.name.text
  type := p.type.form.text
  attributes := p.attributes.map Attribute.text
  isPrimaryKey := false
  isNullable := Entity.isNullable knownScalars policy p.type.form.text

def sameName (p q : DeclaredProperty) : Bool := p.name.text == q.name.text

theorem isEligible_form (p : DeclaredProperty) : isEligible p.form.declaration = p.type.isColumn := by
  rw [isEligible, verdictOf, ← p.type.isColumn_verdict]
  rfl

theorem isWhole_form (p : DeclaredProperty) : isWhole p.form.declaration = true := by
  have hname : p.name.text.isEmpty = false := Bool.eq_false_iff.mpr p.name.isEmpty_text
  have htype : p.type.form.text.isEmpty = false := Bool.eq_false_iff.mpr p.type.form.isEmpty_text
  rw [isWhole, Bool.and_eq_true, Bool.not_eq_true', Bool.not_eq_true']
  exact ⟨hname, htype⟩

/-- the first properties of each name are kept -/
theorem firstOfEachName_form (seen : List String) (ps : List DeclaredProperty) :
    firstOfEachName seen (ps.map fun p => p.form.declaration) =
      ((ps.filter fun p => !seen.contains p.name.text).eraseDupsBy sameName).map
        fun p => p.form.declaration := by
  induction ps generalizing seen with
  | nil => rfl
  | cons p ps ih =>
    have hname : p.form.declaration.name = p.name.text := rfl
    rw [List.map_cons, firstOfEachName, List.filter_cons, hname]
    by_cases hp : seen.contains p.name.text = true
    · rw [if_pos hp, hp, ih]
      rfl
    · have hfilter : (ps.filter fun q => !seen.contains q.name.text).filter
          (fun q => sameName q p = false) =
          ps.filter fun q => !(p.name.text :: seen).contains q.name.text := by
        rw [List.filter_filter]
        refine List.filter_congr fun q _ => ?_
        rw [List.contains_cons, Bool.not_or, sameName]
        cases q.name.text == p.name.text <;> rfl
      rw [if_neg hp, if_pos (by rw [Bool.not_eq_true', Bool.eq_false_iff]; exact hp),
        List.eraseDupsBy_cons, List.map_cons, hfilter, ih]

/-- the columns among properties are those of column types, the first of each name -/
theorem columns_form (ps : List DeclaredProperty) :
    columns (ps.map fun p => p.form.declaration) =
      ((ps.filter fun p => p.type.isColumn).eraseDupsBy sameName).map
        fun p => p.form.declaration := by
  have heligible : (ps.map fun p => p.form.declaration).filter isEligible =
      (ps.filter fun p => p.type.isColumn).map fun p => p.form.declaration := by
    rw [List.filter_map]
    exact congrArg _ (List.filter_congr fun p _ => p.isEligible_form)
  have hseen : (ps.filter fun p => p.type.isColumn).filter
      (fun p => !([] : List String).contains p.name.text) = ps.filter fun p => p.type.isColumn :=
    List.filter_eq_self.mpr fun _ _ => rfl
  rw [columns, heligible, firstOfEachName_form, hseen]

end DeclaredProperty

/-! ### Classes -/

def baseName : Name := ⟨"BaseEntity", by decide⟩

structure DeclaredClass where
  isAbstract : Bool
  name : Name
  /-- whether the class derives from `BaseEntity` -/
  isDerived : Bool
  properties : List DeclaredProperty
  /-- comments behind the last property -/
  closing : List Comment

namespace DeclaredClass

variable (c : DeclaredClass)

def form : ClassForm where
  isAbstract := c.isAbstract
  name := c.name
  base := if c.isDerived then some (.named baseName) else none
  members := c.properties.map fun p => p.form.clause
  areMembers b hb := by
    obtain ⟨p, -, rfl⟩ := List.mem_map.mp hb
    exact p.form.isMember
  closing := c.closing

/-- the properties that are columns; of each name the first -/
def columns : List DeclaredProperty :=
  (c.properties.filter fun p => p.type.isColumn).eraseDupsBy DeclaredProperty.sameName

/-- the entity that the class declares in a namespace -/
def entity (policy : NullabilityPolicy) (file : Option String) (space : String) : Entity where
  name := c.name.text
  properties := c.columns.map (DeclaredProperty.column policy)
  sourceFile := file
  namespaceName := some space

theorem properties_form (space : Option String) :
    (c.form.declaration space).properties = c.properties.map fun p => p.form.declaration := by
  rw [ClassDeclaration.properties, ClassForm.declaration, c.form.filterMap_members]
  · show (c.properties.map fun p => p.form.clause).filterMap _ = _
    rw [List.filterMap_map, ← List.filterMap_eq_map]
    exact List.filterMap_congr fun p _ => p.form.property?_part
  · intro l k gap text hk
    rcases hk with rfl | rfl <;> rfl

theorem isEntity_form (space : Option String) :
    isEntity "BaseEntity" (c.form.declaration space) = (!c.isAbstract && !c.isDerived) := by
  have habstract : ∀ b : Bool,
      ("public" :: if b then ["abstract"] else []).contains "abstract" = b := by decide
  have hbase : ∀ b : Bool, (((if b then some (TypeForm.named baseName) else none).toList.map
      TypeForm.text).any fun t => mentions t "BaseEntity") = b := by
    intro b
    cases b with
    | false => rfl
    | true => decide
  rw [isEntity, ClassDeclaration.isAbstract]
  exact congrArg₂ (fun a b => !a && !b) (habstract c.isAbstract) (hbase c.isDerived)

/-- the entity of a class is made as it was printed -/
theorem ofClass_form (policy : NullabilityPolicy) (file : Option String) (space : String) :
    ofClass policy file (c.form.declaration (some space)) = .ok (c.entity policy file space) := by
  have hcolumns : Entity.columns (c.form.declaration (some space)).properties =
      c.columns.map fun p => p.form.declaration := by
    rw [properties_form, DeclaredProperty.columns_form, columns]
  rw [ofClass_of_isWhole policy, hcolumns, List.map_map]
  · rfl
  · intro q hq
    rw [hcolumns] at hq
    obtain ⟨p, -, rfl⟩ := List.mem_map.mp hq
    exact p.isWhole_form

end DeclaredClass

/-! ### Files -/

structure DeclaredFile where
  space : Dotted
  /-- classes with the comments before them -/
  classes : List (List Comment × DeclaredClass)
  /-- comments at the end -/
  closing : List Comment

namespace DeclaredFile

variable (f : DeclaredFile)

def form : FileForm where
  space := some f.space
  classes := f.classes.map fun c => (c.1, c.2.form)
  closing := f.closing
  isFilled h := absurd h (Option.some_ne_none _)

/-- what is on paper -/
def text : String := f.form.text

def tree : CSharp.Tree := f.form.tree

/-- the entities of the file: its classes that are neither abstract nor derived -/
def entities (policy : NullabilityPolicy) (file : Option String) : List Entity :=
  (f.classes.filter fun c => !c.2.isAbstract && !c.2.isDerived).map
    fun c => c.2.entity policy file f.space.text

theorem ofTree_tree (policy : NullabilityPolicy) (file : Option String) :
    (ofTree ⟨"BaseEntity", policy⟩ file f.tree).value = .ok (f.entities policy file) := by
  have hclasses : f.tree.classes =
      f.classes.map fun c => c.2.form.declaration (some f.space.text) := by
    rw [tree, f.form.classes_tree, form, List.map_map]
    rfl
  have hentities : (f.tree.classes.filter (isEntity "BaseEntity")) =
      (f.classes.filter fun c => !c.2.isAbstract && !c.2.isDerived).map
        fun c => c.2.form.declaration (some f.space.text) := by
    rw [hclasses, List.filter_map]
    exact congrArg _ (List.filter_congr fun c _ => c.2.isEntity_form _)
  show (f.tree.classes.filter (isEntity "BaseEntity")).mapM (ofClass policy file) = _
  rw [hentities, List.mapM_map, entities]
  exact mapM_ok fun c _ => c.2.ofClass_form policy file f.space.text

/-- parsing undoes printing: the entities are those of the printed classes that are neither abstract
nor derived, in their order, with the columns as they were printed -/
theorem ofSource_declared (policy : NullabilityPolicy) (file : Option String)
    (hread : (∀ d ∈ f.text.toList, d ≠ '\x00') ∨ CSharp.Tree.ofSource f.text = f.tree) :
    (ofSource ⟨"BaseEntity", policy⟩ file f.text).value = .ok (f.entities policy file) := by
  have htree : CSharp.Tree.ofSource f.text = f.tree := hread.elim f.form.ofSource_text id
  rw [ofSource, htree]
  exact f.ofTree_tree policy file

/-- a file with a class that is no entity, and with a comment that looks like a property -/
def ofShop : DeclaredFile where
  space := ⟨⟨"Shop", by decide⟩, [⟨"Models", by decide⟩]⟩
  classes := [
    ([], ⟨true, ⟨"Auditable", by decide⟩, false, [], []⟩),
    ([.line " orders" (by decide)], ⟨false, ⟨"Order", by decide⟩, false, [
      ⟨[⟨[], ⟨"MaxLength", by decide⟩, some [.integer false "40" (by decide)]⟩], [],
        .builtIn "string" (by decide) .nullable, ⟨"Code", by decide⟩⟩,
      ⟨[], [.line " public int Total;" (by decide)],
        .list ⟨"Line", by decide⟩, ⟨"Lines", by decide⟩⟩,
      ⟨[], [], .named ⟨"DateTime", by decide⟩, ⟨"Placed", by decide⟩⟩,
      ⟨[], [], .builtIn "int" (by decide) .plain, ⟨"Code", by decide⟩⟩], []⟩)]
  closing := []

theorem ofSource_ofShop : (∀ d ∈ ofShop.text.toList, d ≠ '\x00') ∧
    (ofSource ⟨"BaseEntity", .strict⟩ none ofShop.text).value = .ok [
      ⟨"Order", [⟨"Code", "string?", ["MaxLength(40)"], false, true⟩,
        ⟨"Placed", "DateTime", [], false, true⟩], none, some "Shop.Models"⟩] := by
  have hchars : ∀ d ∈ (ofShop.form.printed ++ [ofShop.form.stop]).flatMap Printed.chars,
      d ≠ '\x00' := by decide +kernel
  have hnull : ∀ d ∈ ofShop.text.toList, d ≠ '\x00' := by
    rw [ofShop.form.chars_printed] at hchars
    exact hchars
  have hentities : ofShop.entities .strict none = [
      ⟨"Order", [⟨"Code", "string?", ["MaxLength(40)"], false, true⟩,
        ⟨"Placed", "DateTime", [], false, true⟩], none, some "Shop.Models"⟩] := by decide
  exact ⟨hnull, hentities ▸ ofShop.ofSource_declared .strict none (.inl hnull)⟩

end DeclaredFile

end EndpointScaffold.Entity
