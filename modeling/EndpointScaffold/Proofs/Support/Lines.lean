import EndpointScaffold.Proofs.Support.Paths
import EndpointScaffold.Proofs.Text.Lines
import Mathlib.Data.List.Forall2

/-!
# Lines of generated files

The lines that the texts of generated files are assembled from, and what stands at the beginning of
each: its file opens one namespace, and declares the classes that are not indented.

* `contractsLines`, `mapperLines`, `validatorLines` the lines of each file; `FileLines` all of them,
  `text_entityFiles`, `exists_fileLines` no other file is generated for an entity;
* `RulesMember` a rule of a member, `exists_rulesMember` the rules of a validator;
* `ReadsHeads` readers of the lines that begin with a letter, `ReadsHeads.filterMap_contractsLines`
  and its like what they read.
-/

namespace EndpointScaffold.Support

open Schema Text

variable {c : Config} {e : Entity} {request : Contract} {rules : List String}

/-! ### Files of an entity -/

def contractsLines (c : Config) (e : Entity) : List String :=
  header [] (entityNamespace c e)
    ++ List.intercalate [""] ((contracts e).map Contract.lines) ++ [""]

theorem contractsLines_eq (c : Config) (e : Entity) :
    contractsLines c e = header [] (entityNamespace c e)
      ++ ((createRequest e).lines ++ ([""] ++ ((updateRequest e).lines
        ++ ([""] ++ (response e).lines)))) ++ [""] := by
  simp [contractsLines, contracts, List.intercalate, List.intersperse]

def mapperLines (c : Config) (e : Entity) : List String :=
  header (mapperUses c e) (entityNamespace c e)
    ++ ["public static class " ++ e.name ++ "Mapper", "\x7b"]
    ++ indented 1 (toEntityLines e ++ [""] ++ applyToLines e ++ [""] ++ toResponseLines e)
    ++ ["\x7d", ""]

def validatorLines (c : Config) (e : Entity) (request : Contract) (rules : List String) :
    List String :=
  header ["FastEndpoints", "FluentValidation", entityNamespace c e] (validatorNamespace c e)
    ++ ["public sealed class " ++ request.name ++ "Validator : Validator<" ++ request.name ++ ">",
      "\x7b", "    public " ++ request.name ++ "Validator()", "    \x7b"]
    ++ indented 2 rules
    ++ ["    \x7d", "\x7d", ""]

inductive FileLines (c : Config) (e : Entity) : List String → Prop
  | contracts : FileLines c e (contractsLines c e)
  | mapper : FileLines c e (mapperLines c e)
  | validator (request : Contract) (rules : List String)
      (hrequest : request ∈ [createRequest e, updateRequest e])
      (hrules : ruleLines request.members = .ok rules) :
      FileLines c e (validatorLines c e request rules)

theorem text_validatorFile {f : SourceFile} (h : validatorFile c e request = .ok f) :
    ∃ rules, ruleLines request.members = .ok rules ∧
      f.text = ofLines (validatorLines c e request rules) := by
  obtain ⟨text, htext, rfl⟩ := map_eq_ok h
  obtain ⟨rules, hrules, rfl⟩ := map_eq_ok htext
  exact ⟨rules, hrules, rfl⟩

/-- no other file is generated for an entity -/
theorem text_entityFiles {files : List SourceFile} (h : entityFiles c e = .ok files)
    {f : SourceFile} (hf : f ∈ files) :
    f.text = contractsText c e ∨ f.text = mapperText c e ∨
      ∃ request ∈ [createRequest e, updateRequest e], validatorFile c e request = .ok f := by
  obtain ⟨validators, hvalidators, rfl⟩ := entityFiles_eq_ok h
  rw [List.mem_append, List.mem_append] at hf
  rcases hf with (hf | hf) | hf
  · split at hf
    · exact .inl (congrArg SourceFile.text (List.mem_singleton.1 hf))
    · cases hf
  · split at hf
    · exact .inr (.inl (congrArg SourceFile.text (List.mem_singleton.1 hf)))
    · cases hf
  · rcases hvalidators with rfl | hvalidators
    · cases hf
    · obtain ⟨request, hrequest, hfile⟩ := mem_of_mapM_ok hvalidators hf
      exact .inr (.inr ⟨request, hrequest, hfile⟩)

theorem exists_fileLines {files : List SourceFile} (h : entityFiles c e = .ok files)
    {f : SourceFile} (hf : f ∈ files) : ∃ lines, f.text = ofLines lines ∧ FileLines c e lines := by
  rcases text_entityFiles h hf with htext | htext | ⟨request, hrequest, hfile⟩
  · exact ⟨contractsLines c e, htext, .contracts⟩
  · exact ⟨mapperLines c e, htext, .mapper⟩
  · obtain ⟨rules, hrules, htext⟩ := text_validatorFile hfile
    exact ⟨_, htext, .validator request rules hrequest hrules⟩

/-! ### Rules of members -/

/-- a call that states a rule -/
def IsCall (call : String) : Prop :=
  call = ".NotEmpty()" ∨ ∃ n : Nat, call = ".MaximumLength(" ++ toString n ++ ")"

def RulesMember (p : Entity.Property) (line : String) : Prop :=
  ∃ calls : List String, calls ≠ [] ∧ (∀ call ∈ calls, IsCall call) ∧
    line = "RuleFor(x => x." ++ p.name ++ ")" ++ String.join calls ++ ";"

theorem isCall_of_mem_ruleCalls {type : String} {r : FieldRules} :
    ∀ call ∈ ruleCalls type r, IsCall call := by
  refine List.forall_mem_append.2 ⟨fun call hcall => ?_, fun call hcall => ?_⟩
  · split at hcall
    · exact .inl (List.mem_singleton.1 hcall)
    · cases hcall
  · split at hcall
    · rename_i n _
      split at hcall
      · exact .inr ⟨n, List.mem_singleton.1 hcall⟩
      · cases hcall
    · cases hcall

theorem rulesMember_of_ruleLine? {p : Entity.Property} {line : String}
    (h : ruleLine? p = .ok (some line)) : RulesMember p line := by
  obtain ⟨r, -, hline⟩ := map_eq_ok h
  split at hline
  · cases hline
  · rename_i calls hcalls
    obtain rfl := Option.some.inj hline
    exact ⟨ruleCalls p.type r, hcalls, isCall_of_mem_ruleCalls, rfl⟩

/-- each line states rules of another member, in the order of the members -/
theorem exists_rulesMember {ps : List Entity.Property} (h : ruleLines ps = .ok rules) :
    ∃ ruled, ruled.Sublist ps ∧ List.Forall₂ RulesMember ruled rules := by
  obtain ⟨found, hfound, rfl⟩ := map_eq_ok h
  clear h
  induction ps generalizing found with
  | nil =>
    obtain rfl := Except.ok.inj hfound
    exact ⟨[], .slnil, .nil⟩
  | cons p ps ih =>
    obtain ⟨line?, rest, hline, hrest, rfl⟩ := mapM_cons_eq_ok hfound
    obtain ⟨ruled, hruled, hrules⟩ := ih rest hrest
    cases line? with
    | none => exact ⟨ruled, hruled.cons p, hrules⟩
    | some line =>
      exact ⟨p :: ruled, hruled.cons_cons p, .cons (rulesMember_of_ruleLine? hline) hrules⟩

/-! ### Lines that begin with a letter -/

/-- a line that does not begin with a letter: it is indented, a brace, a comment or empty -/
def IsInner (line : String) : Prop := ∀ ch ∈ line.toList.head?, isAsciiLetter ch = false

theorem isInner_of_mem_indented {depth : Nat} (hdepth : 0 < depth) {lines : List String}
    {line : String} (hline : line ∈ indented depth lines) : IsInner line := fun ch hch => by
  have hblank := head?_indent (Nat.mul_pos (by decide) hdepth) hline ch hch
  rw [Bool.eq_false_iff]
  intro hletter
  rw [isAsciiLetter_iff] at hletter
  rw [isBlank_eq_false_of_range (by omega) (by omega)] at hblank
  cases hblank

instance (line : String) : Decidable (IsInner line) :=
  decidable_of_iff (line.toList.head?.all (fun ch => !isAsciiLetter ch) = true) (by
    simp only [IsInner, Option.all_eq_true, Bool.not_eq_true', Option.mem_def])

theorem isInner_append {s : String} (h : IsInner s) (hne : s.toList ≠ []) (t : String) :
    IsInner (s ++ t) := by
  rw [IsInner, String.toList_append, List.head?_append_of_ne_nil _ hne]
  exact h

theorem forall_isInner_empty : ∀ line ∈ [""], IsInner line := by
  decide

def namespaceHead (space : String) : String := "namespace " ++ space ++ ";"

def contractHead (name : String) : String := "public sealed class " ++ name

def mapperHead (name : String) : String := "public static class " ++ name ++ "Mapper"

def validatorHead (name : String) : String :=
  "public sealed class " ++ name ++ "Validator : Validator<" ++ name ++ ">"

theorem head?_useLine (space : String) : ("using " ++ space ++ ";").toList.head? = some 'u' :=
  head?_toList_append (head?_toList_append (by decide) _) _

theorem head?_namespaceHead (space : String) : (namespaceHead space).toList.head? = some 'n' :=
  head?_toList_append (head?_toList_append (by decide) _) _

theorem head?_contractHead (name : String) : (contractHead name).toList.head? = some 'p' :=
  head?_toList_append (by decide) _

theorem head?_mapperHead (name : String) : (mapperHead name).toList.head? = some 'p' :=
  head?_toList_append (head?_toList_append (by decide) _) _

theorem head?_validatorHead (name : String) : (validatorHead name).toList.head? = some 'p' :=
  head?_toList_append (head?_toList_append (head?_toList_append (head?_toList_append
    (by decide) _) _) _) _

/-- what holds of the lines that a file can begin with -/
theorem forall_mem_header {P : String → Prop} {uses : List String} {space : String}
    (hmark : P "// <auto-generated> by fescaffold </auto-generated>") (hempty : P "")
    (huses : ∀ u ∈ uses, P ("using " ++ u ++ ";")) (hspace : P (namespaceHead space)) :
    ∀ line ∈ header uses space, P line := by
  rw [header]
  refine List.forall_mem_append.2 ⟨List.forall_mem_append.2 ⟨List.forall_mem_append.2
    ⟨List.forall_mem_cons.2 ⟨hmark, List.forall_mem_singleton.2 hempty⟩, fun line hline => ?_⟩, ?_⟩,
    List.forall_mem_cons.2 ⟨hspace, List.forall_mem_singleton.2 hempty⟩⟩
  · obtain ⟨u, hu, rfl⟩ := List.mem_map.1 hline
    rw [List.mem_eraseDups, List.mem_mergeSort] at hu
    exact huses u hu
  · split
    · exact nofun
    · exact List.forall_mem_singleton.2 hempty

/-- a reader that passes over inner lines, and over the namespaces that a file uses -/
structure ReadsHeads (g : String → Option String) : Prop where
  inner : ∀ line, IsInner line → g line = none
  uses : ∀ space, g ("using " ++ space ++ ";") = none

section
variable {g : String → Option String} (hg : ReadsHeads g)

include hg

theorem ReadsHeads.filterMap_inner {lines : List String} (h : ∀ line ∈ lines, IsInner line) :
    lines.filterMap g = [] :=
  List.filterMap_eq_nil_iff.2 fun line hline => hg.inner line (h line hline)

theorem ReadsHeads.filterMap_head {lines : List String} (h : ∀ line ∈ lines, IsInner line)
    (head : String) : (head :: lines).filterMap g = [head].filterMap g := by
  rw [← List.singleton_append, List.filterMap_append, hg.filterMap_inner h, List.append_nil]

theorem ReadsHeads.filterMap_header (uses : List String) (space : String) :
    (header uses space).filterMap g = [namespaceHead space].filterMap g := by
  have hmark : ∀ line ∈ ["// <auto-generated> by fescaffold </auto-generated>", ""],
      IsInner line := by decide
  have hgap : ∀ line ∈ if uses.isEmpty then [] else [""], IsInner line := by
    split
    · exact nofun
    · exact forall_isInner_empty
  have huses : ∀ spaces : List String,
      (spaces.map fun u => "using " ++ u ++ ";").filterMap g = [] := fun spaces =>
    List.filterMap_eq_nil_iff.2 fun line hline => by
      obtain ⟨u, -, rfl⟩ := List.mem_map.1 hline
      exact hg.uses u
  rw [header, List.filterMap_append, List.filterMap_append, List.filterMap_append,
    hg.filterMap_inner hmark, huses, hg.filterMap_inner hgap, List.nil_append, List.nil_append,
    List.nil_append, hg.filterMap_head forall_isInner_empty]
  rfl

theorem ReadsHeads.filterMap_contract (contract : Contract) :
    contract.lines.filterMap g = [contractHead contract.name].filterMap g := by
  have hinner : ∀ line ∈ "\x7b" :: (indented 1 (contract.members.map memberLine) ++ ["\x7d"]),
      IsInner line := by
    refine List.forall_mem_cons.2 ⟨by decide, List.forall_mem_append.2 ⟨?_, by decide⟩⟩
    exact fun line => isInner_of_mem_indented Nat.one_pos
  exact hg.filterMap_head hinner (contractHead contract.name)

/-- the classes of an entity with the namespace that they are in -/
theorem ReadsHeads.filterMap_contractsLines :
    (contractsLines c e).filterMap g =
      (namespaceHead (entityNamespace c e) ::
        (contracts e).map fun contract => contractHead contract.name).filterMap g := by
  have hgap := hg.filterMap_inner forall_isInner_empty
  rw [contractsLines_eq]
  simp only [List.filterMap_append, hg.filterMap_header, hg.filterMap_contract, hgap,
    List.nil_append, List.append_nil]
  simp only [← List.filterMap_append]
  rfl

theorem ReadsHeads.filterMap_mapperLines :
    (mapperLines c e).filterMap g =
      [namespaceHead (entityNamespace c e), mapperHead e.name].filterMap g := by
  have hinner : ∀ methods, ∀ line ∈ "\x7b" :: (indented 1 methods ++ ["\x7d", ""]),
      IsInner line := fun methods => by
    refine List.forall_mem_cons.2 ⟨by decide, List.forall_mem_append.2 ⟨?_, by decide⟩⟩
    exact fun line => isInner_of_mem_indented Nat.one_pos
  rw [mapperLines, List.append_assoc, List.append_assoc, List.filterMap_append,
    hg.filterMap_header, List.cons_append, List.singleton_append, hg.filterMap_head (hinner _),
    ← List.filterMap_append]
  rfl

theorem ReadsHeads.filterMap_validatorLines :
    (validatorLines c e request rules).filterMap g =
      [namespaceHead (validatorNamespace c e), validatorHead request.name].filterMap g := by
  have hconstructor : IsInner ("    public " ++ request.name ++ "Validator()") := by
    rw [String.append_assoc]
    exact isInner_append (by decide) (by decide) _
  have hinner : ∀ line ∈ "\x7b" :: ("    public " ++ request.name ++ "Validator()") ::
      "    \x7b" :: (indented 2 rules ++ ["    \x7d", "\x7d", ""]), IsInner line := by
    refine List.forall_mem_cons.2 ⟨by decide, List.forall_mem_cons.2 ⟨hconstructor,
      List.forall_mem_cons.2 ⟨by decide, List.forall_mem_append.2 ⟨?_, by decide⟩⟩⟩⟩
    exact fun line => isInner_of_mem_indented Nat.two_pos
  rw [validatorLines, List.append_assoc, List.append_assoc, List.filterMap_append,
    hg.filterMap_header, List.cons_append, List.cons_append, List.cons_append,
    List.singleton_append, hg.filterMap_head hinner, ← List.filterMap_append]
  rfl

end

end EndpointScaffold.Support
