import EndpointScaffold.Proofs.Support.Methods
import Mathlib.Data.List.Nodup

/-!
# Members of contracts, mappers and validators

The files of an entity are made one by one, and each works out for itself which properties it is
about. They agree: a mapper fills what the contracts declare, and a validator rules members of the
request that it is for.

* `isKey` keys without the detour over their names, `nonKeyProperties_eq` the other properties;
* `DeclaresMember`, `blockLines_contract` the members of a class;
* `rule?`, `RulesMembers` the rules of a validator, `filterMap_rule?_validatorLines` where they are;
* `MembersAgree`, `membersAgree` what the files of an entity are about.
-/

namespace EndpointScaffold.Support

open Schema Text

variable {c : Config} {e : Entity} {request : Contract} {rules : List String}

/-! ### Keys -/

/-- the keys of an entity: the configured ones or, where there are none, the property `Id` -/
def isKey (e : Entity) (p : Entity.Property) : Bool :=
  p.isPrimaryKey || (e.primaryKeys.isEmpty && p.name == "Id")

theorem eq_of_name_eq (h : e.propertyNames.Nodup) {p q : Entity.Property} (hp : p ∈ e.properties)
    (hq : q ∈ e.properties) (hname : p.name = q.name) : p = q :=
  List.inj_on_of_nodup_map h hp hq hname

/-- where no name repeats, a property has the name of a key only if it is one -/
theorem isKeyName_eq (h : e.propertyNames.Nodup) {p : Entity.Property} (hp : p ∈ e.properties) :
    isKeyName e p = isKey e p := by
  rw [Bool.eq_iff_iff, isKeyName, keyProperties, List.any_eq_true, isKey, Bool.or_eq_true,
    Bool.and_eq_true, List.isEmpty_iff, beq_iff_eq]
  split
  · rename_i hkeys
    have hnone : ¬ p.isPrimaryKey = true := fun hkey => by
      have hmem : p ∈ e.primaryKeys := List.mem_filter.2 ⟨hp, hkey⟩
      rw [hkeys] at hmem
      cases hmem
    rw [or_iff_right hnone, and_iff_right hkeys]
    constructor
    · rintro ⟨k, hk, hname⟩
      have hfound := List.find?_some (Option.mem_toList.1 hk)
      exact (beq_iff_eq.1 hname).symm.trans (beq_iff_eq.1 hfound)
    · intro hid
      cases hfind : e.property? "Id" with
      | none => exact absurd (beq_iff_eq.2 hid) (List.find?_eq_none.1 hfind p hp)
      | some k =>
        have hfound := List.find?_some hfind
        exact ⟨k, List.mem_singleton_self k, beq_iff_eq.2 ((beq_iff_eq.1 hfound).trans hid.symm)⟩
  · rename_i keys hkeys
    have hsome : ¬ (e.primaryKeys = [] ∧ p.name = "Id") := fun hnone => hkeys hnone.1
    rw [or_iff_left hsome]
    constructor
    · rintro ⟨k, hk, hname⟩
      obtain ⟨hmem, hkey⟩ := List.mem_filter.1 hk
      exact eq_of_name_eq h hmem hp (beq_iff_eq.1 hname) ▸ hkey
    · exact fun hkey => ⟨p, List.mem_filter.2 ⟨hp, hkey⟩, beq_self_eq_true _⟩

theorem nonKeyProperties_eq (h : e.propertyNames.Nodup) :
    nonKeyProperties e = e.properties.filter fun p => !isKey e p :=
  List.filter_congr fun p hp => by rw [isKeyName_eq h hp]

/-! ### Classes -/

/-- a line that declares a member, which may have a value at the start -/
def DeclaresMember (p : Entity.Property) (line : String) : Prop :=
  line = "    public " ++ p.type ++ " " ++ p.name ++ " \x7b get; set; \x7d" ∨
  line = "    public " ++ p.type ++ " " ++ p.name ++ " \x7b get; set; \x7d = string.Empty;"

theorem declaresMember_memberLine (p : Entity.Property) :
    DeclaresMember p (blanks 4 ++ memberLine p) := by
  rw [memberLine]
  split
  · refine .inr (String.toList_inj.1 ?_)
    simp only [String.toList_append, List.append_assoc]
    rfl
  · refine .inl (String.toList_inj.1 ?_)
    simp only [String.toList_append, List.append_assoc]
    rfl

theorem indented_members (ps : List Entity.Property) :
    indented 1 (ps.map memberLine) = ps.map fun p => blanks 4 ++ memberLine p := by
  have hmembers : ∀ line ∈ ps.map memberLine, isBlankText line = false := fun line hline => by
    obtain ⟨p, -, rfl⟩ := List.mem_map.1 hline
    exact isBlankText_append_left (isBlankText_append_left (isBlankText_append_left
      (isBlankText_append_left (isBlankText_append_left (by decide) _) _) _) _) _
  rw [indented, indent_eq_map hmembers, List.map_map]
  rfl

theorem forall₂_declaresMember (ps : List Entity.Property) :
    List.Forall₂ DeclaresMember ps (indented 1 (ps.map memberLine)) := by
  rw [indented_members, List.forall₂_map_right_iff, List.forall₂_same]
  exact fun p _ => declaresMember_memberLine p

theorem closing_not_mem_members (ps : List Entity.Property) :
    "\x7d" ∉ indented 1 (ps.map memberLine) := by
  rw [indented_members, List.mem_map]
  rintro ⟨p, -, hp⟩
  have hfirst := head?_toList_append (s := blanks 4) (c := ' ') (by decide) (memberLine p)
  rw [hp] at hfirst
  revert hfirst
  decide

theorem contract_lines_eq (contract : Contract) :
    contract.lines = contractHead contract.name :: (["\x7b"] ++
      (indented 1 (contract.members.map memberLine) ++ "\x7d" :: [])) := rfl

/-- a line with the head of a class begins with a letter -/
theorem contractHead_not_mem_inner {name : String} {lines : List String}
    (h : ∀ line ∈ lines, IsInner line) : contractHead name ∉ lines := fun hmem => by
  have hletter := h _ hmem 'p' (head?_contractHead name)
  cases hletter

theorem contractHead_not_mem_header (name space : String) (uses : List String) :
    contractHead name ∉ header uses space := by
  have hfirst : ∀ line : String, line.toList.head? ≠ some 'p' → line ≠ contractHead name :=
    fun line hline heq => hline (heq ▸ head?_contractHead name)
  have huses : ∀ u ∈ uses, "using " ++ u ++ ";" ≠ contractHead name := fun u _ =>
    hfirst _ (head?_useLine u ▸ by decide)
  have hspace : namespaceHead space ≠ contractHead name :=
    hfirst _ (head?_namespaceHead space ▸ by decide)
  have hall : ∀ line ∈ header uses space, line ≠ contractHead name :=
    forall_mem_header (hfirst _ (by decide)) (hfirst _ (by decide)) huses hspace
  exact fun hmem => hall _ hmem rfl

theorem contractHead_not_mem_lines {name : String} {contract : Contract}
    (hne : name ≠ contract.name) : contractHead name ∉ contract.lines := by
  rw [contract_lines_eq, List.mem_cons, not_or]
  refine ⟨fun heq => hne ((String.append_right_inj _).1 heq), contractHead_not_mem_inner ?_⟩
  refine List.forall_mem_append.2 ⟨by decide, List.forall_mem_append.2 ⟨?_, by decide⟩⟩
  exact fun line => isInner_of_mem_indented Nat.one_pos

/-- the members of the class that follows `front` -/
theorem blockLines_contract {front : List String} (contract : Contract) (back : List String)
    (hfront : contractHead contract.name ∉ front) :
    blockLines 1 (contractHead contract.name) "\x7d" (front ++ (contract.lines ++ back)) =
      indented 1 (contract.members.map memberLine) := by
  rw [contract_lines_eq]
  simp only [List.cons_append, List.append_assoc, List.nil_append]
  exact blockLines_eq ["\x7b"] hfront (closing_not_mem_members _)

/-! ### Classes of an entity -/

/-- the lines between the braces of a class -/
def declaredIn (name : String) (lines : List String) : List String :=
  blockLines 1 (contractHead name) "\x7d" lines

def otherProperties (e : Entity) : List Entity.Property := e.properties.filter fun p => !isKey e p

/-- the requests of an entity: no key is created, and an update takes all properties -/
def requests (e : Entity) : List Contract :=
  [⟨createRequestName e, otherProperties e⟩, ⟨updateRequestName e, e.properties⟩]

theorem requests_eq (h : e.propertyNames.Nodup) :
    requests e = [createRequest e, updateRequest e] := by
  rw [requests, otherProperties, ← nonKeyProperties_eq h]
  rfl

theorem updateRequestName_ne_createRequestName (e : Entity) :
    updateRequestName e ≠ createRequestName e := by
  intro heq
  have hverb : "Update" = "Create" :=
    (String.append_left_inj _).1 ((String.append_left_inj _).1 heq)
  revert hverb
  decide

theorem responseName_ne_requestName (verb : String) (e : Entity) :
    responseName e ≠ verb ++ e.name ++ "Request" :=
  ne_of_ending (n := 1) (by decide) (by decide) (by decide) _ _

theorem contractHead_not_mem_gap (name : String) : contractHead name ∉ [""] :=
  contractHead_not_mem_inner forall_isInner_empty

theorem declaredIn_contractsLines {contract : Contract} (h : contract ∈ contracts e) :
    declaredIn contract.name (contractsLines c e) =
      indented 1 (contract.members.map memberLine) := by
  have hheader := fun name => contractHead_not_mem_header name (entityNamespace c e) []
  have hgap := contractHead_not_mem_gap
  rw [contractsLines_eq, declaredIn]
  simp only [contracts, List.mem_cons, List.not_mem_nil, or_false] at h
  rcases h with rfl | rfl | rfl
  · rw [List.append_assoc, List.append_assoc]
    exact blockLines_contract _ _ (hheader _)
  · have hcreate : contractHead (updateRequestName e) ∉ (createRequest e).lines :=
      contractHead_not_mem_lines (updateRequestName_ne_createRequestName e)
    have hfront : contractHead (updateRequestName e) ∉
        header [] (entityNamespace c e) ++ ((createRequest e).lines ++ [""]) := by
      simp only [List.mem_append, not_or]
      exact ⟨hheader _, hcreate, hgap _⟩
    have hblock := blockLines_contract (updateRequest e)
      ([""] ++ ((response e).lines ++ [""])) hfront
    simp only [List.append_assoc] at hblock ⊢
    exact hblock
  · have hcreate : contractHead (responseName e) ∉ (createRequest e).lines :=
      contractHead_not_mem_lines (responseName_ne_requestName "Create" e)
    have hupdate : contractHead (responseName e) ∉ (updateRequest e).lines :=
      contractHead_not_mem_lines (responseName_ne_requestName "Update" e)
    have hfront : contractHead (responseName e) ∉ header [] (entityNamespace c e)
        ++ ((createRequest e).lines ++ ([""] ++ ((updateRequest e).lines ++ [""]))) := by
      simp only [List.mem_append, not_or]
      exact ⟨hheader _, hcreate, hgap _, hupdate, hgap _⟩
    have hblock := blockLines_contract (response e) [""] hfront
    simp only [List.append_assoc] at hblock ⊢
    exact hblock

/-! ### Rules of a validator -/

/-- what follows the beginning of a line with rules -/
def rule? (line : String) : Option String := after? "        RuleFor(x => x." line

/-- the member and the calls in a line with rules -/
def StatesRules (p : Entity.Property) (rest : String) : Prop :=
  ∃ calls : List String, calls ≠ [] ∧ (∀ call ∈ calls, IsCall call) ∧
    rest = p.name ++ ")" ++ String.join calls ++ ";"

theorem rule?_eq_none_of_head {line : String} (h : line.toList.head? ≠ some ' ') :
    rule? line = none := after?_eq_none_of_head (by decide) h

theorem rule?_indented (rest : String) :
    rule? (blanks 8 ++ ("RuleFor(x => x." ++ rest)) = some rest := by
  have hline : blanks 8 ++ ("RuleFor(x => x." ++ rest) = "        RuleFor(x => x." ++ rest := by
    refine String.toList_inj.1 ?_
    simp only [String.toList_append]
    rfl
  exact (congrArg rule? hline).trans (after?_append _ _)

/-- rules are read as they were written -/
theorem filterMap_rule?_indented (rests : List String) :
    (indented 2 (rests.map ("RuleFor(x => x." ++ ·))).filterMap rule? = rests := by
  have hblank : ∀ line ∈ rests.map ("RuleFor(x => x." ++ ·), isBlankText line = false :=
    fun line hline => by
      obtain ⟨rest, -, rfl⟩ := List.mem_map.1 hline
      exact isBlankText_append_left (by decide) _
  rw [indented, indent_eq_map hblank, List.map_map, List.filterMap_map]
  exact (List.filterMap_congr fun rest _ => rule?_indented rest).trans List.filterMap_some

theorem exists_rests {ruled : List Entity.Property} (h : List.Forall₂ RulesMember ruled rules) :
    ∃ rests, rules = rests.map ("RuleFor(x => x." ++ ·) ∧ List.Forall₂ StatesRules ruled rests := by
  induction h with
  | nil => exact ⟨[], rfl, .nil⟩
  | @cons p line ruled rules hrule _ ih =>
    obtain ⟨calls, hne, hcalls, rfl⟩ := hrule
    obtain ⟨rests, rfl, hrests⟩ := ih
    refine ⟨(p.name ++ ")" ++ String.join calls ++ ";") :: rests, ?_,
      .cons ⟨calls, hne, hcalls, rfl⟩ hrests⟩
    simp only [List.map_cons, String.append_assoc]

theorem statesRules_indented {ruled : List Entity.Property}
    (h : List.Forall₂ RulesMember ruled rules) :
    List.Forall₂ StatesRules ruled ((indented 2 rules).filterMap rule?) := by
  obtain ⟨rests, rfl, hrests⟩ := exists_rests h
  rw [filterMap_rule?_indented]
  exact hrests

/-- all rules of a validator are in its constructor -/
theorem filterMap_rule?_validatorLines :
    (validatorLines c e request rules).filterMap rule? = (indented 2 rules).filterMap rule? := by
  have hheader : ∀ line ∈ header ["FastEndpoints", "FluentValidation", entityNamespace c e]
      (validatorNamespace c e), rule? line = none :=
    forall_mem_header (P := fun line => rule? line = none) (by decide) (by decide)
      (fun u _ => rule?_eq_none_of_head (head?_useLine u ▸ by decide))
      (rule?_eq_none_of_head (head?_namespaceHead _ ▸ by decide))
  have hhead : rule? (validatorHead request.name) = none :=
    rule?_eq_none_of_head (head?_validatorHead _ ▸ by decide)
  have hconstructor : rule? ("    public " ++ request.name ++ "Validator()") = none :=
    after?_eq_none (n := 5) (by decide) (by
      rw [take_of_start (s := "    public ") (by decide)
        (prefix_append (prefix_append (List.prefix_refl _) _) _)]
      decide)
  have hopening : ∀ line ∈ [validatorHead request.name, "\x7b",
      "    public " ++ request.name ++ "Validator()", "    \x7b"], rule? line = none :=
    List.forall_mem_cons.2 ⟨hhead, List.forall_mem_cons.2 ⟨by decide,
      List.forall_mem_cons.2 ⟨hconstructor, by decide⟩⟩⟩
  have hclosing : ["    \x7d", "\x7d", ""].filterMap rule? = [] := by decide
  have hstart := List.filterMap_eq_nil_iff.2 hheader
  rw [validatorLines, List.filterMap_append, List.filterMap_append, List.filterMap_append, hstart,
    hclosing, List.append_nil, List.nil_append]
  exact (congrArg (· ++ _) (List.filterMap_eq_nil_iff.2 hopening)).trans (List.nil_append _)

/-! ### Agreement -/

/-- the rules in the lines of a validator are those of members of the request, one by one -/
def RulesMembers (request : Contract) (lines : List String) : Prop :=
  ∃ ruled, ruled.Sublist request.members ∧ (ruled.map (·.name)).Nodup ∧
    List.Forall₂ StatesRules ruled (lines.filterMap rule?)

/-- what the files of an entity are about -/
structure MembersAgree (c : Config) (e : Entity) : Prop where
  /-- no other file is made for an entity -/
  files : ∀ files, entityFiles c e = .ok files → ∀ f ∈ files,
    f.text = contractsText c e ∨ f.text = mapperText c e ∨
      ∃ request ∈ requests e, validatorFile c e request = .ok f
  contracts : HasLines (IsReadable c e) (contractsText c e) (contractsLines c e)
  mapper : HasLines (IsReadable c e) (mapperText c e) (mapperLines c e)
  /-- each class declares its members once, in the order of the entity -/
  declared : ∀ contract ∈ requests e ++ [⟨responseName e, e.properties⟩],
    List.Forall₂ DeclaresMember contract.members
      (declaredIn contract.name (contractsLines c e))
  /-- a new entity is filled from the members of the request -/
  created : blockLines 3 (toEntityHead e) "        \x7d;" (mapperLines c e) =
    (otherProperties e).map fun p => fillingLine "request" p.name
  /-- an entity is written over from the members of the request that are no keys -/
  updated : blockLines 1 (applyToHead e) "    \x7d" (mapperLines c e) =
    (otherProperties e).map fun p => assigningLine p.name
  /-- a response is filled from all properties of the entity -/
  responded : blockLines 3 (toResponseHead e) "        \x7d;" (mapperLines c e) =
    e.properties.map fun p => fillingLine "entity" p.name
  /-- a validator rules members of the request that it names, each in one line at most -/
  ruled : ∀ request ∈ requests e, ∀ f, validatorFile c e request = .ok f →
    ∃ lines, HasLines (IsReadable c e) f.text lines ∧ validatorHead request.name ∈ lines ∧
      RulesMembers request lines

theorem sublist_members {request : Contract} (h : request ∈ [createRequest e, updateRequest e]) :
    request.members.Sublist e.properties := by
  rcases List.mem_cons.1 h with rfl | h
  · exact List.filter_sublist
  · obtain rfl := List.mem_singleton.1 h
    exact List.Sublist.refl _

theorem ruled_of_validatorFile (h : e.propertyNames.Nodup)
    (hrequest : request ∈ [createRequest e, updateRequest e]) {f : SourceFile}
    (hf : validatorFile c e request = .ok f) :
    ∃ lines, HasLines (IsReadable c e) f.text lines ∧ validatorHead request.name ∈ lines ∧
      RulesMembers request lines := by
  obtain ⟨rules, hrules, htext⟩ := text_validatorFile hf
  obtain ⟨ruled, hruled, hlines⟩ := exists_rulesMember hrules
  have hsublist : (ruled.map (·.name)).Sublist e.propertyNames :=
    (hruled.trans (sublist_members hrequest)).map _
  have hfile : FileLines c e (validatorLines c e request rules) :=
    .validator request rules hrequest hrules
  refine ⟨validatorLines c e request rules, htext ▸ hfile.hasLines, ?_,
    ruled, hruled, h.sublist hsublist, ?_⟩
  · exact List.mem_append_left _ (List.mem_append_left _ (List.mem_append_right _
      (List.mem_cons_self ..)))
  · rw [filterMap_rule?_validatorLines]
    exact statesRules_indented hlines

/-- contracts, mapper and validators of an entity agree on its members -/
theorem membersAgree (h : e.propertyNames.Nodup) : MembersAgree c e where
  files files hfiles f hf := requests_eq h ▸ text_entityFiles hfiles hf
  contracts := FileLines.contracts.hasLines
  mapper := FileLines.mapper.hasLines
  declared contract hcontract := by
    rw [requests_eq h] at hcontract
    rw [declaredIn_contractsLines hcontract]
    exact forall₂_declaresMember _
  created := by
    rw [blockLines_toEntity, createdNames, nonKeyProperties_eq h, List.map_map]
    rfl
  updated := by
    rw [blockLines_applyTo, updatedNames, nonKeyProperties_eq h, List.map_map]
    rfl
  responded := by
    rw [blockLines_toResponse, respondedNames, List.map_map]
    rfl
  ruled request hrequest f := ruled_of_validatorFile h (requests_eq h ▸ hrequest)

/-- an entity with two keys -/
def orderLine : Entity :=
  ⟨"OrderLine", [⟨"OrderId", "int", ["Key"], true, false⟩,
    ⟨"Position", "int", ["Key"], true, false⟩,
    ⟨"Note", "string", ["Required", "MaxLength(80)"], false, false⟩], none, none⟩

/-- an entity whose key is found by its name -/
def order : Entity :=
  ⟨"Order", [⟨"Id", "int", [], false, false⟩, ⟨"Total", "decimal", [], false, false⟩], none, none⟩

theorem membersAgree_orderLine :
    orderLine.propertyNames.Nodup ∧ MembersAgree {} orderLine ∧
      order.propertyNames.Nodup ∧ MembersAgree {} order ∧
      [orderLine, order].map (fun e => (otherProperties e).map (·.name)) = [["Note"], ["Total"]] :=
  ⟨by decide, membersAgree (by decide), by decide, membersAgree (by decide), by decide⟩

end EndpointScaffold.Support
