import EndpointScaffold.Proofs.Support.Members
import EndpointScaffold.Proofs.Validation.Accepted

/-!
# Members with the name of their class

No class may declare a member with its own name. The check of the names of properties keeps them
apart from the name of the entity. But the classes that are generated have longer names, so what it
accepts still has such a member wherever a property has the name of a class that takes it over.

* `declaredMember` the member that a line declares, `map_declaredMember_declaredIn` the members of a
  class;
* `DeclaresItself` a class with such a member;
* `OwnNames`, `ownNames_of_isValid` the classes of accepted entities that have one.
-/

namespace EndpointScaffold.Support

open Naming Text Validation

variable {c : Config} {e : Entity} {es : List Entity} {p : Entity.Property}

/-! ### Members of a class -/

/-- name of the member that a line declares: the word before the last opening brace -/
def declaredMember (line : String) : String :=
  let front := (line.toList.reverse.dropWhile (· != '\x7b')).drop 2
  String.ofList (front.takeWhile (· != ' ')).reverse

theorem declaredMember_eq {front back : String} {name : String} (hname : ' ' ∉ name.toList)
    (hback : '\x7b' ∉ back.toList) :
    declaredMember (front ++ " " ++ name ++ " \x7b" ++ back) = name := by
  have hbehind : ∀ ch ∈ back.toList.reverse, (ch != '\x7b') = true := fun ch hch =>
    bne_iff_ne.2 fun heq => hback (heq ▸ List.mem_reverse.1 hch)
  have hinside : ∀ ch ∈ name.toList.reverse, (ch != ' ') = true := fun ch hch =>
    bne_iff_ne.2 fun heq => hname (heq ▸ List.mem_reverse.1 hch)
  have hchars : (front ++ " " ++ name ++ " \x7b" ++ back).toList.reverse =
      back.toList.reverse ++ '\x7b' :: ' ' :: (name.toList.reverse ++ ' ' :: front.toList.reverse) := by
    simp
  rw [declaredMember, hchars, List.dropWhile_append_of_pos hbehind,
    List.dropWhile_cons_of_neg (by simp), List.drop_succ_cons, List.drop_succ_cons, List.drop_zero,
    List.takeWhile_append_of_pos hinside, List.takeWhile_cons_of_neg (by simp), List.append_nil,
    List.reverse_reverse, String.ofList_toList]

theorem declaredMember_of_declares {line : String} (hname : ' ' ∉ p.name.toList)
    (h : DeclaresMember p line) : declaredMember line = p.name := by
  have hread : ∀ back : String, '\x7b' ∉ back.toList →
      declaredMember ("    public " ++ p.type ++ " " ++ p.name ++ (" \x7b" ++ back)) = p.name := by
    intro back hback
    rw [← String.append_assoc]
    exact declaredMember_eq hname hback
  rcases h with rfl | rfl
  · exact hread " get; set; \x7d" (by decide)
  · exact hread " get; set; \x7d = string.Empty;" (by decide)

theorem map_declaredMember {ps : List Entity.Property} (h : ∀ p ∈ ps, ' ' ∉ p.name.toList) :
    (indented 1 (ps.map memberLine)).map declaredMember = ps.map (·.name) := by
  rw [indented_members, List.map_map]
  exact List.map_congr_left fun p hp =>
    declaredMember_of_declares (h p hp) (declaresMember_memberLine p)

theorem members_subset {contract : Contract} (h : contract ∈ contracts e) :
    contract.members ⊆ e.properties := by
  simp only [contracts, List.mem_cons, List.not_mem_nil, or_false] at h
  rcases h with rfl | rfl | rfl
  · exact List.filter_sublist.subset
  · exact List.Subset.refl _
  · exact List.Subset.refl _

theorem map_declaredMember_declaredIn (h : HasProperNames e) {contract : Contract}
    (hcontract : contract ∈ contracts e) :
    (declaredIn contract.name (contractsLines c e)).map declaredMember =
      contract.members.map (·.name) := by
  rw [declaredIn_contractsLines hcontract]
  refine map_declaredMember fun p hp => blank_not_mem (h.identifiers p.name ?_)
  exact List.mem_map_of_mem (members_subset hcontract hp)

/-! ### Names of classes -/

/-- the class `name` declares a member with its own name in these lines -/
def DeclaresItself (name : String) (lines : List String) : Prop :=
  name ∈ (declaredIn name lines).map declaredMember

theorem declaresItself_iff (h : HasProperNames e) {contract : Contract}
    (hcontract : contract ∈ contracts e) :
    DeclaresItself contract.name (contractsLines c e) ↔
      ∃ p ∈ contract.members, p.name = contract.name := by
  rw [DeclaresItself, map_declaredMember_declaredIn h hcontract, List.mem_map]

/-- a class has a longer name than its entity, and than the key that is found by its name -/
theorem length_lt_of_mem_contracts {contract : Contract} (h : contract ∈ contracts e) :
    e.name.toList.length + 2 < contract.name.toList.length := by
  have hrequest : ∀ verb : String, verb.toList.length = 6 →
      e.name.toList.length + 2 < (verb ++ e.name ++ "Request").toList.length := by
    intro verb hverb
    have hending : "Request".toList.length = 7 := by decide
    rw [String.toList_append, String.toList_append, List.length_append, List.length_append, hverb,
      hending]
    omega
  simp only [contracts, List.mem_cons, List.not_mem_nil, or_false] at h
  rcases h with rfl | rfl | rfl
  · exact hrequest "Create" (by decide)
  · exact hrequest "Update" (by decide)
  · have hending : "Response".toList.length = 8 := by decide
    show _ < (e.name ++ "Response").toList.length
    rw [String.toList_append, List.length_append, hending]
    omega

theorem name_ne_of_mem_contracts {contract : Contract} (h : contract ∈ contracts e) :
    contract.name ≠ e.name := by
  intro heq
  have hlength := length_lt_of_mem_contracts h
  rw [heq] at hlength
  omega

/-- a property with the name of a class is no key unless it is configured -/
theorem isKey_of_name_eq {contract : Contract} (h : contract ∈ contracts e)
    (hname : p.name = contract.name) : isKey e p = p.isPrimaryKey := by
  have hid : p.name ≠ "Id" := by
    intro heq
    have hlength := length_lt_of_mem_contracts h
    rw [← hname, heq] at hlength
    have htwo : "Id".toList.length = 2 := by decide
    omega
  rw [isKey, beq_eq_false_iff_ne.2 hid, Bool.and_false, Bool.or_false]

theorem hasProperNames_concat (h : HasProperNames e) (hname : isIdentifier p.name = true)
    (hnew : p.name ∉ e.propertyNames) (hentity : p.name ≠ e.name) :
    HasProperNames { e with properties := e.properties ++ [p] } := by
  have hnames : Entity.propertyNames { e with properties := e.properties ++ [p] } =
      e.propertyNames ++ [p.name] := List.map_append
  constructor
  · rw [hnames, List.nodup_append_comm]
    exact List.nodup_cons.2 ⟨hnew, h.distinct⟩
  · rw [hnames]
    exact List.forall_mem_append.2 ⟨h.identifiers, List.forall_mem_singleton.2 hname⟩
  · rw [hnames]
    exact List.forall_mem_append.2 ⟨h.notOfEntity, List.forall_mem_singleton.2 hentity⟩

/-! ### Accepted entities -/

/-- which classes of an entity declare a member with their own name -/
structure OwnNames (c : Config) (e : Entity) : Prop where
  contracts : HasLines (IsReadable c e) (contractsText c e) (contractsLines c e)
  created : DeclaresItself (createRequestName e) (contractsLines c e) ↔
    ∃ p ∈ e.properties, p.isPrimaryKey = false ∧ p.name = createRequestName e
  updated : DeclaresItself (updateRequestName e) (contractsLines c e) ↔
    updateRequestName e ∈ e.propertyNames
  responded : DeclaresItself (responseName e) (contractsLines c e) ↔
    responseName e ∈ e.propertyNames
  /-- the check does not object to a further property with the name of a class -/
  unchecked : ∀ name ∈ [createRequestName e, updateRequestName e, responseName e],
    isIdentifier name = true → name ∉ e.propertyNames → ∀ p : Entity.Property, p.name = name →
      propertyProblems [{ e with properties := e.properties ++ [p] }] = []

/-- the check of the names of properties accepts members with the name of their class -/
theorem ownNames_of_isValid
    (h : Findings.isValid ((propertyProblems es).map Problem.finding) = true) :
    ∀ e ∈ es, OwnNames c e := by
  intro e he
  have hproper : HasProperNames e := forall_propertyProblems_iff.1 (isValid_iff.1 h) e he
  have hcreate : createRequest e ∈ contracts e := List.mem_cons_self
  have hupdate : updateRequest e ∈ contracts e := List.mem_cons_of_mem _ List.mem_cons_self
  have hresponse : response e ∈ contracts e :=
    List.mem_cons_of_mem _ (List.mem_cons_of_mem _ List.mem_cons_self)
  constructor
  · exact FileLines.contracts.hasLines
  · refine (declaresItself_iff hproper hcreate).trans (exists_congr fun p => ?_)
    show p ∈ nonKeyProperties e ∧ p.name = createRequestName e ↔ _
    rw [nonKeyProperties_eq hproper.distinct, List.mem_filter, Bool.not_eq_true', and_assoc]
    refine and_congr_right fun _ => and_congr_left fun hname => ?_
    rw [isKey_of_name_eq hcreate hname]
  · exact (declaresItself_iff hproper hupdate).trans List.mem_map.symm
  · exact (declaresItself_iff hproper hresponse).trans List.mem_map.symm
  · intro name hname hidentifier hnew p hp
    have hentity : name ≠ e.name := by
      have hnames : name ∈ (contracts e).map (·.name) := hname
      obtain ⟨contract, hcontract, rfl⟩ := List.mem_map.1 hnames
      exact name_ne_of_mem_contracts hcontract
    subst hp
    exact propertyProblems_eq_nil_iff.2 (List.forall_mem_singleton.2
      (hasProperNames_concat hproper hidentifier hnew hentity))

/-- an entity with a property for each of its classes, one of which is a key -/
def selfNamed : Entity :=
  ⟨"Order", [⟨"CreateOrderRequest", "Guid", [], true, false⟩,
    ⟨"UpdateOrderRequest", "string", [], false, false⟩,
    ⟨"OrderResponse", "string", [], false, false⟩], none, none⟩

theorem ownNames_selfNamed :
    Findings.isValid ((propertyProblems [selfNamed]).map Problem.finding) = true ∧
      OwnNames {} selfNamed ∧
      ¬ DeclaresItself "CreateOrderRequest" (contractsLines {} selfNamed) ∧
      DeclaresItself "UpdateOrderRequest" (contractsLines {} selfNamed) ∧
      DeclaresItself "OrderResponse" (contractsLines {} selfNamed) := by
  have hvalid : Findings.isValid ((propertyProblems [selfNamed]).map Problem.finding) = true := by
    decide
  have hown := ownNames_of_isValid (c := {}) hvalid selfNamed (List.mem_singleton_self _)
  refine ⟨hvalid, hown, fun h => ?_, hown.updated.2 (by decide), hown.responded.2 (by decide)⟩
  revert h
  rw [show "CreateOrderRequest" = createRequestName selfNamed by decide, hown.created]
  decide

end EndpointScaffold.Support
