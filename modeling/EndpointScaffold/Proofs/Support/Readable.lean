import EndpointScaffold.Proofs.Support.Lines

/-!
# Texts of generated files, line by line

Where no name and no type has a line feed in it, the lines that a file was assembled from are the
lines of its text.

* `IsReadable` names and types without line feeds;
* `FileLines.hasLines` the lines of the files of an entity are those that are read.
-/

namespace EndpointScaffold.Support

open Naming Text

variable {c : Config} {e : Entity} {request : Contract} {lines rules : List String}

/-- names and types without line feeds -/
structure IsReadable (c : Config) (e : Entity) : Prop where
  base : IsLine c.baseNamespace
  name : IsLine e.name
  space : ∀ space ∈ e.namespaceName, IsLine space
  members : ∀ p ∈ e.properties, IsLine p.name ∧ IsLine p.type

/-! ### Parts of lines -/

theorem isLine_plural {name : String} (h : IsLine name) : IsLine (plural name) := by
  by_cases hne : name = ""
  · rw [hne]
    decide
  · intro hfeed
    rcases (plural_spec hne).2 '\n' hfeed with hletter | hmem
    · cases hletter
    · exact h hmem

theorem isLine_entityNamespace (h : IsReadable c e) : IsLine (entityNamespace c e) :=
  (h.base.append (by decide)).append (isLine_plural h.name)

theorem isLine_validatorNamespace (h : IsReadable c e) : IsLine (validatorNamespace c e) :=
  (isLine_entityNamespace h).append (by decide)

theorem isLine_requestName (h : IsReadable c e) {verb : String} (hverb : IsLine verb) :
    IsLine (verb ++ e.name ++ "Request") := (hverb.append h.name).append (by decide)

theorem isLine_responseName (h : IsReadable c e) : IsLine (responseName e) :=
  h.name.append (by decide)

theorem isLine_toString (n : Nat) : IsLine (toString n) := by
  rw [IsLine, Nat.toString_eq_repr, Nat.repr_eq_ofList_toDigits, String.toList_ofList]
  intro hmem
  have hdigit := Nat.isDigit_of_mem_toDigits (by decide) (by decide) hmem
  cases hdigit

theorem isLine_indented {depth : Nat} (h : ∀ line ∈ lines, IsLine line) :
    ∀ line ∈ indented depth lines, IsLine line := fun line hline => by
  obtain ⟨inner, hinner, rfl⟩ := List.mem_map.1 hline
  split
  · exact h inner hinner
  · refine IsLine.append (fun hmem => ?_) (h inner hinner)
    rw [blanks, String.toList_ofList] at hmem
    cases List.eq_of_mem_replicate hmem

theorem isLine_header {uses : List String} {space : String} (huses : ∀ u ∈ uses, IsLine u)
    (hspace : IsLine space) : ∀ line ∈ header uses space, IsLine line :=
  forall_mem_header (by decide) (by decide)
    (fun u hu => (IsLine.append (by decide) (huses u hu)).append (by decide))
    ((IsLine.append (by decide) hspace).append (by decide))

/-! ### Contracts -/

theorem isLine_memberLine {p : Entity.Property} (hname : IsLine p.name) (htype : IsLine p.type) :
    IsLine (memberLine p) := by
  refine IsLine.append (((((IsLine.append (by decide) htype).append (by decide)).append
    hname).append (by decide))) ?_
  split <;> decide

theorem isLine_contract {contract : Contract} (hname : IsLine contract.name)
    (hmembers : ∀ p ∈ contract.members, IsLine p.name ∧ IsLine p.type) :
    ∀ line ∈ contract.lines, IsLine line := by
  rw [Contract.lines]
  refine List.forall_mem_append.2 ⟨List.forall_mem_append.2 ⟨List.forall_mem_cons.2
    ⟨IsLine.append (by decide) hname, by decide⟩, isLine_indented fun line hline => ?_⟩, by decide⟩
  obtain ⟨p, hp, rfl⟩ := List.mem_map.1 hline
  exact isLine_memberLine (hmembers p hp).1 (hmembers p hp).2

theorem isLine_of_mem_nonKeyProperties (h : IsReadable c e) :
    ∀ p ∈ nonKeyProperties e, IsLine p.name ∧ IsLine p.type := fun p hp =>
  h.members p (List.mem_of_mem_filter hp)

theorem isLine_contractsLines (h : IsReadable c e) : ∀ line ∈ contractsLines c e, IsLine line := by
  have hcreate : ∀ line ∈ (createRequest e).lines, IsLine line :=
    isLine_contract (isLine_requestName h (by decide)) (isLine_of_mem_nonKeyProperties h)
  have hupdate : ∀ line ∈ (updateRequest e).lines, IsLine line :=
    isLine_contract (isLine_requestName h (by decide)) h.members
  have hresponse : ∀ line ∈ (response e).lines, IsLine line :=
    isLine_contract (isLine_responseName h) h.members
  rw [contractsLines_eq]
  simp only [List.forall_mem_append]
  exact ⟨⟨isLine_header nofun (isLine_entityNamespace h),
    hcreate, by decide, hupdate, by decide, hresponse⟩, by decide⟩

/-! ### Mappers -/

theorem isLine_makingMethod {heading made source : String} {names : List String}
    (hheading : IsLine heading) (hmade : IsLine made) (hsource : IsLine source)
    (hnames : ∀ n ∈ names, IsLine n) : ∀ line ∈ makingMethod heading made source names,
      IsLine line := by
  rw [makingMethod]
  refine List.forall_mem_append.2 ⟨List.forall_mem_append.2 ⟨?_, isLine_indented ?_⟩, by decide⟩
  · exact List.forall_mem_cons.2 ⟨hheading, List.forall_mem_cons.2 ⟨by decide,
      List.forall_mem_cons.2 ⟨IsLine.append (by decide) hmade, by decide⟩⟩⟩
  · intro line hline
    obtain ⟨n, hn, rfl⟩ := List.mem_map.1 hline
    have hname := hnames n hn
    simp only [isLine_append]
    exact ⟨⟨⟨⟨⟨hname, by decide⟩, hsource⟩, by decide⟩, hname⟩, by decide⟩

theorem isLine_applyToLines (h : IsReadable c e) : ∀ line ∈ applyToLines e, IsLine line := by
  have hrequest : IsLine (updateRequestName e) := isLine_requestName h (by decide)
  rw [applyToLines]
  refine List.forall_mem_append.2 ⟨List.forall_mem_append.2
    ⟨List.forall_mem_cons.2 ⟨?_, by decide⟩, isLine_indented fun line hline => ?_⟩, by decide⟩
  · simp only [isLine_append]
    exact ⟨⟨⟨⟨by decide, hrequest⟩, by decide⟩, h.name⟩, by decide⟩
  · obtain ⟨n, hn, rfl⟩ := List.mem_map.1 hline
    obtain ⟨p, hp, rfl⟩ := List.mem_map.1 hn
    have hname := (isLine_of_mem_nonKeyProperties h p hp).1
    simp only [isLine_append]
    exact ⟨⟨⟨⟨by decide, hname⟩, by decide⟩, hname⟩, by decide⟩

theorem isLine_mapperLines (h : IsReadable c e) : ∀ line ∈ mapperLines c e, IsLine line := by
  have hrequest : IsLine (createRequestName e) := isLine_requestName h (by decide)
  have hresponse := isLine_responseName h
  have huses : ∀ space ∈ mapperUses c e, IsLine space := fun space hspace => by
    rw [mapperUses] at hspace
    split at hspace
    · rename_i own hown
      split at hspace
      · cases hspace
      · exact List.mem_singleton.1 hspace ▸ h.space own hown
    · cases hspace
  have htoEntity : ∀ line ∈ toEntityLines e, IsLine line := by
    refine isLine_makingMethod ?_ h.name (by decide) fun n hn => ?_
    · simp only [isLine_append]
      exact ⟨⟨⟨⟨by decide, h.name⟩, by decide⟩, hrequest⟩, by decide⟩
    · obtain ⟨p, hp, rfl⟩ := List.mem_map.1 hn
      exact (isLine_of_mem_nonKeyProperties h p hp).1
  have htoResponse : ∀ line ∈ toResponseLines e, IsLine line := by
    refine isLine_makingMethod ?_ hresponse (by decide) fun n hn => ?_
    · simp only [isLine_append]
      exact ⟨⟨⟨⟨by decide, hresponse⟩, by decide⟩, h.name⟩, by decide⟩
    · obtain ⟨p, hp, rfl⟩ := List.mem_map.1 hn
      exact (h.members p hp).1
  have hinner : ∀ line ∈ toEntityLines e ++ [""] ++ applyToLines e ++ [""] ++ toResponseLines e,
      IsLine line := by
    simp only [List.forall_mem_append]
    exact ⟨⟨⟨⟨htoEntity, by decide⟩, isLine_applyToLines h⟩, by decide⟩, htoResponse⟩
  have hhead : IsLine (mapperHead e.name) := by
    unfold mapperHead
    simp only [isLine_append]
    exact ⟨⟨by decide, h.name⟩, by decide⟩
  rw [mapperLines]
  exact List.forall_mem_append.2 ⟨List.forall_mem_append.2 ⟨List.forall_mem_append.2
    ⟨isLine_header huses (isLine_entityNamespace h), List.forall_mem_cons.2 ⟨hhead, by decide⟩⟩,
    isLine_indented hinner⟩, by decide⟩

/-! ### Validators -/

theorem isLine_call {call : String} (h : IsCall call) : IsLine call := by
  rcases h with rfl | ⟨n, rfl⟩
  · decide
  · simp only [isLine_append]
    exact ⟨⟨by decide, isLine_toString n⟩, by decide⟩

theorem isLine_join (h : ∀ s ∈ lines, IsLine s) : IsLine (String.join lines) := by
  rw [IsLine, String.toList_join, List.mem_flatMap]
  rintro ⟨s, hs, hmem⟩
  exact h s hs hmem

theorem isLine_rulesMember {p : Entity.Property} {line : String} (hname : IsLine p.name)
    (h : RulesMember p line) : IsLine line := by
  obtain ⟨calls, -, hcalls, rfl⟩ := h
  simp only [isLine_append]
  exact ⟨⟨⟨⟨by decide, hname⟩, by decide⟩, isLine_join fun call hcall =>
    isLine_call (hcalls call hcall)⟩, by decide⟩

theorem isLine_rules {ruled : List Entity.Property} (hruled : ∀ p ∈ ruled, IsLine p.name)
    (h : List.Forall₂ RulesMember ruled rules) : ∀ line ∈ rules, IsLine line := by
  induction h with
  | nil => exact nofun
  | cons hrule _ ih =>
    rw [List.forall_mem_cons] at hruled ⊢
    exact ⟨isLine_rulesMember hruled.1 hrule, ih hruled.2⟩

theorem isLine_validatorLines (h : IsReadable c e)
    (hrequest : request ∈ [createRequest e, updateRequest e])
    (hrules : ruleLines request.members = .ok rules) :
    ∀ line ∈ validatorLines c e request rules, IsLine line := by
  have hname : IsLine request.name := by
    rcases List.mem_cons.1 hrequest with rfl | hrequest
    · exact isLine_requestName h (by decide)
    · obtain rfl := List.mem_singleton.1 hrequest
      exact isLine_requestName h (by decide)
  have hmembers : ∀ p ∈ request.members, IsLine p.name := fun p hp => by
    rcases List.mem_cons.1 hrequest with rfl | hrequest
    · exact (isLine_of_mem_nonKeyProperties h p hp).1
    · obtain rfl := List.mem_singleton.1 hrequest
      exact (h.members p hp).1
  obtain ⟨ruled, hruled, hlines⟩ := exists_rulesMember hrules
  have hbody : ∀ line ∈ indented 2 rules, IsLine line :=
    isLine_indented (isLine_rules (fun p hp => hmembers p (hruled.subset hp)) hlines)
  have huses : ∀ space ∈ ["FastEndpoints", "FluentValidation", entityNamespace c e],
      IsLine space := List.forall_mem_cons.2 ⟨by decide, List.forall_mem_cons.2
    ⟨by decide, List.forall_mem_singleton.2 (isLine_entityNamespace h)⟩⟩
  have hhead : IsLine (validatorHead request.name) := by
    unfold validatorHead
    simp only [isLine_append]
    exact ⟨⟨⟨⟨by decide, hname⟩, by decide⟩, hname⟩, by decide⟩
  have hconstructor : IsLine ("    public " ++ request.name ++ "Validator()") := by
    simp only [isLine_append]
    exact ⟨⟨by decide, hname⟩, by decide⟩
  rw [validatorLines]
  exact List.forall_mem_append.2 ⟨List.forall_mem_append.2 ⟨List.forall_mem_append.2
    ⟨isLine_header huses (isLine_validatorNamespace h), List.forall_mem_cons.2 ⟨hhead,
      List.forall_mem_cons.2 ⟨by decide, List.forall_mem_cons.2 ⟨hconstructor, by decide⟩⟩⟩⟩,
    hbody⟩, by decide⟩

/-! ### Texts -/

theorem FileLines.ne_nil (h : FileLines c e lines) : lines ≠ [] := by
  cases h <;> exact List.append_ne_nil_of_right_ne_nil _ (List.cons_ne_nil _ _)

theorem FileLines.hasLines (h : FileLines c e lines) :
    HasLines (IsReadable c e) (ofLines lines) lines :=
  hasLines_ofLines h.ne_nil fun hreadable => by
    cases h with
    | contracts => exact isLine_contractsLines hreadable
    | mapper => exact isLine_mapperLines hreadable
    | validator request rules hrequest hrules =>
      exact isLine_validatorLines hreadable hrequest hrules

end EndpointScaffold.Support
