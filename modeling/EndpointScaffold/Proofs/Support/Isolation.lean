import EndpointScaffold.Proofs.Support.Lengths
import EndpointScaffold.Proofs.Support.Targets

/-!
# Entities that fail

The files of a project are made entity by entity, and an entity has all of its files or none. What
fails it is a length with more digits than are read, wherever it is stated among its properties.
Then its message joins those of the project, and the other entities have the files they would have
without it.

* `CanBeMade`, `entityFiles_isOk_iff` the entities that do not fail;
* `failure?`, `errors_rendering` the messages of those that do;
* `filter_own` what lies at the paths of one entity;
* `rendering_of_error`, `rendering_of_perm` an entity less, and entities in another order;
* `IsIsolated`, `isIsolated_rendering` all of it.
-/

namespace EndpointScaffold.Support

open Schema Text

variable {c : Config} {e : Entity} {es es' front back : List Entity} {files : List SourceFile}

/-! ### Which entities fail -/

/-- no validator meets a length that is too long -/
def CanBeMade (c : Config) (e : Entity) : Prop :=
  c.makesValidators = true → ∀ p ∈ e.properties, ∀ t ∈ p.attributes, IsShort t

instance (c : Config) (e : Entity) : Decidable (CanBeMade c e) :=
  inferInstanceAs (Decidable (_ → _))

theorem ruleLine?_isOk_iff {p : Entity.Property} :
    (ruleLine? p).isOk = true ↔ ∀ t ∈ p.attributes, IsShort t := by
  rw [← ofTokens_isOk_iff, ruleLine?]
  cases FieldRules.ofTokens p.attributes with
  | ok r => exact ⟨fun _ => ⟨r, rfl⟩, fun _ => rfl⟩
  | error problem =>
    constructor
    · intro h
      cases h
    · rintro ⟨_, h⟩
      cases h

/-- a validator fails at the members of its request, whatever comes before them -/
theorem validatorFile_isOk_iff {request : Contract} :
    (validatorFile c e request).isOk = true ↔
      ∀ p ∈ request.members, ∀ t ∈ p.attributes, IsShort t := by
  have hlines : (∀ p ∈ request.members, ∀ t ∈ p.attributes, IsShort t) ↔
      (request.members.mapM ruleLine?).isOk = true := by
    rw [mapM_isOk_iff]
    exact forall₂_congr fun p _ => ruleLine?_isOk_iff.symm
  rw [hlines, validatorFile, validatorText, ruleLines]
  cases request.members.mapM ruleLine? with
  | ok lines => exact Iff.rfl
  | error problem => exact Iff.rfl

theorem entityFiles_isOk_iff : (∃ files, entityFiles c e = .ok files) ↔ CanBeMade c e := by
  have hvalidators : ([createRequest e, updateRequest e].mapM (validatorFile c e)).isOk = true ↔
      ∀ p ∈ e.properties, ∀ t ∈ p.attributes, IsShort t := by
    rw [mapM_isOk_iff, List.forall_mem_cons, List.forall_mem_singleton, validatorFile_isOk_iff,
      validatorFile_isOk_iff]
    -- the members of the first request are among those of the second one
    exact and_iff_right_of_imp fun h p hp => h p (List.mem_of_mem_filter hp)
  rw [CanBeMade, ← hvalidators, entityFiles]
  cases c.makesValidators with
  | false => exact ⟨fun _ h => (by cases h), fun _ => ⟨_, rfl⟩⟩
  | true =>
    rw [if_pos rfl]
    cases [createRequest e, updateRequest e].mapM (validatorFile c e) with
    | ok validators => exact ⟨fun _ _ => rfl, fun _ => ⟨_, rfl⟩⟩
    | error problem =>
      refine ⟨?_, fun h => (by cases h rfl)⟩
      rintro ⟨_, h⟩
      cases h

/-! ### Messages -/

/-- the message of an entity whose files cannot be made -/
def failure? (c : Config) (e : Entity) : Option String :=
  match entityFiles c e with
  | .ok _ => none
  | .error problem => some (failureMessage e problem)

theorem failure?_isSome_iff : (failure? c e).isSome = true ↔ ¬ CanBeMade c e := by
  rw [← entityFiles_isOk_iff, failure?]
  cases entityFiles c e with
  | ok files => exact ⟨nofun, fun h => absurd ⟨files, rfl⟩ h⟩
  | error problem => exact ⟨fun _ => nofun, fun _ => rfl⟩

theorem filesOf_of_error {problem : Decimal.LongNumber} (h : entityFiles c e = .error problem) :
    filesOf c e = [] := by
  rw [filesOf, h]
  rfl

theorem errors_add (r : Rendering) :
    (r.add c e).errors = r.errors ++ (failure? c e).toList := by
  rw [Rendering.add, failure?]
  cases entityFiles c e with
  | ok files => exact (List.append_nil r.errors).symm
  | error problem => rfl

/-- one message for each entity that fails, in the order of the entities -/
theorem errors_rendering : (rendering c es).errors = es.filterMap (failure? c) := by
  suffices h : ∀ (es : List Entity) (r : Rendering), (es.foldl (Rendering.add c) r).errors =
      r.errors ++ es.filterMap (failure? c) from h es _
  intro es
  induction es with
  | nil => exact fun r => (List.append_nil r.errors).symm
  | cons e es ih =>
    intro r
    rw [List.foldl_cons, ih, errors_add, List.append_assoc]
    congr 1
    cases h : failure? c e with
    | none => rw [List.filterMap_cons_none h, Option.toList_none, List.nil_append]
    | some message =>
      rw [List.filterMap_cons_some h, Option.toList_some, List.singleton_append]

/-! ### Files -/

theorem mem_filesOf {f : SourceFile} :
    f ∈ filesOf c e ↔ ∃ files, entityFiles c e = .ok files ∧ f ∈ files := by
  rw [filesOf]
  cases entityFiles c e with
  | ok files =>
    refine ⟨fun hf => ⟨files, rfl, hf⟩, ?_⟩
    rintro ⟨_, h, hf⟩
    exact Except.ok.inj h ▸ hf
  | error problem =>
    refine ⟨fun hf => absurd hf List.not_mem_nil, ?_⟩
    rintro ⟨_, h, -⟩
    cases h

/-- where no path repeats, the paths of some files lead to these files alone -/
theorem filter_own {own before after : List SourceFile}
    (h : ((before ++ own ++ after).map (·.path)).Nodup) :
    ((before ++ own ++ after).filter fun f => f.path ∈ own.map (·.path)) = own := by
  rw [List.map_append, List.map_append, List.nodup_append', List.nodup_append'] at h
  obtain ⟨⟨-, -, hbefore⟩, -, hafter⟩ := h
  have hnone : ∀ {others : List SourceFile},
      List.Disjoint (others.map (·.path)) (own.map (·.path)) →
        (others.filter fun f => f.path ∈ own.map (·.path)) = [] := fun hothers =>
    List.filter_eq_nil_iff.mpr fun f hf hmem =>
      hothers (List.mem_map_of_mem hf) (of_decide_eq_true hmem)
  have hown : (own.filter fun f => f.path ∈ own.map (·.path)) = own :=
    List.filter_eq_self.mpr fun f hf => decide_eq_true (List.mem_map_of_mem hf)
  rw [List.filter_append, List.filter_append, hnone hbefore, hown,
    hnone fun path hpath hmem => hafter (List.mem_append_right _ hmem) hpath, List.nil_append,
    List.append_nil]

/-- where no path repeats, files are found whatever their order is -/
theorem find?_of_perm {gs : List SourceFile} (h : (gs.map (·.path)).Nodup) (hfiles : files.Perm gs)
    (path : String) :
    (files.find? fun f => f.path == path) = gs.find? fun f => f.path == path := by
  cases hfind : gs.find? fun f => f.path == path with
  | some g =>
    have hpath := List.find?_some hfind
    obtain rfl : g.path = path := beq_iff_eq.mp hpath
    exact find?_of_nodup ((hfiles.map _).nodup_iff.mpr h)
      (hfiles.mem_iff.mpr (List.mem_of_find?_eq_some hfind))
  | none =>
    rw [List.find?_eq_none] at hfind ⊢
    exact fun f hf => hfind f (hfiles.mem_iff.mp hf)

/-- an entity that fails adds its message, and nothing else -/
theorem rendering_of_error {problem : Decimal.LongNumber} (h : entityFiles c e = .error problem) :
    (rendering c (front ++ e :: back)).files = (rendering c (front ++ back)).files ∧
      (rendering c (front ++ e :: back)).errors =
        (rendering c front).errors ++ failureMessage e problem :: (rendering c back).errors := by
  constructor
  · rw [files_rendering, files_rendering, List.flatMap_append, List.flatMap_append,
      List.flatMap_cons, filesOf_of_error h, List.nil_append]
  · have hfailure : failure? c e = some (failureMessage e problem) := by rw [failure?, h]
    rw [errors_rendering, errors_rendering, errors_rendering, List.filterMap_append,
      List.filterMap_cons_some hfailure]

/-- entities in another order have the same files and messages -/
theorem rendering_of_perm (hes : ((generatedFiles c es).map (·.path)).Nodup) (h : es'.Perm es) :
    (rendering c es').files.Perm (rendering c es).files ∧
      (rendering c es').errors.Perm (rendering c es).errors := by
  have hfiles : (generatedFiles c es').Perm (generatedFiles c es) :=
    (h.flatMap_right _).append_left (sharedFiles c)
  have hes' : ((generatedFiles c es').map (·.path)).Nodup := (hfiles.map _).nodup_iff.mpr hes
  rw [rendering_of_nodup hes, rendering_of_nodup hes', errors_rendering, errors_rendering]
  exact ⟨hfiles, h.filterMap _⟩

/-! ### All of it -/

/-- a project in which an entity that fails concerns no other one -/
structure IsIsolated (c : Config) (es : List Entity) : Prop where
  /-- the shared files, and all files of each entity that has files, in this order -/
  files : (rendering c es).files = sharedFiles c ++ es.flatMap (filesOf c)
  made : ∀ f, f ∈ (rendering c es).files ↔
    f ∈ sharedFiles c ∨ ∃ e ∈ es, ∃ files, entityFiles c e = .ok files ∧ f ∈ files
  errors : (rendering c es).errors = es.filterMap (failure? c)
  failing : ∀ e, (failure? c e).isSome = true ↔ ¬ CanBeMade c e
  /-- an entity that fails leaves the project as it is without it, but for its message -/
  failed : ∀ front e back problem, es = front ++ e :: back → entityFiles c e = .error problem →
    (rendering c es).files = (rendering c (front ++ back)).files ∧
      (rendering c es).errors =
        (rendering c front).errors ++ failureMessage e problem :: (rendering c back).errors
  /-- what lies at the paths of an entity does not depend on the others -/
  own : ∀ e ∈ es,
    ((rendering c es).files.filter fun f => f.path ∈ (filesOf c e).map (·.path)) = filesOf c e
  permuted : ∀ es', es'.Perm es → (rendering c es').files.Perm (rendering c es).files ∧
    (rendering c es').errors.Perm (rendering c es).errors ∧
    ∀ path, ((rendering c es').files.find? fun f => f.path == path) =
      (rendering c es).files.find? fun f => f.path == path

theorem isIsolated_rendering (h : ((generatedFiles c es).map (·.path)).Nodup) :
    IsIsolated c es := by
  have hfiles := rendering_of_nodup h
  constructor
  case files => exact hfiles
  case made =>
    intro f
    rw [hfiles, generatedFiles, List.mem_append, List.mem_flatMap]
    simp only [mem_filesOf]
  case errors => exact errors_rendering
  case failing => exact fun e => failure?_isSome_iff
  case failed =>
    rintro front e back problem rfl herror
    exact rendering_of_error herror
  case own =>
    intro e he
    obtain ⟨front, back, rfl⟩ := List.append_of_mem he
    rw [hfiles]
    rw [generatedFiles, List.flatMap_append, List.flatMap_cons, ← List.append_assoc,
      ← List.append_assoc] at h ⊢
    exact filter_own h
  case permuted =>
    intro es' hes'
    obtain ⟨hperm, herrors⟩ := rendering_of_perm h hes'
    refine ⟨hperm, herrors, find?_of_perm ?_ hperm⟩
    rw [hfiles]
    exact h

/-! ### A length that is too long -/

theorem statesLength_call {digits : List Char} (h : AreDigits digits) :
    StatesLength ("MaxLength(" ++ String.ofList digits ++ ")") digits := by
  have hchars : ("MaxLength(" ++ String.ofList digits ++ ")").toList =
      "MaxLength".toList ++ ('(' :: (digits ++ [')'])) := by
    have hdigits : (String.ofList digits).toList = digits := String.toList_ofList
    rw [String.toList_append, String.toList_append, hdigits, List.append_assoc]
    rfl
  have hbehind : ∀ c ∈ [')'].head?, isDecimalDigit c = false := fun c hc => by
    rw [← Option.some.inj hc]
    rfl
  refine ⟨h, "MaxLength", by decide, [')'], ?_, hbehind⟩
  exact ⟨[], _, areBlanks_nil, hchars, [], _, areBlanks_nil, rfl, [], _, areBlanks_nil, rfl, rfl⟩

def nines : List Char := List.replicate 4301 '9'

theorem areDigits_nines : AreDigits nines where
  ne_nil := List.ne_nil_of_length_pos (by rw [nines, List.length_replicate]; decide)
  digits c hc := by
    rw [List.eq_of_mem_replicate hc]
    decide

def ninesToken : String := "MaxLength(" ++ String.ofList nines ++ ")"

/-- an entity whose contracts are made before its validator fails -/
def endlessItem : Entity := ⟨"Item", [⟨"Note", "string", [ninesToken], false, false⟩], none, none⟩

def shortOrder : Entity :=
  ⟨"Order", [⟨"Note", "string", ["MaxLength(80)"], false, false⟩], none, none⟩

theorem not_canBeMade_endless : ¬ CanBeMade {} endlessItem := fun h => by
  have hshort := h rfl _ List.mem_cons_self _ List.mem_cons_self nines
    (statesLength_call areDigits_nines)
  rw [nines, List.length_replicate] at hshort
  exact absurd hshort (by decide)

/-- the second entity has its files, and the first one has its message only -/
theorem isIsolated_endless :
    ((generatedFiles {} [endlessItem, shortOrder]).map (·.path)).Nodup ∧
      IsIsolated {} [endlessItem, shortOrder] ∧
      (rendering {} [endlessItem, shortOrder]).errors.length = 1 ∧
      (rendering {} [endlessItem, shortOrder]).files = (rendering {} [shortOrder]).files := by
  have hfails : ∃ problem, entityFiles {} endlessItem = .error problem := by
    cases hfiles : entityFiles {} endlessItem with
    | ok files => exact absurd (entityFiles_isOk_iff.mp ⟨files, hfiles⟩) not_canBeMade_endless
    | error problem => exact ⟨problem, rfl⟩
  obtain ⟨problem, hproblem⟩ := hfails
  have hpaths : ((generatedFiles {} [endlessItem, shortOrder]).map (·.path)).Nodup := by
    rw [generatedFiles, List.flatMap_cons, filesOf_of_error hproblem, List.nil_append]
    decide
  have hisolated : IsIsolated {} [endlessItem, shortOrder] := isIsolated_rendering hpaths
  obtain ⟨hfiles, herrors⟩ := hisolated.failed [] endlessItem [shortOrder] problem rfl hproblem
  have hmade : (rendering {} [shortOrder]).errors = [] := by decide
  refine ⟨hpaths, hisolated, ?_, hfiles⟩
  rw [herrors, hmade]
  rfl

end EndpointScaffold.Support
