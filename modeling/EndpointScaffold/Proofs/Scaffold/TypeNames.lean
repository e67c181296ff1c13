import EndpointScaffold.Proofs.Support.Readable
import EndpointScaffold.Proofs.Validation.Valid

/-!
# Names of generated classes

The classes that are declared for an entity have its name with an ending, and some have a verb
before it. The name of an entity of a valid project may have a sign at its start, which is out of
place behind a verb, and a line feed at its end, which is out of place before an ending.

* `declaredClass?` the class that a line declares;
* `enclosedNames`, `longerNames` the classes of an entity;
* `DeclaresTypes`, `declaresTypes_of_isValid` when the classes of a valid project have names.
-/

namespace EndpointScaffold.Scaffold

open Naming Support Text Validation

variable {c : Config} {e : Entity} {es : List Entity}

/-- name of the class that a line declares: what stands before the first blank behind its keyword -/
def declaredClass? (line : String) : Option String :=
  ((after? "public sealed class " line).or (after? "public static class " line)).map fun rest =>
    String.ofList (rest.toList.takeWhile (· != ' '))

def fileClasses (e : Entity) : List (List String) := [
  [createRequestName e, updateRequestName e, responseName e],
  [e.name ++ "Mapper"],
  [createRequestName e ++ "Validator"],
  [updateRequestName e ++ "Validator"]]

/-- classes whose names begin with a verb -/
def enclosedNames (e : Entity) : List String := [
  createRequestName e, updateRequestName e,
  createRequestName e ++ "Validator", updateRequestName e ++ "Validator"]

/-- classes whose names begin with the name of the entity -/
def longerNames (e : Entity) : List String := [responseName e, e.name ++ "Mapper"]

/-! ### Declared classes -/

theorem declaredClass?_eq_none {line : String} (h : line.toList.head? ≠ some 'p') :
    declaredClass? line = none := by
  rw [declaredClass?, after?_eq_none_of_head (c := 'p') (by decide) h,
    after?_eq_none_of_head (c := 'p') (by decide) h]
  rfl

theorem readsHeads_declaredClass : ReadsHeads declaredClass? where
  inner line hline := declaredClass?_eq_none fun hp => by
    have hletter := hline 'p' hp
    cases hletter
  uses space := declaredClass?_eq_none (head?_useLine space ▸ by decide)

theorem declaredClass?_namespaceHead (space : String) :
    declaredClass? (namespaceHead space) = none :=
  declaredClass?_eq_none (head?_namespaceHead space ▸ by decide)

/-- what is read up to a blank -/
theorem takeWhile_blank {name : String} (rest : String) (hblank : ' ' ∉ name.toList)
    (hrest : ∀ ch ∈ rest.toList.head?, ch = ' ') :
    String.ofList ((name ++ rest).toList.takeWhile (· != ' ')) = name := by
  have hname : ∀ ch ∈ name.toList, (ch != ' ') = true := fun ch hch =>
    bne_iff_ne.2 fun heq => hblank (heq ▸ hch)
  rw [String.toList_append, List.takeWhile_append_of_pos hname]
  cases hchars : rest.toList with
  | nil => rw [List.takeWhile_nil, List.append_nil, String.ofList_toList]
  | cons ch chs =>
    obtain rfl := hrest ch (by rw [hchars]; rfl)
    rw [List.takeWhile_cons_of_neg (by decide), List.append_nil, String.ofList_toList]

theorem takeWhile_blank_self {name : String} (hblank : ' ' ∉ name.toList) :
    String.ofList (name.toList.takeWhile (· != ' ')) = name := by
  have hread := takeWhile_blank "" hblank (by simp)
  rwa [String.append_empty] at hread

theorem declaredClass?_contractHead {name : String} (h : ' ' ∉ name.toList) :
    declaredClass? (contractHead name) = some name := by
  have hafter : after? "public sealed class " (contractHead name) = some name := after?_append _ _
  have hread := takeWhile_blank_self h
  rw [declaredClass?, hafter, Option.some_or, Option.map_some, hread]

theorem blank_not_mem_append {s t : String} (hs : ' ' ∉ s.toList) (ht : ' ' ∉ t.toList) :
    ' ' ∉ (s ++ t).toList := by
  rw [String.toList_append, List.mem_append, not_or]
  exact ⟨hs, ht⟩

theorem declaredClass?_validatorHead {name : String} (h : ' ' ∉ name.toList) :
    declaredClass? (validatorHead name) = some (name ++ "Validator") := by
  have hline : validatorHead name =
      "public sealed class " ++ (name ++ "Validator" ++ (" : Validator<" ++ (name ++ ">"))) := by
    have hword : "Validator : Validator<".toList =
        "Validator".toList ++ " : Validator<".toList := by decide
    unfold validatorHead
    refine String.toList_inj.1 ?_
    simp only [String.toList_append, hword, List.append_assoc]
  have hafter : after? "public sealed class " (validatorHead name) =
      some (name ++ "Validator" ++ (" : Validator<" ++ (name ++ ">"))) :=
    (congrArg _ hline).trans (after?_append _ _)
  have hread := takeWhile_blank (" : Validator<" ++ (name ++ ">"))
    (blank_not_mem_append h (t := "Validator") (by decide)) fun ch hch => by
      rw [head?_toList_append (s := " : Validator<") (c := ' ') (by decide)] at hch
      exact (Option.some.inj hch).symm
  rw [declaredClass?, hafter, Option.some_or, Option.map_some, hread]

theorem declaredClass?_mapperHead {name : String} (h : ' ' ∉ name.toList) :
    declaredClass? (mapperHead name) = some (name ++ "Mapper") := by
  have hline : mapperHead name = "public static class " ++ (name ++ "Mapper") :=
    String.append_assoc
  have hafter : after? "public static class " (mapperHead name) = some (name ++ "Mapper") :=
    (congrArg _ hline).trans (after?_append _ _)
  have hother : after? "public sealed class " (mapperHead name) = none := by
    have hstart : (mapperHead name).toList.take 9 = "public static class ".toList.take 9 := by
      rw [hline, String.toList_append]
      exact List.take_append_of_le_length (by decide)
    refine after?_eq_none (n := 9) (by decide) ?_
    rw [hstart]
    decide
  have hread := takeWhile_blank_self (blank_not_mem_append h (t := "Mapper") (by decide))
  rw [declaredClass?, hother, hafter, Option.none_or, Option.map_some, hread]

theorem blank_not_mem_requestName (h : isIdentifier e.name = true) :
    ∀ request ∈ [createRequest e, updateRequest e], ' ' ∉ request.name.toList := by
  have hrequest : ∀ verb : String, ' ' ∉ verb.toList →
      ' ' ∉ (verb ++ e.name ++ "Request").toList := fun verb hverb =>
    blank_not_mem_append (blank_not_mem_append hverb (blank_not_mem h)) (by decide)
  exact List.forall_mem_cons.2 ⟨hrequest "Create" (by decide),
    List.forall_mem_singleton.2 (hrequest "Update" (by decide))⟩

/-- the classes that a file of an entity declares -/
theorem declaredClasses (h : isIdentifier e.name = true) {lines : List String}
    (hlines : FileLines c e lines) :
    lines.filterMap declaredClass? ∈ fileClasses e := by
  have hg := readsHeads_declaredClass
  have hname := blank_not_mem h
  have hrequests := blank_not_mem_requestName h
  cases hlines with
  | contracts =>
    have hcreate := hrequests _ List.mem_cons_self
    have hupdate := hrequests _ (List.mem_cons_of_mem _ List.mem_cons_self)
    have hresponse : ' ' ∉ (response e).name.toList := blank_not_mem_append hname (by decide)
    rw [hg.filterMap_contractsLines, contracts, List.map_cons, List.map_cons, List.map_cons,
      List.map_nil, List.filterMap_cons_none (declaredClass?_namespaceHead _),
      List.filterMap_cons_some (declaredClass?_contractHead hcreate),
      List.filterMap_cons_some (declaredClass?_contractHead hupdate),
      List.filterMap_cons_some (declaredClass?_contractHead hresponse)]
    exact List.mem_cons_self
  | mapper =>
    rw [hg.filterMap_mapperLines, List.filterMap_cons_none (declaredClass?_namespaceHead _),
      List.filterMap_cons_some (declaredClass?_mapperHead hname)]
    exact List.mem_cons_of_mem _ List.mem_cons_self
  | validator request rules hrequest _ =>
    rw [hg.filterMap_validatorLines, List.filterMap_cons_none (declaredClass?_namespaceHead _),
      List.filterMap_cons_some (declaredClass?_validatorHead (hrequests request hrequest))]
    refine List.mem_cons_of_mem _ (List.mem_cons_of_mem _ ?_)
    rcases List.mem_cons.1 hrequest with rfl | hrequest
    · exact List.mem_cons_self
    · obtain rfl := List.mem_singleton.1 hrequest
      exact List.mem_cons_of_mem _ List.mem_cons_self

/-! ### Names -/

theorem isIdentifier_enclosedNames (h : isIdentifier e.name = true) :
    ∀ name ∈ enclosedNames e,
      (isIdentifier name = true ↔ '@' ∉ e.name.toList ∧ '\n' ∉ e.name.toList) := by
  have hcreate : ∀ ending : String, ending ≠ "" →
      (∀ c ∈ ending.toList, isIdentifierPart c = true) →
      (isIdentifier ("Create" ++ e.name ++ ending) = true ↔
        '@' ∉ e.name.toList ∧ '\n' ∉ e.name.toList) := fun ending =>
    isIdentifier_enclosed_iff (c := 'C') h (by decide) (by decide) (by decide)
  have hupdate : ∀ ending : String, ending ≠ "" →
      (∀ c ∈ ending.toList, isIdentifierPart c = true) →
      (isIdentifier ("Update" ++ e.name ++ ending) = true ↔
        '@' ∉ e.name.toList ∧ '\n' ∉ e.name.toList) := fun ending =>
    isIdentifier_enclosed_iff (c := 'U') h (by decide) (by decide) (by decide)
  have hvalidator : ∀ name : String, name ++ "Request" ++ "Validator" =
      name ++ ("Request" ++ "Validator") := fun name => String.append_assoc
  intro name hmem
  simp only [enclosedNames, createRequestName, updateRequestName, List.mem_cons, List.not_mem_nil,
    or_false, hvalidator] at hmem
  rcases hmem with rfl | rfl | rfl | rfl
  · exact hcreate "Request" (by decide) (by decide)
  · exact hupdate "Request" (by decide) (by decide)
  · exact hcreate ("Request" ++ "Validator") (by decide) (by decide)
  · exact hupdate ("Request" ++ "Validator") (by decide) (by decide)

theorem isIdentifier_longerNames (h : isIdentifier e.name = true) :
    ∀ name ∈ longerNames e, (isIdentifier name = true ↔ '\n' ∉ e.name.toList) :=
  List.forall_mem_cons.2 ⟨isIdentifier_append_iff (c := 'R') h (by decide) (by decide) (by decide),
    List.forall_mem_singleton.2
      (isIdentifier_append_iff (c := 'M') h (by decide) (by decide) (by decide))⟩

/-- the classes of entities: all of them have names, but those of entities whose names have a sign
or an overlooked line feed -/
structure DeclaresTypes (c : Config) (es : List Entity) : Prop where
  declared : ∀ e ∈ es, ∀ files, entityFiles c e = .ok files → ∀ f ∈ files,
    ∃ lines, HasLines (IsReadable c e) f.text lines ∧
      lines.filterMap declaredClass? ∈ fileClasses e
  enclosed : ∀ e ∈ es, ∀ name ∈ enclosedNames e,
    (isIdentifier name = true ↔ '@' ∉ e.name.toList ∧ '\n' ∉ e.name.toList)
  longer : ∀ e ∈ es, ∀ name ∈ longerNames e, (isIdentifier name = true ↔ '\n' ∉ e.name.toList)

theorem declaresTypes_of_isValid (h : (ofProject es c).value.isValid = true) :
    DeclaresTypes c es := by
  have hnames := isIdentifier_of_isValid h
  refine ⟨fun e he files hfiles f hf => ?_, fun e he => isIdentifier_enclosedNames (hnames e he),
    fun e he => isIdentifier_longerNames (hnames e he)⟩
  obtain ⟨lines, htext, hlines⟩ := exists_fileLines hfiles hf
  exact ⟨lines, htext ▸ hlines.hasLines, declaredClasses (hnames e he) hlines⟩

/-- an entity with an ordinary name, one with a sign, and one with an overlooked line feed -/
def signedEntities : List Entity :=
  ["Order", "@class", "Line\n"].map fun name => ⟨name, [], none, none⟩

theorem declaresTypes_signedEntities :
    (ofProject signedEntities {}).value.isValid = true ∧ DeclaresTypes {} signedEntities ∧
      signedEntities.map (fun e => (enclosedNames e ++ longerNames e).map isIdentifier) =
        [[true, true, true, true, true, true], [false, false, false, false, true, true],
          [false, false, false, false, false, false]] := by
  have hvalid : (ofProject signedEntities {}).value.isValid = true := by decide +kernel
  exact ⟨hvalid, declaresTypes_of_isValid hvalid, by decide +kernel⟩

end EndpointScaffold.Scaffold
