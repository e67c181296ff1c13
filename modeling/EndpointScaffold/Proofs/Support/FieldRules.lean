import EndpointScaffold.Proofs.Schema.Lists
import EndpointScaffold.Proofs.Support.Members
import EndpointScaffold.Proofs.Support.Tokens
import Mathlib.Data.List.ReduceOption
import Mathlib.Tactic.Choose

/-!
# Rules that tokens state together

Of the tokens about presence the last one decides, and of those about length the last one as well;
neither kind touches the other, and no other token does anything. A validator says of each member
what its tokens came to.

* `IsLast` the last item of a kind;
* `IsRequired`, `HasLength` what the tokens of a property come to, `Tells.read` after one more token,
  `exists_tells` after all of them;
* `RuleOf` the line of a member; `fieldsRuled` the lines of a validator.
-/

namespace EndpointScaffold.Support

open Decimal Schema Text

/-! ### The last of a kind -/

section
variable {α : Type} {P : α → Prop} {a b : α} {as bs : List α}

/-- the last item of a kind -/
def IsLast (P : α → Prop) (a : α) (as : List α) : Prop :=
  ∃ front back, as = front ++ a :: back ∧ P a ∧ ∀ b ∈ back, ¬ P b

theorem not_isLast_nil : ¬ IsLast P a [] := fun ⟨front, back, h, _⟩ =>
  absurd h.symm (List.append_ne_nil_of_right_ne_nil front (List.cons_ne_nil a back))

theorem isLast_singleton : IsLast P a [b] ↔ a = b ∧ P b := by
  constructor
  · rintro ⟨front, back, h, ha, -⟩
    cases front with
    | nil =>
      obtain rfl := (List.cons.inj h).1
      exact ⟨rfl, ha⟩
    | cons c front =>
      exact absurd (List.cons.inj h).2.symm
        (List.append_ne_nil_of_right_ne_nil front (List.cons_ne_nil a back))
  · rintro ⟨rfl, ha⟩
    exact ⟨[], [], rfl, ha, nofun⟩

theorem IsLast.unique (ha : IsLast P a as) (hb : IsLast P b as) : a = b := by
  obtain ⟨front, back, rfl, ha, hback⟩ := ha
  obtain ⟨front', back', h, hb, hback'⟩ := hb
  rcases List.append_eq_append_iff.1 h with ⟨mid, -, hmid⟩ | ⟨mid, -, hmid⟩
  · cases mid with
    | nil => exact (List.cons.inj hmid).1
    | cons c mid =>
      obtain ⟨-, rfl⟩ := List.cons.inj hmid
      exact absurd hb (hback b (List.mem_append_right mid List.mem_cons_self))
  · cases mid with
    | nil => exact (List.cons.inj hmid).1.symm
    | cons c mid =>
      obtain ⟨-, rfl⟩ := List.cons.inj hmid
      exact absurd ha (hback' a (List.mem_append_right mid List.mem_cons_self))

/-- the second part of a list decides, unless it has none of the kind -/
theorem isLast_append : IsLast P a (as ++ bs) ↔
    IsLast P a bs ∨ IsLast P a as ∧ ∀ b ∈ bs, ¬ P b := by
  constructor
  · rintro ⟨front, back, h, ha, hback⟩
    rcases List.append_eq_append_iff.1 h with ⟨mid, rfl, rfl⟩ | ⟨mid, rfl, hmid⟩
    · exact .inl ⟨mid, back, rfl, ha, hback⟩
    · cases mid with
      | nil => exact .inl ⟨[], back, hmid.symm, ha, hback⟩
      | cons c mid =>
        obtain ⟨rfl, hrest⟩ := List.cons.inj hmid
        obtain rfl : back = mid ++ bs := hrest
        rw [List.forall_mem_append] at hback
        exact .inr ⟨⟨front, mid, rfl, ha, hback.1⟩, hback.2⟩
  · rintro (⟨front, back, rfl, ha, hback⟩ | ⟨⟨front, back, rfl, ha, hback⟩, hbs⟩)
    · exact ⟨as ++ front, back, (List.append_assoc _ _ _).symm, ha, hback⟩
    · exact ⟨front, back ++ bs, List.append_assoc _ _ _, ha, List.forall_mem_append.2 ⟨hback, hbs⟩⟩

end

/-! ### What tokens come to -/

/-- whether a token is about presence -/
def TellsPresence (token : String) : Prop := Requires token ∨ Releases token

def TellsLength (token : String) : Prop := ∃ digits, StatesLength token digits

/-- the last token about presence requires the field -/
def IsRequired (tokens : List String) : Prop :=
  ∃ token, IsLast TellsPresence token tokens ∧ Requires token

/-- the last token about length states this one -/
def HasLength (tokens : List String) (n : Nat) : Prop :=
  ∃ token digits, IsLast TellsLength token tokens ∧ StatesLength token digits ∧
    n = digitsValue 10 digits

variable {token : String} {tokens annotations fluent : List String} {n : Nat}

/-- later tokens override earlier ones about presence, if there are any -/
theorem isRequired_append : IsRequired (annotations ++ fluent) ↔
    IsRequired fluent ∨ IsRequired annotations ∧ ∀ t ∈ fluent, ¬ TellsPresence t := by
  simp only [IsRequired, isLast_append, or_and_right, exists_or]
  refine or_congr_right ⟨?_, ?_⟩
  · rintro ⟨t, ⟨hlast, hfluent⟩, ht⟩
    exact ⟨⟨t, hlast, ht⟩, hfluent⟩
  · rintro ⟨⟨t, hlast, ht⟩, hfluent⟩
    exact ⟨t, ⟨hlast, hfluent⟩, ht⟩

/-- later tokens override earlier ones about length, if there are any -/
theorem hasLength_append : HasLength (annotations ++ fluent) n ↔
    HasLength fluent n ∨ HasLength annotations n ∧ ∀ t ∈ fluent, ¬ TellsLength t := by
  simp only [HasLength, isLast_append, or_and_right, exists_or]
  refine or_congr_right ⟨?_, ?_⟩
  · rintro ⟨t, digits, ⟨hlast, hfluent⟩, ht⟩
    exact ⟨⟨t, digits, hlast, ht⟩, hfluent⟩
  · rintro ⟨⟨t, digits, hlast, ht⟩, hfluent⟩
    exact ⟨t, digits, ⟨hlast, hfluent⟩, ht⟩

theorem isRequired_concat : IsRequired (tokens ++ [token]) ↔
    Requires token ∨ IsRequired tokens ∧ ¬ TellsPresence token := by
  rw [isRequired_append, List.forall_mem_singleton]
  refine or_congr_left ⟨?_, ?_⟩
  · rintro ⟨t, hlast, ht⟩
    exact (isLast_singleton.1 hlast).1 ▸ ht
  · exact fun h => ⟨token, isLast_singleton.2 ⟨rfl, .inl h⟩, h⟩

theorem hasLength_concat : HasLength (tokens ++ [token]) n ↔
    (∃ digits, StatesLength token digits ∧ n = digitsValue 10 digits) ∨
      HasLength tokens n ∧ ¬ TellsLength token := by
  rw [hasLength_append, List.forall_mem_singleton]
  refine or_congr_left ⟨?_, ?_⟩
  · rintro ⟨t, digits, hlast, ht, hn⟩
    exact ⟨digits, (isLast_singleton.1 hlast).1 ▸ ht, hn⟩
  · rintro ⟨digits, ht, hn⟩
    exact ⟨token, digits, isLast_singleton.2 ⟨rfl, digits, ht⟩, ht, hn⟩

theorem HasLength.unique {m : Nat} (h : HasLength tokens n) (h' : HasLength tokens m) : n = m := by
  obtain ⟨t, digits, hlast, ht, rfl⟩ := h
  obtain ⟨t', digits', hlast', ht', rfl⟩ := h'
  obtain rfl := hlast.unique hlast'
  rw [ht.unique ht']

/-! ### Reading tokens -/

/-- no more digits than are read -/
def IsShort (token : String) : Prop :=
  ∀ digits, StatesLength token digits → digits.length ≤ digitLimit

instance (token : String) : Decidable (IsShort token) :=
  decidable_of_iff
    ((lengthDigits? (dropAround isBlank token.toList)).all (·.length ≤ digitLimit) = true) (by
      simp only [IsShort, Option.all_eq_true, lengthDigits?_eq_some_iff, decide_eq_true_eq])

variable {r : FieldRules} {digits : List Char}

theorem read_of_releases (h : Releases token) : r.read token = .ok { r with required := false } := by
  rw [FieldRules.read]
  exact if_pos (isOptionalToken_iff.2 h)

theorem read_of_requires (h : Requires token) : r.read token = .ok { r with required := true } := by
  rw [FieldRules.read]
  exact (if_neg fun hoptional => h.not_releases (isOptionalToken_iff.1 hoptional)).trans
    (if_pos (isRequiredToken_iff.2 h))

theorem read_of_not_tellsPresence (h : ¬ TellsPresence token) : r.read token =
    match lengthDigits? (dropAround isBlank token.toList) with
    | none => .ok r
    | some digits =>
      if digitLimit < digits.length then .error ⟨digits.length⟩
      else .ok { r with maxLength := some (digitsValue 10 digits) } := by
  rw [FieldRules.read]
  exact (if_neg fun hoptional => h (.inr (isOptionalToken_iff.1 hoptional))).trans
    (if_neg fun hrequired => h (.inl (isRequiredToken_iff.1 hrequired)))

theorem read_of_statesLength (h : StatesLength token digits) (hshort : IsShort token) :
    r.read token = .ok { r with maxLength := some (digitsValue 10 digits) } := by
  rw [read_of_not_tellsPresence fun hpresence => hpresence.elim h.not_requires h.not_releases,
    lengthDigits?_eq_some_iff.2 h]
  exact if_neg (Nat.not_lt.2 (hshort digits h))

theorem read_of_other (h : ¬ TellsPresence token) (h' : ¬ TellsLength token) :
    r.read token = .ok r := by
  have hdigits : lengthDigits? (dropAround isBlank token.toList) = none :=
    Option.eq_none_iff_forall_ne_some.2 fun digits hdigits =>
      h' ⟨digits, lengthDigits?_eq_some_iff.1 hdigits⟩
  rw [read_of_not_tellsPresence h, hdigits]

/-- what was read of tokens is what they come to -/
structure Tells (tokens : List String) (r : FieldRules) : Prop where
  required : r.required = true ↔ IsRequired tokens
  maxLength : ∀ n, r.maxLength = some n ↔ HasLength tokens n

theorem tells_nil : Tells [] ⟨false, none⟩ where
  required := ⟨nofun, fun ⟨_, hlast, _⟩ => absurd hlast not_isLast_nil⟩
  maxLength _ := ⟨nofun, fun ⟨_, _, hlast, _⟩ => absurd hlast not_isLast_nil⟩

/-- one more token overrides what was read of its kind, and nothing else -/
theorem Tells.read (h : Tells tokens r) (hshort : IsShort token) :
    ∃ r', r.read token = .ok r' ∧ Tells (tokens ++ [token]) r' := by
  have hkeepsLength : ¬ TellsLength token → ∀ n,
      r.maxLength = some n ↔ HasLength (tokens ++ [token]) n := fun hnot n => by
    rw [hasLength_concat, h.maxLength, and_iff_left hnot]
    exact (or_iff_right fun ⟨digits, hdigits, _⟩ => hnot ⟨digits, hdigits⟩).symm
  have hkeepsPresence : ¬ TellsPresence token →
      (r.required = true ↔ IsRequired (tokens ++ [token])) := fun hnot => by
    rw [isRequired_concat, h.required, and_iff_left hnot]
    exact (or_iff_right fun hrequires => hnot (.inl hrequires)).symm
  by_cases hreleases : Releases token
  · refine ⟨_, read_of_releases hreleases, ?_, hkeepsLength fun ⟨_, hdigits⟩ =>
      hdigits.not_releases hreleases⟩
    rw [isRequired_concat]
    exact ⟨nofun, fun hrequired => hrequired.elim
      (fun hrequires => absurd hreleases hrequires.not_releases)
      fun hkept => absurd (.inr hreleases) hkept.2⟩
  by_cases hrequires : Requires token
  · refine ⟨_, read_of_requires hrequires, ?_, hkeepsLength fun ⟨_, hdigits⟩ =>
      hdigits.not_requires hrequires⟩
    rw [isRequired_concat]
    exact ⟨fun _ => .inl hrequires, fun _ => rfl⟩
  have hpresence : ¬ TellsPresence token := fun hor => hor.elim hrequires hreleases
  by_cases hlength : TellsLength token
  · obtain ⟨digits, hdigits⟩ := hlength
    refine ⟨_, read_of_statesLength hdigits hshort, hkeepsPresence hpresence, fun n => ?_⟩
    rw [hasLength_concat, Option.some.injEq]
    constructor
    · rintro rfl
      exact .inl ⟨digits, hdigits, rfl⟩
    · rintro (⟨found, hfound, rfl⟩ | ⟨-, hnot⟩)
      · rw [hdigits.unique hfound]
      · exact absurd ⟨digits, hdigits⟩ hnot
  · exact ⟨r, read_of_other hpresence hlength, hkeepsPresence hpresence, hkeepsLength hlength⟩

theorem ofTokens_append (front back : List String) : FieldRules.ofTokens (front ++ back) =
    FieldRules.ofTokens front >>= fun r => back.foldlM FieldRules.read r := List.foldlM_append

theorem exists_tells (hshort : ∀ t ∈ tokens, IsShort t) :
    ∃ r, FieldRules.ofTokens tokens = .ok r ∧ Tells tokens r := by
  induction tokens using List.reverseRecOn with
  | nil => exact ⟨_, rfl, tells_nil⟩
  | append_singleton tokens token ih =>
    rw [List.forall_mem_append, List.forall_mem_singleton] at hshort
    obtain ⟨r, hr, htells⟩ := ih hshort.1
    obtain ⟨r', hread, htells'⟩ := htells.read hshort.2
    refine ⟨r', ?_, htells'⟩
    rw [ofTokens_append, hr]
    show ([token].foldlM FieldRules.read r) = _
    rw [List.foldlM_cons, hread]
    rfl

/-- a token of no kind may as well not be there -/
theorem ofTokens_of_other (h : ¬ TellsPresence token) (h' : ¬ TellsLength token)
    (front back : List String) :
    FieldRules.ofTokens (front ++ token :: back) = FieldRules.ofTokens (front ++ back) := by
  rw [ofTokens_append, ofTokens_append]
  refine congrArg _ (funext fun r => ?_)
  rw [List.foldlM_cons, read_of_other h h']
  rfl

/-! ### Lines of members -/

/-- a type of texts, with any marks that it may be null -/
def IsText (type : String) : Prop :=
  ∃ name ∈ ["string", "String", "System.String"], ∃ n,
    type.toList = name.toList ++ List.replicate n '?'

theorem isTextType_trimEndOf_iff {type : String} :
    isTextType (trimEndOf '?' type) = true ↔ IsText type := by
  rw [isTextType, List.contains_iff_mem]
  constructor
  · intro h
    obtain ⟨back, hback, htype⟩ := exists_dropEndWhile (· == '?') type.toList
    refine ⟨_, h, back.length, ?_⟩
    rw [trimEndOf, String.toList_ofList,
      ← List.eq_replicate_of_mem fun c hc => beq_iff_eq.1 (hback c hc)]
    exact htype
  · rintro ⟨name, hname, n, htype⟩
    have hends : ∀ name ∈ ["string", "String", "System.String"],
        name.toList.getLast? ≠ some '?' := by decide
    have hlast : ∀ c ∈ name.toList.getLast?, (c == '?') = false := fun c hc => by
      rw [beq_eq_false_iff_ne]
      rintro rfl
      exact hends name hname hc
    have hmarks : ∀ c ∈ List.replicate n '?', (c == '?') = true := fun c hc =>
      beq_iff_eq.2 (List.eq_of_mem_replicate hc)
    rw [trimEndOf, htype, dropEndWhile_append hmarks hlast, String.ofList_toList]
    exact hname

/-- only texts have lengths -/
def IsLimited (p : Entity.Property) (n : Nat) : Prop := IsText p.type ∧ HasLength p.attributes n

/-- the line with these calls for a member -/
def ruleOf (p : Entity.Property) (calls : List String) : String :=
  "RuleFor(x => x." ++ p.name ++ ")" ++ String.join calls ++ ";"

def limitCall (n : Nat) : String := ".MaximumLength(" ++ toString n ++ ")"

/-- what a validator says of a member -/
inductive RuleOf (p : Entity.Property) : Option String → Prop
  | both (n : Nat) (hrequired : IsRequired p.attributes) (hlimited : IsLimited p n) :
    RuleOf p (some (ruleOf p [".NotEmpty()", limitCall n]))
  | required (hrequired : IsRequired p.attributes) (hfree : ∀ n, ¬ IsLimited p n) :
    RuleOf p (some (ruleOf p [".NotEmpty()"]))
  | limited (n : Nat) (hoptional : ¬ IsRequired p.attributes) (hlimited : IsLimited p n) :
    RuleOf p (some (ruleOf p [limitCall n]))
  | nothing (hoptional : ¬ IsRequired p.attributes) (hfree : ∀ n, ¬ IsLimited p n) : RuleOf p none

/-- a member has one line, or none -/
theorem RuleOf.unique {p : Entity.Property} {line line' : Option String} (h : RuleOf p line)
    (h' : RuleOf p line') : line = line' := by
  cases h with
  | both n hrequired hlimited =>
    cases h' with
    | both m _ hlimited' => rw [hlimited.2.unique hlimited'.2]
    | required _ hfree => exact absurd hlimited (hfree n)
    | limited m hoptional _ => exact absurd hrequired hoptional
    | nothing hoptional _ => exact absurd hrequired hoptional
  | required hrequired hfree =>
    cases h' with
    | both m _ hlimited => exact absurd hlimited (hfree m)
    | required _ _ => rfl
    | limited m hoptional _ => exact absurd hrequired hoptional
    | nothing hoptional _ => exact absurd hrequired hoptional
  | limited n hoptional hlimited =>
    cases h' with
    | both m hrequired _ => exact absurd hrequired hoptional
    | required hrequired _ => exact absurd hrequired hoptional
    | limited m _ hlimited' => rw [hlimited.2.unique hlimited'.2]
    | nothing _ hfree => exact absurd hlimited (hfree n)
  | nothing hoptional hfree =>
    cases h' with
    | both m hrequired _ => exact absurd hrequired hoptional
    | required hrequired _ => exact absurd hrequired hoptional
    | limited m _ hlimited => exact absurd hlimited (hfree m)
    | nothing _ _ => rfl

theorem ruleCalls_of_isLimited {p : Entity.Property} (htells : Tells p.attributes r)
    (h : IsLimited p n) : ruleCalls p.type r =
      (if r.required then [".NotEmpty()"] else []) ++ [limitCall n] := by
  rw [ruleCalls, (htells.maxLength n).2 h.2]
  exact congrArg _ (if_pos (isTextType_trimEndOf_iff.2 h.1))

theorem ruleCalls_of_not_isLimited {p : Entity.Property} (htells : Tells p.attributes r)
    (h : ∀ n, ¬ IsLimited p n) :
    ruleCalls p.type r = if r.required then [".NotEmpty()"] else [] := by
  rw [ruleCalls]
  cases hlength : r.maxLength with
  | none => exact List.append_nil _
  | some n =>
    have hother : ¬ isTextType (trimEndOf '?' p.type) = true := fun htext =>
      h n ⟨isTextType_trimEndOf_iff.1 htext, (htells.maxLength n).1 hlength⟩
    exact (congrArg _ (if_neg hother)).trans (List.append_nil _)

/-- the line of a member is told by what its tokens come to -/
theorem exists_ruleOf {p : Entity.Property} (hshort : ∀ t ∈ p.attributes, IsShort t) :
    ∃ line?, ruleLine? p = .ok line? ∧ RuleOf p line? := by
  obtain ⟨r, hr, htells⟩ := exists_tells hshort
  rw [ruleLine?, hr, Except.map]
  by_cases hlimited : ∃ n, IsLimited p n
  · obtain ⟨n, hlimited⟩ := hlimited
    rw [ruleCalls_of_isLimited htells hlimited]
    by_cases hrequired : r.required = true
    · rw [if_pos hrequired]
      exact ⟨_, rfl, .both n (htells.required.1 hrequired) hlimited⟩
    · rw [if_neg hrequired]
      exact ⟨_, rfl, .limited n (fun h => hrequired (htells.required.2 h)) hlimited⟩
  · rw [not_exists] at hlimited
    rw [ruleCalls_of_not_isLimited htells hlimited]
    by_cases hrequired : r.required = true
    · rw [if_pos hrequired]
      exact ⟨_, rfl, .required (htells.required.1 hrequired) hlimited⟩
    · rw [if_neg hrequired]
      exact ⟨_, rfl, .nothing (fun h => hrequired (htells.required.2 h)) hlimited⟩

/-! ### Validators -/

theorem RuleOf.exists_rest {p : Entity.Property} {line : String} (h : RuleOf p (some line)) :
    ∃ rest, line = "RuleFor(x => x." ++ rest := by
  have hrule : ∀ calls, ∃ rest, ruleOf p calls = "RuleFor(x => x." ++ rest := fun calls => by
    refine ⟨p.name ++ (")" ++ (String.join calls ++ ";")), ?_⟩
    unfold ruleOf
    rw [String.append_assoc, String.append_assoc, String.append_assoc]
  cases h with
  | both | required | limited => exact hrule _

theorem exists_rests_of_ruleOf {ps : List Entity.Property} {lines : List (Option String)}
    (h : List.Forall₂ RuleOf ps lines) :
    ∃ rests : List String, lines.reduceOption = rests.map ("RuleFor(x => x." ++ ·) := by
  induction h with
  | nil => exact ⟨[], rfl⟩
  | @cons p line? ps lines hline _ ih =>
    obtain ⟨rests, hrests⟩ := ih
    cases line? with
    | none => exact ⟨rests, hrests⟩
    | some line =>
      obtain ⟨rest, rfl⟩ := hline.exists_rest
      refine ⟨rest :: rests, ?_⟩
      rw [List.reduceOption_cons_of_some, hrests, List.map_cons]

/-- what a validator says of the members of its request -/
structure FieldsRuled (c : Config) (e : Entity) (request : Contract) : Prop where
  /-- a line for each member with rules, in the order of the members; no other line of the text
  begins like a rule -/
  text : ∃ lines text, List.Forall₂ RuleOf request.members lines ∧
    validatorText c e request = .ok text ∧
    HasLines (request ∈ [createRequest e, updateRequest e] ∧ IsReadable c e) text
      (validatorLines c e request lines.reduceOption) ∧
    ((validatorLines c e request lines.reduceOption).filterMap rule?).map
      ("RuleFor(x => x." ++ ·) = lines.reduceOption
  determined : ∀ p line line', RuleOf p line → RuleOf p line' → line = line'
  /-- later tokens override those before them, but only those of their own kind -/
  required_append : ∀ annotations fluent, IsRequired (annotations ++ fluent) ↔
    IsRequired fluent ∨ IsRequired annotations ∧ ∀ t ∈ fluent, ¬ TellsPresence t
  length_append : ∀ annotations fluent n, HasLength (annotations ++ fluent) n ↔
    HasLength fluent n ∨ HasLength annotations n ∧ ∀ t ∈ fluent, ¬ TellsLength t
  /-- other tokens do nothing -/
  others : ∀ token, ¬ TellsPresence token → ¬ TellsLength token → ∀ front back,
    FieldRules.ofTokens (front ++ token :: back) = FieldRules.ofTokens (front ++ back)

theorem fieldsRuled (c : Config) (e : Entity) (request : Contract)
    (hshort : ∀ p ∈ request.members, ∀ t ∈ p.attributes, IsShort t) : FieldsRuled c e request where
  text := by
    have hlines : ∀ p ∈ request.members, ∃ line?, ruleLine? p = .ok line? ∧ RuleOf p line? :=
      fun p hp => exists_ruleOf (hshort p hp)
    choose! line hline using hlines
    have hread : ruleLines request.members = .ok (request.members.map line).reduceOption := by
      rw [ruleLines, mapM_ok fun p hp => (hline p hp).1]
      rfl
    have hrules : List.Forall₂ RuleOf request.members (request.members.map line) :=
      List.forall₂_map_right_iff.2 (List.forall₂_same.2 fun p hp => (hline p hp).2)
    refine ⟨request.members.map line, _, hrules, ?_, ⟨rfl, fun h => ?_⟩, ?_⟩
    · rw [validatorText, hread]
      rfl
    · exact (FileLines.validator request _ h.1 hread).hasLines.read h.2
    · obtain ⟨rests, hrests⟩ := exists_rests_of_ruleOf hrules
      rw [filterMap_rule?_validatorLines, hrests, filterMap_rule?_indented]
  determined _ _ _ := RuleOf.unique
  required_append _ _ := isRequired_append
  length_append _ _ _ := hasLength_append
  others _ h h' := ofTokens_of_other h h'

/-- fields with tokens that override each other -/
def ruledOrder : Entity :=
  ⟨"Order", [⟨"Note", "string?", ["Required", "StringLength(80)", "IsRequired( false )",
      "HasMaxLength(40)", "RequiredIf(true)"], false, true⟩,
    ⟨"Total", "decimal", ["MaxLength(9)", "IsRequired()"], false, false⟩,
    ⟨"Code", "string", ["HasMaxLength(12)", "Required"], false, false⟩], none, none⟩

theorem fieldsRuled_ruledOrder :
    (∀ p ∈ (createRequest ruledOrder).members, ∀ t ∈ p.attributes, IsShort t) ∧
      FieldsRuled {} ruledOrder (createRequest ruledOrder) ∧
      ruleLines (createRequest ruledOrder).members =
        .ok ["RuleFor(x => x.Note).MaximumLength(40);", "RuleFor(x => x.Total).NotEmpty();",
          "RuleFor(x => x.Code).NotEmpty().MaximumLength(12);"] := by
  have hshort : ∀ p ∈ (createRequest ruledOrder).members, ∀ t ∈ p.attributes, IsShort t := by
    decide
  exact ⟨hshort, fieldsRuled {} ruledOrder _ hshort, by decide⟩

end EndpointScaffold.Support
