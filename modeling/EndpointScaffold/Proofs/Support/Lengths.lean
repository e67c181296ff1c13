import EndpointScaffold.Proofs.Support.FieldRules
import Mathlib.Data.Nat.Digits.Defs

/-!
# Lengths with separated digits

A decimal literal may have separators between its digits. Of a length that is spelled so, only the
digits before the first separator are read, and the others are taken for what follows the number. So
the length is that of the literal exactly if it has no separators, or is zero anyway.

* `Literal`               a literal by its digits and separators, `Literal.text`, `Literal.value`;
* `Literal.leading`       the digits before the first separator, `text_eq` what follows them;
* `valueOf_leading_eq_iff`   when they have the value of the literal;
* `ofTokens_isOk_iff`     when tokens are read at all;
* `ReadsLeading`, `readsLeading`   what is read of tokens of which the last length is a literal.
-/

namespace EndpointScaffold.Support

open Decimal Text

/-! ### Literals -/

/-- a digit, and further digits with the number of separators before each of them -/
structure Literal where
  first : Fin 10
  rest : List (Nat × Fin 10)

def digitChar (d : Fin 10) : Char := Nat.digitChar d

def separated (x : Nat × Fin 10) : List Char := List.replicate x.1 '_' ++ [digitChar x.2]

/-- the number that digits stand for -/
def valueOf (ds : List (Fin 10)) : Nat := Nat.ofDigits 10 (ds.reverse.map Fin.val)

namespace Literal

def text (l : Literal) : List Char := digitChar l.first :: l.rest.flatMap separated

def digits (l : Literal) : List (Fin 10) := l.first :: l.rest.map Prod.snd

def value (l : Literal) : Nat := valueOf l.digits

def IsPlain (l : Literal) : Prop := ∀ x ∈ l.rest, x.1 = 0

def isJoined (x : Nat × Fin 10) : Bool := x.1 == 0

/-- the digits before the first separator -/
def leading (l : Literal) : List (Fin 10) := l.first :: (l.rest.takeWhile isJoined).map Prod.snd

def behind (l : Literal) : List (Nat × Fin 10) := l.rest.dropWhile isJoined

end Literal

variable {l : Literal} {c : Char} {d : Fin 10} {ds : List (Fin 10)}

/-! ### Values -/

theorem valueOf_append (as bs : List (Fin 10)) :
    valueOf (as ++ bs) = valueOf as * 10 ^ bs.length + valueOf bs := by
  unfold valueOf
  rw [List.reverse_append, List.map_append, Nat.ofDigits_append, List.length_map,
    List.length_reverse]
  ring

theorem digitOf?_digitChar : ∀ d : Fin 10, digitOf? (digitChar d) = some d.val := by
  decide

theorem isDecimalDigit_digitChar : ∀ d : Fin 10, isDecimalDigit (digitChar d) = true := by
  decide

theorem digitsValue_concat (cs : List Char) (c : Char) :
    digitsValue 10 (cs ++ [c]) = 10 * digitsValue 10 cs + (digitOf? c).getD 0 := by
  unfold digitsValue
  rw [List.foldl_append]
  rfl

/-- the number that is read is the one that the digits stand for -/
theorem digitsValue_map_digitChar (ds : List (Fin 10)) :
    digitsValue 10 (ds.map digitChar) = valueOf ds := by
  induction ds using List.reverseRecOn with
  | nil => rfl
  | append_singleton ds d ih =>
    have hlast : valueOf [d] = d.val := Nat.ofDigits_singleton
    rw [List.map_append, List.map_singleton, digitsValue_concat, ih, digitOf?_digitChar,
      valueOf_append, hlast, List.length_singleton, Option.getD_some]
    ring

theorem takeWhile_append_behind (l : Literal) :
    l.rest.takeWhile Literal.isJoined ++ l.behind = l.rest := List.takeWhile_append_dropWhile

theorem digits_eq (l : Literal) : l.digits = l.leading ++ l.behind.map Prod.snd := by
  show l.first :: l.rest.map Prod.snd = l.first :: (_ ++ _)
  rw [← List.map_append, takeWhile_append_behind]

theorem behind_eq_nil_iff : l.behind = [] ↔ l.IsPlain := by
  unfold Literal.behind Literal.IsPlain
  rw [List.dropWhile_eq_nil_iff]
  exact forall₂_congr fun x _ => beq_iff_eq

/-- digits that are left out count, unless all digits are zeros -/
theorem valueOf_leading_eq_iff : valueOf l.leading = l.value ↔ l.IsPlain ∨ l.value = 0 := by
  have hvalue : l.value =
      valueOf l.leading * 10 ^ l.behind.length + valueOf (l.behind.map Prod.snd) := by
    unfold Literal.value
    rw [digits_eq, valueOf_append, List.length_map]
  rw [← behind_eq_nil_iff]
  constructor
  · intro heq
    by_cases hnil : l.behind = []
    · exact .inl hnil
    · right
      have hlength : l.behind.length ≠ 0 := mt List.length_eq_zero_iff.1 hnil
      have hpow : 10 ≤ 10 ^ l.behind.length := Nat.le_self_pow hlength 10
      have hgrows : valueOf l.leading * 10 ≤ valueOf l.leading * 10 ^ l.behind.length :=
        Nat.mul_le_mul_left _ hpow
      omega
  · rintro (hnil | hzero)
    · rw [hvalue, hnil]
      show _ = valueOf l.leading * 1 + 0
      omega
    · have hpos : 0 < 10 ^ l.behind.length := Nat.pow_pos (by omega)
      have hgrows : valueOf l.leading * 1 ≤ valueOf l.leading * 10 ^ l.behind.length :=
        Nat.mul_le_mul_left _ hpos
      omega

/-! ### Spelling -/

theorem flatMap_separated_of_joined {xs : List (Nat × Fin 10)}
    (h : ∀ x ∈ xs, Literal.isJoined x = true) :
    xs.flatMap separated = (xs.map Prod.snd).map digitChar := by
  induction xs with
  | nil => rfl
  | cons x xs ih =>
    rw [List.forall_mem_cons] at h
    have hx : separated x = [digitChar x.2] := by
      unfold separated
      rw [beq_iff_eq.1 h.1]
      rfl
    rw [List.flatMap_cons, ih h.2, hx]
    rfl

theorem text_eq (l : Literal) : l.text = l.leading.map digitChar ++ l.behind.flatMap separated := by
  have hjoined : ∀ x ∈ l.rest.takeWhile Literal.isJoined, Literal.isJoined x = true := by
    intro x hx
    exact List.mem_takeWhile_imp hx
  show _ :: _ = _ :: (_ ++ _)
  rw [← flatMap_separated_of_joined hjoined, ← List.flatMap_append, takeWhile_append_behind]

/-- what follows the leading digits is a separator -/
theorem head?_flatMap_behind (l : Literal) : ∀ c ∈ (l.behind.flatMap separated).head?, c = '_' := by
  intro c hc
  cases hbehind : l.behind with
  | nil =>
    rw [hbehind] at hc
    cases hc
  | cons x xs =>
    have hx : Literal.isJoined x = false := by
      apply head?_dropWhile Literal.isJoined l.rest
      show l.behind.head? = some x
      rw [hbehind]
      rfl
    obtain ⟨n, hn⟩ := Nat.exists_eq_succ_of_ne_zero (beq_eq_false_iff_ne.1 hx)
    rw [hbehind, List.flatMap_cons, separated, hn, List.replicate_succ] at hc
    exact (Option.some.inj hc).symm

theorem areDigits_map_digitChar (hne : ds ≠ []) : AreDigits (ds.map digitChar) where
  ne_nil := mt List.map_eq_nil_iff.1 hne
  digits c hc := by
    obtain ⟨d, -, rfl⟩ := List.mem_map.1 hc
    exact isDecimalDigit_digitChar d

/-! ### Tokens -/

variable {token : String} {tokens : List String} {r r' : FieldRules}

/-- the first argument of a length token is the literal -/
def StatesLiteral (token : String) (l : Literal) : Prop :=
  ∃ word ∈ lengthWords, ∃ closing ∈ [')', ','], ∃ rest,
    Begins [word.toList, ['('], l.text, [closing]] rest token.toList

theorem statesLength_of_statesLiteral (h : StatesLiteral token l) :
    StatesLength token (l.leading.map digitChar) := by
  obtain ⟨word, hword, closing, hclosing, rest, hbegins⟩ := h
  have hcall : ∀ ts : List (List Char),
      word.toList :: ['('] :: ts = [word.toList, ['(']] ++ ts := fun _ => rfl
  rw [hcall, begins_append] at hbegins
  obtain ⟨mid, hstart, blanks, more, hblanks, hmid, hmore⟩ := hbegins
  obtain ⟨blanks', last, hblanks', hmore', -⟩ := hmore
  refine ⟨areDigits_map_digitChar (List.cons_ne_nil _ _), word, hword,
    l.behind.flatMap separated ++ more, ?_, ?_⟩
  · rw [hcall, begins_append]
    refine ⟨mid, hstart, blanks, _, hblanks, ?_, rfl⟩
    rw [hmid, text_eq]
    simp only [List.append_assoc]
  · intro c hc
    cases hsep : (l.behind.flatMap separated).head? with
    | some s =>
      rw [List.head?_append, hsep] at hc
      obtain rfl := Option.some.inj hc
      rw [head?_flatMap_behind l s hsep]
      decide
    | none =>
      rw [List.head?_append, hsep, Option.none_or, hmore', List.append_assoc] at hc
      cases blanks' with
      | nil =>
        obtain rfl := Option.some.inj hc
        have hclosings : ∀ c ∈ [')', ','], isDecimalDigit c = false := by decide
        exact hclosings _ hclosing
      | cons b blanks' =>
        obtain rfl := Option.some.inj hc
        exact isDecimalDigit_of_isBlank _ (hblanks' _ List.mem_cons_self)

/-- a number with too many digits is not read over -/
theorem isShort_of_read (h : r.read token = .ok r') : IsShort token := by
  intro digits hdigits
  rw [read_of_not_tellsPresence fun hpresence =>
    hpresence.elim hdigits.not_requires hdigits.not_releases,
    lengthDigits?_eq_some_iff.2 hdigits] at h
  by_contra hlong
  simp only [if_pos (Nat.lt_of_not_le hlong)] at h
  cases h

theorem ofTokens_isOk_iff :
    (∃ r, FieldRules.ofTokens tokens = .ok r) ↔ ∀ t ∈ tokens, IsShort t := by
  constructor
  · intro h
    induction tokens using List.reverseRecOn with
    | nil => exact nofun
    | append_singleton tokens token ih =>
      obtain ⟨r', hr'⟩ := h
      rw [ofTokens_append] at hr'
      obtain ⟨r, hr, hread⟩ := Schema.bind_eq_ok hr'
      rw [List.forall_mem_append, List.forall_mem_singleton]
      refine ⟨ih ⟨r, hr⟩, ?_⟩
      rw [List.foldlM_cons] at hread
      obtain ⟨last, hlast, -⟩ := Schema.bind_eq_ok hread
      exact isShort_of_read hlast
  · intro h
    obtain ⟨r, hr, -⟩ := exists_tells h
    exact ⟨r, hr⟩

/-! ### Lengths -/

variable {front back : List String}

instance (token : String) : Decidable (TellsLength token) :=
  decidable_of_iff ((lengthDigits? (dropAround isBlank token.toList)).isSome = true) (by
    rw [Option.isSome_iff_exists]
    exact exists_congr fun _ => lengthDigits?_eq_some_iff)

theorem isShort_of_statesLiteral (h : StatesLiteral token l)
    (hdigits : l.digits.length ≤ digitLimit) : IsShort token := by
  intro digits hstates
  rw [hstates.unique (statesLength_of_statesLiteral h), List.length_map]
  rw [digits_eq, List.length_append] at hdigits
  omega

theorem isShort_of_not_tellsLength (h : ¬ TellsLength token) : IsShort token := by
  intro digits hdigits
  exact absurd ⟨digits, hdigits⟩ h

/-- what is read of tokens where a literal is the last length -/
structure ReadsLeading (front : List String) (token : String) (back : List String) (l : Literal) :
    Prop where
  /-- only a length before it can have too many digits -/
  reads : (∃ r, FieldRules.ofTokens (front ++ token :: back) = .ok r) ↔ ∀ t ∈ front, IsShort t
  leading : ∀ r, FieldRules.ofTokens (front ++ token :: back) = .ok r →
    r.maxLength = some (valueOf l.leading)
  starts : l.leading.map digitChar <+: l.text
  whole : ∀ r, FieldRules.ofTokens (front ++ token :: back) = .ok r →
    (r.maxLength = some l.value ↔ l.IsPlain ∨ l.value = 0)

theorem readsLeading (hliteral : StatesLiteral token l) (hdigits : l.digits.length ≤ digitLimit)
    (hback : ∀ t ∈ back, ¬ TellsLength t) : ReadsLeading front token back l := by
  have hstates := statesLength_of_statesLiteral hliteral
  have hlength : HasLength (front ++ token :: back) (valueOf l.leading) :=
    ⟨token, _, ⟨front, back, rfl, ⟨_, hstates⟩, hback⟩, hstates,
      (digitsValue_map_digitChar _).symm⟩
  have hleading : ∀ r, FieldRules.ofTokens (front ++ token :: back) = .ok r →
      r.maxLength = some (valueOf l.leading) := by
    intro r hr
    obtain ⟨r', hr', htells⟩ := exists_tells (ofTokens_isOk_iff.1 ⟨r, hr⟩)
    obtain rfl := Except.ok.inj (hr.symm.trans hr')
    exact (htells.maxLength _).2 hlength
  constructor
  · rw [ofTokens_isOk_iff, List.forall_mem_append, List.forall_mem_cons]
    apply and_iff_left
    exact ⟨isShort_of_statesLiteral hliteral hdigits, fun t ht =>
      isShort_of_not_tellsLength (hback t ht)⟩
  · exact hleading
  · exact ⟨_, (text_eq l).symm⟩
  · intro r hr
    rw [hleading r hr, Option.some.injEq]
    exact valueOf_leading_eq_iff

def thousand : Literal := ⟨1, [(1, 0), (0, 0), (0, 0)]⟩

theorem statesLiteral_thousand : StatesLiteral "HasMaxLength( 1_000 )" thousand :=
  ⟨"HasMaxLength", by decide, ')', by decide, [], [], _, areBlanks_nil, rfl, [], _, areBlanks_nil,
    rfl, [' '], _, List.forall_mem_singleton.2 rfl, rfl, [' '], _, List.forall_mem_singleton.2 rfl,
    rfl, rfl⟩

/-- a limit of a thousand is read as a limit of one -/
theorem readsLeading_thousand :
    ReadsLeading ["Required", "StringLength(50)"] "HasMaxLength( 1_000 )" ["IsRequired()"]
      thousand ∧
      thousand.value = 1000 ∧ ∃ r, FieldRules.ofTokens
        ["Required", "StringLength(50)", "HasMaxLength( 1_000 )", "IsRequired()"] = .ok r ∧
        r.maxLength = some 1 := by
  have hreads : ReadsLeading ["Required", "StringLength(50)"] "HasMaxLength( 1_000 )"
      ["IsRequired()"] thousand :=
    readsLeading statesLiteral_thousand (by decide) (by decide)
  obtain ⟨r, hr⟩ := hreads.reads.2 (by decide)
  exact ⟨hreads, by decide, r, hr, hreads.leading r hr⟩

end EndpointScaffold.Support
