import EndpointScaffold.Proofs.Plain.Phrase

/-!
# Types and literals on paper

A type form is a predefined type, also nullable or as an array, a name, or a name with one type
argument. What is printed of it is read as a type with the same text.

* `TypeForm.legible_printed`, `TypeForm.type_reads`, `TypeForm.text_part`.
-/

namespace EndpointScaffold.CSharp.Plain

open Text

/-- what stands behind a predefined type -/
inductive TypeMark where
  | plain
  | nullable
  | array
  deriving DecidableEq, Repr

def TypeMark.text : TypeMark → String
  | plain => ""
  | nullable => "?"
  | array => "[]"

inductive TypeForm where
  | predefined (word : String) (isType : word ∈ predefinedTypes) (mark : TypeMark)
  | named (n : Name)
  | generic (n argument : Name)

namespace TypeForm

open Printed

def text : TypeForm → String
  | predefined w _ m => w ++ m.text
  | named n => n.text
  | generic n a => n.text ++ "<" ++ a.text ++ ">"

def printed (gap : String) : TypeForm → List Printed
  | predefined w _ .plain => [term gap w]
  | predefined w _ .nullable => [term gap w, sign "" "?"]
  | predefined w _ .array => [term gap w, sign "" "[", sign "" "]"]
  | named n => [term gap n.text]
  | generic n a => [term gap n.text, sign "" "<", term "" a.text, sign "" ">"]

def part (gap : String) : TypeForm → Part
  | predefined w _ .plain => (term gap w).leaf .other
  | predefined w _ .nullable =>
    .node .other [((term gap w).leaf .other).as .type, (sign "" "?").leaf .mark]
  | predefined w _ .array =>
    .node .other [((term gap w).leaf .other).as .type,
      .node .other [(sign "" "[").leaf .mark, (sign "" "]").leaf .mark]]
  | named n => (term gap n.text).name
  | generic n a =>
    .node .other [(term gap n.text).name,
      .node .other [(sign "" "<").leaf .mark, (term "" a.text).name, (sign "" ">").leaf .mark]]

theorem isEmpty_text (t : TypeForm) : ¬ t.text.isEmpty = true := by
  have hfirst : ∀ s u : String, ¬ s.isEmpty = true → ¬ (s ++ u).isEmpty = true := by
    intro s u hs h
    rw [String.isEmpty_iff] at hs h
    exact hs (String.append_eq_empty_iff.mp h).1
  cases t with
  | predefined w hw m =>
    have hall : ∀ v ∈ predefinedTypes, ¬ v.isEmpty = true := by decide
    exact hfirst w m.text (hall w hw)
  | named n => exact n.isEmpty_text
  | generic n a => exact hfirst _ _ (hfirst _ _ (hfirst _ _ n.isEmpty_text))

/-! ### Printing -/

theorem chars_printed (t : TypeForm) (gap : String) :
    (t.printed gap).flatMap chars = gap.toList ++ t.text.toList := by
  rcases t with ⟨w, _, _ | _ | _⟩ | n | ⟨n, a⟩ <;>
    simp [printed, chars_term, chars_sign, text, TypeMark.text]

theorem isBody_predefined {w : String} (h : w ∈ predefinedTypes) : isBody .word w.toList = true := by
  have hall : ∀ v ∈ predefinedTypes, isBody .word v.toList = true := by decide
  exact hall w h

theorem legible_printed (t : TypeForm) {gap : String} (hgap : gap.toList.all isSpace = true) :
    Legible (t.printed gap) := by
  rcases t with ⟨w, hw, _ | _ | _⟩ | n | ⟨n, a⟩
  · exact legible_singleton.mpr (fit_term hgap (isBody_predefined hw))
  · rw [printed, legible_cons_cons, legible_singleton]
    exact ⟨fit_term hgap (isBody_predefined hw), before_sign_of_word rfl (c := '?') rfl (by decide),
      fit_sign rfl rfl⟩
  · rw [printed, legible_cons_cons, legible_cons_cons, legible_singleton]
    exact ⟨fit_term hgap (isBody_predefined hw), before_sign_of_word rfl (c := '[') rfl (by decide),
      fit_sign rfl rfl, before_sign_sign (d := ']') rfl rfl, fit_sign rfl rfl⟩
  · exact legible_singleton.mpr (fit_name hgap n)
  · rw [printed, legible_cons_cons, legible_cons_cons, legible_cons_cons, legible_singleton]
    exact ⟨fit_name hgap n, before_sign_of_word rfl (c := '<') rfl (by decide), fit_sign rfl rfl,
      before_name rfl a, fit_name rfl a, before_sign_of_word rfl (c := '>') rfl (by decide),
      fit_sign rfl rfl⟩

/-! ### Reading -/

theorem simpleName_reads {p : Printed} (hkind : p.kind = .word) (hname : isName p.text = true)
    {ts : List Token} (h : Ends ts) (fuel : Nat) :
    simpleName (fuel + 1) (p.token :: ts) = some (p.name, ts) := by
  have hless := isMarkNext_of_ends "<" (by decide) h
  simp [simpleName, hkind, hname, hless]

theorem qualified_reads (left : Part) {ts : List Token} (h : Ends ts) (fuel : Nat) :
    qualified (fuel + 1) left ts = some (left, ts) := by
  have hpoint := isMarkNext_of_ends "." (by decide) h
  simp [qualified, hpoint]

theorem predefined_reads {w : String} (hw : w ∈ predefinedTypes) (mark : TypeMark) (gap : String)
    {ts : List Token} (h : Ends ts) (fuel : Nat) :
    type (fuel + 1) (tokensOf ((predefined w hw mark).printed gap) ++ ts) =
      some ((predefined w hw mark).part gap, ts) := by
  have hbracket := isMarkNext_of_ends "[" (by decide) h
  have hquestion := isMarkNext_of_ends "?" (by decide) h
  cases mark with
  | plain => simp [printed, part, type, hw, hbracket, hquestion]
  | nullable => simp [printed, part, type, hw]
  | array => simp [printed, part, type, hw, hquestion]

theorem named_reads (n : Name) (gap : String) {ts : List Token} (h : Ends ts) (fuel : Nat) :
    type (fuel + 2) (tokensOf ((named n).printed gap) ++ ts) = some ((named n).part gap, ts) := by
  have hword : n.text ∉ predefinedTypes := n.not_mem (by decide)
  have hname := simpleName_reads (p := term gap n.text) rfl n.isName_text h fuel
  have hqualified := qualified_reads (term gap n.text).name h fuel
  have hbracket := isMarkNext_of_ends "[" (by decide) h
  have hquestion := isMarkNext_of_ends "?" (by decide) h
  simp [printed, part, type, hword, hname, hqualified, hbracket, hquestion]

theorem genericName_reads (n a : Name) (gap : String) (ts : List Token) (fuel : Nat) :
    simpleName (fuel + 4) (tokensOf ((generic n a).printed gap) ++ ts) =
      some ((generic n a).part gap, ts) := by
  have hgreater : Ends ((sign "" ">").token :: ts) := ends_cons (fun _ => by decide) ts
  have hargument := named_reads a "" hgreater (fuel + 1)
  simp only [printed, tokensOf, List.map_cons, List.map_nil, List.cons_append,
    List.nil_append] at hargument
  have hlisted : listed (type (fuel + 3)) (fuel + 3)
      ((term "" a.text).token :: (sign "" ">").token :: ts) =
        some ([(named a).part ""], (sign "" ">").token :: ts) := by
    rw [listed, bind_reads, hargument]
    simp
  rw [simpleName]
  simp [printed, part, n.isName_text, hlisted]

theorem generic_reads (n a : Name) (gap : String) {ts : List Token} (h : Ends ts) (fuel : Nat) :
    type (fuel + 5) (tokensOf ((generic n a).printed gap) ++ ts) =
      some ((generic n a).part gap, ts) := by
  have hword : n.text ∉ predefinedTypes := n.not_mem (by decide)
  have hname := genericName_reads n a gap ts fuel
  have hqualified := qualified_reads ((generic n a).part gap) h (fuel + 3)
  have hbracket := isMarkNext_of_ends "[" (by decide) h
  have hquestion := isMarkNext_of_ends "?" (by decide) h
  simp only [printed, tokensOf, List.map_cons, List.map_nil, List.cons_append,
    List.nil_append] at hname ⊢
  rw [type]
  simp [hword, hname, hqualified, hbracket, hquestion]

/-- printed types are read as they are -/
theorem type_reads (t : TypeForm) (gap : String) {ts : List Token} (h : Ends ts) (fuel : Nat) :
    type (fuel + 5) (tokensOf (t.printed gap) ++ ts) = some (t.part gap, ts) := by
  cases t with
  | predefined w hw mark => exact predefined_reads hw mark gap h (fuel + 4)
  | named n => exact named_reads n gap h (fuel + 3)
  | generic n a => exact generic_reads n a gap h fuel

/-! ### The phrase -/

def phrase (t : TypeForm) : Phrase where
  printed gap := t.printed gap
  part gap := t.part gap
  text := t.text
  plain gap := by
    rcases t with ⟨w, hw, _ | _ | _⟩ | n | ⟨n, a⟩ <;> simp [printed, term, sign]
  legible gap hgap := t.legible_printed hgap
  first gap := by rcases t with ⟨w, hw, _ | _ | _⟩ | n | ⟨n, a⟩ <;> rfl
  opens gap := by
    rcases t with ⟨w, hw, _ | _ | _⟩ | n | ⟨n, a⟩ <;> simp [printed]
  last gap := by
    rcases t with ⟨w, hw, _ | _ | _⟩ | n | ⟨n, a⟩ <;> simp [printed, closes, term, sign]
  chars gap := t.chars_printed gap
  spells gap := by
    rcases t with ⟨w, hw, _ | _ | _⟩ | n | ⟨n, a⟩ <;> rfl
  lead gap := by rcases t with ⟨w, hw, _ | _ | _⟩ | n | ⟨n, a⟩ <;> rfl
  inner gap := by rcases t with ⟨w, hw, _ | _ | _⟩ | n | ⟨n, a⟩ <;> rfl

theorem phrase_reads (t : TypeForm) {fuel : Nat} (hfuel : 5 ≤ fuel) :
    t.phrase.ReadBy (type fuel) := by
  obtain ⟨n, rfl⟩ : ∃ n, fuel = n + 5 := ⟨fuel - 5, by omega⟩
  exact fun gap ts hts => t.type_reads gap hts n

end TypeForm

end EndpointScaffold.CSharp.Plain

/-!
## Literals on paper

Decimal integers, also with a minus, the two truth values, and strings in quotes.
-/

namespace EndpointScaffold.CSharp.Plain

open Text Printed

inductive Literal where
  | integer (isNegative : Bool) (digits : String) (isInteger : isBody .integer digits.toList = true)
  | boolean (b : Bool)
  /-- no quote, backslash or line break stands between the quotes -/
  | quoted (inside : String) (isQuoted : isBody .quoted inside.toList = true)

namespace Literal

def booleanText (b : Bool) : String := if b then "true" else "false"

def text : Literal → String
  | integer false d _ => d
  | integer true d _ => "-" ++ d
  | boolean b => booleanText b
  | quoted s _ => "\"" ++ s ++ "\""

def printed (gap : String) : Literal → List Printed
  | integer false d _ => [.integer gap d]
  | integer true d _ => [sign gap "-", .integer "" d]
  | boolean b => [term gap (booleanText b)]
  | quoted s _ => [.quoted gap s]

def part (gap : String) : Literal → Part
  | integer false d _ => (Printed.integer gap d).leaf .other
  | integer true d _ =>
    .node .other [(sign gap "-").leaf .mark, (Printed.integer "" d).leaf .other]
  | boolean b => .node .other [(term gap (booleanText b)).leaf .mark]
  | quoted s _ => quotedPart (Printed.quoted gap s).token

/-! ### Printing -/

theorem fit_integer {gap d : String} (hgap : gap.toList.all isSpace = true)
    (hd : isBody .integer d.toList = true) : (Printed.integer gap d).Fit :=
  ⟨List.all_eq_true.mp hgap, .inl rfl, hd⟩

/-- a minus ends before a number -/
theorem before_integer {d : String} (hd : isBody .integer d.toList = true) (gap : String) :
    (sign gap "-").Before (.integer "" d) := by
  intro c hc
  have hmem : c ∈ d.toList := List.mem_of_mem_head? hc
  simp only [isBody, Bool.and_eq_true, List.all_eq_true] at hd
  have hdigit := isAsciiDigit_iff.mp (hd.2 c hmem)
  have hne : ∀ m : Char, m.toNat < 48 ∨ 57 < m.toNat → (c == m) = false := by
    intro m hm
    rw [beq_eq_false_iff_ne]
    rintro rfl
    omega
  simp [endsBefore, sign, joins, hne '-' (by decide), hne '=' (by decide), hne '>' (by decide)]

theorem legible_printed (l : Literal) {gap : String} (hgap : gap.toList.all isSpace = true) :
    Legible (l.printed gap) := by
  rcases l with ⟨_ | _, d, hd⟩ | b | ⟨s, hs⟩
  · exact legible_singleton.mpr (fit_integer hgap hd)
  · exact legible_cons_cons.mpr ⟨fit_sign hgap rfl, before_integer hd gap,
      legible_singleton.mpr (fit_integer rfl hd)⟩
  · exact legible_singleton.mpr (fit_term hgap (by cases b <;> decide))
  · exact legible_singleton.mpr ⟨List.all_eq_true.mp hgap, .inl rfl, hs⟩

theorem chars_printed (l : Literal) (gap : String) :
    (l.printed gap).flatMap chars = gap.toList ++ l.text.toList := by
  rcases l with ⟨_ | _, d, hd⟩ | b | ⟨s, hs⟩ <;>
    simp [printed, text, chars, commentChars, body, sign, term, Printed.integer, Printed.quoted]

theorem spells_quoted (s gap : String) :
    Spells [(quotedPart (Printed.quoted gap s).token).tree] [.quoted gap s] := by
  unfold Spells quotedPart leaves Printed.quoted
  by_cases hs : s = ""
  · simp [hs, Printed.token, Tree.tokensOfAll, Tree.tokens]
  · simp [hs, Printed.token, Tree.tokensOfAll, Tree.tokens]

def phrase (l : Literal) : Phrase where
  printed gap := l.printed gap
  part gap := l.part gap
  text := l.text
  plain gap := by
    rcases l with ⟨_ | _, d, hd⟩ | b | ⟨s, hs⟩ <;>
      simp [printed, term, sign, Printed.integer, Printed.quoted]
  legible gap hgap := l.legible_printed hgap
  first gap := by rcases l with ⟨_ | _, d, hd⟩ | b | ⟨s, hs⟩ <;> rfl
  opens gap := by
    rcases l with ⟨_ | _, d, hd⟩ | b | ⟨s, hs⟩ <;>
      simp [printed, term, sign, Printed.integer, Printed.quoted]
  last gap := by
    rcases l with ⟨_ | _, d, hd⟩ | b | ⟨s, hs⟩ <;>
      simp [printed, closes, term, sign, Printed.integer, Printed.quoted]
  chars gap := l.chars_printed gap
  spells gap := by
    rcases l with ⟨_ | _, d, hd⟩ | b | ⟨s, hs⟩
    · rfl
    · rfl
    · rfl
    · exact spells_quoted s gap
  lead gap := by rcases l with ⟨_ | _, d, hd⟩ | b | ⟨s, hs⟩ <;> rfl
  inner gap := by
    rcases l with ⟨_ | _, d, hd⟩ | b | ⟨s, hs⟩
    · rfl
    · rfl
    · rfl
    · show (Part.isInner ⟨_, .node none .other (_ :: (if s.isEmpty then [] else [_]) ++ [_])⟩) = true
      by_cases hempty : s.isEmpty = true
      · rw [if_pos hempty]
        rfl
      · rw [if_neg hempty]
        rfl

/-! ### Reading -/

theorem phrase_reads (l : Literal) : l.phrase.ReadBy literal := by
  intro gap ts _
  rcases l with ⟨_ | _, d, hd⟩ | b | ⟨s, hs⟩
  · simp [phrase, printed, part, literal, number, Printed.integer]
  · simp [phrase, printed, part, literal, number, Printed.integer, sign]
  · cases b <;> simp [phrase, printed, part, literal, booleanText, isBoolean]
  · simp [phrase, printed, part, literal, Printed.quoted]

/-- a literal is seen to come -/
theorem isLiteralNext_printed (l : Literal) (gap : String) (ts : List Token) :
    isLiteralNext (tokensOf (l.printed gap) ++ ts) =
      some (true, tokensOf (l.printed gap) ++ ts) := by
  rcases l with ⟨_ | _, d, hd⟩ | b | ⟨s, hs⟩
  · simp [printed, isLiteralNext, Printed.integer]
  · simp [printed, isLiteralNext, Printed.integer, sign]
  · cases b <;> simp [printed, isLiteralNext, booleanText, isBoolean]
  · simp [printed, isLiteralNext, Printed.quoted]

end Literal

end EndpointScaffold.CSharp.Plain
