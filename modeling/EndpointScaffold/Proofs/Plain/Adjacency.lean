import EndpointScaffold.Proofs.Plain.Printed

/-!
# Names, and tokens beside each other

A name starts with an upper-case letter, so no reserved word is one, and it runs into nothing that
is put beside it without a blank.
-/

namespace EndpointScaffold.CSharp.Plain

open Text

/-- an upper-case letter, then letters, digits and underscores -/
def isPascal (s : String) : Bool :=
  match s.toList with
  | c :: cs => isAsciiUpper c && cs.all isWordPart
  | [] => false

structure Name where
  text : String
  isPascal : isPascal text = true

/-- whether a text starts with an upper-case letter -/
def startsUpper (s : String) : Bool := s.toList.head?.any isAsciiUpper

namespace Name

variable (n : Name)

theorem toList_eq :
    ∃ c cs, n.text.toList = c :: cs ∧ isAsciiUpper c = true ∧ ∀ d ∈ cs, isWordPart d = true := by
  have h := n.isPascal
  unfold Plain.isPascal at h
  split at h
  · next c cs hlist =>
    rw [Bool.and_eq_true, List.all_eq_true] at h
    exact ⟨c, cs, hlist, h.1, h.2⟩
  · exact absurd h (by simp)

theorem startsUpper_text : startsUpper n.text = true := by
  obtain ⟨c, cs, hlist, hc, -⟩ := n.toList_eq
  rw [startsUpper, hlist]
  exact hc

/-- lists of words in lower case hold no name -/
theorem not_mem {words : List String} (h : words.all (fun w => !startsUpper w) = true) :
    n.text ∉ words := by
  intro hmem
  have hn := List.all_eq_true.mp h n.text hmem
  rw [n.startsUpper_text] at hn
  exact absurd hn (by decide)

theorem contains_eq_false {words : List String}
    (h : words.all (fun w => !startsUpper w) = true) : words.contains n.text = false := by
  rw [List.contains_eq_mem, decide_eq_false_iff_not]
  exact n.not_mem h

theorem isName_text : isName n.text = true := by
  rw [isName, n.contains_eq_false (by decide)]
  rfl

theorem isWordPart_of_mem {d : Char} (hd : d ∈ n.text.toList) : isWordPart d = true := by
  obtain ⟨c, cs, hlist, hc, hcs⟩ := n.toList_eq
  rw [hlist] at hd
  rcases List.mem_cons.mp hd with rfl | h
  · exact isWordPart_of_isWordStart (isWordStart_of_isAsciiUpper hc)
  · exact hcs d h

theorem isEmpty_text : ¬ n.text.isEmpty = true := by
  obtain ⟨c, cs, hlist, -⟩ := n.toList_eq
  rw [String.isEmpty_iff, ← String.toList_inj, hlist]
  simp

theorem isBody_text : Printed.isBody .word n.text.toList = true := by
  obtain ⟨c, cs, hlist, hc, hcs⟩ := n.toList_eq
  have hstart := isWordStart_of_isAsciiUpper hc
  rw [hlist, Printed.isBody, List.head?_cons, Option.any_some, hstart, List.all_cons,
    isWordPart_of_isWordStart hstart, List.all_eq_true.mpr hcs]
  rfl

end Name

end EndpointScaffold.CSharp.Plain

/-!
## Tokens beside each other

When a printed token does not run into the one behind it: always if there are blanks between them,
and without blanks where one of them is a mark.

* `Printed.legible_append` legible runs of tokens behind each other;
* `Printed.closes` tokens that a phrase can end with, and `Printed.before_closing` what may follow.
-/

namespace EndpointScaffold.CSharp.Plain

open Text

namespace Printed

/-! ### Characters -/

theorem chars_sign (gap text : String) : (sign gap text).chars = gap.toList ++ text.toList := rfl

theorem chars_term (gap text : String) : (term gap text).chars = gap.toList ++ text.toList := rfl

/-! ### Legible phrases -/

theorem legible_singleton {p : Printed} : Legible [p] ↔ p.Fit := by
  simp [Legible]

theorem legible_cons {p : Printed} {ps : List Printed} :
    Legible (p :: ps) ↔ p.Fit ∧ (∀ q ∈ ps.head?, p.Before q) ∧ Legible ps := by
  unfold Legible
  rw [List.isChain_cons, List.forall_mem_cons]
  exact ⟨fun h => ⟨h.1.1, h.2.1, h.1.2, h.2.2⟩, fun h => ⟨⟨h.1, h.2.2.1⟩, h.2.1, h.2.2.2⟩⟩

theorem legible_cons_cons {p q : Printed} {ps : List Printed} :
    Legible (p :: q :: ps) ↔ p.Fit ∧ p.Before q ∧ Legible (q :: ps) := by
  unfold Legible
  rw [List.isChain_cons_cons, List.forall_mem_cons]
  exact ⟨fun h => ⟨h.1.1, h.2.1, h.1.2, h.2.2⟩, fun h => ⟨⟨h.1, h.2.2.1⟩, h.2.1, h.2.2.2⟩⟩

theorem legible_append {ps qs : List Printed} (hps : Legible ps) (hqs : Legible qs)
    (h : ∀ p ∈ ps.getLast?, ∀ q ∈ qs.head?, p.Before q) : Legible (ps ++ qs) :=
  ⟨List.forall_mem_append.mpr ⟨hps.1, hqs.1⟩, List.isChain_append.mpr ⟨hps.2, hqs.2, h⟩⟩

/-- a mark ends before what is neither a mark nor a digit -/
theorem joins_eq_false {c d : Char} (hmark : d ∉ marks) (hdigit : isAsciiDigit d = false) :
    joins c d = false := by
  have hne : ∀ m ∈ marks, (d == m) = false := by
    intro m hm
    rw [beq_eq_false_iff_ne]
    rintro rfl
    exact hmark hm
  unfold joins
  split
  · rw [hne '.' (by decide), hdigit]; rfl
  · rw [hne '.' (by decide), hne '?' (by decide), hne '[' (by decide)]; rfl
  · exact hne ':' (by decide)
  · rw [hne '<' (by decide), hne '=' (by decide)]; rfl
  · exact hne '=' (by decide)
  · exact hne '=' (by decide)
  · rw [hne '-' (by decide), hne '=' (by decide), hne '>' (by decide)]; rfl
  · rfl

theorem endsBefore_of_mark {p : Printed} (hp : p.kind = .mark) {d : Char} (hmark : d ∉ marks)
    (hdigit : isAsciiDigit d = false) : p.endsBefore d = true := by
  have hgreater : (d == '>') = false := by
    rw [beq_eq_false_iff_ne]
    rintro rfl
    exact hmark (by decide)
  unfold endsBefore
  rw [hp]
  dsimp only
  split
  · rw [joins_eq_false hmark hdigit, hgreater, Bool.and_false]; rfl
  · rfl

/-- a token ends before a character that belongs to no token -/
theorem endsBefore_of_apart (p : Printed) {d : Char} (hpart : isWordPart d = false)
    (hmark : d ∉ marks) : p.endsBefore d = true := by
  have hdigit : isAsciiDigit d = false := by
    rw [Bool.eq_false_iff]
    intro h
    simp [isWordPart, h] at hpart
  have hstart : isWordStart d = false := by
    rw [Bool.eq_false_iff]
    intro h
    rw [isWordPart_of_isWordStart h] at hpart
    exact absurd hpart (by decide)
  have hpoint : (d == '.') = false := by
    rw [beq_eq_false_iff_ne]
    rintro rfl
    exact hmark (by decide)
  cases hp : p.kind with
  | word => simp [endsBefore, hp, hpart]
  | integer => simp [endsBefore, hp, hpart, hpoint]
  | quoted => simp [endsBefore, hp, hstart]
  | mark => exact endsBefore_of_mark hp hmark hdigit
  | stop => simp [endsBefore, hp]

theorem head?_chars {p : Printed} {c : Char} (hgap : p.gap.toList.head? = some c) :
    p.chars.head? = some c := by
  unfold chars
  cases hq : p.comments with
  | nil => simp [commentChars, hgap]
  | cons d ds => simp [commentChars, hgap]

/-- a token ends before a blank -/
theorem before_of_gap {p q : Printed} {c : Char} (hgap : q.gap.toList.head? = some c)
    (hspace : isSpace c = true) : p.Before q := by
  intro d hd
  rw [head?_chars hgap, Option.mem_some_iff] at hd
  subst hd
  refine p.endsBefore_of_apart ?_ ?_
  · rw [Bool.eq_false_iff]
    intro h
    rw [isSpace_of_isWordPart h] at hspace
    exact absurd hspace (by decide)
  · intro h
    rw [isSpace_of_mem_marks h] at hspace
    exact absurd hspace (by decide)

theorem before_of_blank {p q : Printed} (hgap : q.gap = " ") : p.Before q :=
  before_of_gap (c := ' ') (by rw [hgap]; rfl) (by decide)

/-- a word, a number and a string end before a mark other than a point -/
theorem before_sign {p : Printed} (hp : p.kind = .word ∨ p.kind = .integer ∨ p.kind = .quoted)
    {c : Char} {text : String} (htext : text.toList.head? = some c) (hmark : c ∈ marks)
    (hpoint : c ≠ '.') : p.Before (sign "" text) := by
  intro d hd
  have hpart := isWordPart_of_mem_marks hmark
  have hstart : isWordStart c = false := by
    rw [Bool.eq_false_iff]
    intro h
    rw [isWordPart_of_isWordStart h] at hpart
    exact absurd hpart (by decide)
  rw [show (sign "" text).chars = text.toList from rfl, htext, Option.mem_some_iff] at hd
  subst hd
  rcases hp with hp | hp | hp
  · simp [endsBefore, hp, hpart]
  · simp [endsBefore, hp, hpart, hpoint]
  · simp [endsBefore, hp, hstart]

/-- a word ends before a mark -/
theorem before_sign_of_word {p : Printed} (hp : p.kind = .word) {c : Char} {text : String}
    (htext : text.toList.head? = some c) (hmark : c ∈ marks) : p.Before (sign "" text) := by
  intro d hd
  rw [show (sign "" text).chars = text.toList from rfl, htext, Option.mem_some_iff] at hd
  subst hd
  simp [endsBefore, hp, isWordPart_of_mem_marks hmark]

/-- marks that are never part of a longer one -/
theorem before_any {gap text : String}
    (htext : text ∈ ["(", ")", "[", "]", "\x7b", "\x7d", ",", ";"]) (q : Printed) :
    (sign gap text).Before q := by
  intro d _
  simp only [List.mem_cons, List.not_mem_nil, or_false] at htext
  rcases htext with rfl | rfl | rfl | rfl | rfl | rfl | rfl | rfl <;>
    simp [endsBefore, sign, joins]

/-- a mark ends before a mark that it does not join with -/
theorem before_sign_sign {p : Printed} {d : Char} {text : String}
    (htext : text.toList.head? = some d) (h : p.endsBefore d = true) : p.Before (sign "" text) := by
  intro d' hd
  rw [show (sign "" text).chars = text.toList from rfl, htext, Option.mem_some_iff] at hd
  rw [← hd]
  exact h

/-- a mark ends before a word -/
theorem before_term {p : Printed} (hp : p.kind = .mark) {c : Char} {text : String}
    (htext : text.toList.head? = some c) (hstart : isWordStart c = true) :
    p.Before (term "" text) := by
  intro d hd
  rw [show (term "" text).chars = text.toList from rfl, htext, Option.mem_some_iff] at hd
  subst hd
  refine endsBefore_of_mark hp ?_ ?_
  · intro h
    have hpart := isWordPart_of_isWordStart hstart
    rw [isWordPart_of_mem_marks h] at hpart
    exact absurd hpart (by decide)
  · rw [Bool.eq_false_iff]
    intro h
    rw [isWordStart_of_isAsciiDigit h] at hstart
    exact absurd hstart (by decide)

theorem before_name {p : Printed} (hp : p.kind = .mark) (n : Name) :
    p.Before (term "" n.text) := by
  obtain ⟨c, cs, hlist, hc, -⟩ := n.toList_eq
  exact before_term hp (by rw [hlist]; rfl) (isWordStart_of_isAsciiUpper hc)

theorem fit_sign {gap text : String} (hgap : gap.toList.all isSpace = true)
    (htext : isBody .mark text.toList = true) : (sign gap text).Fit :=
  ⟨List.all_eq_true.mp hgap, .inl rfl, htext⟩

theorem fit_term {gap text : String} (hgap : gap.toList.all isSpace = true)
    (htext : isBody .word text.toList = true) : (term gap text).Fit :=
  ⟨List.all_eq_true.mp hgap, .inl rfl, htext⟩

theorem fit_name {gap : String} (hgap : gap.toList.all isSpace = true) (n : Name) :
    (term gap n.text).Fit := fit_term hgap n.isBody_text

/-- comments may stand before a token that begins a line -/
theorem Fit.behind {p : Printed} (h : p.Fit) (hline : p.gap.toList.head? = some '\n')
    (cs : List Comment) : (p.behind cs).Fit := ⟨h.gap, .inr hline, h.body⟩

theorem Before.behind {p q : Printed} (h : p.Before q) (cs : List Comment) :
    (p.behind cs).Before q := h

/-! ### Ends of phrases -/

/-- marks that can follow a phrase -/
def closingMarks : List String := [",", ")", "]", ";"]

/-- whether a phrase can end with a token -/
def closes (p : Printed) : Bool :=
  match p.kind with
  | .word | .integer | .quoted => true
  | .mark => [")", "]", "\x7d", ">", "?"].contains p.text
  | .stop => false

theorem before_closing {p : Printed} (hp : p.closes = true) {text : String}
    (htext : text ∈ closingMarks) : p.Before (sign "" text) := by
  have hall : ∀ t ∈ closingMarks, t.toList.head?.any (fun d => marks.contains d && d != '.') =
      true := by decide
  obtain ⟨d, hd, hboth⟩ := (Option.any_eq_true _ _).mp (hall text htext)
  rw [Bool.and_eq_true, List.contains_iff_mem, bne_iff_ne] at hboth
  obtain ⟨hmark, hpoint⟩ := hboth
  cases hkind : p.kind with
  | word => exact before_sign (.inl hkind) hd hmark hpoint
  | integer => exact before_sign (.inr (.inl hkind)) hd hmark hpoint
  | quoted => exact before_sign (.inr (.inr hkind)) hd hmark hpoint
  | mark =>
    rw [closes, hkind] at hp
    have hends : ∀ s ∈ [")", "]", "\x7d", ">", "?"], ∀ t ∈ closingMarks,
        t.toList.head?.all (endsBefore (sign "" s)) = true := by decide
    refine before_sign_sign hd ?_
    have h := hends p.text (List.contains_iff_mem.mp hp) text htext
    rw [hd, Option.all_some] at h
    unfold endsBefore at h ⊢
    rw [hkind]
    exact h
  | stop =>
    rw [closes, hkind] at hp
    exact absurd hp Bool.false_ne_true

end Printed

end EndpointScaffold.CSharp.Plain
