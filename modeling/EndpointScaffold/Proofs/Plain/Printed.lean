import EndpointScaffold.Proofs.Text.Splitting
import Mathlib.Data.List.Chain

/-!
# Printed tokens of plain source

A printed token is a token as it is put on paper: comments on lines of their own, then blanks, then
the token. Here printed tokens are read back:

* `Printed.chars` what is put on paper, `Printed.token` the token that stands for it;
* `Printed.Fit` each printed token on its own is well made;
* `Printed.Before` a token does not run into the one behind it;
* `tokens?_printed` tokens that are fit and do not run into each other are read as they are.
-/

namespace EndpointScaffold.CSharp.Plain

open Text

/-! ### Comments -/

/-- a comment; its text does not end it -/
inductive Comment where
  | line (text : String) (inLine : ∀ c ∈ text.toList, c ≠ '\n' ∧ c ≠ '\r')
  | block (text : String) (isOpen : ¬ ['*', '/'] <:+: text.toList)

def Comment.written : Comment → String
  | line text _ => "//" ++ text
  | block text _ => "/*" ++ text ++ "*/"

theorem splitComment?_written (text rest : List Char) (hopen : ¬ ['*', '/'] <:+: text)
    (hnull : ∀ c ∈ text, c ≠ '\x00') :
    splitComment? (text ++ '*' :: '/' :: rest) = some (text ++ ['*', '/'], rest) := by
  induction text with
  | nil => rfl
  | cons c text ih =>
    have hopen' : ¬ ['*', '/'] <:+: text := fun h => hopen (List.infix_cons h)
    have hc : c ≠ '\x00' := hnull c (by simp)
    have hne : ∀ cs, ¬ (c = '*' ∧ text ++ '*' :: '/' :: rest = '/' :: cs) := by
      rintro cs ⟨rfl, h⟩
      cases text with
      | nil => simp at h
      | cons d text =>
        rw [List.cons_append, List.cons.injEq] at h
        obtain ⟨rfl, _⟩ := h
        exact hopen ⟨[], text, rfl⟩
    rw [List.cons_append, splitComment?, ih hopen' fun d hd => hnull d (by simp [hd])]
    · rfl
    · intro cs h1 h2
      exact hne cs ⟨h1, h2⟩
    · exact hc

/-! ### Printed tokens -/

structure Printed where
  /-- comments before the token, each on a line of its own -/
  comments : List Comment
  /-- blanks before the token and before each of its comments -/
  gap : String
  kind : TokenKind
  text : String

namespace Printed

def sign (gap text : String) : Printed := ⟨[], gap, .mark, text⟩

def term (gap text : String) : Printed := ⟨[], gap, .word, text⟩

def integer (gap text : String) : Printed := ⟨[], gap, .integer, text⟩

def quoted (gap text : String) : Printed := ⟨[], gap, .quoted, text⟩

def behind (cs : List Comment) (p : Printed) : Printed := { p with comments := cs }

/-- the token itself, a string with its quotes -/
def body (p : Printed) : List Char :=
  if p.kind = .quoted then '"' :: p.text.toList ++ ['"'] else p.text.toList

def commentChars (gap : List Char) (cs : List Comment) : List Char :=
  cs.flatMap fun c => gap ++ c.written.toList

def chars (p : Printed) : List Char :=
  commentChars p.gap.toList p.comments ++ p.gap.toList ++ p.body

def token (p : Printed) : Token where
  lead := p.comments.map fun c => comment p.gap.toList c.written.toList
  gap := p.gap
  kind := p.kind
  text := p.text

def isBody (kind : TokenKind) (cs : List Char) : Bool :=
  match kind with
  | .word => cs.head?.any isWordStart && cs.all isWordPart
  | .integer => !cs.isEmpty && cs.all isAsciiDigit
  | .quoted => cs.all fun c => c != '"' && c != '\\' && c != '\n'
  | .mark => cs == ['=', '>'] || (match cs with | [c] => marks.contains c | _ => false)
  | .stop => cs.isEmpty

structure Fit (p : Printed) : Prop where
  gap : ∀ c ∈ p.gap.toList, isSpace c = true
  /-- what is behind a comment stands on the next line -/
  onLine : p.comments = [] ∨ p.gap.toList.head? = some '\n'
  body : isBody p.kind p.text.toList = true

/-- whether a token ends before a character -/
def endsBefore (p : Printed) (d : Char) : Bool :=
  match p.kind with
  | .word => !isWordPart d
  | .integer => !(isWordPart d || d == '.')
  | .quoted => !isWordStart d
  | .mark =>
    match p.text.toList with
    | [c] => !joins c d && !(c == '=' && d == '>')
    | _ => true
  | .stop => true

/-- a token that does not run into the one behind it -/
def Before (p q : Printed) : Prop := ∀ d ∈ q.chars.head?, p.endsBefore d = true

/-! ### Single tokens -/

variable {p : Printed}

theorem splitToken?_word {cs rest : List Char} (hbody : isBody .word cs = true)
    (hrest : ∀ d ∈ rest.head?, isWordPart d = false) :
    splitToken? (cs ++ rest) = some (.word, cs, rest) := by
  cases cs with
  | nil => simp [isBody] at hbody
  | cons c cs =>
    simp only [isBody, List.head?_cons, Option.any_some, List.all_cons, Bool.and_eq_true,
      List.all_eq_true] at hbody
    obtain ⟨hstart, -, hparts⟩ := hbody
    have hquote : c ≠ '"' := by rintro rfl; exact absurd hstart (by decide)
    have hequals : c ≠ '=' := by rintro rfl; exact absurd hstart (by decide)
    rw [List.cons_append, splitToken?]
    · rw [if_pos hstart, takeWhile_run hparts hrest, dropWhile_run hparts hrest]
    · exact hquote
    · intro _ h _
      exact hequals h

theorem splitToken?_integer {cs rest : List Char} (hbody : isBody .integer cs = true)
    (hrest : ∀ d ∈ rest.head?, (isWordPart d || d == '.') = false) :
    splitToken? (cs ++ rest) = some (.integer, cs, rest) := by
  cases cs with
  | nil => simp [isBody] at hbody
  | cons c cs =>
    simp only [isBody, List.isEmpty_cons, Bool.not_false, Bool.true_and, List.all_cons,
      Bool.and_eq_true, List.all_eq_true] at hbody
    obtain ⟨hdigit, hdigits⟩ := hbody
    have hquote : c ≠ '"' := by rintro rfl; exact absurd hdigit (by decide)
    have hequals : c ≠ '=' := by rintro rfl; exact absurd hdigit (by decide)
    have hstart : ¬ isWordStart c = true := by simp [isWordStart_of_isAsciiDigit hdigit]
    have hend : ∀ d ∈ rest.head?, isAsciiDigit d = false := by
      intro d hd
      have h := hrest d hd
      simp only [isWordPart, Bool.or_eq_false_iff] at h
      exact h.1.2
    have hnext : ¬ (rest.head?.any fun d => isWordPart d || d == '.') = true := by
      cases rest with
      | nil => simp
      | cons d rest => rw [List.head?_cons, Option.any_some, hrest d rfl]; simp
    rw [List.cons_append, splitToken?]
    · rw [if_neg hstart, if_pos hdigit, takeWhile_run hdigits hend, dropWhile_run hdigits hend]
      exact if_neg hnext
    · exact hquote
    · intro _ h _
      exact hequals h

theorem splitToken?_quoted {cs rest : List Char} (hcs : ∀ c ∈ cs, isQuotable c = true)
    (hrest : ∀ d ∈ rest.head?, isWordStart d = false) :
    splitToken? ('"' :: cs ++ '"' :: rest) = some (.quoted, cs, rest) := by
  have hend : ∀ d ∈ ('"' :: rest).head?, isQuotable d = false := by
    intro d hd
    obtain rfl : '"' = d := by simpa using hd
    decide
  rw [List.cons_append, splitToken?, dropWhile_run hcs hend, takeWhile_run hcs hend]
  cases rest with
  | nil => rfl
  | cons d rest =>
    show (if isWordStart d = true then none else _) = _
    rw [hrest d rfl]
    rfl

/-- a mark is an arrow or one character -/
theorem isBody_mark {cs : List Char} (h : isBody .mark cs = true) :
    cs = ['=', '>'] ∨ ∃ c ∈ marks, cs = [c] := by
  simp only [isBody, Bool.or_eq_true, beq_iff_eq] at h
  refine h.imp_right fun h => ?_
  cases cs with
  | nil => cases h
  | cons c cs =>
    cases cs with
    | nil => exact ⟨c, List.contains_iff_mem.mp h, rfl⟩
    | cons d cs => cases h

theorem splitToken?_mark {cs rest : List Char} (hbody : isBody .mark cs = true)
    (hrest : ∀ c, cs = [c] → ∀ d ∈ rest.head?, (!joins c d && !(c == '=' && d == '>')) = true) :
    splitToken? (cs ++ rest) = some (.mark, cs, rest) := by
  obtain rfl | ⟨c, hmem, rfl⟩ := isBody_mark hbody
  · rfl
  · have hpart : isWordPart c = false := isWordPart_of_mem_marks hmem
    have hstart : ¬ isWordStart c = true := fun h => by
      simp [isWordPart_of_isWordStart h] at hpart
    have hdigit : ¬ isAsciiDigit c = true := fun h => by simp [isWordPart, h] at hpart
    have hnext := hrest c rfl
    have hjoins : rest.head?.any (joins c) = false := by
      cases rest with
      | nil => rfl
      | cons d rest =>
        have h := hnext d rfl
        simp only [Bool.and_eq_true, Bool.not_eq_true'] at h
        exact h.1
    rw [List.cons_append, List.nil_append, splitToken?]
    · rw [if_neg hstart, if_neg hdigit, hjoins]
      exact if_pos (by simpa using hmem)
    · rintro rfl
      exact absurd hbody (by decide)
    · rintro cs rfl rfl
      exact absurd (hnext '>' rfl) (by decide)

theorem isQuotable_of_isBody {cs : List Char} (hbody : isBody .quoted cs = true)
    (hnull : ∀ c ∈ cs, c ≠ '\x00') : ∀ c ∈ cs, isQuotable c = true := by
  intro c hc
  have h := List.all_eq_true.mp hbody c hc
  unfold isQuotable
  rw [h, Bool.true_and, bne_iff_ne]
  exact hnull c hc

theorem splitToken?_body (hp : p.Fit) (hkind : p.kind ≠ .stop) (hnull : ∀ c ∈ p.body, c ≠ '\x00')
    {rest : List Char} (hrest : ∀ d ∈ rest.head?, p.endsBefore d = true) :
    splitToken? (p.body ++ rest) = some (p.kind, p.text.toList, rest) := by
  obtain ⟨comments, gap, kind, text⟩ := p
  have hbody := hp.body
  cases kind with
  | word =>
    exact splitToken?_word hbody fun d hd => by simpa [endsBefore] using hrest d hd
  | integer =>
    exact splitToken?_integer hbody fun d hd => by simpa [endsBefore] using hrest d hd
  | quoted =>
    have hcs := isQuotable_of_isBody hbody fun c hc => hnull c (by simp [body, hc])
    have hend : ∀ d ∈ rest.head?, isWordStart d = false := fun d hd => by
      simpa [endsBefore] using hrest d hd
    have h := splitToken?_quoted hcs hend
    simpa [body] using h
  | mark =>
    refine splitToken?_mark hbody fun c hc d hd => ?_
    have htext : text.toList = [c] := hc
    have h := hrest d hd
    simp only [endsBefore] at h
    rw [htext] at h
    exact h
  | stop => exact absurd rfl hkind

theorem body_eq_cons (hp : p.Fit) (hkind : p.kind ≠ .stop) :
    ∃ c cs, p.body = c :: cs ∧ isSpace c = false ∧ c ≠ '/' := by
  obtain ⟨comments, gap, kind, text⟩ := p
  have hbody := hp.body
  cases kind with
  | word =>
    show ∃ c cs, text.toList = c :: cs ∧ _
    cases htext : text.toList with
    | nil => simp [isBody, htext] at hbody
    | cons c cs =>
      simp only [isBody, htext, List.head?_cons, Option.any_some, Bool.and_eq_true] at hbody
      refine ⟨c, cs, rfl, isSpace_of_isWordPart (isWordPart_of_isWordStart hbody.1), ?_⟩
      rintro rfl
      exact absurd hbody.1 (by decide)
  | integer =>
    show ∃ c cs, text.toList = c :: cs ∧ _
    cases htext : text.toList with
    | nil => simp [isBody, htext] at hbody
    | cons c cs =>
      simp only [isBody, htext, List.all_cons, Bool.and_eq_true] at hbody
      have hpart : isWordPart c = true := by simp [isWordPart, hbody.2.1]
      refine ⟨c, cs, rfl, isSpace_of_isWordPart hpart, ?_⟩
      rintro rfl
      exact absurd hpart (by decide)
  | quoted => exact ⟨'"', _, rfl, by decide, by decide⟩
  | mark =>
    show ∃ c cs, text.toList = c :: cs ∧ _
    obtain h | ⟨c, hmem, h⟩ := isBody_mark hbody
    · exact ⟨'=', ['>'], h, by decide, by decide⟩
    · refine ⟨c, [], h, isSpace_of_mem_marks hmem, ?_⟩
      rintro rfl
      exact absurd hmem (by decide)
  | stop => exact absurd rfl hkind

/-! ### Whole texts -/

theorem tokensFrom?_comment {gap : List Char} (hgap : ∀ c ∈ gap, isSpace c = true) (c : Comment)
    (hnull : ∀ d ∈ c.written.toList, d ≠ '\x00') {rest : List Char}
    (hrest : rest.head? = some '\n') (fuel : Nat) (lead : List Tree) :
    tokensFrom? (fuel + 1) lead (gap ++ (c.written.toList ++ rest)) =
      tokensFrom? fuel (lead ++ [comment gap c.written.toList]) rest := by
  have hslash : ∀ cs, ∀ d ∈ ('/' :: cs).head?, isSpace d = false := by
    intro cs d hd
    obtain rfl : '/' = d := by simpa using hd
    decide
  cases c with
  | line text inLine =>
    have hwritten : (Comment.line text inLine).written.toList = '/' :: '/' :: text.toList := by
      simp [Comment.written]
    rw [hwritten] at hnull
    rw [hwritten, List.cons_append, List.cons_append, tokensFrom?, takeWhile_run hgap (hslash _),
      dropWhile_run hgap (hslash _)]
    have hin : ∀ d ∈ text.toList, isInLine d = true := by
      intro d hd
      have h := hnull d (by simp [hd])
      simp [isInLine, inLine d hd, h]
    have hend : ∀ d ∈ rest.head?, isInLine d = false := by
      intro d hd
      rw [hrest, Option.mem_some_iff] at hd
      rw [← hd]
      decide
    show tokensFrom? fuel
      (lead ++ [comment gap ('/' :: '/' :: (text.toList ++ rest).takeWhile isInLine)])
      ((text.toList ++ rest).dropWhile isInLine) = _
    rw [takeWhile_run hin hend, dropWhile_run hin hend]
  | block text isOpen =>
    have hwritten : (Comment.block text isOpen).written.toList =
        '/' :: '*' :: (text.toList ++ ['*', '/']) := by
      simp [Comment.written]
    rw [hwritten] at hnull
    rw [hwritten, List.cons_append, List.cons_append, tokensFrom?, takeWhile_run hgap (hslash _),
      dropWhile_run hgap (hslash _), List.append_assoc]
    have hsplit := splitComment?_written text.toList rest isOpen fun d hd => hnull d (by simp [hd])
    show (splitComment? (text.toList ++ (['*', '/'] ++ rest))).bind _ = _
    rw [List.cons_append, List.cons_append, List.nil_append, hsplit]
    rfl

theorem mem_commentChars {gap : List Char} {cs : List Comment} {c : Comment} (hc : c ∈ cs)
    {d : Char} (hd : d ∈ c.written.toList) : d ∈ commentChars gap cs :=
  List.mem_flatMap.mpr ⟨c, hc, List.mem_append_right _ hd⟩

theorem tokensFrom?_comments {gap : List Char} (hgap : ∀ c ∈ gap, isSpace c = true)
    {cs : List Comment} (hline : cs = [] ∨ gap.head? = some '\n') (rest : List Char) (fuel : Nat)
    (hnull : ∀ c ∈ cs, ∀ d ∈ c.written.toList, d ≠ '\x00') (lead : List Tree) :
    tokensFrom? (fuel + cs.length) lead (commentChars gap cs ++ (gap ++ rest)) =
      tokensFrom? fuel (lead ++ cs.map fun c => comment gap c.written.toList) (gap ++ rest) := by
  induction cs generalizing lead with
  | nil => rw [List.map_nil, List.append_nil]; rfl
  | cons c cs ih =>
    have hgap' : gap.head? = some '\n' := hline.resolve_left (List.cons_ne_nil c cs)
    have hhead : (commentChars gap cs ++ (gap ++ rest)).head? = some '\n' := by
      cases cs with
      | nil => simp [commentChars, hgap']
      | cons d cs => simp [commentChars, hgap']
    have hcons : commentChars gap (c :: cs) ++ (gap ++ rest)
        = gap ++ (c.written.toList ++ (commentChars gap cs ++ (gap ++ rest))) := by
      simp [commentChars]
    rw [hcons, List.length_cons, ← Nat.add_assoc,
      tokensFrom?_comment hgap c (hnull c List.mem_cons_self) hhead,
      ih (.inr hgap') fun d hd => hnull d (List.mem_cons_of_mem c hd), List.map_cons,
      List.append_assoc]
    rfl

theorem tokensFrom?_body (hp : p.Fit) (hkind : p.kind ≠ .stop) (hnull : ∀ c ∈ p.body, c ≠ '\x00')
    {rest : List Char} (hrest : ∀ d ∈ rest.head?, p.endsBefore d = true) (fuel : Nat)
    (lead : List Tree) :
    tokensFrom? (fuel + 1) lead (p.gap.toList ++ (p.body ++ rest)) =
      (tokensFrom? fuel [] rest).map (⟨lead, p.gap, p.kind, p.text⟩ :: ·) := by
  obtain ⟨c, cs, hbody, hspace, hslash⟩ := body_eq_cons hp hkind
  have hend : ∀ d ∈ (p.body ++ rest).head?, isSpace d = false := by
    intro d hd
    rw [hbody, List.cons_append, List.head?_cons, Option.mem_some_iff] at hd
    rw [← hd, hspace]
  have hsplit := splitToken?_body hp hkind hnull hrest
  rw [tokensFrom?, takeWhile_run hp.gap hend, dropWhile_run hp.gap hend]
  rw [hbody, List.cons_append] at hsplit ⊢
  split
  · next h => simp at h
  · next h =>
    rw [List.cons.injEq] at h
    exact absurd h.1 hslash
  · next h =>
    rw [List.cons.injEq] at h
    exact absurd h.1 hslash
  · rw [hsplit, Option.bind_some, String.ofList_toList, String.ofList_toList]

theorem tokensFrom?_chars (hp : p.Fit) (hkind : p.kind ≠ .stop) (hnull : ∀ c ∈ p.chars, c ≠ '\x00')
    {rest : List Char} (hrest : ∀ d ∈ rest.head?, p.endsBefore d = true) (fuel : Nat) :
    tokensFrom? (fuel + 1 + p.comments.length) [] (p.chars ++ rest) =
      (tokensFrom? fuel [] rest).map (p.token :: ·) := by
  have hcomments : ∀ c ∈ p.comments, ∀ d ∈ c.written.toList, d ≠ '\x00' := fun c hc d hd =>
    hnull d (List.mem_append_left _ (List.mem_append_left _ (mem_commentChars hc hd)))
  have hbody : ∀ c ∈ p.body, c ≠ '\x00' := fun c hc => hnull c (List.mem_append_right _ hc)
  rw [chars, List.append_assoc, List.append_assoc,
    tokensFrom?_comments hp.gap hp.onLine _ _ hcomments, tokensFrom?_body hp hkind hbody hrest,
    List.nil_append]
  rfl

theorem tokensFrom?_stop (hp : p.Fit) (hkind : p.kind = .stop) (hnull : ∀ c ∈ p.chars, c ≠ '\x00')
    (fuel : Nat) : tokensFrom? (fuel + 1 + p.comments.length) [] p.chars = some [p.token] := by
  obtain ⟨comments, gap, kind, text⟩ := p
  obtain rfl : kind = .stop := hkind
  have htext : text = "" := by
    have h := hp.body
    simpa [isBody] using h
  subst htext
  have hcomments : ∀ c ∈ comments, ∀ d ∈ c.written.toList, d ≠ '\x00' := fun c hc d hd =>
    hnull d (List.mem_append_left _ (List.mem_append_left _ (mem_commentChars hc hd)))
  have hgap : ∀ c ∈ gap.toList, isSpace c = true := hp.gap
  have hnone : ∀ d ∈ ([] : List Char).head?, isSpace d = false := by simp
  have htake := takeWhile_run hgap hnone
  have hdrop := dropWhile_run hgap hnone
  rw [chars, List.append_assoc]
  show tokensFrom? _ _ (commentChars gap.toList comments ++ (gap.toList ++ [])) = _
  rw [tokensFrom?_comments hgap hp.onLine _ _ hcomments, tokensFrom?, htake, hdrop]
  simp [token]

theorem length_comments_le (p : Printed) : p.comments.length + p.body.length ≤ p.chars.length := by
  have h : ∀ cs : List Comment, cs.length ≤ (commentChars p.gap.toList cs).length := by
    intro cs
    induction cs with
    | nil => exact Nat.zero_le _
    | cons c cs ih =>
      have hc : 0 < c.written.toList.length := by cases c <;> simp [Comment.written]
      rw [commentChars, List.flatMap_cons, List.length_append, List.length_append, List.length_cons]
      rw [commentChars] at ih
      omega
  have hc := h p.comments
  rw [chars, List.length_append, List.length_append]
  omega

/-- printed tokens that are fit and do not run into each other -/
def Legible (ps : List Printed) : Prop := (∀ p ∈ ps, p.Fit) ∧ ps.IsChain Before

/-- a token ends before what is printed behind it -/
theorem endsBefore_of_legible {p stop : Printed} {ps : List Printed}
    (hps : ∀ q ∈ ps, q.kind ≠ .stop) (hlegible : Legible (p :: ps ++ [stop])) :
    ∀ d ∈ ((ps ++ [stop]).flatMap chars).head?, p.endsBefore d = true := by
  cases ps with
  | nil =>
    have hbefore : p.Before stop := hlegible.2.rel
    rw [List.nil_append, List.flatMap_cons, List.flatMap_nil, List.append_nil]
    exact hbefore
  | cons q qs =>
    have hbefore : p.Before q := hlegible.2.rel
    obtain ⟨c, cs, hq, -⟩ := body_eq_cons (hlegible.1 q (by simp)) (hps q List.mem_cons_self)
    intro d hd
    rw [List.cons_append, List.flatMap_cons, List.head?_append_of_ne_nil _
      (by rw [chars, hq]; simp)] at hd
    exact hbefore d hd

theorem tokensFrom?_printed {stop : Printed} (hstop : stop.kind = .stop) (ps : List Printed)
    (hps : ∀ p ∈ ps, p.kind ≠ .stop) (hlegible : Legible (ps ++ [stop]))
    (hnull : ∀ c ∈ (ps ++ [stop]).flatMap chars, c ≠ '\x00') (fuel : Nat)
    (hfuel : ((ps ++ [stop]).flatMap chars).length < fuel) :
    tokensFrom? fuel [] ((ps ++ [stop]).flatMap chars) = some ((ps ++ [stop]).map token) := by
  induction ps generalizing fuel with
  | nil =>
    rw [List.nil_append, List.flatMap_cons, List.flatMap_nil, List.append_nil] at hnull hfuel ⊢
    have hlength := length_comments_le stop
    obtain ⟨n, rfl⟩ : ∃ n, fuel = n + 1 + stop.comments.length :=
      ⟨fuel - 1 - stop.comments.length, by omega⟩
    exact tokensFrom?_stop (hlegible.1 stop (by simp)) hstop hnull n
  | cons p ps ih =>
    have hkind : p.kind ≠ .stop := hps p List.mem_cons_self
    have hps' : ∀ q ∈ ps, q.kind ≠ .stop := fun q hq => hps q (List.mem_cons_of_mem p hq)
    have hnext := endsBefore_of_legible hps' hlegible
    have hp : p.Fit := hlegible.1 p (by simp)
    have hlegible' : Legible (ps ++ [stop]) :=
      ⟨fun q hq => hlegible.1 q (List.mem_cons_of_mem p hq), (List.isChain_cons.mp hlegible.2).2⟩
    rw [List.cons_append, List.flatMap_cons] at hnull hfuel ⊢
    rw [List.forall_mem_append] at hnull
    -- what is printed of one token takes at least one step
    have hbody : 0 < p.body.length := by
      obtain ⟨c, cs, h, -⟩ := body_eq_cons hp hkind
      rw [h]
      exact Nat.succ_pos _
    have hlength := length_comments_le p
    rw [List.length_append] at hfuel
    obtain ⟨n, rfl⟩ : ∃ n, fuel = n + 1 + p.comments.length :=
      ⟨fuel - 1 - p.comments.length, by omega⟩
    rw [tokensFrom?_chars hp hkind hnull.1 hnext, ih hps' hlegible' hnull.2 n (by omega)]
    rfl

/-- printed tokens are read as they are -/
theorem tokens?_printed {ps : List Printed} {stop : Printed} (hstop : stop.kind = .stop)
    (hps : ∀ p ∈ ps, p.kind ≠ .stop) (hlegible : Legible (ps ++ [stop]))
    (hnull : ∀ c ∈ (ps ++ [stop]).flatMap chars, c ≠ '\x00') :
    tokens? ((ps ++ [stop]).flatMap chars) = some ((ps ++ [stop]).map token) :=
  tokensFrom?_printed hstop ps hps hlegible hnull _ (Nat.lt_succ_self _)

end Printed

end EndpointScaffold.CSharp.Plain
