import EndpointScaffold.Proofs.Text.Splitting
import Mathlib.Data.List.Forall2

/-!
# Tokens with blanks between them

A text may have any blanks before, between and behind its tokens. A firm token begins and ends with
something else, so that blanks around it can be told from it.

* `isBlank_eq_false_of_class` classes of characters without blanks, `IsFirm` firm tokens;
* `Begins` tokens at the start of a text, `begins_cons_iff` the first of them, `begins_append` those
  that follow, `begins_dropAround_iff` without blanks around the text;
* `Spelled` a text of tokens, `spelled_iff_dropAround` without what is around them;
* `spelled_separated` tokens in parts, with a separator between the parts.
-/

namespace EndpointScaffold.Text

/-! ### Blanks -/

def blankCodes : List Nat :=
  [32, 9, 10, 11, 12, 13, 28, 29, 30, 31, 0x85, 0xA0, 0x1680, 0x2000, 0x2001, 0x2002, 0x2003,
    0x2004, 0x2005, 0x2006, 0x2007, 0x2008, 0x2009, 0x200A, 0x2028, 0x2029, 0x202F, 0x205F, 0x3000]

theorem toNat_mem_blankCodes {c : Char} (h : isBlank c = true) : c.toNat ∈ blankCodes := by
  unfold isBlank at h
  simp only [Bool.or_eq_true, Bool.and_eq_true, beq_iff_eq, decide_eq_true_eq] at h
  simp only [blankCodes, List.mem_cons, List.not_mem_nil, or_false]
  omega

/-- a class without blanks is found by looking at each of them -/
theorem isBlank_eq_false_of_class {p : Char → Bool} (h : ∀ n ∈ blankCodes, p (Char.ofNat n) = false)
    {c : Char} (hc : p c = true) : isBlank c = false := by
  rw [Bool.eq_false_iff]
  intro hblank
  have hcode := h c.toNat (toNat_mem_blankCodes hblank)
  rw [Char.ofNat_toNat, hc] at hcode
  cases hcode

theorem isBlank_of_isWordChar {c : Char} (h : isWordChar c = true) : isBlank c = false :=
  isBlank_eq_false_of_class (by decide +kernel) h

theorem isBlank_of_isDecimalDigit {c : Char} (h : isDecimalDigit c = true) : isBlank c = false :=
  isBlank_eq_false_of_class (by decide) h

def AreBlanks (cs : List Char) : Prop := ∀ c ∈ cs, isBlank c = true

theorem areBlanks_nil : AreBlanks [] := nofun

theorem AreBlanks.append {as bs : List Char} (has : AreBlanks as) (hbs : AreBlanks bs) :
    AreBlanks (as ++ bs) := List.forall_mem_append.2 ⟨has, hbs⟩

theorem areBlanks_takeWhile (cs : List Char) : AreBlanks (cs.takeWhile isBlank) :=
  fun _ => List.mem_takeWhile_imp

/-- trimming leaves out blanks at both ends -/
theorem exists_dropAround (cs : List Char) : ∃ front back, AreBlanks front ∧ AreBlanks back ∧
    cs = front ++ dropAround isBlank cs ++ back := by
  obtain ⟨back, hback, h⟩ := exists_dropEndWhile isBlank (cs.dropWhile isBlank)
  refine ⟨cs.takeWhile isBlank, back, areBlanks_takeWhile cs, hback, ?_⟩
  rw [List.append_assoc, dropAround, ← h, List.takeWhile_append_dropWhile]

/-! ### Tokens -/

/-- begins and ends with something other than a blank -/
structure IsFirm (token : List Char) : Prop where
  ne_nil : token ≠ []
  first : ∀ c ∈ token.head?, isBlank c = false
  last : ∀ c ∈ token.getLast?, isBlank c = false

instance (token : List Char) : Decidable (IsFirm token) :=
  decidable_of_iff (token ≠ [] ∧ token.head?.all (fun c => !isBlank c) = true ∧
      token.getLast?.all (fun c => !isBlank c) = true) (by
    simp only [Option.all_eq_true, Bool.not_eq_true']
    exact ⟨fun h => ⟨h.1, h.2.1, h.2.2⟩, fun h => ⟨h.ne_nil, h.first, h.last⟩⟩)

/-- without blanks at all -/
theorem isFirm_of_forall {token : List Char} (hne : token ≠ [])
    (h : ∀ c ∈ token, isBlank c = false) : IsFirm token :=
  ⟨hne, fun c hc => h c (List.mem_of_mem_head? hc), fun c hc => h c (List.mem_of_mem_getLast? hc)⟩

theorem IsFirm.append {as bs : List Char} (has : IsFirm as) (hbs : IsFirm bs) :
    IsFirm (as ++ bs) where
  ne_nil := List.append_ne_nil_of_left_ne_nil has.ne_nil bs
  first := by
    rw [List.head?_append_of_ne_nil _ has.ne_nil]
    exact has.first
  last := by
    rw [List.getLast?_append_of_ne_nil _ hbs.ne_nil]
    exact hbs.last

/-- a text between two marks -/
def enclosed (opening closing : Char) (inside : List Char) : List Char :=
  opening :: (inside ++ [closing])

theorem isFirm_enclosed {opening closing : Char} (hopening : isBlank opening = false)
    (hclosing : isBlank closing = false) (inside : List Char) :
    IsFirm (enclosed opening closing inside) where
  ne_nil := List.cons_ne_nil _ _
  first c hc := by
    obtain rfl := Option.some.inj hc
    exact hopening
  last c hc := by
    rw [enclosed, ← List.cons_append, List.getLast?_concat] at hc
    obtain rfl := Option.some.inj hc
    exact hclosing

theorem eq_concat_iff {cs inside : List Char} {c : Char} :
    cs = inside ++ [c] ↔ cs.getLast? = some c ∧ cs.dropLast = inside := by
  rw [List.getLast?_eq_some_iff]
  constructor
  · rintro rfl
    exact ⟨⟨inside, rfl⟩, List.dropLast_concat⟩
  · rintro ⟨⟨front, rfl⟩, h⟩
    rw [← h, List.dropLast_concat]

/-- tokens at the start of a text, with any blanks before each of them, and what follows them -/
def Begins : List (List Char) → List Char → List Char → Prop
  | [], rest, cs => cs = rest
  | token :: tokens, rest, cs =>
    ∃ blanks more, AreBlanks blanks ∧ cs = blanks ++ token ++ more ∧ Begins tokens rest more

/-- a text of tokens with any blanks before, between and behind them -/
def Spelled (tokens : List (List Char)) (cs : List Char) : Prop :=
  ∃ rest, AreBlanks rest ∧ Begins tokens rest cs

variable {token : List Char} {tokens ts us : List (List Char)} {cs rest : List Char}

theorem begins_append :
    Begins (ts ++ us) rest cs ↔ ∃ mid, Begins ts mid cs ∧ Begins us rest mid := by
  induction ts generalizing cs with
  | nil => exact ⟨fun h => ⟨cs, rfl, h⟩, fun ⟨mid, hmid, h⟩ => (show cs = mid from hmid) ▸ h⟩
  | cons t ts ih =>
    constructor
    · rintro ⟨blanks, more, hblanks, hcs, hmore⟩
      obtain ⟨mid, hts, hus⟩ := ih.1 hmore
      exact ⟨mid, ⟨blanks, more, hblanks, hcs, hts⟩, hus⟩
    · rintro ⟨mid, ⟨blanks, more, hblanks, hcs, hts⟩, hus⟩
      exact ⟨blanks, more, hblanks, hcs, ih.2 ⟨mid, hts, hus⟩⟩

theorem IsFirm.dropWhile_append (h : IsFirm token) {blanks : List Char} (hblanks : AreBlanks blanks)
    (more : List Char) : (blanks ++ token ++ more).dropWhile isBlank = token ++ more := by
  rw [List.append_assoc, List.dropWhile_append_of_pos hblanks]
  exact dropWhile_eq_self (by rw [List.head?_append_of_ne_nil _ h.ne_nil]; exact h.first)

theorem begins_cons :
    Begins (token :: tokens) rest cs ↔ ∃ mid, Begins [token] mid cs ∧ Begins tokens rest mid := by
  show Begins ([token] ++ tokens) rest cs ↔ _
  exact begins_append

/-- the first token is found behind the blanks -/
theorem begins_cons_iff (h : IsFirm token) : Begins (token :: tokens) rest cs ↔
    ∃ more, cs.dropWhile isBlank = token ++ more ∧ Begins tokens rest more := by
  constructor
  · rintro ⟨blanks, more, hblanks, rfl, hmore⟩
    exact ⟨more, h.dropWhile_append hblanks more, hmore⟩
  · rintro ⟨more, hdrop, hmore⟩
    refine ⟨cs.takeWhile isBlank, more, areBlanks_takeWhile cs, ?_, hmore⟩
    rw [List.append_assoc, ← hdrop, List.takeWhile_append_dropWhile]

theorem begins_dropWhile (h : IsFirm token) :
    Begins (token :: tokens) rest (cs.dropWhile isBlank) ↔ Begins (token :: tokens) rest cs := by
  rw [begins_cons_iff h, begins_cons_iff h, dropWhile_eq_self (head?_dropWhile isBlank cs)]

theorem begins_cons_iff_of_head (h : IsFirm token) (hcs : ∀ c ∈ cs.head?, isBlank c = false) :
    Begins (token :: tokens) rest cs ↔ ∃ more, cs = token ++ more ∧ Begins tokens rest more := by
  rw [begins_cons_iff h, dropWhile_eq_self hcs]

/-- the first token tells what a text begins with -/
theorem Begins.head?_eq (h : Begins (token :: tokens) rest cs) (htoken : IsFirm token) :
    (cs.dropWhile isBlank).head? = token.head? := by
  obtain ⟨more, hcs, -⟩ := (begins_cons_iff htoken).1 h
  rw [hcs, List.head?_append_of_ne_nil _ htoken.ne_nil]

/-- behind a common token stands the same -/
theorem Begins.exists_behind {rest' : List Char} (h : Begins (token :: ts) rest cs)
    (h' : Begins (token :: us) rest' cs) (htoken : IsFirm token) :
    ∃ more, Begins ts rest more ∧ Begins us rest' more := by
  obtain ⟨more, hcs, h⟩ := (begins_cons_iff htoken).1 h
  obtain ⟨more', hcs', h'⟩ := (begins_cons_iff htoken).1 h'
  obtain rfl := List.append_cancel_left (hcs.symm.trans hcs')
  exact ⟨more, h, h'⟩

theorem begins_iff_append :
    Begins tokens rest cs ↔ ∃ body, cs = body ++ rest ∧ Begins tokens [] body := by
  induction tokens generalizing cs with
  | nil =>
    refine ⟨fun h => ⟨[], h, rfl⟩, fun ⟨body, hcs, hbody⟩ => ?_⟩
    rw [show body = [] from hbody] at hcs
    exact hcs
  | cons t ts ih =>
    constructor
    · rintro ⟨blanks, more, hblanks, rfl, hmore⟩
      obtain ⟨body, rfl, hbody⟩ := ih.1 hmore
      exact ⟨blanks ++ t ++ body, by rw [List.append_assoc _ body],
        blanks, body, hblanks, rfl, hbody⟩
    · rintro ⟨body, rfl, blanks, more, hblanks, rfl, hmore⟩
      exact ⟨blanks, more ++ rest, hblanks, by rw [List.append_assoc _ more],
        ih.2 ⟨more, rfl, hmore⟩⟩

theorem Begins.behind (h : Begins tokens rest cs) (hne : tokens ≠ []) {blanks : List Char}
    (hblanks : AreBlanks blanks) : Begins tokens rest (blanks ++ cs) := by
  cases tokens with
  | nil => exact absurd rfl hne
  | cons t ts =>
    obtain ⟨own, more, hown, rfl, hmore⟩ := h
    exact ⟨blanks ++ own, more, hblanks.append hown, by simp only [List.append_assoc], hmore⟩

/-- a text that ends with its last token ends with something other than a blank -/
theorem isFirm_of_begins (h : Begins (token :: tokens) [] (token ++ cs))
    (hfirm : ∀ t ∈ token :: tokens, IsFirm t) : IsFirm (token ++ cs) := by
  have hmore : ∀ {tokens : List (List Char)} {cs : List Char}, Begins tokens [] cs →
      (∀ t ∈ tokens, IsFirm t) → ∀ c ∈ cs.getLast?, isBlank c = false := by
    intro tokens
    induction tokens with
    | nil =>
      intro cs h _
      rw [show cs = [] from h]
      exact nofun
    | cons t ts ih =>
      rintro cs ⟨blanks, more, -, rfl, hmore⟩ hfirm c hc
      rw [List.forall_mem_cons] at hfirm
      by_cases hnil : more = []
      · rw [hnil, List.append_nil, List.getLast?_append_of_ne_nil _ hfirm.1.ne_nil] at hc
        exact hfirm.1.last c hc
      · rw [List.getLast?_append_of_ne_nil _ hnil] at hc
        exact ih hmore hfirm.2 c hc
  have hfirst := hfirm token List.mem_cons_self
  exact ⟨List.append_ne_nil_of_left_ne_nil hfirst.ne_nil cs,
    by rw [List.head?_append_of_ne_nil _ hfirst.ne_nil]; exact hfirst.first, hmore h hfirm⟩

/-- trimming leaves the tokens alone -/
theorem spelled_iff_dropAround (hne : tokens ≠ []) (hfirm : ∀ t ∈ tokens, IsFirm t) :
    Spelled tokens cs ↔ Begins tokens [] (dropAround isBlank cs) := by
  constructor
  · rintro ⟨rest, hrest, h⟩
    obtain ⟨body, rfl, hbody⟩ := begins_iff_append.1 h
    cases tokens with
    | nil => exact absurd rfl hne
    | cons t ts =>
      obtain ⟨blanks, more, hblanks, rfl, hmore⟩ := hbody
      have hcore : Begins (t :: ts) [] (t ++ more) := ⟨[], more, areBlanks_nil, rfl, hmore⟩
      have hends := isFirm_of_begins hcore hfirm
      rw [List.append_assoc blanks,
        dropAround_append hends.ne_nil hblanks hrest hends.first hends.last]
      exact hcore
  · intro h
    obtain ⟨front, back, hfront, hback, hcs⟩ := exists_dropAround cs
    refine ⟨back, hback, ?_⟩
    rw [hcs, List.append_assoc]
    exact (begins_iff_append.2 ⟨_, rfl, h⟩).behind hne hfront

theorem dropAround_dropAround (cs : List Char) :
    dropAround isBlank (dropAround isBlank cs) = dropAround isBlank cs := by
  refine dropAround_eq_self (head?_dropAround isBlank cs) fun c hc => ?_
  rw [dropAround, dropEndWhile, List.getLast?_reverse] at hc
  exact head?_dropWhile isBlank _ c hc

theorem spelled_dropAround (hne : tokens ≠ []) (hfirm : ∀ t ∈ tokens, IsFirm t) :
    Spelled tokens (dropAround isBlank cs) ↔ Spelled tokens cs := by
  rw [spelled_iff_dropAround hne hfirm, spelled_iff_dropAround hne hfirm, dropAround_dropAround]

/-- trimming leaves alone what stands behind tokens, up to blanks -/
theorem begins_dropAround_iff {p : Char → Bool} (hp : ∀ c, isBlank c = true → p c = false)
    (hne : tokens ≠ []) (hfirm : ∀ t ∈ tokens, IsFirm t) :
    (∃ rest, Begins tokens rest (dropAround isBlank cs) ∧ ∀ c ∈ rest.head?, p c = false) ↔
      ∃ rest, Begins tokens rest cs ∧ ∀ c ∈ rest.head?, p c = false := by
  constructor
  · rintro ⟨rest, h, hrest⟩
    obtain ⟨front, back, hfront, hback, hcs⟩ := exists_dropAround cs
    obtain ⟨body, hbody, h⟩ := begins_iff_append.1 h
    refine ⟨rest ++ back, ?_, fun c hc => ?_⟩
    · rw [hcs, hbody, List.append_assoc, List.append_assoc]
      exact (begins_iff_append.2 ⟨body, rfl, h⟩).behind hne hfront
    · rw [List.head?_append] at hc
      cases rest with
      | nil => exact hp c (hback c (List.mem_of_mem_head? hc))
      | cons d rest => exact hrest c hc
  · rintro ⟨rest, h, hrest⟩
    cases tokens with
    | nil => exact absurd rfl hne
    | cons t ts =>
      obtain ⟨blanks, more, hblanks, rfl, hmore⟩ := h
      obtain ⟨body, rfl, hbody⟩ := begins_iff_append.1 hmore
      have hcore : Begins (t :: ts) [] (t ++ body) := ⟨[], body, areBlanks_nil, rfl, hbody⟩
      have htrim : dropAround isBlank (blanks ++ t ++ (body ++ rest)) =
          (t ++ body) ++ dropEndWhile isBlank rest := by
        rw [dropAround, (hfirm t List.mem_cons_self).dropWhile_append hblanks, ← List.append_assoc,
          dropEndWhile_append_of_last (isFirm_of_begins hcore hfirm).last]
      refine ⟨_, begins_iff_append.2 ⟨t ++ body, htrim, hcore⟩, fun c hc => hrest c ?_⟩
      obtain ⟨back, -, hkept⟩ := exists_dropEndWhile isBlank rest
      rw [hkept, List.head?_append, hc]
      rfl

theorem spelled_nil_iff : Spelled [] cs ↔ AreBlanks cs :=
  ⟨fun ⟨rest, hrest, h⟩ => (show cs = rest from h) ▸ hrest, fun h => ⟨cs, h, rfl⟩⟩

theorem Spelled.not_areBlanks (h : Spelled (token :: tokens) cs) (htoken : IsFirm token) :
    ¬ AreBlanks cs := by
  obtain ⟨rest, -, blanks, more, -, rfl, -⟩ := h
  intro hall
  obtain ⟨c, token, rfl⟩ := List.exists_cons_of_ne_nil htoken.ne_nil
  have hblank := hall c (by simp)
  rw [htoken.first c rfl] at hblank
  cases hblank

theorem spelled_append : Spelled (ts ++ us) cs ↔ ∃ mid, Begins ts mid cs ∧ Spelled us mid := by
  constructor
  · rintro ⟨rest, hrest, h⟩
    obtain ⟨mid, hts, hus⟩ := begins_append.1 h
    exact ⟨mid, hts, rest, hrest, hus⟩
  · rintro ⟨mid, hts, rest, hrest, hus⟩
    exact ⟨rest, hrest, begins_append.2 ⟨mid, hts, hus⟩⟩

/-- what stands before the last token -/
theorem begins_concat :
    Begins (ts ++ [token]) [] cs ↔ ∃ inside, cs = inside ++ token ∧ Spelled ts inside := by
  constructor
  · intro h
    obtain ⟨mid, hts, blanks, more, hblanks, rfl, hmore⟩ := begins_append.1 h
    obtain ⟨body, rfl, hbody⟩ := begins_iff_append.1 hts
    obtain rfl : more = [] := hmore
    exact ⟨body ++ blanks, by simp, blanks, hblanks, begins_iff_append.2 ⟨body, rfl, hbody⟩⟩
  · rintro ⟨inside, rfl, blanks, hblanks, hts⟩
    obtain ⟨body, rfl, hbody⟩ := begins_iff_append.1 hts
    exact begins_append.2 ⟨blanks ++ token, begins_iff_append.2 ⟨body, by simp, hbody⟩,
      blanks, [], hblanks, by simp, rfl⟩

/-! ### Separated parts -/

variable {sep : Char} {parts : List (List (List Char))}

theorem spelled_append_cons : Spelled (ts ++ [sep] :: us) cs ↔
    ∃ as bs, cs = as ++ sep :: bs ∧ Spelled ts as ∧ Spelled us bs := by
  constructor
  · rintro ⟨rest, hrest, h⟩
    obtain ⟨mid, hts, blanks, more, hblanks, rfl, hus⟩ := begins_append.1 h
    obtain ⟨body, rfl, hbody⟩ := begins_iff_append.1 hts
    exact ⟨body ++ blanks, more, by simp, ⟨blanks, hblanks, begins_iff_append.2 ⟨body, rfl, hbody⟩⟩,
      rest, hrest, hus⟩
  · rintro ⟨as, bs, rfl, ⟨blanks, hblanks, hts⟩, rest, hrest, hus⟩
    obtain ⟨body, rfl, hbody⟩ := begins_iff_append.1 hts
    refine ⟨rest, hrest, begins_append.2 ⟨blanks ++ sep :: bs, ?_, ?_⟩⟩
    · exact begins_iff_append.2 ⟨body, by simp, hbody⟩
    · exact ⟨blanks, bs, hblanks, by simp, hus⟩

theorem Spelled.not_mem {d : Char} (h : Spelled tokens cs) (hd : isBlank d = false)
    (htokens : ∀ t ∈ tokens, d ∉ t) : d ∉ cs := by
  have hblanks : ∀ {blanks : List Char}, AreBlanks blanks → d ∉ blanks := fun hblanks hmem => by
    rw [hblanks d hmem] at hd
    cases hd
  obtain ⟨rest, hrest, h⟩ := h
  induction tokens generalizing cs with
  | nil =>
    rw [show cs = rest from h]
    exact hblanks hrest
  | cons t ts ih =>
    obtain ⟨blanks, more, hrun, rfl, hmore⟩ := h
    rw [List.forall_mem_cons] at htokens
    simp only [List.mem_append, not_or]
    exact ⟨⟨hblanks hrun, htokens.1⟩, ih htokens.2 hmore⟩

theorem Spelled.mem {d : Char} (h : Spelled tokens cs) (htoken : token ∈ tokens) (hd : d ∈ token) :
    d ∈ cs := by
  obtain ⟨rest, -, h⟩ := h
  induction tokens generalizing cs with
  | nil => cases htoken
  | cons t ts ih =>
    obtain ⟨blanks, more, -, rfl, hmore⟩ := h
    simp only [List.mem_append]
    rcases List.mem_cons.1 htoken with rfl | htoken
    · exact .inl (.inr hd)
    · exact .inr (ih htoken hmore)

theorem mem_separated (h : token ∈ [[sep]].intercalate parts) :
    token = [sep] ∨ ∃ part ∈ parts, token ∈ part := by
  induction parts with
  | nil => cases h
  | cons part parts ih =>
    cases parts with
    | nil =>
      rw [List.intercalate_singleton] at h
      exact .inr ⟨part, List.mem_cons_self, h⟩
    | cons next parts =>
      rw [List.intercalate_cons_cons, List.mem_append, List.mem_append, List.mem_singleton] at h
      rcases h with (h | h) | h
      · exact .inr ⟨part, List.mem_cons_self, h⟩
      · exact .inl h
      · exact (ih h).imp_right fun ⟨other, hother, h⟩ => ⟨other, List.mem_cons_of_mem part hother, h⟩

/-- the first piece ends at the first separator, or there is no other -/
theorem splitChars_eq_cons {piece : List Char} {pieces : List (List Char)}
    (h : splitChars sep cs = piece :: pieces) :
    (pieces = [] ∧ cs = piece) ∨ ∃ bs, cs = piece ++ sep :: bs ∧ splitChars sep bs = pieces := by
  by_cases hsep : sep ∈ cs
  · obtain ⟨as, bs, rfl, has⟩ := List.eq_append_cons_of_mem hsep
    rw [splitChars_append, splitChars_of_not_mem has, List.singleton_append, List.cons.injEq] at h
    obtain ⟨rfl, hpieces⟩ := h
    exact .inr ⟨bs, rfl, hpieces⟩
  · rw [splitChars_of_not_mem hsep, List.cons.injEq] at h
    exact .inl ⟨h.2.symm, h.1⟩

/-- parts with a separator between them are the pieces that a text is split into -/
theorem spelled_separated (hsep : isBlank sep = false) (hne : parts ≠ [])
    (htokens : ∀ part ∈ parts, ∀ t ∈ part, sep ∉ t) :
    Spelled ([[sep]].intercalate parts) cs ↔ List.Forall₂ Spelled parts (splitChars sep cs) := by
  induction parts generalizing cs with
  | nil => exact absurd rfl hne
  | cons part parts ih =>
    rw [List.forall_mem_cons] at htokens
    cases parts with
    | nil =>
      rw [List.intercalate_singleton]
      constructor
      · intro h
        rw [splitChars_of_not_mem (h.not_mem hsep htokens.1)]
        exact .cons h .nil
      · intro h
        obtain ⟨piece, pieces, hpiece, hrest, hsplit⟩ := List.forall₂_cons_left_iff.1 h
        rcases splitChars_eq_cons hsplit with ⟨-, rfl⟩ | ⟨bs, -, hbs⟩
        · exact hpiece
        · obtain rfl := List.forall₂_nil_left_iff.1 hrest
          exact absurd hbs (splitChars_ne_nil sep bs)
    | cons next parts =>
      rw [List.intercalate_cons_cons, List.append_assoc, List.singleton_append, spelled_append_cons]
      constructor
      · rintro ⟨as, bs, rfl, has, hbs⟩
        rw [splitChars_append, splitChars_of_not_mem (has.not_mem hsep htokens.1),
          List.singleton_append]
        exact .cons has ((ih (List.cons_ne_nil _ _) htokens.2).1 hbs)
      · intro h
        obtain ⟨piece, pieces, hpiece, hrest, hsplit⟩ := List.forall₂_cons_left_iff.1 h
        rcases splitChars_eq_cons hsplit with ⟨rfl, -⟩ | ⟨bs, rfl, rfl⟩
        · cases hrest
        · exact ⟨piece, bs, rfl, hpiece, (ih (List.cons_ne_nil _ _) htokens.2).2 hrest⟩

end EndpointScaffold.Text
