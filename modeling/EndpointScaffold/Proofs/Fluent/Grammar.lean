import EndpointScaffold.Fluent.Selector
import EndpointScaffold.Proofs.Text.Spacing
import Mathlib.Data.List.ReduceOption

/-!
# The grammar of selectors

A selector is a parameter, an arrow, and behind it one member of the parameter or an object of
several, up to blanks between these tokens. Here reading is compared with that grammar, in both
directions.

* `IsName`, `IsMember` names of parameters and of members;
* `Picked` what stands behind the arrow, `Selector` all of it, `Selector.tokens` how it is written;
* `takeParameter_eq_some_iff`, `lambdaParts?_eq_some_iff`, `accessedMember?_eq_some_iff`,
  `accessedMembers?_eq_some_iff`, `anonymousObject?_eq_some_iff` what each reader accepts;
* `selected_iff` what is selected by a text.
-/

namespace EndpointScaffold.Fluent

open Text

/-! ### The grammar -/

/-- a letter or an underscore, then word characters -/
def IsName : List Char → Prop
  | [] => False
  | c :: cs => isNameStart c = true ∧ ∀ d ∈ cs, isWordChar d = true

/-- a name, with or without an `@` before it -/
def IsMember (cs : List Char) : Prop := IsName cs ∨ ∃ name, IsName name ∧ cs = '@' :: name

def parameterTokens (inParentheses : Bool) (parameter : List Char) : List (List Char) :=
  if inParentheses then [['('], parameter, [')']] else [parameter]

/-- tokens of a part of an object, which may be empty -/
def accessTokens (parameter : List Char) : Option (List Char) → List (List Char)
  | none => []
  | some member => [parameter, ['.'], member]

/-- what stands behind the arrow: one member, or an object with parts that may be empty -/
inductive Picked where
  | member (name : List Char)
  | object (parts : List (Option (List Char)))

namespace Picked

def members : Picked → List (List Char)
  | member name => [name]
  | object parts => parts.reduceOption

def tokens (parameter : List Char) : Picked → List (List Char)
  | member name => accessTokens parameter (some name)
  | object parts => ['n', 'e', 'w'] :: ['\x7b'] ::
      ([[',']].intercalate (parts.map (accessTokens parameter)) ++ [['\x7d']])

end Picked

/-- a parameter, with or without parentheses, and what is picked of it -/
structure Selector where
  parameter : List Char
  inParentheses : Bool
  picked : Picked
  isName : IsName parameter
  areMembers : ∀ m ∈ picked.members, IsMember m

namespace Selector

def tokens (s : Selector) : List (List Char) :=
  parameterTokens s.inParentheses s.parameter ++ ['=', '>'] :: s.picked.tokens s.parameter

/-- the text is this selector, with any blanks around its tokens -/
def IsSpelled (s : Selector) (expression : String) : Prop := Spelled s.tokens expression.toList

/-- names of the members in their order -/
def members (s : Selector) : List String := s.picked.members.map String.ofList

end Selector

/-! ### Names -/

variable {cs rest name parameter member access body inside : List Char}

theorem isWordChar_of_isNameStart {c : Char} (h : isNameStart c = true) : isWordChar c = true := by
  unfold isNameStart at h
  rw [isWordChar]
  by_cases hascii : c.toNat < 128
  · rw [if_pos hascii]
    rcases Bool.or_eq_true_iff.1 h with h | h <;> simp [h]
  · exfalso
    rw [Bool.or_eq_true, isAsciiLetter_iff, beq_iff_eq, eq_iff_toNat] at h
    have hunderscore : '_'.toNat = 95 := rfl
    omega

theorem IsName.isWordChar (h : IsName name) : ∀ c ∈ name, isWordChar c = true := by
  cases name with
  | nil => exact h.elim
  | cons c cs => exact List.forall_mem_cons.2 ⟨isWordChar_of_isNameStart h.1, h.2⟩

theorem IsName.ne_nil (h : IsName name) : name ≠ [] := by
  rintro rfl
  exact h

theorem IsName.isFirm (h : IsName name) : IsFirm name :=
  isFirm_of_forall h.ne_nil fun c hc => isBlank_of_isWordChar (h.isWordChar c hc)

theorem IsMember.isFirm (h : IsMember member) : IsFirm member := by
  rcases h with h | ⟨name, h, rfl⟩
  · exact h.isFirm
  · exact (show IsFirm ['@'] by decide).append h.isFirm

/-- a character that is no part of a word is in no member, apart from the `@` -/
theorem IsMember.not_mem (h : IsMember member) {c : Char} (hc : isWordChar c = false)
    (hat : c ≠ '@') : c ∉ member := by
  have hname : ∀ {name : List Char}, IsName name → c ∉ name := fun h hmem => by
    rw [h.isWordChar c hmem] at hc
    cases hc
  rcases h with h | ⟨name, h, rfl⟩
  · exact hname h
  · exact fun hmem => (List.mem_cons.1 hmem).elim hat (hname h)

theorem takeName_eq_some_iff : takeName cs = some (name, rest) ↔
    IsName name ∧ cs = name ++ rest ∧ ∀ c ∈ rest.head?, isWordChar c = false := by
  constructor
  · intro h
    cases cs with
    | nil => cases h
    | cons c cs =>
      rw [takeName] at h
      by_cases hc : isNameStart c = true
      · rw [if_pos hc, Option.some.injEq, Prod.mk.injEq] at h
        obtain ⟨rfl, rfl⟩ := h
        refine ⟨⟨hc, fun d hd => List.mem_takeWhile_imp hd⟩, ?_, head?_dropWhile isWordChar cs⟩
        rw [List.cons_append, List.takeWhile_append_dropWhile]
      · rw [if_neg hc] at h
        cases h
  · rintro ⟨hname, rfl, hrest⟩
    cases name with
    | nil => exact hname.elim
    | cons c name =>
      rw [List.cons_append, takeName, if_pos hname.1, takeWhile_run hname.2 hrest,
        dropWhile_run hname.2 hrest]

theorem takeName_eq_some_nil_iff : takeName cs = some (name, []) ↔ cs = name ∧ IsName name := by
  rw [takeName_eq_some_iff, List.append_nil]
  exact ⟨fun h => ⟨h.2.1, h.1⟩, fun h => ⟨h.2, h.1, nofun⟩⟩

def nameOf? (cs : List Char) : Option (List Char) :=
  match takeName cs with
  | some (name, []) => some name
  | _ => none

theorem nameOf?_eq_some_iff : nameOf? cs = some name ↔ cs = name ∧ IsName name := by
  rw [← takeName_eq_some_nil_iff, nameOf?]
  split
  · next n hn => rw [hn, Option.some.injEq, Option.some.injEq, Prod.mk.injEq, and_iff_left rfl]
  · next hno => exact ⟨nofun, fun h => absurd h (hno name)⟩

theorem wholeName?_at (rest : List Char) :
    wholeName? ('@' :: rest) = (nameOf? rest).map ('@' :: ·) := by
  show (match takeName rest with
    | some (name, []) => some (['@'] ++ name)
    | _ => none) = _
  rw [nameOf?]
  split <;> rfl

theorem wholeName?_of_ne {c : Char} (hc : c ≠ '@') (cs : List Char) :
    wholeName? (c :: cs) = nameOf? (c :: cs) := by
  unfold wholeName?
  split
  next at? rest heq =>
    split at heq
    · next h => exact absurd (List.cons.inj h).1 hc
    · obtain ⟨rfl, rfl⟩ := Prod.mk.inj heq
      rfl

theorem wholeName?_eq_some_iff : wholeName? cs = some member ↔ cs = member ∧ IsMember member := by
  cases cs with
  | nil =>
    refine ⟨nofun, fun ⟨hcs, h⟩ => ?_⟩
    exact absurd hcs.symm h.isFirm.ne_nil
  | cons c cs =>
    by_cases hc : c = '@'
    · subst hc
      have hat : ¬ IsName ('@' :: cs) := fun h => absurd h.1 (by decide)
      rw [wholeName?_at, Option.map_eq_some_iff]
      constructor
      · rintro ⟨name, hname, rfl⟩
        obtain ⟨rfl, h⟩ := nameOf?_eq_some_iff.1 hname
        exact ⟨rfl, .inr ⟨cs, h, rfl⟩⟩
      · rintro ⟨rfl, h⟩
        obtain ⟨name, hname, heq⟩ := h.resolve_left hat
        obtain rfl := (List.cons.inj heq).2
        exact ⟨cs, nameOf?_eq_some_iff.2 ⟨rfl, hname⟩, rfl⟩
    · rw [wholeName?_of_ne hc, nameOf?_eq_some_iff]
      refine and_congr_right fun hcs => ⟨.inl, fun h => h.resolve_right ?_⟩
      rintro ⟨name, -, hname⟩
      exact hc (List.cons.inj (hcs.trans hname)).1

/-! ### Readers -/

theorem dropStart?_eq_some_iff {start : List Char} :
    dropStart? start cs = some rest ↔ cs = start ++ rest := by
  induction start generalizing cs with
  | nil => simp [dropStart?]
  | cons a start ih =>
    cases cs with
    | nil => simp [dropStart?]
    | cons c cs =>
      rw [dropStart?, List.cons_append, List.cons.injEq]
      by_cases hac : a = c
      · rw [if_pos hac, ih, and_iff_right hac.symm]
      · rw [if_neg hac]
        exact ⟨nofun, fun h => absurd h.1.symm hac⟩

variable {t : List Char} {ts : List (List Char)}

theorem begins_iff_skipBlanks (h : IsFirm t) : Begins (t :: ts) rest cs ↔
    ∃ more, skipBlanks cs = t ++ more ∧ Begins ts rest more := begins_cons_iff h

theorem begins_iff_skipBlanks_mark {c : Char} (h : isBlank c = false) :
    Begins ([c] :: ts) rest cs ↔ ∃ more, skipBlanks cs = c :: more ∧ Begins ts rest more :=
  begins_cons_iff (isFirm_of_forall (List.cons_ne_nil c []) (List.forall_mem_singleton.2 h))

/-- what begins with no part of a word ends a name, as do blanks before it -/
theorem head?_of_begins {c : Char} (h : Begins ((c :: t) :: ts) rest cs)
    (hc : isWordChar c = false) : ∀ d ∈ cs.head?, isWordChar d = false := by
  obtain ⟨blanks, more, hblanks, rfl, -⟩ := h
  intro d hd
  cases blanks with
  | nil =>
    obtain rfl := Option.some.inj hd
    exact hc
  | cons b blanks =>
    obtain rfl := Option.some.inj hd
    have hblank := hblanks b List.mem_cons_self
    rw [Bool.eq_false_iff]
    intro hword
    rw [isBlank_of_isWordChar hword] at hblank
    cases hblank

theorem IsName.append_ne_open (h : IsName name) (rest more : List Char) :
    name ++ rest ≠ '(' :: more := by
  cases name with
  | nil => exact h.elim
  | cons c name =>
    rintro heq
    have hstart := h.1
    rw [(List.cons.inj heq).1] at hstart
    exact absurd hstart (by decide)

theorem takeParameter_of_open {more : List Char} (h : skipBlanks cs = '(' :: more) :
    takeParameter cs = (takeName (skipBlanks more)).bind fun p =>
      match skipBlanks p.2 with
      | ')' :: rest => some (p.1, rest)
      | _ => none := by
  rw [takeParameter, h]
  rfl

theorem takeParameter_of_not_open (h : ∀ more, skipBlanks cs ≠ '(' :: more) :
    takeParameter cs = takeName (skipBlanks cs) := by
  rw [takeParameter]
  split
  · next more hopen => exact absurd hopen (h more)
  · rfl

/-- behind a parenthesis, the parameter is in parentheses -/
theorem takeParameter_of_open_eq_some_iff {more : List Char} (hmore : skipBlanks cs = '(' :: more) :
    takeParameter cs = some (parameter, rest) ↔
      IsName parameter ∧ Begins (parameterTokens true parameter) rest cs := by
  rw [takeParameter_of_open hmore, Option.bind_eq_some_iff]
  constructor
  · rintro ⟨⟨name, behind⟩, hname, h⟩
    obtain ⟨hisName, htext, -⟩ := takeName_eq_some_iff.1 hname
    split at h
    · next r hr =>
      obtain ⟨rfl, rfl⟩ := Prod.mk.inj (Option.some.inj h)
      refine ⟨hisName, (begins_iff_skipBlanks_mark (by decide)).2 ⟨more, hmore, ?_⟩⟩
      exact (begins_iff_skipBlanks hisName.isFirm).2
        ⟨behind, htext, (begins_iff_skipBlanks_mark (by decide)).2 ⟨_, hr, rfl⟩⟩
    · cases h
  · rintro ⟨hname, h⟩
    obtain ⟨m, htext, h⟩ := (begins_iff_skipBlanks_mark (by decide)).1 h
    obtain rfl := (List.cons.inj (hmore.symm.trans htext)).2
    obtain ⟨behind, hbehind, h⟩ := (begins_iff_skipBlanks hname.isFirm).1 h
    obtain ⟨r, hr, hrest⟩ := (begins_iff_skipBlanks_mark (by decide)).1 h
    obtain rfl : r = rest := hrest
    refine ⟨(parameter, behind), takeName_eq_some_iff.2 ⟨hname, hbehind, ?_⟩, ?_⟩
    · exact head?_of_begins h (by decide)
    · show (match skipBlanks behind with
        | ')' :: rest => some (parameter, rest)
        | _ => none) = _
      rw [hr]
      rfl

theorem takeParameter_of_not_open_eq_some_iff (hcs : ∀ more, skipBlanks cs ≠ '(' :: more)
    (hrest : ∀ c ∈ rest.head?, isWordChar c = false) :
    takeParameter cs = some (parameter, rest) ↔
      IsName parameter ∧ Begins (parameterTokens false parameter) rest cs := by
  rw [takeParameter_of_not_open hcs, takeName_eq_some_iff]
  constructor
  · rintro ⟨hname, htext, -⟩
    exact ⟨hname, (begins_iff_skipBlanks hname.isFirm).2 ⟨rest, htext, rfl⟩⟩
  · rintro ⟨hname, h⟩
    obtain ⟨r, htext, hr⟩ := (begins_iff_skipBlanks hname.isFirm).1 h
    obtain rfl : r = rest := hr
    exact ⟨hname, htext, hrest⟩

/-- the first token tells whether the parameter is in parentheses -/
theorem takeParameter_eq_some_iff (hrest : ∀ c ∈ rest.head?, isWordChar c = false) :
    takeParameter cs = some (parameter, rest) ↔
      IsName parameter ∧ ∃ p, Begins (parameterTokens p parameter) rest cs := by
  by_cases hcs : ∃ more, skipBlanks cs = '(' :: more
  · obtain ⟨more, hmore⟩ := hcs
    rw [takeParameter_of_open_eq_some_iff hmore]
    refine and_congr_right fun hname => ⟨fun h => ⟨true, h⟩, ?_⟩
    rintro ⟨p, h⟩
    cases p with
    | false =>
      obtain ⟨r, htext, -⟩ := (begins_iff_skipBlanks hname.isFirm).1 h
      exact absurd (htext.symm.trans hmore) (hname.append_ne_open r more)
    | true => exact h
  · rw [not_exists] at hcs
    rw [takeParameter_of_not_open_eq_some_iff hcs hrest]
    refine and_congr_right fun hname => ⟨fun h => ⟨false, h⟩, ?_⟩
    rintro ⟨p, h⟩
    cases p with
    | false => exact h
    | true =>
      obtain ⟨m, htext, -⟩ := (begins_iff_skipBlanks_mark (by decide)).1 h
      exact absurd htext (hcs m)

/-- parameter, arrow and what is behind them -/
theorem lambdaParts?_eq_some_iff : lambdaParts? cs = some (parameter, body) ↔
    IsName parameter ∧ ∃ p rest, Begins (parameterTokens p parameter ++ [['=', '>']]) rest cs ∧
      body = dropAround isBlank rest := by
  have harrow : IsFirm ['=', '>'] := by decide
  rw [lambdaParts?, Option.bind_eq_bind, Option.bind_eq_some_iff]
  constructor
  · rintro ⟨⟨name, behind⟩, hparameter, h⟩
    simp only at h
    split at h
    · next rest hrest =>
      obtain ⟨rfl, rfl⟩ := Prod.mk.inj (Option.some.inj h)
      have hbehind : Begins [['=', '>']] rest behind :=
        (begins_iff_skipBlanks harrow).2 ⟨rest, hrest, rfl⟩
      obtain ⟨hname, p, hp⟩ :=
        (takeParameter_eq_some_iff (head?_of_begins hbehind (by decide))).1 hparameter
      exact ⟨hname, p, rest, begins_append.2 ⟨behind, hp, hbehind⟩, rfl⟩
    · cases h
  · rintro ⟨hname, p, rest, h, rfl⟩
    obtain ⟨behind, hp, hbehind⟩ := begins_append.1 h
    obtain ⟨r, hr, hrest⟩ := (begins_iff_skipBlanks harrow).1 hbehind
    obtain rfl : r = rest := hrest
    refine ⟨(parameter, behind),
      (takeParameter_eq_some_iff (head?_of_begins hbehind (by decide))).2 ⟨hname, p, hp⟩, ?_⟩
    simp only [hr]
    rfl

theorem forall_isFirm_access (hparameter : IsName parameter) (hmember : IsMember member) :
    ∀ t ∈ [parameter, ['.'], member], IsFirm t := by
  simp only [List.forall_mem_cons]
  exact ⟨hparameter.isFirm, by decide, hmember.isFirm, nofun⟩

/-- a member of the parameter -/
theorem accessedMember?_eq_some_iff (hparameter : IsName parameter) :
    accessedMember? parameter access = some member ↔
      IsMember member ∧ Spelled [parameter, ['.'], member] access := by
  have hhead := head?_dropAround isBlank access
  rw [accessedMember?, Option.bind_eq_bind, Option.bind_eq_some_iff]
  constructor
  · rintro ⟨rest, hrest, h⟩
    rw [dropStart?_eq_some_iff] at hrest
    split at h
    · next behind hbehind =>
      obtain ⟨hname, hmember⟩ := wholeName?_eq_some_iff.1 h
      refine ⟨hmember, (spelled_iff_dropAround (List.cons_ne_nil _ _)
        (forall_isFirm_access hparameter hmember)).2 ?_⟩
      refine (begins_cons_iff_of_head hparameter.isFirm hhead).2 ⟨rest, hrest, ?_⟩
      refine (begins_iff_skipBlanks_mark (by decide)).2 ⟨behind, hbehind, ?_⟩
      exact (begins_iff_skipBlanks hmember.isFirm).2 ⟨[], by rw [List.append_nil, hname], rfl⟩
    · cases h
  · rintro ⟨hmember, h⟩
    rw [spelled_iff_dropAround (List.cons_ne_nil _ _) (forall_isFirm_access hparameter hmember)] at h
    obtain ⟨rest, hrest, h⟩ := (begins_cons_iff_of_head hparameter.isFirm hhead).1 h
    obtain ⟨behind, hbehind, h⟩ := (begins_iff_skipBlanks_mark (by decide)).1 h
    obtain ⟨nothing, hname, hnothing⟩ := (begins_iff_skipBlanks hmember.isFirm).1 h
    obtain rfl : nothing = [] := hnothing
    rw [List.append_nil] at hname
    refine ⟨rest, dropStart?_eq_some_iff.2 hrest, ?_⟩
    simp only [hbehind]
    exact wholeName?_eq_some_iff.2 ⟨hname, hmember⟩

theorem anonymousObject?_eq_some_iff : anonymousObject? body = some inside ↔
    ∃ more, body = ['n', 'e', 'w'] ++ more ∧ skipBlanks more = '\x7b' :: (inside ++ ['\x7d']) := by
  rw [anonymousObject?, Option.bind_eq_bind, Option.bind_eq_some_iff]
  refine exists_congr fun more => and_congr dropStart?_eq_some_iff ?_
  split
  · next rest hrest => rw [hrest, List.cons.injEq, and_iff_right rfl, eq_concat_iff,
      Option.ite_none_right_eq_some, Option.some.injEq]
  · next hno => exact ⟨nofun, fun h => absurd h (hno _)⟩

/-- an object with these tokens between its braces -/
theorem spelled_object_iff (h : ∀ t ∈ ts, IsFirm t) :
    Spelled (['n', 'e', 'w'] :: ['\x7b'] :: (ts ++ [['\x7d']])) cs ↔
      ∃ inside, anonymousObject? (dropAround isBlank cs) = some inside ∧ Spelled ts inside := by
  have hfirm : ∀ t ∈ ['n', 'e', 'w'] :: ['\x7b'] :: (ts ++ [['\x7d']]), IsFirm t := by
    rw [List.forall_mem_cons, List.forall_mem_cons, List.forall_mem_append]
    exact ⟨by decide, by decide, h, by decide⟩
  rw [spelled_iff_dropAround (List.cons_ne_nil _ _) hfirm,
    begins_cons_iff_of_head (by decide) (head?_dropAround isBlank cs)]
  simp only [anonymousObject?_eq_some_iff, begins_iff_skipBlanks_mark (show isBlank '\x7b' = false by
    decide), begins_concat]
  constructor
  · rintro ⟨more, hbody, m, hm, inside, rfl, hinside⟩
    exact ⟨inside, ⟨more, hbody, hm⟩, hinside⟩
  · rintro ⟨inside, ⟨more, hbody, hm⟩, hinside⟩
    exact ⟨more, hbody, _, hm, inside, rfl, hinside⟩

/-! ### Parts of an object -/

theorem accessedMembers?_of_areBlanks {piece : List Char} (h : AreBlanks piece)
    (pieces : List (List Char)) :
    accessedMembers? parameter ((piece :: pieces).filter fun piece => !piece.all isBlank) =
      accessedMembers? parameter (pieces.filter fun piece => !piece.all isBlank) := by
  rw [List.filter_cons_of_neg]
  rw [List.all_eq_true.2 h]
  exact Bool.false_ne_true

theorem accessedMembers?_cons_eq_some_iff {piece : List Char} (h : ¬ AreBlanks piece)
    {pieces ms : List (List Char)} :
    accessedMembers? parameter ((piece :: pieces).filter fun piece => !piece.all isBlank) = some ms ↔
      ∃ m rest, accessedMember? parameter piece = some m ∧
        accessedMembers? parameter (pieces.filter fun piece => !piece.all isBlank) = some rest ∧
        m :: rest = ms := by
  have hall : ¬ piece.all isBlank = true := fun hall => h (List.all_eq_true.1 hall)
  rw [List.filter_cons_of_pos (by rw [Bool.eq_false_iff.2 hall]; rfl), accessedMembers?,
    List.mapM_cons, Option.bind_eq_bind, Option.bind_eq_some_iff]
  constructor
  · rintro ⟨m, hm, hms⟩
    obtain ⟨rest, hrest, hms⟩ := Option.bind_eq_some_iff.1 hms
    exact ⟨m, rest, hm, hrest, Option.some.inj hms⟩
  · rintro ⟨m, rest, hm, hrest, rfl⟩
    exact ⟨m, hm, Option.bind_eq_some_iff.2 ⟨rest, hrest, rfl⟩⟩

/-- only an empty part is spelled by blanks -/
theorem part_eq_none_iff (hparameter : IsName parameter) {part : Option (List Char)}
    {piece : List Char} (h : Spelled (accessTokens parameter part) piece) :
    part = none ↔ AreBlanks piece := by
  cases part with
  | none => exact iff_of_true rfl (spelled_nil_iff.1 h)
  | some m => exact iff_of_false nofun (h.not_areBlanks hparameter.isFirm)

/-- the parts that are not blank are read one by one, if each of them is a member -/
theorem accessedMembers?_eq_some_iff (hparameter : IsName parameter) {pieces ms : List (List Char)} :
    accessedMembers? parameter (pieces.filter fun piece => !piece.all isBlank) = some ms ↔
      ∃ parts, List.Forall₂ (fun part piece => Spelled (accessTokens parameter part) piece)
          parts pieces ∧
        (∀ m ∈ parts.reduceOption, IsMember m) ∧ parts.reduceOption = ms := by
  induction pieces generalizing ms with
  | nil =>
    rw [accessedMembers?, List.filter_nil, List.mapM_nil]
    constructor
    · intro h
      exact ⟨[], .nil, nofun, Option.some.inj h⟩
    · rintro ⟨parts, hparts, -, rfl⟩
      rw [List.forall₂_nil_right_iff.1 hparts]
      rfl
  | cons piece pieces ih =>
    by_cases hblank : AreBlanks piece
    · rw [accessedMembers?_of_areBlanks hblank, ih]
      constructor
      · rintro ⟨parts, hparts, hmembers, rfl⟩
        exact ⟨none :: parts, .cons (spelled_nil_iff.2 hblank) hparts, hmembers, rfl⟩
      · rintro ⟨parts, hparts, hmembers, rfl⟩
        obtain ⟨part, parts, hpart, hrest, rfl⟩ := List.forall₂_cons_right_iff.1 hparts
        obtain rfl := (part_eq_none_iff hparameter hpart).2 hblank
        exact ⟨parts, hrest, hmembers, rfl⟩
    · rw [accessedMembers?_cons_eq_some_iff hblank]
      constructor
      · rintro ⟨m, rest, hm, hrest, rfl⟩
        obtain ⟨hmember, hpiece⟩ := (accessedMember?_eq_some_iff hparameter).1 hm
        obtain ⟨parts, hparts, hmembers, rfl⟩ := ih.1 hrest
        refine ⟨some m :: parts, .cons hpiece hparts, ?_, List.reduceOption_cons_of_some m parts⟩
        rw [List.reduceOption_cons_of_some]
        exact List.forall_mem_cons.2 ⟨hmember, hmembers⟩
      · rintro ⟨parts, hparts, hmembers, rfl⟩
        obtain ⟨part, parts, hpart, hrest, rfl⟩ := List.forall₂_cons_right_iff.1 hparts
        obtain ⟨m, rfl⟩ := Option.ne_none_iff_exists'.1
          (mt (part_eq_none_iff hparameter hpart).1 hblank)
        rw [List.reduceOption_cons_of_some] at hmembers ⊢
        obtain ⟨hmember, hmembers⟩ := List.forall_mem_cons.1 hmembers
        exact ⟨m, _, (accessedMember?_eq_some_iff hparameter).2 ⟨hmember, hpart⟩,
          ih.2 ⟨parts, hrest, hmembers, rfl⟩, rfl⟩

/-! ### Selectors -/

variable {expression : String}

/-- a selector is read as its parameter and what is picked of it -/
theorem Selector.isSpelled_iff (s : Selector) : s.IsSpelled expression ↔ ∃ rest,
    Begins (parameterTokens s.inParentheses s.parameter ++ [['=', '>']]) rest expression.toList ∧
      Spelled (s.picked.tokens s.parameter) rest := by
  rw [Selector.IsSpelled, Selector.tokens, ← spelled_append, List.append_assoc,
    List.singleton_append]

theorem memberOf?_eq_some_iff (expression m : String) : memberOf? expression = some m ↔
    ∃ s : Selector, s.IsSpelled expression ∧ s.picked = .member m.toList := by
  rw [memberOf?, Option.bind_eq_bind, Option.bind_eq_some_iff]
  constructor
  · rintro ⟨⟨parameter, body⟩, hlambda, h⟩
    obtain ⟨name, hname, rfl⟩ := Option.map_eq_some_iff.1 h
    obtain ⟨hparameter, p, rest, hrest, rfl⟩ := lambdaParts?_eq_some_iff.1 hlambda
    obtain ⟨hmember, haccess⟩ := (accessedMember?_eq_some_iff hparameter).1 hname
    rw [spelled_dropAround (List.cons_ne_nil _ _) (forall_isFirm_access hparameter hmember)] at haccess
    refine ⟨⟨parameter, p, .member name, hparameter, List.forall_mem_singleton.2 hmember⟩, ?_, ?_⟩
    · exact (Selector.isSpelled_iff _).2 ⟨rest, hrest, haccess⟩
    · rw [String.toList_ofList]
  · rintro ⟨⟨parameter, p, picked, hparameter, hmembers⟩, h, rfl⟩
    obtain ⟨rest, hrest, haccess⟩ := (Selector.isSpelled_iff _).1 h
    have hmember : IsMember m.toList := hmembers _ List.mem_cons_self
    refine ⟨(parameter, dropAround isBlank rest),
      lambdaParts?_eq_some_iff.2 ⟨hparameter, p, rest, hrest, rfl⟩, ?_⟩
    refine Option.map_eq_some_iff.2 ⟨m.toList, ?_, String.ofList_toList⟩
    refine (accessedMember?_eq_some_iff hparameter).2 ⟨hmember, ?_⟩
    exact (spelled_dropAround (List.cons_ne_nil _ _) (forall_isFirm_access hparameter hmember)).2
      haccess

/-- the tokens of a part can be told from blanks and commas -/
theorem forall_mem_accessTokens (hparameter : IsName parameter) {parts : List (Option (List Char))}
    (hmembers : ∀ m ∈ parts.reduceOption, IsMember m) :
    ∀ part ∈ parts.map (accessTokens parameter), ∀ t ∈ part, IsFirm t ∧ ',' ∉ t := by
  intro tokens htokens t ht
  obtain ⟨part, hpart, rfl⟩ := List.mem_map.1 htokens
  cases part with
  | none => cases ht
  | some m =>
    have hmember := hmembers m (List.reduceOption_mem_iff.2 hpart)
    refine ⟨forall_isFirm_access hparameter hmember t ht, ?_⟩
    simp only [accessTokens, List.mem_cons, List.not_mem_nil, or_false] at ht
    rcases ht with rfl | rfl | rfl
    · exact (IsMember.not_mem (.inl hparameter) (by decide) (by decide))
    · decide
    · exact hmember.not_mem (by decide) (by decide)

theorem spelled_parts_iff (hparameter : IsName parameter) {parts : List (Option (List Char))}
    (hmembers : ∀ m ∈ parts.reduceOption, IsMember m) (hne : parts ≠ []) :
    Spelled ([[',']].intercalate (parts.map (accessTokens parameter))) inside ↔
      List.Forall₂ (fun part piece => Spelled (accessTokens parameter part) piece)
        parts (splitChars ',' inside) := by
  rw [spelled_separated (by decide) (by rw [ne_eq, List.map_eq_nil_iff]; exact hne)
    fun part hpart t ht => (forall_mem_accessTokens hparameter hmembers part hpart t ht).2,
    List.forall₂_map_left_iff]

theorem spelled_object_parts_iff (hparameter : IsName parameter) {parts : List (Option (List Char))}
    (hmembers : ∀ m ∈ parts.reduceOption, IsMember m) (hne : parts ≠ []) :
    Spelled ((Picked.object parts).tokens parameter) rest ↔
      ∃ inside, anonymousObject? (dropAround isBlank rest) = some inside ∧
        List.Forall₂ (fun part piece => Spelled (accessTokens parameter part) piece)
          parts (splitChars ',' inside) := by
  have hfirm : ∀ t ∈ [[',']].intercalate (parts.map (accessTokens parameter)), IsFirm t := by
    intro t ht
    rcases mem_separated ht with rfl | ⟨part, hpart, ht⟩
    · decide
    · exact (forall_mem_accessTokens hparameter hmembers part hpart t ht).1
  rw [Picked.tokens, spelled_object_iff hfirm]
  exact exists_congr fun inside => and_congr_right fun _ =>
    spelled_parts_iff hparameter hmembers hne

/-- no text is both one member and an object -/
theorem accessedMember?_of_object (hparameter : IsName parameter) {parts : List (Option (List Char))}
    (h : Spelled ((Picked.object parts).tokens parameter) rest) :
    accessedMember? parameter (dropAround isBlank rest) = none := by
  rw [Option.eq_none_iff_forall_ne_some]
  intro m hm
  obtain ⟨hmember, haccess⟩ := (accessedMember?_eq_some_iff hparameter).1 hm
  rw [spelled_dropAround (List.cons_ne_nil _ _) (forall_isFirm_access hparameter hmember)] at haccess
  have hbrace : '\x7b' ∈ rest :=
    h.mem (List.mem_cons_of_mem _ List.mem_cons_self) (List.mem_singleton_self '\x7b')
  refine haccess.not_mem (by decide) ?_ hbrace
  simp only [List.forall_mem_cons]
  exact ⟨IsMember.not_mem (.inl hparameter) (by decide) (by decide), by decide,
    hmember.not_mem (by decide) (by decide), nofun⟩

/-- members that are picked behind the arrow -/
def bodyMembers (parameter body : List Char) : List String :=
  match accessedMember? parameter body with
  | some m => [String.ofList m]
  | none =>
    match anonymousObject? body with
    | none => []
    | some inside =>
      let parts := (splitChars ',' inside).filter fun part => !part.all isBlank
      ((accessedMembers? parameter parts).getD []).map String.ofList

theorem membersOf_eq (expression : String) : membersOf expression =
    match lambdaParts? expression.toList with
    | none => []
    | some (parameter, body) => bodyMembers parameter body := rfl

theorem exists_picked_of_bodyMembers (hparameter : IsName parameter) {m : String}
    {ms : List String} (h : bodyMembers parameter (dropAround isBlank rest) = m :: ms) :
    ∃ picked : Picked, (∀ n ∈ picked.members, IsMember n) ∧
      Spelled (picked.tokens parameter) rest ∧ picked.members.map String.ofList = m :: ms := by
  rw [bodyMembers] at h
  split at h
  · next n hn =>
    obtain ⟨hmember, haccess⟩ := (accessedMember?_eq_some_iff hparameter).1 hn
    rw [spelled_dropAround (List.cons_ne_nil _ _)
      (forall_isFirm_access hparameter hmember)] at haccess
    exact ⟨.member n, List.forall_mem_singleton.2 hmember, haccess, h⟩
  · split at h
    · cases h
    · next inside hinside =>
      obtain ⟨ns, hns⟩ : ∃ ns, accessedMembers? parameter
          ((splitChars ',' inside).filter fun part => !part.all isBlank) = some ns := by
        refine Option.ne_none_iff_exists'.1 fun hnone => ?_
        simp only [hnone] at h
        cases h
      simp only [hns] at h
      obtain ⟨parts, hparts, hmembers, rfl⟩ := (accessedMembers?_eq_some_iff hparameter).1 hns
      have hne : parts ≠ [] := by
        rintro rfl
        exact splitChars_ne_nil ',' inside (List.forall₂_nil_left_iff.1 hparts)
      exact ⟨.object parts, hmembers,
        (spelled_object_parts_iff hparameter hmembers hne).2 ⟨inside, hinside, hparts⟩, h⟩

theorem bodyMembers_of_spelled (hparameter : IsName parameter) (picked : Picked)
    (hmembers : ∀ n ∈ picked.members, IsMember n) (hne : picked.members ≠ [])
    (h : Spelled (picked.tokens parameter) rest) :
    bodyMembers parameter (dropAround isBlank rest) = picked.members.map String.ofList := by
  rw [bodyMembers]
  cases picked with
  | member n =>
    have hmember : IsMember n := hmembers n List.mem_cons_self
    have haccess := (spelled_dropAround (List.cons_ne_nil _ _)
      (forall_isFirm_access hparameter hmember)).2 h
    rw [(accessedMember?_eq_some_iff hparameter).2 ⟨hmember, haccess⟩]
    rfl
  | object parts =>
    have hparts : parts ≠ [] := by
      rintro rfl
      exact hne rfl
    obtain ⟨inside, hinside, hpieces⟩ := (spelled_object_parts_iff hparameter hmembers hparts).1 h
    have hread := (accessedMembers?_eq_some_iff hparameter).2 ⟨parts, hpieces, hmembers, rfl⟩
    rw [accessedMember?_of_object hparameter h, hinside]
    simp only [hread]
    rfl

theorem bodyMembers_eq_cons_iff (hparameter : IsName parameter) {m : String} {ms : List String} :
    bodyMembers parameter (dropAround isBlank rest) = m :: ms ↔
      ∃ picked : Picked, (∀ n ∈ picked.members, IsMember n) ∧
        Spelled (picked.tokens parameter) rest ∧ picked.members.map String.ofList = m :: ms := by
  refine ⟨exists_picked_of_bodyMembers hparameter, ?_⟩
  rintro ⟨picked, hmembers, h, hlist⟩
  have hne : picked.members ≠ [] := fun hnil => by
    rw [hnil] at hlist
    cases hlist
  exact (bodyMembers_of_spelled hparameter picked hmembers hne h).trans hlist

theorem membersOf_eq_cons_iff (expression m : String) (ms : List String) :
    membersOf expression = m :: ms ↔
      ∃ s : Selector, s.IsSpelled expression ∧ s.members = m :: ms := by
  rw [membersOf_eq]
  constructor
  · intro h
    split at h
    · cases h
    · next parameter body hlambda =>
      obtain ⟨hparameter, p, rest, hrest, rfl⟩ := lambdaParts?_eq_some_iff.1 hlambda
      obtain ⟨picked, hmembers, hpicked, hlist⟩ := (bodyMembers_eq_cons_iff hparameter).1 h
      exact ⟨⟨parameter, p, picked, hparameter, hmembers⟩,
        (Selector.isSpelled_iff _).2 ⟨rest, hrest, hpicked⟩, hlist⟩
  · rintro ⟨⟨parameter, p, picked, hparameter, hmembers⟩, h, hlist⟩
    obtain ⟨rest, hrest, hpicked⟩ := (Selector.isSpelled_iff _).1 h
    rw [lambdaParts?_eq_some_iff.2 ⟨hparameter, p, rest, hrest, rfl⟩]
    exact (bodyMembers_eq_cons_iff hparameter).2 ⟨picked, hmembers, hpicked, hlist⟩

/-- a single member is all that is selected -/
theorem membersOf_of_memberOf? {m : String} (h : memberOf? expression = some m) :
    membersOf expression = [m] := by
  obtain ⟨s, hs, hpicked⟩ := (memberOf?_eq_some_iff expression m).1 h
  refine (membersOf_eq_cons_iff expression m []).2 ⟨s, hs, ?_⟩
  rw [Selector.members, hpicked]
  exact congrArg ([·]) String.ofList_toList

/-- Members are selected by the selectors that name some, and these in their order. A single one is
selected by the selectors of a member, and is then all that is selected. -/
theorem selected_iff (expression m : String) (ms : List String) :
    (membersOf expression = m :: ms ↔
        ∃ s : Selector, s.IsSpelled expression ∧ s.members = m :: ms) ∧
      (memberOf? expression = some m ↔
        ∃ s : Selector, s.IsSpelled expression ∧ s.picked = .member m.toList) ∧
      (memberOf? expression = some m → membersOf expression = [m]) :=
  ⟨membersOf_eq_cons_iff expression m ms, memberOf?_eq_some_iff expression m, membersOf_of_memberOf?⟩

example : membersOf "(x)=>new \x7b x.A, , x . @B \x7d" = ["A", "@B"] := by decide

end EndpointScaffold.Fluent
