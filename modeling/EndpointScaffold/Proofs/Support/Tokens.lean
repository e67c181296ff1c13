import EndpointScaffold.Proofs.Text.Spacing
import EndpointScaffold.Support.Validator

/-!
# Tokens that state rules

How the tokens are spelled that make a field required, that take this back, and that limit its
length, up to blanks. No token does two of these.

* `Requires`, `Releases`, `StatesLength` the three kinds of tokens;
* `isRequiredToken_iff`, `isOptionalToken_iff`, `lengthDigits?_eq_some_iff` they are what is read;
* `Requires.not_releases`, `StatesLength.not_requires`, `StatesLength.not_releases` kinds are apart.
-/

namespace EndpointScaffold.Support

open Text

/-- words that may stand alone or before arguments of any kind, and calls with or without `true` -/
def Requires (token : String) : Prop :=
  (∃ word ∈ ["Required", "RequiredAttribute"], Spelled [word.toList] token.toList ∨
    ∃ arguments, Spelled [word.toList, enclosed '(' ')' arguments] token.toList) ∨
  Spelled ["IsRequired".toList, ['('], "true".toList, [')']] token.toList ∨
  Spelled ["IsRequired".toList, ['('], [')']] token.toList

def Releases (token : String) : Prop :=
  Spelled ["IsRequired".toList, ['('], "false".toList, [')']] token.toList

def lengthWords : List String := ["MaxLength", "StringLength", "HasMaxLength"]

structure AreDigits (cs : List Char) : Prop where
  ne_nil : cs ≠ []
  digits : ∀ c ∈ cs, isDecimalDigit c = true

/-- arguments that start with digits, and anything behind them -/
def StatesLength (token : String) (digits : List Char) : Prop :=
  AreDigits digits ∧ ∃ word ∈ lengthWords, ∃ rest,
    Begins [word.toList, ['('], digits] rest token.toList ∧
      ∀ c ∈ rest.head?, isDecimalDigit c = false

/-! ### Words and arguments -/

variable {cs rest digits : List Char} {ts : List (List Char)} {word token : String}

theorem dropWord?_eq_some_iff : dropWord? word cs = some rest ↔ cs = word.toList ++ rest := by
  rw [dropWord?, Option.ite_none_right_eq_some, Option.some.injEq, List.isPrefixOf_iff_prefix]
  constructor
  · rintro ⟨⟨more, rfl⟩, rfl⟩
    rw [← String.length_toList, List.drop_left]
  · rintro rfl
    exact ⟨⟨rest, rfl⟩, by rw [← String.length_toList, List.drop_left]⟩

theorem afterOpening?_eq_some_iff : afterOpening? cs = some rest ↔ Begins [['(']] rest cs := by
  rw [begins_cons_iff (by decide), afterOpening?, skipBlanks]
  constructor
  · intro h
    split at h
    · next more hmore =>
      exact ⟨more, hmore, Option.some.inj h⟩
    · cases h
  · rintro ⟨more, hmore, h⟩
    obtain rfl : more = rest := h
    rw [hmore]
    rfl

theorem isClosing_iff : isClosing (skipBlanks cs) = true ↔ Begins [[')']] [] cs := by
  rw [begins_cons_iff (by decide), isClosing, beq_iff_eq, skipBlanks]
  constructor
  · exact fun h => ⟨[], h, rfl⟩
  · rintro ⟨more, hmore, h⟩
    obtain rfl : more = [] := h
    exact hmore

theorem isFirm_arguments (arguments : List Char) : IsFirm (enclosed '(' ')' arguments) :=
  isFirm_enclosed (by decide) (by decide) arguments

theorem isArgumentList_iff : isArgumentList cs = true ↔
    cs = [] ∨ ∃ arguments, Begins [enclosed '(' ')' arguments] [] cs := by
  rw [isArgumentList, Bool.or_eq_true, List.isEmpty_iff]
  refine or_congr_right ?_
  simp only [begins_cons_iff (isFirm_arguments _)]
  constructor
  · intro h
    split at h
    · next rest hrest =>
      obtain ⟨more, hmore, hmine⟩ :=
        (begins_cons_iff (by decide)).1 (afterOpening?_eq_some_iff.1 hrest)
      obtain rfl : more = rest := hmine
      obtain ⟨arguments, rfl⟩ := List.getLast?_eq_some_iff.1 (beq_iff_eq.1 h)
      exact ⟨arguments, [], by rw [hmore, List.append_nil]; rfl, rfl⟩
    · cases h
  · rintro ⟨arguments, more, hmore, hnil⟩
    obtain rfl : more = [] := hnil
    have hrest : afterOpening? cs = some (arguments ++ [')']) :=
      afterOpening?_eq_some_iff.2 ((begins_cons_iff (by decide)).2
        ⟨_, by rw [hmore, List.append_nil]; rfl, rfl⟩)
    rw [hrest]
    exact beq_iff_eq.2 List.getLast?_concat

theorem isCallWith_iff : isCallWith word cs = true ↔ ∃ inside more,
    Begins [['(']] inside cs ∧ skipBlanks inside = word.toList ++ more ∧ Begins [[')']] [] more := by
  rw [isCallWith]
  constructor
  · intro h
    split at h
    · next inside hinside =>
      split at h
      · next more hmore =>
        exact ⟨inside, more, afterOpening?_eq_some_iff.1 hinside, dropWord?_eq_some_iff.1 hmore,
          isClosing_iff.1 h⟩
      · cases h
    · cases h
  · rintro ⟨inside, more, hinside, hmore, h⟩
    rw [afterOpening?_eq_some_iff.2 hinside]
    simp only [dropWord?_eq_some_iff.2 hmore]
    exact isClosing_iff.2 h

theorem isCallWith_word_iff (h : IsFirm word.toList) :
    isCallWith word cs = true ↔ Begins [['('], word.toList, [')']] [] cs := by
  rw [isCallWith_iff, begins_cons]
  refine exists_congr fun inside => ?_
  rw [begins_cons_iff h]
  exact ⟨fun ⟨more, hinside, hmore, h⟩ => ⟨hinside, more, hmore, h⟩,
    fun ⟨hinside, more, hmore, h⟩ => ⟨more, hinside, hmore, h⟩⟩

theorem isCallWith_nothing_iff : isCallWith "" cs = true ↔ Begins [['('], [')']] [] cs := by
  rw [isCallWith_iff, begins_cons]
  refine exists_congr fun inside => ?_
  constructor
  · rintro ⟨more, hinside, hmore, h⟩
    obtain rfl : skipBlanks inside = more := hmore
    exact ⟨hinside, (begins_dropWhile (by decide)).1 h⟩
  · rintro ⟨hinside, h⟩
    exact ⟨skipBlanks inside, hinside, rfl, (begins_dropWhile (by decide)).2 h⟩

/-- a word at the start of a trimmed token -/
theorem spelled_word_iff (hword : IsFirm word.toList) (hfirm : ∀ t ∈ ts, IsFirm t) :
    Spelled (word.toList :: ts) token.toList ↔
      ∃ more, dropWord? word (dropAround isBlank token.toList) = some more ∧ Begins ts [] more := by
  rw [spelled_iff_dropAround (List.cons_ne_nil _ _) (List.forall_mem_cons.2 ⟨hword, hfirm⟩),
    begins_cons_iff_of_head hword (head?_dropAround isBlank _)]
  simp only [dropWord?_eq_some_iff]

theorem isRequiredToken_eq (cs : List Char) : isRequiredToken cs =
    ((dropWord? "Required" cs).any (fun rest =>
        isArgumentList rest || (dropWord? "Attribute" rest).any isArgumentList)
      || (dropWord? "IsRequired" cs).any fun rest =>
        isCallWith "true" rest || isCallWith "" rest) := by
  rw [isRequiredToken]
  cases dropWord? "Required" cs <;> rfl

/-- a word alone or before arguments -/
theorem any_isArgumentList_iff (hword : IsFirm word.toList) :
    (∃ more, dropWord? word (dropAround isBlank token.toList) = some more ∧
      isArgumentList more = true) ↔ Spelled [word.toList] token.toList ∨
        ∃ arguments, Spelled [word.toList, enclosed '(' ')' arguments] token.toList := by
  simp only [spelled_word_iff hword (List.forall_mem_nil _),
    spelled_word_iff hword (List.forall_mem_singleton.2 (isFirm_arguments _)), isArgumentList_iff]
  constructor
  · rintro ⟨more, hmore, hnil | ⟨arguments, h⟩⟩
    · exact .inl ⟨more, hmore, hnil⟩
    · exact .inr ⟨arguments, more, hmore, h⟩
  · rintro (⟨more, hmore, hnil⟩ | ⟨arguments, more, hmore, h⟩)
    · exact ⟨more, hmore, .inl hnil⟩
    · exact ⟨more, hmore, .inr ⟨arguments, h⟩⟩

theorem dropWord?_attribute : dropWord? "RequiredAttribute" cs = some rest ↔
    ∃ more, dropWord? "Required" cs = some more ∧ dropWord? "Attribute" more = some rest := by
  have hword : "RequiredAttribute".toList = "Required".toList ++ "Attribute".toList := by decide
  simp only [dropWord?_eq_some_iff, hword, List.append_assoc]
  constructor
  · rintro rfl
    exact ⟨_, rfl, rfl⟩
  · rintro ⟨more, rfl, rfl⟩
    rfl

theorem isRequiredToken_iff :
    isRequiredToken (dropAround isBlank token.toList) = true ↔ Requires token := by
  have hfirm : IsFirm "IsRequired".toList := by decide
  rw [isRequiredToken_eq, Bool.or_eq_true, Option.any_eq_true, Option.any_eq_true, Requires]
  simp only [Bool.or_eq_true, Option.any_eq_true, List.mem_cons, List.not_mem_nil, or_false,
    exists_eq_or_imp, exists_eq_left,
    ← any_isArgumentList_iff (show IsFirm "Required".toList by decide),
    ← any_isArgumentList_iff (show IsFirm "RequiredAttribute".toList by decide),
    spelled_word_iff hfirm (show ∀ t ∈ [['('], "true".toList, [')']], IsFirm t by decide),
    spelled_word_iff hfirm (show ∀ t ∈ [['('], [')']], IsFirm t by decide),
    isCallWith_word_iff (show IsFirm "true".toList by decide), isCallWith_nothing_iff,
    dropWord?_attribute]
  refine or_congr ⟨?_, ?_⟩ ?_
  · rintro ⟨rest, hrest, h | ⟨more, hmore, h⟩⟩
    · exact .inl ⟨rest, hrest, h⟩
    · exact .inr ⟨more, ⟨rest, hrest, hmore⟩, h⟩
  · rintro (⟨rest, hrest, h⟩ | ⟨more, ⟨rest, hrest, hmore⟩, h⟩)
    · exact ⟨rest, hrest, .inl h⟩
    · exact ⟨rest, hrest, .inr ⟨more, hmore, h⟩⟩
  · simp only [and_or_left, exists_or]

theorem isOptionalToken_iff :
    isOptionalToken (dropAround isBlank token.toList) = true ↔ Releases token := by
  rw [isOptionalToken, Releases, spelled_word_iff (by decide) (by decide), Option.any_eq_true]
  simp only [isCallWith_word_iff (show IsFirm "false".toList by decide)]

/-! ### Lengths -/

/-- digits that the arguments of a word start with -/
def digitsBehind? (cs : List Char) (word : String) : Option (List Char) := do
  let rest ← dropWord? word cs
  let arguments ← afterOpening? rest
  let digits := (skipBlanks arguments).takeWhile isDecimalDigit
  if digits.isEmpty then none else some digits

theorem lengthDigits?_eq (cs : List Char) :
    lengthDigits? cs = lengthWords.findSome? (digitsBehind? cs) := rfl

theorem AreDigits.isFirm (h : AreDigits digits) : IsFirm digits :=
  isFirm_of_forall h.ne_nil fun c hc => isBlank_of_isDecimalDigit (h.digits c hc)

theorem isDecimalDigit_of_isBlank (c : Char) (h : isBlank c = true) : isDecimalDigit c = false := by
  rw [Bool.eq_false_iff]
  intro hdigit
  rw [isBlank_of_isDecimalDigit hdigit] at h
  cases h

theorem digitsBehind?_eq_some_iff (hword : IsFirm word.toList) :
    digitsBehind? (dropAround isBlank token.toList) word = some digits ↔
      AreDigits digits ∧ ∃ rest, Begins [word.toList, ['('], digits] rest token.toList ∧
        ∀ c ∈ rest.head?, isDecimalDigit c = false := by
  have htrim : AreDigits digits → ((∃ rest, Begins [word.toList, ['('], digits] rest
        (dropAround isBlank token.toList) ∧ ∀ c ∈ rest.head?, isDecimalDigit c = false) ↔
      ∃ rest, Begins [word.toList, ['('], digits] rest token.toList ∧
        ∀ c ∈ rest.head?, isDecimalDigit c = false) := fun hdigits =>
    begins_dropAround_iff isDecimalDigit_of_isBlank (List.cons_ne_nil _ _)
      (List.forall_mem_cons.2 ⟨hword, List.forall_mem_cons.2
        ⟨by decide, List.forall_mem_singleton.2 hdigits.isFirm⟩⟩)
  have hhead := head?_dropAround isBlank token.toList
  rw [← and_congr_right htrim, digitsBehind?]
  simp only [Option.bind_eq_bind, Option.bind_eq_some_iff, Option.ite_none_left_eq_some,
    Option.some.injEq, begins_cons_iff_of_head hword hhead, dropWord?_eq_some_iff,
    afterOpening?_eq_some_iff]
  constructor
  · rintro ⟨more, hmore, arguments, harguments, hne, rfl⟩
    have hdigits : AreDigits ((skipBlanks arguments).takeWhile isDecimalDigit) :=
      ⟨fun hnil => hne (List.isEmpty_iff.2 hnil), fun c => List.mem_takeWhile_imp⟩
    refine ⟨hdigits, (skipBlanks arguments).dropWhile isDecimalDigit, ⟨more, hmore, ?_⟩,
      head?_dropWhile isDecimalDigit _⟩
    exact begins_cons.2 ⟨arguments, harguments, (begins_cons_iff hdigits.isFirm).2
      ⟨_, List.takeWhile_append_dropWhile.symm, rfl⟩⟩
  · rintro ⟨hdigits, rest, ⟨more, hmore, h⟩, hrest⟩
    obtain ⟨arguments, harguments, h⟩ := begins_cons.1 h
    obtain ⟨behind, hcut, hbehind⟩ := (begins_cons_iff hdigits.isFirm).1 h
    obtain rfl : behind = rest := hbehind
    have hrun : (skipBlanks arguments).takeWhile isDecimalDigit = digits :=
      (congrArg _ hcut).trans (takeWhile_run hdigits.digits hrest)
    refine ⟨more, hmore, arguments, harguments, ?_, hrun⟩
    rw [hrun, List.isEmpty_iff]
    exact hdigits.ne_nil

theorem isFirm_of_mem_lengthWords : ∀ word ∈ lengthWords, IsFirm word.toList := by
  decide

/-- no text begins with two of the words -/
theorem eq_of_digitsBehind? {other : String} {found : List Char} (hword : word ∈ lengthWords)
    (hother : other ∈ lengthWords) (h : digitsBehind? cs word = some digits)
    (h' : digitsBehind? cs other = some found) : word = other := by
  have hhead : ∀ w ∈ lengthWords, ∀ ds, digitsBehind? cs w = some ds →
      cs.head? = w.toList.head? := fun w hw ds hds => by
    obtain ⟨rest, hrest, -⟩ := Option.bind_eq_some_iff.1 hds
    rw [dropWord?_eq_some_iff.1 hrest,
      List.head?_append_of_ne_nil _ (isFirm_of_mem_lengthWords w hw).ne_nil]
  have hfirsts : ∀ a ∈ lengthWords, ∀ b ∈ lengthWords,
      a.toList.head? = b.toList.head? → a = b := by decide
  exact hfirsts word hword other hother
    ((hhead word hword _ h).symm.trans (hhead other hother _ h'))

theorem lengthDigits?_eq_some_iff :
    lengthDigits? (dropAround isBlank token.toList) = some digits ↔ StatesLength token digits := by
  rw [lengthDigits?_eq]
  constructor
  · intro h
    obtain ⟨word, hword, h⟩ := List.exists_of_findSome?_eq_some h
    obtain ⟨hdigits, rest, hrest⟩ :=
      (digitsBehind?_eq_some_iff (isFirm_of_mem_lengthWords word hword)).1 h
    exact ⟨hdigits, word, hword, rest, hrest⟩
  · rintro ⟨hdigits, word, hword, rest, h⟩
    have hread := (digitsBehind?_eq_some_iff (isFirm_of_mem_lengthWords word hword)).2
      ⟨hdigits, rest, h⟩
    obtain ⟨found, hfound⟩ := Option.isSome_iff_exists.1
      (List.findSome?_isSome_iff.2 ⟨word, hword, Option.isSome_iff_exists.2 ⟨digits, hread⟩⟩)
    obtain ⟨other, hother, h'⟩ := List.exists_of_findSome?_eq_some hfound
    obtain rfl := eq_of_digitsBehind? hword hother hread h'
    rw [hfound, ← h', hread]

/-! ### Kinds of tokens -/

theorem Releases.head?_eq (h : Releases token) :
    (token.toList.dropWhile isBlank).head? = some 'I' := by
  obtain ⟨rest, -, h⟩ := h
  exact h.head?_eq (by decide)

theorem head?_of_required (hword : word ∈ ["Required", "RequiredAttribute"])
    (h : Begins (word.toList :: ts) rest cs) : (cs.dropWhile isBlank).head? = some 'R' := by
  have hwords : ∀ word ∈ ["Required", "RequiredAttribute"],
      IsFirm word.toList ∧ word.toList.head? = some 'R' := by decide
  rw [h.head?_eq (hwords word hword).1, (hwords word hword).2]

theorem Requires.head?_eq (h : Requires token) :
    (token.toList.dropWhile isBlank).head? = some 'R' ∨
      (token.toList.dropWhile isBlank).head? = some 'I' := by
  rcases h with ⟨word, hword, ⟨rest, -, h⟩ | ⟨arguments, rest, -, h⟩⟩ | ⟨rest, -, h⟩ | ⟨rest, -, h⟩
  · exact .inl (head?_of_required hword h)
  · exact .inl (head?_of_required hword h)
  · exact .inr (h.head?_eq (by decide))
  · exact .inr (h.head?_eq (by decide))

theorem StatesLength.head?_mem (h : StatesLength token digits) :
    (token.toList.dropWhile isBlank).head? ∈ [some 'M', some 'S', some 'H'] := by
  obtain ⟨-, word, hmem, rest, h, -⟩ := h
  have hword : ∀ word ∈ lengthWords,
      IsFirm word.toList ∧ word.toList.head? ∈ [some 'M', some 'S', some 'H'] := by decide
  rw [h.head?_eq (hword word hmem).1]
  exact (hword word hmem).2

theorem Requires.not_releases (h : Requires token) : ¬ Releases token := by
  intro hreleases
  have hhead := hreleases.head?_eq
  obtain ⟨rest', -, h'⟩ := hreleases
  rcases h with ⟨word, hword, ⟨rest, -, h⟩ | ⟨arguments, rest, -, h⟩⟩ | ⟨rest, -, h⟩ | ⟨rest, -, h⟩
  · exact absurd ((head?_of_required hword h).symm.trans hhead) (by decide)
  · exact absurd ((head?_of_required hword h).symm.trans hhead) (by decide)
  · obtain ⟨call, h, h'⟩ := h.exists_behind h' (by decide)
    obtain ⟨argument, h, h'⟩ := h.exists_behind h' (by decide)
    exact absurd ((h.head?_eq (by decide)).symm.trans (h'.head?_eq (by decide))) (by decide)
  · obtain ⟨call, h, h'⟩ := h.exists_behind h' (by decide)
    obtain ⟨argument, h, h'⟩ := h.exists_behind h' (by decide)
    exact absurd ((h.head?_eq (by decide)).symm.trans (h'.head?_eq (by decide))) (by decide)

theorem StatesLength.not_requires (h : StatesLength token digits) : ¬ Requires token := by
  intro hrequires
  have hhead := h.head?_mem
  rcases hrequires.head?_eq with hfirst | hfirst <;>
  · rw [hfirst] at hhead
    exact absurd hhead (by decide)

theorem StatesLength.not_releases (h : StatesLength token digits) : ¬ Releases token := by
  intro hreleases
  have hhead := h.head?_mem
  rw [hreleases.head?_eq] at hhead
  exact absurd hhead (by decide)

theorem StatesLength.unique {found : List Char} (h : StatesLength token digits)
    (h' : StatesLength token found) : digits = found :=
  Option.some.inj ((lengthDigits?_eq_some_iff.2 h).symm.trans (lengthDigits?_eq_some_iff.2 h'))

end EndpointScaffold.Support
