import EndpointScaffold.Naming.Identifier
import EndpointScaffold.Proofs.Text.Classes
import EndpointScaffold.Proofs.Text.Splitting

/-!
# The parts of identifiers

An identifier is a plain word, maybe behind an `@`, and maybe before a line feed that is overlooked.
What is built from identifiers can be told from the characters of these parts. Reserved words are
made of small letters only, so a text with any other character is none of them.

* `IsSpelled` the parts of an identifier, `exists_isSpelled` every identifier has them;
* `IsSpelled.isIdentifier_iff` when parts make up an identifier;
* `not_mem_of_isIdentifier` characters that no identifier has;
* `not_reserved` words that are not reserved, by one character;
* `isIdentifier_append_iff`, `isIdentifier_enclosed_iff` names within longer names;
* `isNamespace_append_iff` identifiers with points between them.
-/

namespace EndpointScaffold.Naming

open Text

variable {name : String} {cs sign word back : List Char}

/-! ### Characters -/

theorem isIdentifierPart_of_isAsciiLetter {c : Char} (h : isAsciiLetter c = true) :
    isIdentifierPart c = true := by
  rw [isIdentifierPart, isIdentifierStart, h]
  rfl

theorem ne_of_isIdentifierPart {c d : Char} (h : isIdentifierPart c = true)
    (hd : isIdentifierPart d = false) : c ≠ d := by
  rintro rfl
  rw [h] at hd
  cases hd

theorem toNat_lt_of_isIdentifierPart {c : Char} (h : isIdentifierPart c = true) :
    c.toNat < 128 := by
  rw [isIdentifierPart, isIdentifierStart, Bool.or_eq_true, Bool.or_eq_true, isAsciiLetter_iff,
    isAsciiDigit_iff, beq_iff_eq] at h
  rcases h with (h | rfl) | h
  · omega
  · decide
  · omega

theorem isPlainWord_iff : isPlainWord cs = true ↔
    (∃ c ∈ cs.head?, isIdentifierStart c = true) ∧ ∀ c ∈ cs, isIdentifierPart c = true := by
  cases cs with
  | nil => simp [isPlainWord]
  | cons c cs =>
    rw [isPlainWord, Bool.and_eq_true, List.all_eq_true, List.forall_mem_cons]
    constructor
    · rintro ⟨hstart, hparts⟩
      refine ⟨⟨c, rfl, hstart⟩, ?_, hparts⟩
      rw [isIdentifierPart, hstart, Bool.true_or]
    · rintro ⟨⟨d, hd, hstart⟩, -, hparts⟩
      obtain rfl := Option.some.inj hd
      exact ⟨hstart, hparts⟩

/-- behind a plain word stands whatever parts can make up -/
theorem isPlainWord_append_iff (h : isPlainWord word = true) :
    isPlainWord (word ++ cs) = true ↔ ∀ c ∈ cs, isIdentifierPart c = true := by
  obtain ⟨⟨c, hc, hstart⟩, hparts⟩ := isPlainWord_iff.1 h
  have hhead : (word ++ cs).head? = some c := by rw [List.head?_append, hc]; rfl
  rw [isPlainWord_iff, hhead, List.forall_mem_append]
  exact ⟨fun hall => hall.2.2, fun hall => ⟨⟨c, rfl, hstart⟩, hparts, hall⟩⟩

/-! ### Parts -/

theorem hasIdentifierShape_iff : hasIdentifierShape cs = true ↔
    ∃ sign word, cs = sign ++ word ∧ (sign = [] ∨ sign = ['@']) ∧ isPlainWord word = true := by
  unfold hasIdentifierShape
  split
  · rename_i rest
    constructor
    · exact fun h => ⟨['@'], rest, rfl, .inr rfl, h⟩
    · rintro ⟨sign, word, heq, rfl | rfl, hword⟩
      · rw [List.nil_append] at heq
        rw [← heq] at hword
        cases hword
      · obtain rfl := (List.cons.inj heq).2
        exact hword
  · rename_i hsign
    constructor
    · exact fun h => ⟨[], cs, rfl, .inl rfl, h⟩
    · rintro ⟨sign, word, rfl, rfl | rfl, hword⟩
      · exact hword
      · exact absurd rfl (hsign word)

theorem dropFinalLineFeed_eq (cs : List Char) :
    ∃ back, cs = dropFinalLineFeed cs ++ back ∧ (back = [] ∨ back = ['\n']) := by
  rw [dropFinalLineFeed]
  split
  · rename_i hlast
    obtain ⟨front, hfront⟩ := List.getLast?_eq_some_iff.1 (beq_iff_eq.1 hlast)
    refine ⟨['\n'], ?_, .inr rfl⟩
    rw [hfront, List.dropLast_concat]
  · exact ⟨[], (List.append_nil cs).symm, .inl rfl⟩

theorem dropFinalLineFeed_append (hcs : '\n' ∉ cs) (hback : back = [] ∨ back = ['\n']) :
    dropFinalLineFeed (cs ++ back) = cs := by
  rw [dropFinalLineFeed]
  rcases hback with rfl | rfl
  · rw [List.append_nil, if_neg]
    exact fun hlast => hcs (List.mem_of_getLast? (beq_iff_eq.1 hlast))
  · rw [List.getLast?_concat, if_pos (beq_self_eq_true _), List.dropLast_concat]

/-- the characters of an identifier: a sign, a word, and a line feed that is overlooked -/
structure IsSpelled (name : String) (sign word back : List Char) : Prop where
  chars : name.toList = sign ++ word ++ back
  sign : sign = [] ∨ sign = ['@']
  word : isPlainWord word = true
  back : back = [] ∨ back = ['\n']

theorem exists_isSpelled (h : isIdentifier name = true) :
    ∃ sign word back, IsSpelled name sign word back := by
  rw [isIdentifier, Bool.and_eq_true] at h
  obtain ⟨sign, word, hcore, hsign, hword⟩ := hasIdentifierShape_iff.1 h.1
  obtain ⟨back, hname, hback⟩ := dropFinalLineFeed_eq name.toList
  exact ⟨sign, word, back, hcore ▸ hname, hsign, hword, hback⟩

theorem IsSpelled.ne_empty (h : IsSpelled name sign word back) : name ≠ "" := by
  rintro rfl
  have hnil := (List.append_eq_nil_iff.1 (List.append_eq_nil_iff.1 h.chars.symm).1).2
  have hword := h.word
  rw [hnil] at hword
  cases hword

theorem IsSpelled.lineFeed_not_mem (h : IsSpelled name sign word back) : '\n' ∉ sign ++ word := by
  rw [List.mem_append]
  rintro (hmem | hmem)
  · rcases h.sign with rfl | rfl
    · cases hmem
    · revert hmem
      decide
  · exact ne_of_isIdentifierPart ((isPlainWord_iff.1 h.word).2 _ hmem) (by decide) rfl

theorem IsSpelled.dropFinalLineFeed_eq (h : IsSpelled name sign word back) :
    dropFinalLineFeed name.toList = sign ++ word := by
  rw [h.chars, dropFinalLineFeed_append h.lineFeed_not_mem h.back]

theorem mem_of_isIdentifier (h : isIdentifier name = true) {c : Char} (hc : c ∈ name.toList) :
    c = '@' ∨ isIdentifierPart c = true ∨ c = '\n' := by
  obtain ⟨sign, word, back, hspelled⟩ := exists_isSpelled h
  rw [hspelled.chars, List.mem_append, List.mem_append] at hc
  rcases hc with (hc | hc) | hc
  · rcases hspelled.sign with rfl | rfl
    · cases hc
    · exact .inl (List.mem_singleton.1 hc)
  · exact .inr (.inl ((isPlainWord_iff.1 hspelled.word).2 c hc))
  · rcases hspelled.back with rfl | rfl
    · cases hc
    · exact .inr (.inr (List.mem_singleton.1 hc))

theorem not_mem_of_isIdentifier {d : Char} (h : isIdentifier name = true) (hsign : d ≠ '@')
    (hpart : isIdentifierPart d = false) (hfeed : d ≠ '\n') : d ∉ name.toList := by
  intro hmem
  rcases mem_of_isIdentifier h hmem with heq | hd | heq
  · exact hsign heq
  · exact ne_of_isIdentifierPart hd hpart rfl
  · exact hfeed heq

theorem blank_not_mem (h : isIdentifier name = true) : ' ' ∉ name.toList :=
  not_mem_of_isIdentifier h (by decide) (by decide) (by decide)

theorem isAscii_of_isIdentifier (h : isIdentifier name = true) : IsAscii name := by
  intro c hc
  rcases mem_of_isIdentifier h hc with rfl | hpart | rfl
  · decide
  · exact toNat_lt_of_isIdentifierPart hpart
  · decide

/-! ### Reserved words -/

/-- reserved words are made of small letters -/
theorem isAsciiLower_of_reserved (h : reservedWords.contains name = true) :
    ∀ c ∈ name.toList, isAsciiLower c = true := by
  have hsmall : ∀ w ∈ reservedWords, ∀ c ∈ w.toList, isAsciiLower c = true := by decide
  exact hsmall name (List.contains_iff_mem.1 h)

theorem not_reserved {c : Char} (hmem : c ∈ name.toList) (hc : isAsciiLower c = false) :
    reservedWords.contains name = false := by
  rw [Bool.eq_false_iff]
  intro hreserved
  rw [isAsciiLower_of_reserved hreserved c hmem] at hc
  cases hc

/-- where nothing is overlooked, a name is an identifier by its sign or by not being reserved -/
theorem IsSpelled.isIdentifier_iff (h : IsSpelled name sign word []) :
    isIdentifier name = true ↔ sign = ['@'] ∨ reservedWords.contains name = false := by
  have hshape : hasIdentifierShape (sign ++ word) = true :=
    hasIdentifierShape_iff.2 ⟨sign, word, rfl, h.sign, h.word⟩
  have hchars : name.toList = sign ++ word := h.chars.trans (List.append_nil _)
  rw [isIdentifier, h.dropFinalLineFeed_eq, hshape, Bool.true_and, Bool.or_eq_true, beq_iff_eq,
    Bool.not_eq_true', hchars]
  refine or_congr_left ?_
  rcases h.sign with rfl | rfl
  · -- a word does not begin with the sign
    obtain ⟨⟨c, hc, hstart⟩, -⟩ := isPlainWord_iff.1 h.word
    rw [List.nil_append, Option.mem_def.1 hc]
    refine iff_of_false (fun heq => ?_) nofun
    obtain rfl := Option.some.inj heq
    cases hstart
  · exact iff_of_true rfl rfl

/-! ### Longer names -/

/-- only a line feed at the very end is overlooked -/
theorem lineFeed_not_mem (h : isIdentifier name = true) (hlast : name.toList.getLast? ≠ some '\n') :
    '\n' ∉ name.toList := by
  obtain ⟨sign, word, back, hspelled⟩ := exists_isSpelled h
  rcases hspelled.back with rfl | rfl
  · rw [hspelled.chars, List.append_nil]
    exact hspelled.lineFeed_not_mem
  · rw [hspelled.chars, List.getLast?_concat] at hlast
    exact absurd rfl hlast

/-- a sign stands at the start only -/
theorem sign_not_mem (h : isIdentifier name = true) (hfirst : name.toList.head? ≠ some '@') :
    '@' ∉ name.toList := by
  obtain ⟨sign, word, back, hspelled⟩ := exists_isSpelled h
  rw [hspelled.chars] at hfirst ⊢
  rcases hspelled.sign with rfl | rfl
  · rw [List.nil_append, List.mem_append]
    rintro (hmem | hmem)
    · exact ne_of_isIdentifierPart ((isPlainWord_iff.1 hspelled.word).2 _ hmem) (by decide) rfl
    · rcases hspelled.back with rfl | rfl
      · cases hmem
      · revert hmem
        decide
  · exact absurd rfl hfirst

theorem getLast?_append_part {s ending : String} (hne : ending ≠ "")
    (hparts : ∀ c ∈ ending.toList, isIdentifierPart c = true) :
    (s ++ ending).toList.getLast? ≠ some '\n' := by
  intro hlast
  have hchars : ending.toList ≠ [] := mt String.toList_eq_nil_iff.1 hne
  rw [String.toList_append, List.getLast?_append_of_ne_nil _ hchars] at hlast
  exact ne_of_isIdentifierPart (hparts _ (List.mem_of_getLast? hlast)) (by decide) rfl

/-- behind an identifier, an ending keeps nothing but a line feed from being overlooked -/
theorem isIdentifier_append_iff {ending : String} {c : Char} (h : isIdentifier name = true)
    (hparts : ∀ c ∈ ending.toList, isIdentifierPart c = true) (hmem : c ∈ ending.toList)
    (hc : isAsciiLower c = false) : isIdentifier (name ++ ending) = true ↔ '\n' ∉ name.toList := by
  constructor
  · intro hlonger hfeed
    have hne : ending ≠ "" := fun hempty => by
      rw [hempty] at hmem
      cases hmem
    refine lineFeed_not_mem hlonger (getLast?_append_part hne hparts) ?_
    rw [String.toList_append]
    exact List.mem_append_left _ hfeed
  · intro hfeed
    obtain ⟨sign, word, back, hspelled⟩ := exists_isSpelled h
    obtain rfl : back = [] := hspelled.back.resolve_right fun hback => hfeed (by
      rw [hspelled.chars, hback]
      exact List.mem_append_right _ (List.mem_singleton_self _))
    have hlonger : IsSpelled (name ++ ending) sign (word ++ ending.toList) [] := by
      refine ⟨?_, hspelled.sign, (isPlainWord_append_iff hspelled.word).2 hparts, .inl rfl⟩
      rw [String.toList_append, hspelled.chars, List.append_nil, List.append_nil, List.append_assoc]
    refine hlonger.isIdentifier_iff.2 (.inr (not_reserved (c := c) ?_ hc))
    rw [String.toList_append]
    exact List.mem_append_right _ hmem

/-- within a longer name, a sign is out of place as well -/
theorem isIdentifier_enclosed_iff {start ending : String} {c : Char} (h : isIdentifier name = true)
    (hstart : isPlainWord start.toList = true) (hmem : c ∈ start.toList)
    (hc : isAsciiLower c = false) (hne : ending ≠ "")
    (hparts : ∀ c ∈ ending.toList, isIdentifierPart c = true) :
    isIdentifier (start ++ name ++ ending) = true ↔ '@' ∉ name.toList ∧ '\n' ∉ name.toList := by
  have hchars : (start ++ name ++ ending).toList =
      start.toList ++ (name.toList ++ ending.toList) := by
    rw [String.toList_append, String.toList_append, List.append_assoc]
  have hinside : ∀ d, d ∈ name.toList → d ∈ (start ++ name ++ ending).toList := fun d hd => by
    rw [hchars]
    exact List.mem_append_right _ (List.mem_append_left _ hd)
  constructor
  · intro hlonger
    obtain ⟨⟨d, hd, hdstart⟩, -⟩ := isPlainWord_iff.1 hstart
    have hfirst : (start ++ name ++ ending).toList.head? ≠ some '@' := by
      rw [hchars, List.head?_append, Option.mem_def.1 hd]
      intro heq
      obtain rfl := Option.some.inj heq
      cases hdstart
    exact ⟨fun hsign => sign_not_mem hlonger hfirst (hinside _ hsign), fun hfeed =>
      lineFeed_not_mem hlonger (getLast?_append_part hne hparts) (hinside _ hfeed)⟩
  · rintro ⟨hsign, hfeed⟩
    have hnameParts : ∀ d ∈ name.toList, isIdentifierPart d = true := fun d hd =>
      (mem_of_isIdentifier h hd).elim (fun heq => absurd (heq ▸ hd) hsign)
        fun hd' => hd'.resolve_right fun heq => hfeed (heq ▸ hd)
    have hlonger : IsSpelled (start ++ name ++ ending) []
        (start.toList ++ (name.toList ++ ending.toList)) [] := by
      refine ⟨by rw [hchars, List.append_nil]; rfl, .inl rfl, ?_, .inl rfl⟩
      exact (isPlainWord_append_iff hstart).2 (List.forall_mem_append.2 ⟨hnameParts, hparts⟩)
    refine hlonger.isIdentifier_iff.2 (.inr (not_reserved (c := c) ?_ hc))
    rw [hchars]
    exact List.mem_append_left _ hmem

/-! ### Namespaces -/

theorem isNamespace_iff :
    isNamespace name = true ↔ ∀ part ∈ split '.' name, isIdentifier part = true := by
  rw [isNamespace, Bool.and_eq_true, List.all_eq_true, Bool.not_eq_true', ← Bool.not_eq_true,
    String.isEmpty_iff]
  refine and_iff_right_of_imp fun hparts => ?_
  rintro rfl
  have hempty := hparts "" List.mem_cons_self
  cases hempty

theorem isNamespace_append_iff {s t : String} :
    isNamespace (s ++ "." ++ t) = true ↔ isNamespace s = true ∧ isNamespace t = true := by
  rw [isNamespace_iff, isNamespace_iff, isNamespace_iff]
  show (∀ part ∈ split '.' (s ++ String.singleton '.' ++ t), _) ↔ _
  rw [split_append, List.forall_mem_append]

/-- a name without points is a namespace of its own -/
theorem isNamespace_iff_isIdentifier (h : '.' ∉ name.toList) :
    isNamespace name = true ↔ isIdentifier name = true := by
  rw [isNamespace_iff, split_of_not_mem h, List.forall_mem_singleton]

end EndpointScaffold.Naming

/-!
## The grammar of names

What is accepted as an identifier and as a namespace, against the grammar of both: a word may stand
behind a sign and must not be reserved without one, and a namespace is one or more of these with
points between them. The checks accept all of it, and one thing more: a line feed at the very end of
an identifier is overlooked, also before a point.

* `IsWord`, `HasShape`, `IsName`   the grammar of identifiers;
* `IsDotted`                       parts with points between them;
* `HasLooseEnd`                    what is accepted beside the grammar;
* `isIdentifier_iff`, `isNamespace_iff_isDotted`   what the checks accept;
* `Accepts`, `accepts_names`       both, and where they come to the grammar alone.
-/

namespace EndpointScaffold.Naming

open Text

variable {s t : String} {cs : List Char} {c : Char} {P Q : String → Prop}

/-! ### Grammar -/

/-- a letter or an underscore, and then letters, digits and underscores -/
inductive IsWord : List Char → Prop
  | first {c : Char} (h : c.isAlpha = true ∨ c = '_') : IsWord [c]
  | next {cs : List Char} {c : Char} (hcs : IsWord cs) (h : c.isAlphanum = true ∨ c = '_') :
    IsWord (cs ++ [c])

inductive HasShape : List Char → Prop
  | bare {cs : List Char} (h : IsWord cs) : HasShape cs
  | signed {cs : List Char} (h : IsWord cs) : HasShape ('@' :: cs)

/-- reserved words are spelled without a sign -/
structure IsName (s : String) : Prop where
  shape : HasShape s.toList
  free : s ∉ reservedWords

inductive IsDotted (P : String → Prop) : String → Prop
  | one {s : String} (h : P s) : IsDotted P s
  | more {s t : String} (h : P s) (ht : IsDotted P t) : IsDotted P (s ++ "." ++ t)

def HasLooseEnd (s : String) : Prop := ∃ cs, HasShape cs ∧ s.toList = cs ++ ['\n']

/-! ### Characters and words -/

theorem isAlpha_iff : c.isAlpha = true ↔ isAsciiLetter c = true := by
  show (decide ('A'.val ≤ c.val ∧ c.val ≤ 'Z'.val) ||
    (decide ('a'.val ≤ c.val) && decide (c.val ≤ 'z'.val))) = true ↔ _
  rw [isAsciiLetter_iff]
  simp only [Bool.or_eq_true, Bool.and_eq_true, decide_eq_true_eq, UInt32.le_iff_toNat_le]
  rfl

theorem isDigit_iff : c.isDigit = true ↔ isAsciiDigit c = true := by
  rw [isAsciiDigit_iff]
  simp only [Char.isDigit, Bool.and_eq_true, decide_eq_true_eq, ge_iff_le, UInt32.le_iff_toNat_le]
  rfl

theorem isIdentifierStart_iff : isIdentifierStart c = true ↔ c.isAlpha = true ∨ c = '_' := by
  rw [isIdentifierStart, Bool.or_eq_true, beq_iff_eq, isAlpha_iff]

theorem isIdentifierPart_iff : isIdentifierPart c = true ↔ c.isAlphanum = true ∨ c = '_' := by
  rw [isIdentifierPart, Bool.or_eq_true, isIdentifierStart_iff, Char.isAlphanum, Bool.or_eq_true,
    isDigit_iff]
  exact or_right_comm

theorem isWord_iff : IsWord cs ↔ isPlainWord cs = true := by
  constructor
  · intro h
    induction h with
    | first h =>
      rw [isPlainWord, Bool.and_eq_true, isIdentifierStart_iff]
      exact ⟨h, rfl⟩
    | next hcs h ih =>
      rw [isPlainWord_append_iff ih, List.forall_mem_singleton, isIdentifierPart_iff]
      exact h
  · intro h
    induction cs using List.reverseRecOn with
    | nil => cases h
    | append_singleton cs c ih =>
      cases cs with
      | nil =>
        apply IsWord.first
        rw [isPlainWord_iff] at h
        obtain ⟨⟨d, hd, hstart⟩, -⟩ := h
        obtain rfl := Option.some.inj hd
        exact isIdentifierStart_iff.1 hstart
      | cons d ds =>
        obtain ⟨hstart, hparts⟩ := isPlainWord_iff.1 h
        rw [List.forall_mem_append, List.forall_mem_singleton] at hparts
        apply IsWord.next
        · exact ih (isPlainWord_iff.2 ⟨hstart, hparts.1⟩)
        · exact isIdentifierPart_iff.1 hparts.2

theorem hasShape_iff :
    HasShape cs ↔ ∃ sign word, cs = sign ++ word ∧ (sign = [] ∨ sign = ['@']) ∧
      isPlainWord word = true := by
  constructor
  · intro h
    cases h with
    | bare h => exact ⟨[], cs, rfl, .inl rfl, isWord_iff.1 h⟩
    | signed h => exact ⟨['@'], _, rfl, .inr rfl, isWord_iff.1 h⟩
  · rintro ⟨sign, word, rfl, rfl | rfl, hword⟩
    · exact .bare (isWord_iff.2 hword)
    · exact .signed (isWord_iff.2 hword)

/-! ### Identifiers -/

theorem isSpelled_of_hasShape (h : HasShape s.toList) :
    ∃ sign word, IsSpelled s sign word [] := by
  obtain ⟨sign, word, hcs, hsign, hword⟩ := hasShape_iff.1 h
  exact ⟨sign, word, hcs.trans (List.append_nil _).symm, hsign, hword, .inl rfl⟩

theorem lineFeed_not_mem_of_hasShape (h : HasShape cs) : '\n' ∉ cs := by
  have hcs : HasShape (String.ofList cs).toList := by rw [String.toList_ofList]; exact h
  obtain ⟨sign, word, hspelled⟩ := isSpelled_of_hasShape hcs
  have hmem := hspelled.lineFeed_not_mem
  have hchars := hspelled.chars
  rw [String.toList_ofList, List.append_nil] at hchars
  rw [hchars]
  exact hmem

theorem HasLooseEnd.lineFeed_mem (h : HasLooseEnd s) : '\n' ∈ s.toList := by
  obtain ⟨cs, -, hs⟩ := h
  rw [hs]
  exact List.mem_append_right _ (List.mem_singleton_self _)

/-- no reserved word has any other character than small letters -/
theorem not_mem_reservedWords (hmem : c ∈ s.toList) (hc : isAsciiLower c = false) :
    s ∉ reservedWords := by
  have hnot := not_reserved hmem hc
  rw [List.contains_eq_mem, decide_eq_false_iff_not] at hnot
  exact hnot

theorem isIdentifier_of_isName (h : IsName s) : isIdentifier s = true := by
  obtain ⟨sign, word, hspelled⟩ := isSpelled_of_hasShape h.shape
  apply hspelled.isIdentifier_iff.2
  right
  rw [List.contains_eq_mem, decide_eq_false_iff_not]
  exact h.free

theorem isIdentifier_of_hasLooseEnd (h : HasLooseEnd s) : isIdentifier s = true := by
  have hfree := not_mem_reservedWords h.lineFeed_mem (by decide)
  obtain ⟨cs, hshape, hs⟩ := h
  have hcore : dropFinalLineFeed s.toList = cs := by
    rw [hs]
    exact dropFinalLineFeed_append (lineFeed_not_mem_of_hasShape hshape) (.inr rfl)
  have hread : hasIdentifierShape cs = true := hasIdentifierShape_iff.2 (hasShape_iff.1 hshape)
  rw [isIdentifier, hcore, hread, Bool.true_and, Bool.or_eq_true, Bool.not_eq_true',
    List.contains_eq_mem, decide_eq_false_iff_not]
  exact .inr hfree

theorem isIdentifier_iff : isIdentifier s = true ↔ IsName s ∨ HasLooseEnd s := by
  constructor
  · intro h
    obtain ⟨sign, word, back, hspelled⟩ := exists_isSpelled h
    have hshape : HasShape (sign ++ word) :=
      hasShape_iff.2 ⟨sign, word, rfl, hspelled.sign, hspelled.word⟩
    rcases hspelled.back with rfl | rfl
    · left
      have hchars : s.toList = sign ++ word := hspelled.chars.trans (List.append_nil _)
      refine ⟨hchars ▸ hshape, ?_⟩
      rcases hspelled.isIdentifier_iff.1 h with hsign | hfree
      · apply not_mem_reservedWords (c := '@') _ (by decide)
        rw [hchars, hsign]
        exact List.mem_cons_self
      · rw [List.contains_eq_mem, decide_eq_false_iff_not] at hfree
        exact hfree
    · exact .inr ⟨sign ++ word, hshape, hspelled.chars⟩
  · rintro (h | h)
    · exact isIdentifier_of_isName h
    · exact isIdentifier_of_hasLooseEnd h

/-! ### Namespaces -/

theorem point_not_mem_of_isIdentifier (h : isIdentifier s = true) : '.' ∉ s.toList :=
  not_mem_of_isIdentifier h (by decide) (by decide) (by decide)

/-- a part has no characters but those of the whole -/
theorem IsDotted.imp (h : IsDotted P s)
    (hpart : ∀ part, (∀ c ∈ part.toList, c ∈ s.toList) → P part → Q part) : IsDotted Q s := by
  induction h with
  | one h => exact .one (hpart _ (fun _ hc => hc) h)
  | more h _ ih =>
    apply IsDotted.more
    · refine hpart _ (fun c hc => ?_) h
      simp only [String.toList_append, List.mem_append]
      exact .inl (.inl hc)
    · refine ih fun part hmem => hpart part fun c hc => ?_
      simp only [String.toList_append, List.mem_append]
      exact .inr (hmem c hc)

theorem isNamespace_of_isDotted (h : IsDotted (fun part => isIdentifier part = true) s) :
    isNamespace s = true := by
  induction h with
  | one h => exact (isNamespace_iff_isIdentifier (point_not_mem_of_isIdentifier h)).2 h
  | more h _ ih =>
    apply isNamespace_append_iff.2
    exact ⟨(isNamespace_iff_isIdentifier (point_not_mem_of_isIdentifier h)).2 h, ih⟩

/-- the part before the first point is an identifier, and what is behind it a shorter namespace -/
theorem isDotted_of_isNamespace (h : isNamespace s = true) :
    IsDotted (fun part => isIdentifier part = true) s := by
  induction hn : s.toList.length using Nat.strong_induction_on generalizing s with
  | _ n ih =>
    by_cases hpoint : '.' ∈ s.toList
    · obtain ⟨front, back, hs, hfront⟩ := List.eq_append_cons_of_mem hpoint
      have hjoined : s = String.ofList front ++ "." ++ String.ofList back := by
        apply String.toList_inj.1
        simp only [String.toList_append, String.toList_ofList, List.append_assoc]
        exact hs
      rw [hjoined, isNamespace_append_iff] at h
      have hshorter : (String.ofList back).toList.length < n := by
        rw [← hn, hs, String.toList_ofList, List.length_append, List.length_cons]
        omega
      rw [hjoined]
      refine .more ?_ (ih _ hshorter h.2 rfl)
      exact (isNamespace_iff_isIdentifier (by rw [String.toList_ofList]; exact hfront)).1 h.1
    · exact .one ((isNamespace_iff_isIdentifier hpoint).1 h)

theorem isNamespace_iff_isDotted :
    isNamespace s = true ↔ IsDotted (fun part => IsName part ∨ HasLooseEnd part) s := by
  constructor
  · intro h
    exact (isDotted_of_isNamespace h).imp fun _ _ => isIdentifier_iff.1
  · intro h
    exact isNamespace_of_isDotted (h.imp fun _ _ => isIdentifier_iff.2)

/-! ### Both checks -/

/-- what the checks of names make of a text -/
structure Accepts (s : String) : Prop where
  identifier : isIdentifier s = true ↔ IsName s ∨ HasLooseEnd s
  dotted : isNamespace s = true ↔ IsDotted (fun part => IsName part ∨ HasLooseEnd part) s
  apart : HasLooseEnd s → ¬ IsName s
  /-- only line feeds keep the checks from the grammar -/
  proper : '\n' ∉ s.toList →
    (isIdentifier s = true ↔ IsName s) ∧ (isNamespace s = true ↔ IsDotted IsName s)

theorem accepts_names (s : String) : Accepts s where
  identifier := isIdentifier_iff
  dotted := isNamespace_iff_isDotted
  apart h hname := lineFeed_not_mem_of_hasShape hname.shape h.lineFeed_mem
  proper h := by
    have hend : ∀ part : String, (∀ c ∈ part.toList, c ∈ s.toList) → ¬ HasLooseEnd part := by
      intro part hpart hloose
      exact h (hpart _ hloose.lineFeed_mem)
    constructor
    · rw [isIdentifier_iff]
      exact or_iff_left (hend s fun _ hc => hc)
    · rw [isNamespace_iff_isDotted]
      constructor
      · exact fun hdotted => hdotted.imp fun part hpart hor => hor.resolve_right (hend part hpart)
      · exact fun hdotted => hdotted.imp fun _ _ => .inl

end EndpointScaffold.Naming
