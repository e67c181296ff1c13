import EndpointScaffold.Proofs.Naming.Plural

/-!
# Plurals as names

The plural of an identifier is an identifier again, with two exceptions. Four short words become
reserved words, since an `s` is all that sets them apart. And where an overlooked line feed follows
an underscore, there is no last word to change, so the line feed gets into the middle of the
plural.

* `PluralForm` the ways in which a word becomes plural, `pluralForm` the way taken;
* `lastWord?_eq_none_iff`, `IsSpelled.exists_underscore` names without a last word;
* `mem_unfinishedWords` words whose plural is reserved;
* `IsUnnamed` the exceptions, `isIdentifier_plural_iff` there are no others.
-/

namespace EndpointScaffold.Naming

open Text

variable {s name : String} {cs head word : List Char}

/-! ### Forms of one word -/

/-- how a word becomes plural -/
inductive PluralForm (s : String) : String → Prop
  | same (h : lower s ∈ invariantNouns) : PluralForm s s
  | irregular (form : String) (h : irregularPlurals.lookup (lower s) = some form) :
      PluralForm s (matchCase s.toList form)
  | longer (ending : String) (h : ending = "s" ∨ ending = "es") : PluralForm s (s ++ ending)
  | changed (n : Nat) (ending : String) (hn : n < s.toList.length)
      (h : ending = "ies" ∨ ending = "ves") : PluralForm s (replaceEnd s.toList n ending)

theorem length_lower (h : IsAscii s) : (lower s).toList.length = s.toList.length := by
  rw [toList_lower h, List.length_map]

theorem pluralForm (h : IsAscii s) (hne : s ≠ "") : PluralForm s (pluralOfWord s) := by
  have hves : ∀ w ∈ vesNouns, 1 < w.toList.length := by decide
  obtain ⟨hsame, heq⟩ | ⟨form, hform, heq⟩ | ⟨ending, hending, heq⟩ | ⟨n, ending, hending, hn, heq⟩ :=
    pluralOfWord_cases hne
  · rw [heq]
    exact .same hsame
  · rw [heq]
    exact .irregular form hform
  · rw [heq]
    exact .longer ending hending
  · rw [heq]
    refine .changed n ending ?_ hending
    rcases hn with hn | ⟨rfl, hmem⟩
    · exact hn
    · rw [← length_lower h]
      exact hves _ hmem

theorem isAsciiLower_asciiUpperChar (c : Char) : isAsciiLower (asciiUpperChar c) = false := by
  rw [asciiUpperChar]
  split
  · rename_i hlower
    rw [isAsciiLower_iff] at hlower
    rw [Bool.eq_false_iff, ne_eq, isAsciiLower_iff, Char.ofNat, dif_pos (Or.inl (by omega))]
    show ¬ (97 ≤ c.toNat - 32 ∧ c.toNat - 32 ≤ 122)
    omega
  · rename_i hlower
    exact Bool.eq_false_iff.2 hlower

/-- a form with the case of a word that begins with a capital -/
theorem matchCase_capital {c : Char} (hc : isAsciiUpper c = true) {d : Char} {ds : List Char} :
    ∃ rest, (matchCase (c :: cs) (String.ofList (d :: ds))).toList = asciiUpperChar d :: rest := by
  have hupper : isUpper c = true := by
    have hcode := isAsciiUpper_iff.1 hc
    rw [isUpper, if_pos (by omega), hc]
  rw [matchCase]
  split
  · refine ⟨ds.map asciiUpperChar, ?_⟩
    rw [asciiUpper, String.toList_ofList, String.toList_ofList, List.map_cons]
  · refine ⟨ds, ?_⟩
    rw [List.head?_cons, Option.any_some, if_pos hupper, String.toList_ofList,
      String.toList_ofList, capitalize]

/-- the first character stays, or becomes a letter that is a capital where a capital was -/
theorem PluralForm.first_char {form : String} (h : PluralForm s form) {c : Char}
    (hs : s.toList = c :: cs) : ∃ d rest, form.toList = d :: rest ∧
      (d = c ∨ isAsciiLetter d = true ∧ (isAsciiUpper c = true → isAsciiLower d = false)) := by
  cases h with
  | same _ => exact ⟨c, cs, hs, .inl rfl⟩
  | irregular irr hirr =>
    have hletters := isLetters_of_lookup hirr
    obtain ⟨hne, hall⟩ := isLetters_iff.1 (isLetters_matchCase s.toList hletters)
    obtain ⟨d, rest, hd⟩ := List.exists_cons_of_ne_nil (mt String.toList_eq_nil_iff.1 hne)
    refine ⟨d, rest, hd, .inr ⟨hall d (by rw [hd]; exact List.mem_cons_self), fun hupper => ?_⟩⟩
    obtain ⟨e, es, he⟩ :=
      List.exists_cons_of_ne_nil (mt String.toList_eq_nil_iff.1 (isLetters_iff.1 hletters).1)
    obtain ⟨rest', hform⟩ : ∃ rest', (matchCase (c :: cs) (String.ofList (e :: es))).toList =
        asciiUpperChar e :: rest' := matchCase_capital hupper
    rw [← he, String.ofList_toList, ← hs, hd] at hform
    rw [(List.cons.inj hform).1]
    exact isAsciiLower_asciiUpperChar e
  | longer ending _ =>
    refine ⟨c, cs ++ ending.toList, ?_, .inl rfl⟩
    rw [String.toList_append, hs, List.cons_append]
  | changed n ending hn _ =>
    obtain ⟨k, hk⟩ : ∃ k, s.toList.length - n = k + 1 := ⟨s.toList.length - n - 1, by omega⟩
    refine ⟨c, cs.take k ++ ending.toList, ?_, .inl rfl⟩
    rw [replaceEnd, String.toList_ofList, hk, hs, List.take_succ_cons, List.cons_append]

/-! ### The last word -/

/-- a name has no last word if its last character belongs to no word -/
theorem lastWord?_eq_none_iff :
    lastWord? cs = none ↔ ∀ c ∈ cs.getLast?, isSmall c = false ∧ isAsciiUpper c = false := by
  rw [lastWord?, ← List.head?_reverse]
  cases cs.reverse with
  | nil => exact iff_of_true rfl fun c hc => by cases hc
  | cons c rest =>
    have hlast : (∀ d ∈ (c :: rest).head?, isSmall d = false ∧ isAsciiUpper d = false) ↔
        isSmall c = false ∧ isAsciiUpper c = false := by
      rw [List.head?_cons]
      exact ⟨fun hall => hall c rfl, fun hc d hd => Option.some.inj hd ▸ hc⟩
    rw [hlast]
    by_cases hsmall : isSmall c = true
    · have hsome : (List.takeWhile isSmall (c :: rest)).reverse.isEmpty = false := by
        rw [List.takeWhile_cons_of_pos hsmall, List.isEmpty_reverse]
        rfl
      simp only [hsome, hsmall]
      refine iff_of_false (fun h => ?_) (fun hclass => by cases hclass.1)
      split at h
      · split at h <;> cases h
      · cases h
    · simp only [List.takeWhile_cons_of_neg hsmall, List.dropWhile_cons_of_neg hsmall]
      rw [Bool.not_eq_true] at hsmall
      by_cases hupper : isAsciiUpper c = true
      · simp [hupper]
      · simp [hupper, hsmall]

/-! ### Words without a rule of their own -/

def endsInLetter (cs : List Char) : Bool := cs.getLast?.any isAsciiLetter

theorem endsInLetter_of_suffix {ending : List Char} (h : ending.isSuffixOf cs = true)
    (hletter : endsInLetter ending = true) : endsInLetter cs = true := by
  obtain ⟨front, rfl⟩ := List.isSuffixOf_iff_suffix.1 h
  cases hlast : ending.getLast? with
  | none => rw [endsInLetter, hlast] at hletter; cases hletter
  | some c =>
    rw [endsInLetter, hlast] at hletter
    rw [endsInLetter, List.getLast?_append, hlast]
    exact hletter

theorem endsInLetter_lower (h : IsAscii s) (hletter : endsInLetter s.toList = false) :
    endsInLetter (lower s).toList = false := by
  rw [toList_lower h, endsInLetter, List.getLast?_map]
  cases hlast : s.toList.getLast? with
  | none => rfl
  | some c =>
    rw [endsInLetter, hlast] at hletter
    rw [Option.map_some, (lowerChar_eq_iff (h c (List.mem_of_getLast? hlast)) hletter).2 rfl]
    exact hletter

theorem endsInLetter_of_endsInConsonantY (h : endsInConsonantY cs = true) :
    endsInLetter cs = true := by
  rw [endsInConsonantY] at h
  split at h
  · rename_i c rest hrev
    rw [endsInLetter, ← List.head?_reverse, hrev]
    rfl
  · cases h

theorem endsInLetter_of_endsInSibilant (h : endsInSibilant cs = true) :
    endsInLetter cs = true := by
  have hendings : ∀ e ∈ [['s'], ['s', 'h'], ['c', 'h'], ['x'], ['z']], endsInLetter e = true := by
    decide
  obtain ⟨ending, hmem, hends⟩ := List.any_eq_true.1 h
  exact endsInLetter_of_suffix hends (hendings ending hmem)

theorem lookup_irregularPlurals_of_not_endsInLetter (h : endsInLetter s.toList = false) :
    irregularPlurals.lookup s = none := by
  have hwords : ∀ e ∈ irregularPlurals, endsInLetter e.1.toList = true := by decide
  refine List.lookup_eq_none_iff.2 fun e he => ?_
  rw [bne_iff_ne]
  rintro rfl
  rw [hwords e he] at h
  cases h

/-- every rule but the last is about words that end in a letter -/
theorem pluralOfWord_of_not_endsInLetter (h : IsAscii s) (hne : s ≠ "")
    (hletter : endsInLetter s.toList = false) : pluralOfWord s = s ++ "s" := by
  have hlow := Bool.eq_false_iff.1 (endsInLetter_lower h hletter)
  have hlisted : ∀ words : List String, (∀ w ∈ words, endsInLetter w.toList = true) →
      words.contains (lower s) = false := fun words hwords => by
    rw [List.contains_eq_mem, decide_eq_false_iff_not]
    exact fun hmem => hlow (hwords _ hmem)
  have hirregular := lookup_irregularPlurals_of_not_endsInLetter (endsInLetter_lower h hletter)
  have hsibilant := Bool.eq_false_iff.2 (mt endsInLetter_of_endsInSibilant hlow)
  have hy := Bool.eq_false_iff.2 (mt endsInLetter_of_endsInConsonantY hlow)
  have hfe : endsWith (lower s) "fe" = false :=
    Bool.eq_false_iff.2 fun hends => hlow (endsInLetter_of_suffix hends (by decide))
  have hword : s.toList.isEmpty = false := by
    rw [← Bool.not_eq_true, List.isEmpty_iff, String.toList_eq_nil_iff]
    exact hne
  rw [pluralOfWord]
  simp only [hword, hlisted invariantNouns (by decide), hirregular, hsibilant, hy, hfe,
    hlisted vesNouns (by decide), hlisted esNouns (by decide), Bool.false_and, Bool.false_eq_true,
    if_false]

/-! ### Reserved plurals -/

/-- the words that lack only an `s` to be reserved -/
def unfinishedWords : List String := ["a", "i", "param", "thi"]

theorem lower_of_isSmall (h : ∀ c ∈ s.toList, isSmall c = true) : IsAscii s ∧ lower s = s := by
  have hrange : ∀ c ∈ s.toList, c.toNat < 128 ∧ isAsciiUpper c = false := fun c hc => by
    have hsmall := h c hc
    rw [isSmall, Bool.or_eq_true, isAsciiLower_iff, isAsciiDigit_iff] at hsmall
    rw [Bool.eq_false_iff, ne_eq, isAsciiUpper_iff]
    omega
  have hascii : IsAscii s := fun c hc => (hrange c hc).1
  refine ⟨hascii, String.toList_inj.1 ?_⟩
  rw [toList_lower hascii]
  refine (List.map_congr_left fun c hc => ?_).trans (List.map_id _)
  rw [lowerChar, if_pos (hrange c hc).1, (hrange c hc).2]
  rfl

theorem matchCase_of_isSmall {c : Char} (hs : s.toList = c :: cs)
    (h : ∀ c ∈ s.toList, isSmall c = true) (form : String) : matchCase s.toList form = form := by
  have hc := h c (by rw [hs]; exact List.mem_cons_self)
  rw [isSmall, Bool.or_eq_true, isAsciiLower_iff, isAsciiDigit_iff] at hc
  have hcapital : isAsciiUpper c = false := by
    rw [Bool.eq_false_iff, ne_eq, isAsciiUpper_iff]
    omega
  have hupper : isUpper c = false := by rw [isUpper, if_pos (by omega), hcapital]
  rw [hs, matchCase, List.all_cons, hcapital, List.head?_cons, Option.any_some, hupper]
  rfl

theorem endsWith_append (s ending : String) : endsWith (s ++ ending) ending = true :=
  List.isSuffixOf_iff_suffix.2 (by rw [String.toList_append]; exact List.suffix_append _ _)

theorem endsWith_replaceEnd {ending : String} (h : ending = "ies" ∨ ending = "ves") (n : Nat) :
    endsWith (replaceEnd cs n ending) "es" = true := by
  have hchars : ending.toList <:+ (replaceEnd cs n ending).toList := by
    rw [replaceEnd, String.toList_ofList]
    exact List.suffix_append _ _
  refine List.isSuffixOf_iff_suffix.2 (List.IsSuffix.trans ?_ hchars)
  rcases h with rfl | rfl <;> decide

/-- five reserved words end in `s` -/
theorem mem_of_append_s_mem_reservedWords (h : s ++ "s" ∈ reservedWords) :
    s ∈ "clas" :: unfinishedWords := by
  have hall : ∀ r ∈ reservedWords, endsWith r "s" = true →
      String.ofList r.toList.dropLast ∈ "clas" :: unfinishedWords := by decide
  have hmem := hall _ h (endsWith_append s "s")
  rw [String.toList_append, show "s".toList = ['s'] from rfl, List.dropLast_concat,
    String.ofList_toList] at hmem
  exact hmem

/-- the endings decide: of the plurals, only those by a single `s` can be reserved words -/
theorem mem_unfinishedWords (h : ∀ c ∈ s.toList, isSmall c = true) (hne : s ≠ "")
    (hreserved : reservedWords.contains (pluralOfWord s) = true) : s ∈ unfinishedWords := by
  obtain ⟨hascii, hlower⟩ := lower_of_isSmall h
  obtain ⟨c, cs, hs⟩ := List.exists_cons_of_ne_nil (mt String.toList_eq_nil_iff.1 hne)
  rw [List.contains_iff_mem] at hreserved
  have hform := pluralForm hascii hne
  have hes : ∀ r ∈ reservedWords, ¬ endsWith r "es" = true := by decide
  generalize hplural : pluralOfWord s = form at hreserved hform
  cases hform with
  | same hsame =>
    have hnone : ∀ w ∈ invariantNouns, w ∉ reservedWords := by decide
    exact absurd hreserved (hnone s (hlower ▸ hsame))
  | irregular irr hirr =>
    have hnone : ∀ e ∈ irregularPlurals, e.2 ∉ reservedWords := by decide
    obtain ⟨front, back, htable, -⟩ := List.lookup_eq_some_iff.1 hirr
    rw [matchCase_of_isSmall hs h] at hreserved
    refine absurd hreserved (hnone (lower s, irr) ?_)
    rw [htable]
    exact List.mem_append_right _ List.mem_cons_self
  | longer ending hending =>
    rcases hending with rfl | rfl
    · rcases List.mem_cons.1 (mem_of_append_s_mem_reservedWords hreserved) with rfl | hmem
      · revert hplural
        decide
      · exact hmem
    · exact absurd (endsWith_append s "es") (hes _ hreserved)
  | changed n ending _ hending => exact absurd (endsWith_replaceEnd hending n) (hes _ hreserved)

/-! ### Identifiers -/

/-- the plural of the name is none: all but the `s` of a reserved word is there, or an overlooked
line feed follows an underscore -/
def IsUnnamed (name : String) : Prop :=
  String.ofList (dropFinalLineFeed name.toList) ∈ unfinishedWords ∨ ['_', '\n'] <:+ name.toList

instance : DecidablePred IsUnnamed := fun name =>
  inferInstanceAs (Decidable (_ ∈ unfinishedWords ∨ ['_', '\n'] <:+ name.toList))

theorem LastWord.mem {last : List Char} (h : LastWord head last) {c : Char} (hc : c ∈ last) :
    isSmall c = true ∨ isAsciiUpper c = true := by
  cases h with
  | capital d small hd hsmall =>
    rcases List.mem_cons.1 hc with rfl | hc
    · exact .inr hd
    · exact .inl (hsmall c hc)
  | small _ _ hsmall _ => exact .inl (hsmall c hc)

theorem LastWord.isAscii {last : List Char} (h : LastWord head last) :
    IsAscii (String.ofList last) := fun c hc => by
  rw [String.toList_ofList] at hc
  have hclass := h.mem hc
  rw [isSmall, Bool.or_eq_true, isAsciiLower_iff, isAsciiDigit_iff, isAsciiUpper_iff] at hclass
  omega

theorem LastWord.ofList_ne_empty {last : List Char} (h : LastWord head last) :
    String.ofList last ≠ "" := fun hempty => h.ne_nil (by
  rw [← String.toList_ofList (l := last), hempty]
  rfl)

/-- the sign belongs to no last word -/
theorem IsSpelled.exists_front {sign back last : List Char} (h : IsSpelled name sign word back)
    (hcore : sign ++ word = head ++ last) (hlast : LastWord head last) :
    ∃ front, head = sign ++ front ∧ word = front ++ last := by
  rcases h.sign with rfl | rfl
  · exact ⟨head, rfl, hcore⟩
  · cases head with
    | nil =>
      have hmem : '@' ∈ last := by
        rw [← List.nil_append last, ← hcore]
        exact List.mem_cons_self
      have hnone : ¬ (isSmall '@' = true ∨ isAsciiUpper '@' = true) := by decide
      exact absurd (hlast.mem hmem) hnone
    | cons c front =>
      obtain ⟨rfl, hrest⟩ := List.cons.inj hcore
      exact ⟨front, rfl, hrest⟩

/-- a plain word stays one if its last word becomes plural -/
theorem isPlainWord_plural {front last : List Char} (h : isPlainWord (front ++ last) = true)
    (hlast : LastWord head last) :
    isPlainWord (front ++ (pluralOfWord (String.ofList last)).toList) = true := by
  obtain ⟨⟨first, hfirst, hstart⟩, hparts⟩ := isPlainWord_iff.1 h
  have hne := hlast.ofList_ne_empty
  obtain ⟨c, cs, rfl⟩ := List.exists_cons_of_ne_nil hlast.ne_nil
  obtain ⟨d, rest, hd, hfirstChar⟩ :=
    (pluralForm hlast.isAscii hne).first_char String.toList_ofList
  rw [isPlainWord_iff]
  constructor
  · cases front with
    | nil =>
      rw [List.nil_append, List.head?_cons] at hfirst
      obtain rfl := Option.some.inj hfirst
      refine ⟨d, by rw [List.nil_append, hd]; rfl, ?_⟩
      rcases hfirstChar with rfl | ⟨hletter, -⟩
      · exact hstart
      · rw [isIdentifierStart, hletter, Bool.true_or]
    | cons e front => exact ⟨first, hfirst, hstart⟩
  · intro e he
    rcases List.mem_append.1 he with he | he
    · exact hparts e (List.mem_append_left _ he)
    · rcases (pluralOfWord_spec hne).2 e he with hletter | hmem
      · exact isIdentifierPart_of_isAsciiLetter hletter
      · rw [String.toList_ofList] at hmem
        exact hparts e (List.mem_append_right _ hmem)

/-- only a name that is one small word has a reserved plural -/
theorem reserved_plural_iff {last : List Char} (hlast : LastWord head last) :
    reservedWords.contains (String.ofList head ++ pluralOfWord (String.ofList last)) = true ↔
      head = [] ∧ String.ofList last ∈ unfinishedWords := by
  constructor
  · intro hreserved
    have hlower := isAsciiLower_of_reserved hreserved
    rw [String.toList_append, String.toList_ofList, List.forall_mem_append] at hlower
    have hform := pluralForm hlast.isAscii hlast.ofList_ne_empty
    cases hlast with
    | capital c small hc _ =>
      -- the capital stays, or another stands in its place
      obtain ⟨d, rest, hd, hfirst⟩ := hform.first_char String.toList_ofList
      have hsmall := hlower.2 d (by rw [hd]; exact List.mem_cons_self)
      rcases hfirst with rfl | ⟨-, hcapital⟩
      · rw [isAsciiUpper_iff] at hc
        rw [isAsciiLower_iff] at hsmall
        omega
      · rw [hcapital hc] at hsmall
        cases hsmall
    | small _ hne hsmall hhead =>
      obtain rfl : head = [] := by
        by_contra hcons
        have hlastChar := List.getLast?_eq_getLast_of_ne_nil hcons
        have hsmall := hlower.1 _ (List.mem_of_getLast? hlastChar)
        have hnot := hhead _ hlastChar
        rw [isSmall, hsmall] at hnot
        cases hnot
      refine ⟨rfl, mem_unfinishedWords ?_ ?_ hreserved⟩
      · rw [String.toList_ofList]
        exact hsmall
      · exact (LastWord.small _ hne hsmall hhead).ofList_ne_empty
  · rintro ⟨rfl, hmem⟩
    have hreserved : ∀ w ∈ unfinishedWords, reservedWords.contains (pluralOfWord w) = true := by
      decide
    exact hreserved _ hmem

/-- where a last word becomes plural, the plural is spelled with the same sign -/
theorem isIdentifier_plural_of_some {sign back last : List Char}
    (h : IsSpelled name sign word back) (hlast : lastWord? (sign ++ word) = some (head, last)) :
    isIdentifier (plural name) = true ↔ String.ofList (sign ++ word) ∉ unfinishedWords := by
  obtain ⟨hcore, hword⟩ := lastWord?_eq_some hlast
  obtain ⟨front, rfl, rfl⟩ := h.exists_front hcore hword
  have hplural :
      plural name = String.ofList (sign ++ front) ++ pluralOfWord (String.ofList last) := by
    rw [plural, if_neg (mt String.isEmpty_iff.1 h.ne_empty), h.dropFinalLineFeed_eq, hlast]
  have hspelled : IsSpelled (plural name) sign
      (front ++ (pluralOfWord (String.ofList last)).toList) [] := by
    refine ⟨?_, h.sign, isPlainWord_plural h.word hword, .inl rfl⟩
    rw [hplural, String.toList_append, String.toList_ofList, List.append_nil, List.append_assoc]
  rw [hspelled.isIdentifier_iff, hplural, ← Bool.not_eq_true, reserved_plural_iff hword]
  rcases h.sign with rfl | rfl
  · have hwhole : ∀ w ∈ unfinishedWords, lastWord? w.toList = some ([], w.toList) := by decide
    rw [or_iff_right (List.cons_ne_nil '@' []).symm, not_iff_not]
    constructor
    · rintro ⟨rfl, hmem⟩
      exact hmem
    · intro hmem
      have hsome := hwhole _ hmem
      rw [String.toList_ofList, hlast] at hsome
      obtain ⟨hhead, hall⟩ := Prod.mk.inj (Option.some.inj hsome)
      exact ⟨hhead, hall ▸ hmem⟩
  · have hunsigned : ∀ w ∈ unfinishedWords, '@' ∉ w.toList := by decide
    refine iff_of_true (.inl rfl) fun hmem => hunsigned _ hmem ?_
    rw [String.toList_ofList]
    exact List.mem_cons_self

/-- the underscore is the only part of an identifier that belongs to no word -/
theorem eq_underscore_of_isIdentifierPart {c : Char} (h : isIdentifierPart c = true)
    (hsmall : isSmall c = false) (hupper : isAsciiUpper c = false) : c = '_' := by
  rw [isSmall, Bool.or_eq_false_iff] at hsmall
  rw [isIdentifierPart, isIdentifierStart, isAsciiLetter, hsmall.1, hsmall.2, hupper] at h
  simpa using h

/-- what has no last word ends in an underscore -/
theorem IsSpelled.exists_underscore {sign back : List Char} (h : IsSpelled name sign word back)
    (hlast : lastWord? (sign ++ word) = none) : ∃ front, word = front ++ ['_'] := by
  obtain ⟨⟨first, hfirst, -⟩, hparts⟩ := isPlainWord_iff.1 h.word
  obtain rfl | ⟨front, c, rfl⟩ := List.eq_nil_or_concat' word
  · cases hfirst
  · have hlastChar : (sign ++ (front ++ [c])).getLast? = some c := by
      rw [← List.append_assoc, List.getLast?_concat]
    have hclass := lastWord?_eq_none_iff.1 hlast c hlastChar
    have hpart := hparts c (List.mem_append_right _ List.mem_cons_self)
    rw [eq_underscore_of_isIdentifierPart hpart hclass.1 hclass.2]
    exact ⟨front, rfl⟩

/-- an underscore at the end is no part of a last word -/
theorem lastWord?_concat_underscore (cs : List Char) : lastWord? (cs ++ ['_']) = none := by
  refine lastWord?_eq_none_iff.2 fun c hc => ?_
  rw [List.getLast?_concat] at hc
  obtain rfl := Option.some.inj hc
  decide

theorem IsSpelled.plural_of_underscore {sign front back : List Char}
    (h : IsSpelled name sign (front ++ ['_']) back) (hascii : IsAscii name) :
    plural name = name ++ "s" := by
  have hlast : lastWord? (sign ++ (front ++ ['_'])) = none := by
    rw [← List.append_assoc]
    exact lastWord?_concat_underscore (sign ++ front)
  have hletter : endsInLetter name.toList = false := by
    rw [h.chars, endsInLetter]
    rcases h.back with rfl | rfl
    · rw [List.append_nil, ← List.append_assoc, List.getLast?_concat]
      rfl
    · rw [List.getLast?_concat]
      rfl
  rw [plural, if_neg (mt String.isEmpty_iff.1 h.ne_empty), h.dropFinalLineFeed_eq, hlast]
  exact pluralOfWord_of_not_endsInLetter hascii h.ne_empty hletter

/-- behind an underscore an `s` follows, behind a line feed too -/
theorem isIdentifier_plural_of_underscore {sign front back : List Char}
    (h : IsSpelled name sign (front ++ ['_']) back) (hascii : IsAscii name) :
    isIdentifier (plural name) = true ↔ back = [] := by
  have hchars : (plural name).toList = sign ++ (front ++ ['_']) ++ back ++ ['s'] := by
    rw [h.plural_of_underscore hascii, String.toList_append, h.chars]
    rfl
  rcases h.back with rfl | rfl
  · refine iff_of_true ?_ rfl
    have hspelled : IsSpelled (plural name) sign (front ++ ['_'] ++ ['s']) [] := by
      refine ⟨?_, h.sign, (isPlainWord_append_iff h.word).2 (by decide), .inl rfl⟩
      rw [hchars, List.append_nil, List.append_nil, List.append_assoc]
    refine hspelled.isIdentifier_iff.2 (.inr (not_reserved (c := '_') ?_ rfl))
    rw [hchars]
    simp
  · -- the `s` keeps the line feed from being overlooked
    refine iff_of_false (fun hname => lineFeed_not_mem hname ?_ ?_) (List.cons_ne_nil _ _)
    · rw [hchars, List.getLast?_concat]
      decide
    · rw [hchars]
      exact List.mem_append_left _ (List.mem_append_right _ List.mem_cons_self)

/-- the second exception is told by what the name is spelled with -/
theorem IsSpelled.suffix_iff {sign back : List Char} (h : IsSpelled name sign word back) :
    ['_', '\n'] <:+ name.toList ↔ (∃ front, word = front ++ ['_']) ∧ back = ['\n'] := by
  rw [h.chars]
  constructor
  · rintro ⟨cs, hcs⟩
    have hmem : '\n' ∈ sign ++ word ++ back := by
      rw [← hcs]
      exact List.mem_append_right _ (by decide)
    obtain rfl : back = ['\n'] := h.back.resolve_left fun hnil => by
      rw [hnil, List.append_nil] at hmem
      exact h.lineFeed_not_mem hmem
    have hcore : sign ++ word = cs ++ ['_'] :=
      (List.append_cancel_right ((List.append_assoc cs ['_'] ['\n']).trans hcs)).symm
    refine ⟨h.exists_underscore ?_, rfl⟩
    rw [hcore]
    exact lastWord?_concat_underscore cs
  · rintro ⟨⟨front, rfl⟩, rfl⟩
    exact ⟨sign ++ front, by simp⟩

/-- the plural of an identifier is an identifier, two exceptions apart -/
theorem isIdentifier_plural_iff (h : isIdentifier name = true) :
    isIdentifier (plural name) = true ↔ ¬ IsUnnamed name := by
  obtain ⟨sign, word, back, hspelled⟩ := exists_isSpelled h
  rw [IsUnnamed, hspelled.dropFinalLineFeed_eq, hspelled.suffix_iff, not_or]
  cases hlast : lastWord? (sign ++ word) with
  | none =>
    obtain ⟨front, rfl⟩ := hspelled.exists_underscore hlast
    have hfinished : String.ofList (sign ++ (front ++ ['_'])) ∉ unfinishedWords := fun hmem => by
      have hsome : ∀ w ∈ unfinishedWords, (lastWord? w.toList).isSome = true := by decide
      have hword := hsome _ hmem
      rw [String.toList_ofList, hlast] at hword
      cases hword
    rw [isIdentifier_plural_of_underscore hspelled (isAscii_of_isIdentifier h),
      and_iff_right hfinished]
    rcases hspelled.back with rfl | rfl
    · exact iff_of_true rfl fun hback => List.cons_ne_nil _ _ hback.2.symm
    · exact iff_of_false (List.cons_ne_nil _ _) fun hnone => hnone ⟨⟨front, rfl⟩, rfl⟩
  | some parts =>
    obtain ⟨head, last⟩ := parts
    rw [isIdentifier_plural_of_some hspelled hlast, and_iff_left]
    rintro ⟨⟨front, rfl⟩, -⟩
    rw [← List.append_assoc, lastWord?_concat_underscore] at hlast
    cases hlast

end EndpointScaffold.Naming
