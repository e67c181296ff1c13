import EndpointScaffold.Proofs.Naming.PluralName

/-!
# The last word of a compound name

A name becomes plural by its last word, whatever stands in front of it: a capital begins a word of
its own, and a word of small letters and digits begins behind anything that is no ASCII letter or
digit. The plural of such a word begins as the word does, and lowering the word first or its plural
afterwards comes to the same.

* `IsCapitalWord`, `IsSmallWord`, `IsCut`   the words, and what can stand before a small one;
* `lastWord?_capital`, `lastWord?_small`    the split is where the word begins;
* `head?_pluralOfWord`, `lower_pluralOfWord`   the case of a plural;
* `pluralisesLast`                          all of it for a name of two parts.
-/

namespace EndpointScaffold.Naming

open Text

variable {h w : String} {c : Char} {cs small : List Char}

/-! ### Words -/

/-- a capital, then small letters and digits -/
def IsCapitalWord (w : String) : Prop :=
  ∃ c small, w.toList = c :: small ∧ isAsciiUpper c = true ∧ ∀ d ∈ small, isSmall d = true

/-- small letters and digits -/
def IsSmallWord (w : String) : Prop := w ≠ "" ∧ ∀ c ∈ w.toList, isSmall c = true

/-- no ASCII letter or digit stands at the end -/
def IsCut (h : String) : Prop :=
  ∀ c ∈ h.toList.getLast?, isAsciiLetter c = false ∧ isAsciiDigit c = false

theorem isSmall_iff : isSmall c = true ↔
    (97 ≤ c.toNat ∧ c.toNat ≤ 122) ∨ (48 ≤ c.toNat ∧ c.toNat ≤ 57) := by
  rw [isSmall, Bool.or_eq_true, isAsciiLower_iff, isAsciiDigit_iff]

theorem isSmall_of_isAsciiUpper (hc : isAsciiUpper c = true) : isSmall c = false := by
  rw [isAsciiUpper_iff] at hc
  rw [Bool.eq_false_iff, ne_eq, isSmall_iff]
  omega

theorem isSmall_of_isCut (hcut : IsCut h) (hc : c ∈ h.toList.getLast?) :
    isSmall c = false ∧ isAsciiUpper c = false := by
  obtain ⟨hletter, hdigit⟩ := hcut c hc
  rw [isAsciiLetter, Bool.or_eq_false_iff] at hletter
  exact ⟨by rw [isSmall, hletter.2, hdigit]; rfl, hletter.1⟩

/-- a word has a first character, and only that can be a capital -/
theorem exists_first (hw : IsCapitalWord w ∨ IsSmallWord w) : ∃ c small, w.toList = c :: small ∧
    (isAsciiUpper c = true ∨ isSmall c = true) ∧ ∀ d ∈ small, isSmall d = true := by
  rcases hw with ⟨c, small, hchars, hc, hsmall⟩ | ⟨hne, hsmall⟩
  · exact ⟨c, small, hchars, .inl hc, hsmall⟩
  · obtain ⟨c, small, hchars⟩ := List.exists_cons_of_ne_nil (mt String.toList_eq_nil_iff.1 hne)
    rw [hchars, List.forall_mem_cons] at hsmall
    exact ⟨c, small, hchars, .inr hsmall.1, hsmall.2⟩

theorem forall_isSmall_of_first (hchars : w.toList = c :: small) (hc : isSmall c = true)
    (hsmall : ∀ d ∈ small, isSmall d = true) : ∀ d ∈ w.toList, isSmall d = true := by
  rw [hchars, List.forall_mem_cons]
  exact ⟨hc, hsmall⟩

theorem isAscii_of_word (hw : IsCapitalWord w ∨ IsSmallWord w) : IsAscii w := by
  obtain ⟨c, small, hchars, hc, hsmall⟩ := exists_first hw
  intro d hd
  rw [hchars] at hd
  rcases List.mem_cons.1 hd with rfl | hd
  · rw [isAsciiUpper_iff, isSmall_iff] at hc
    omega
  · have hcode := isSmall_iff.1 (hsmall d hd)
    omega

theorem ne_empty_of_word (hw : IsCapitalWord w ∨ IsSmallWord w) : w ≠ "" := by
  obtain ⟨c, small, hchars, -⟩ := exists_first hw
  rintro rfl
  cases hchars

/-! ### Where the last word begins -/

theorem lastWord?_capital (before : List Char) (hc : isAsciiUpper c = true)
    (hsmall : ∀ d ∈ small, isSmall d = true) :
    lastWord? (before ++ c :: small) = some (before, c :: small) := by
  have hreverse : (before ++ c :: small).reverse = small.reverse ++ c :: before.reverse := by
    rw [List.reverse_append, List.reverse_cons, List.append_assoc]
    rfl
  have hrun : ∀ d ∈ small.reverse, isSmall d = true := fun d hd => hsmall d (List.mem_reverse.1 hd)
  have hstop : ∀ d ∈ (c :: before.reverse).head?, isSmall d = false := by
    intro d hd
    obtain rfl := Option.some.inj hd
    exact isSmall_of_isAsciiUpper hc
  unfold lastWord?
  rw [hreverse, takeWhile_run hrun hstop, dropWhile_run hrun hstop]
  show (if isAsciiUpper c then _ else _) = _
  rw [if_pos hc, List.reverse_reverse, List.reverse_reverse]

theorem lastWord?_small {before : List Char} (hne : small ≠ [])
    (hbefore : ∀ c ∈ before.getLast?, isSmall c = false ∧ isAsciiUpper c = false)
    (hsmall : ∀ d ∈ small, isSmall d = true) :
    lastWord? (before ++ small) = some (before, small) := by
  have hrun : ∀ d ∈ small.reverse, isSmall d = true := fun d hd => hsmall d (List.mem_reverse.1 hd)
  have hstop : ∀ d ∈ before.reverse.head?, isSmall d = false := by
    intro d hd
    rw [List.head?_reverse] at hd
    exact (hbefore d hd).1
  have hempty : ¬ small.isEmpty = true := fun hnil => hne (List.isEmpty_iff.1 hnil)
  unfold lastWord?
  rw [List.reverse_append, takeWhile_run hrun hstop, dropWhile_run hrun hstop,
    List.reverse_reverse]
  cases hfront : before.reverse with
  | nil =>
    obtain rfl := List.reverse_eq_nil_iff.1 hfront
    show (if small.isEmpty = true then none else some ([], small)) = _
    rw [if_neg hempty]
  | cons c rest =>
    have hlast : c ∈ before.getLast? := by rw [← List.head?_reverse, hfront]; rfl
    show (if isAsciiUpper c then _ else if small.isEmpty = true then none else _) = _
    rw [(hbefore c hlast).2, if_neg Bool.false_ne_true, if_neg hempty, ← hfront,
      List.reverse_reverse]

/-- a name with a last word becomes plural by it -/
theorem plural_of_lastWord? (hw : IsCapitalWord w ∨ IsSmallWord w)
    (hsplit : lastWord? (h.toList ++ w.toList) = some (h.toList, w.toList)) :
    plural (h ++ w) = h ++ pluralOfWord w := by
  have hne : ¬ (h ++ w).isEmpty = true := fun hempty =>
    ne_empty_of_word hw (String.append_eq_empty_iff.1 (String.isEmpty_iff.1 hempty)).2
  have hfeed : dropFinalLineFeed (h ++ w).toList = h.toList ++ w.toList := by
    obtain ⟨c, small, hchars, hc, hsmall⟩ := exists_first hw
    rw [String.toList_append, dropFinalLineFeed, if_neg]
    intro hlast
    have hmem : '\n' ∈ w.toList := by
      rw [beq_iff_eq, List.getLast?_append_of_ne_nil _ (by rw [hchars]; exact List.cons_ne_nil _ _)]
        at hlast
      exact List.mem_of_getLast? hlast
    rw [hchars] at hmem
    rcases List.mem_cons.1 hmem with rfl | hmem
    · revert hc
      decide
    · exact absurd (hsmall _ hmem) (by decide)
  rw [plural, if_neg hne, hfeed, hsplit]
  show String.ofList h.toList ++ pluralOfWord (String.ofList w.toList) = _
  rw [String.ofList_toList, String.ofList_toList]

/-! ### The case of plurals -/

theorem lowerChar_of_isSmall (hc : isSmall c = true) : lowerChar c = c := by
  rw [isSmall_iff] at hc
  rw [eq_iff_toNat, toNat_lowerChar (by omega), if_neg (by omega)]

theorem asciiUpperChar_lowerChar (hc : isAsciiUpper c = true) : asciiUpperChar (lowerChar c) = c := by
  rw [isAsciiUpper_iff] at hc
  have hlow : (lowerChar c).toNat = c.toNat + 32 := by
    rw [toNat_lowerChar (by omega), if_pos hc]
  have hletter : isAsciiLower (lowerChar c) = true := by
    rw [isAsciiLower_iff]
    omega
  rw [asciiUpperChar, if_pos hletter, hlow, Nat.add_sub_cancel, Char.ofNat_toNat]

theorem lowerChar_asciiUpperChar (hc : isAsciiLower c = true) : lowerChar (asciiUpperChar c) = c := by
  rw [asciiUpperChar, if_pos hc]
  rw [isAsciiLower_iff] at hc
  have hcode : (Char.ofNat (c.toNat - 32)).toNat = c.toNat - 32 := by
    rw [Char.ofNat, dif_pos (Or.inl (by omega))]
    rfl
  rw [eq_iff_toNat, toNat_lowerChar (by omega), hcode, if_pos (by omega)]
  omega

/-- the forms of the table are small, and begin as their words do -/
theorem irregular_form {low form : String} (h : irregularPlurals.lookup low = some form) :
    (∀ c ∈ form.toList, isAsciiLower c = true) ∧ form.toList.head? = low.toList.head? := by
  have htable : ∀ e ∈ irregularPlurals, (∀ c ∈ e.2.toList, isAsciiLower c = true) ∧
      e.2.toList.head? = e.1.toList.head? := by decide
  obtain ⟨front, back, heq, -⟩ := List.lookup_eq_some_iff.1 h
  refine htable (low, form) ?_
  rw [heq]
  exact List.mem_append_right _ List.mem_cons_self

/-- behind its first character a word has no capitals, so only the first one is raised -/
theorem matchCase_of_capital (hc : isAsciiUpper c = true) (hsmall : ∀ d ∈ small, isSmall d = true)
    (form : String) : matchCase (c :: small) form = String.ofList (capitalize form.toList) := by
  have hupper : isUpper c = true := by
    have hcode := isAsciiUpper_iff.1 hc
    rw [isUpper, if_pos (by omega), hc]
  have hmixed : ((c :: small).all isAsciiUpper && decide (1 < (c :: small).length)) = false := by
    cases small with
    | nil => rw [Bool.and_eq_false_iff]; exact .inr rfl
    | cons d ds =>
      have hd : isAsciiUpper d = false := Bool.eq_false_iff.2 fun hd =>
        absurd (hsmall d List.mem_cons_self) (Bool.eq_false_iff.1 (isSmall_of_isAsciiUpper hd))
      rw [List.all_cons, List.all_cons, hd, Bool.false_and, Bool.and_false, Bool.false_and]
  rw [matchCase, hmixed, if_neg Bool.false_ne_true, List.head?_cons, Option.any_some, if_pos hupper]

/-- the plural of a word begins as the word does -/
theorem head?_pluralOfWord (hw : IsCapitalWord w ∨ IsSmallWord w) :
    (pluralOfWord w).toList.head? = w.toList.head? := by
  have hascii := isAscii_of_word hw
  obtain ⟨c, small, hchars, hc, hsmall⟩ := exists_first hw
  have hform := pluralForm hascii (ne_empty_of_word hw)
  generalize pluralOfWord w = form at hform
  cases hform with
  | same _ => rfl
  | irregular irr hirr =>
    obtain ⟨-, hhead⟩ := irregular_form hirr
    rw [toList_lower hascii, hchars, List.map_cons, List.head?_cons] at hhead
    rcases hc with hc | hc
    · obtain ⟨ds, hds⟩ := List.head?_eq_some_iff.1 hhead
      rw [hchars, matchCase_of_capital hc hsmall, hds, capitalize, String.toList_ofList,
        asciiUpperChar_lowerChar hc]
      rfl
    · have hall := forall_isSmall_of_first hchars hc hsmall
      rw [matchCase_of_isSmall hchars hall, hhead, lowerChar_of_isSmall hc, hchars]
      rfl
  | longer ending _ => rw [String.toList_append, hchars]; rfl
  | changed n ending hn _ =>
    obtain ⟨k, hk⟩ : ∃ k, w.toList.length - n = k + 1 := ⟨w.toList.length - n - 1, by omega⟩
    rw [replaceEnd, String.toList_ofList, hk, hchars, List.take_succ_cons]
    rfl

theorem map_lowerChar (h : ∀ d ∈ cs, isAsciiLower d = true) : cs.map lowerChar = cs := by
  refine (List.map_congr_left fun d hd => ?_).trans (List.map_id cs)
  show lowerChar d = d
  apply lowerChar_of_isSmall
  rw [isSmall, h d hd, Bool.true_or]

theorem isAscii_of_isAsciiLower (h : ∀ d ∈ cs, isAsciiLower d = true) : IsAscii (String.ofList cs) := by
  intro d hd
  rw [String.toList_ofList] at hd
  have hcode := isAsciiLower_iff.1 (h d hd)
  omega

/-- lowering takes back what raising the first letter has done -/
theorem lower_capitalize (h : ∀ d ∈ cs, isAsciiLower d = true) :
    lower (String.ofList (capitalize cs)) = String.ofList cs := by
  have hascii := isAscii_of_isAsciiLower h
  cases cs with
  | nil => rfl
  | cons d ds =>
    rw [List.forall_mem_cons] at h
    have hraised : IsAscii (String.ofList (asciiUpperChar d :: ds)) := by
      intro e he
      rw [String.toList_ofList] at he
      rcases List.mem_cons.1 he with rfl | he
      · have hcode := isAsciiLower_iff.1 h.1
        rw [asciiUpperChar, if_pos h.1, Char.ofNat, dif_pos (Or.inl (by omega))]
        show d.toNat - 32 < 128
        omega
      · apply hascii
        rw [String.toList_ofList]
        exact List.mem_cons_of_mem d he
    rw [capitalize, ← String.toList_inj, toList_lower hraised, String.toList_ofList,
      String.toList_ofList, List.map_cons, lowerChar_asciiUpperChar h.1, map_lowerChar h.2]

theorem lower_matchCase (hw : IsCapitalWord w ∨ IsSmallWord w) {form : String}
    (hform : ∀ c ∈ form.toList, isAsciiLower c = true) : lower (matchCase w.toList form) = form := by
  obtain ⟨c, small, hchars, hc, hsmall⟩ := exists_first hw
  rcases hc with hc | hc
  · rw [hchars, matchCase_of_capital hc hsmall, lower_capitalize hform, String.ofList_toList]
  · have hascii := isAscii_of_isAsciiLower hform
    rw [String.ofList_toList] at hascii
    rw [matchCase_of_isSmall hchars (forall_isSmall_of_first hchars hc hsmall), ← String.toList_inj,
      toList_lower hascii, map_lowerChar hform]

theorem lower_replaceEnd (hascii : IsAscii w) (n : Nat) {ending : String} (hending : IsAscii ending)
    (hlower : lower ending = ending) :
    lower (replaceEnd w.toList n ending) = replaceEnd (lower w).toList n ending := by
  have hparts : IsAscii (replaceEnd w.toList n ending) := by
    intro c hc
    rw [replaceEnd, String.toList_ofList] at hc
    exact (List.mem_append.1 hc).elim (fun hc => hascii c (List.mem_of_mem_take hc)) (hending c)
  have hmap : ending.toList.map lowerChar = ending.toList := by
    rw [← toList_lower hending, hlower]
  rw [← String.toList_inj, toList_lower hparts, replaceEnd, replaceEnd, String.toList_ofList,
    String.toList_ofList, toList_lower hascii, List.map_append, List.map_take, List.length_map, hmap]

theorem lower_of_ending (hascii : IsAscii w) {ending : String} (hending : IsAscii ending)
    (hlower : lower ending = ending) : lower (w ++ ending) = lower w ++ ending := by
  rw [lower_append hascii hending, hlower]

theorem isSmall_of_mem_lower (hw : IsCapitalWord w ∨ IsSmallWord w) :
    ∀ d ∈ (lower w).toList, isSmall d = true := by
  obtain ⟨c, small, hchars, hc, hsmall⟩ := exists_first hw
  intro d hd
  rw [toList_lower (isAscii_of_word hw), hchars, List.map_cons] at hd
  rcases List.mem_cons.1 hd with rfl | hd
  · rcases hc with hc | hc
    · rw [isAsciiUpper_iff] at hc
      rw [isSmall_iff, toNat_lowerChar (by omega), if_pos hc]
      omega
    · rw [lowerChar_of_isSmall hc]
      exact hc
  · obtain ⟨e, he, rfl⟩ := List.mem_map.1 hd
    rw [lowerChar_of_isSmall (hsmall e he)]
    exact hsmall e he

/-- the lower-cased word takes the same way to its plural -/
theorem lower_pluralOfWord (hw : IsCapitalWord w ∨ IsSmallWord w) :
    lower (pluralOfWord w) = pluralOfWord (lower w) := by
  have hascii := isAscii_of_word hw
  have hlength := length_lower hascii
  obtain ⟨c, small, hchars, -⟩ := exists_first hw
  have hlowered := isSmall_of_mem_lower hw
  have htwice : lower (lower w) = lower w := (lower_of_isSmall hlowered).2
  have hfirst : (lower w).toList = lowerChar c :: small.map lowerChar := by
    rw [toList_lower hascii, hchars, List.map_cons]
  have hempty : w.toList.isEmpty = false := by rw [hchars]; rfl
  have hempty' : (lower w).toList.isEmpty = false := by rw [hfirst]; rfl
  have hes : lower (w ++ "es") = lower w ++ "es" := lower_of_ending hascii (by decide) (by decide)
  have hs : lower (w ++ "s") = lower w ++ "s" := lower_of_ending hascii (by decide) (by decide)
  have hies : lower (replaceEnd w.toList 1 "ies") = replaceEnd (lower w).toList 1 "ies" :=
    lower_replaceEnd hascii 1 (by decide) (by decide)
  have hves : ∀ n, lower (replaceEnd w.toList n "ves") = replaceEnd (lower w).toList n "ves" :=
    fun n => lower_replaceEnd hascii n (by decide) (by decide)
  rw [pluralOfWord, pluralOfWord]
  simp only [hempty, hempty', htwice, hlength, Bool.false_eq_true, if_false]
  split
  · rfl
  · split
    · rename_i form hform
      obtain ⟨hletters, -⟩ := irregular_form hform
      rw [lower_matchCase hw hletters, matchCase_of_isSmall hfirst hlowered]
    · -- every rule looks at the lower-cased word and the length only
      split
      · exact hes
      · split
        · exact hies
        · split
          · exact hves 2
          · split
            · exact hves 1
            · split
              · exact hes
              · exact hs

/-! ### Compound names -/

theorem isSmall_of_mem_word (hw : IsCapitalWord w ∨ IsSmallWord w) {back : List Char} (hne : back ≠ [])
    (hword : w.toList = back ++ cs) : ∀ d ∈ cs, isSmall d = true := by
  obtain ⟨c, small, hchars, -, hsmall⟩ := exists_first hw
  obtain ⟨b, back, rfl⟩ := List.exists_cons_of_ne_nil hne
  rw [hchars, List.cons_append] at hword
  obtain ⟨-, rfl⟩ := List.cons.inj hword
  exact fun d hd => hsmall d (List.mem_append_right _ hd)

/-- a word that begins in front of a last word would have a capital, or a mark, inside -/
theorem not_word_append (hw : IsCapitalWord w ∨ IsCut h ∧ IsSmallWord w) {front back : String}
    (hparts : h = front ++ back) (hne : back ≠ "") :
    ¬ (IsCapitalWord (back ++ w) ∨ IsSmallWord (back ++ w)) := by
  intro hlonger
  have hback : back.toList ≠ [] := mt String.toList_eq_nil_iff.1 hne
  have hchars : (back ++ w).toList = back.toList ++ w.toList := String.toList_append
  rcases hw with ⟨c, small, hword, hc, -⟩ | ⟨hcut, -, -⟩
  · have hsmall := isSmall_of_mem_word hlonger hback hchars c (by rw [hword]; exact List.mem_cons_self)
    rw [isSmall_of_isAsciiUpper hc] at hsmall
    cases hsmall
  · obtain ⟨inner, d, hinner⟩ := (List.eq_nil_or_concat' back.toList).resolve_left hback
    have hlast : d ∈ h.toList.getLast? := by
      rw [hparts, String.toList_append, hinner, ← List.append_assoc, List.getLast?_concat]
      rfl
    obtain ⟨hmark, hcapital⟩ := isSmall_of_isCut hcut hlast
    obtain ⟨c, small, hfirst, hc, hsmall⟩ := exists_first hlonger
    rw [hchars, hinner, List.append_assoc] at hfirst
    cases inner with
    | nil =>
      obtain ⟨rfl, -⟩ := List.cons.inj hfirst
      rw [hmark, hcapital] at hc
      rcases hc with hc | hc <;> cases hc
    | cons e inner =>
      obtain ⟨-, rfl⟩ := List.cons.inj hfirst
      have hd := hsmall d (List.mem_append_right _ List.mem_cons_self)
      rw [hmark] at hd
      cases hd

/-- the plural of the name `h ++ w`, where `w` is its last word -/
structure PluralisesLast (h w : String) : Prop where
  plural_eq : plural (h ++ w) = h ++ pluralOfWord w
  /-- no word begins earlier and ends with the name -/
  longest : ∀ front back, h = front ++ back → back ≠ "" →
    ¬ (IsCapitalWord (back ++ w) ∨ IsSmallWord (back ++ w))
  ne_empty : pluralOfWord w ≠ ""
  /-- the first character is kept, and its case with it -/
  head_eq : (pluralOfWord w).toList.head? = w.toList.head?
  lower_eq : lower (pluralOfWord w) = pluralOfWord (lower w)

theorem pluralisesLast (hw : IsCapitalWord w ∨ IsCut h ∧ IsSmallWord w) : PluralisesLast h w := by
  have hword : IsCapitalWord w ∨ IsSmallWord w := hw.imp id And.right
  refine ⟨?_, fun front back => not_word_append hw, (pluralOfWord_spec (ne_empty_of_word hword)).1,
    head?_pluralOfWord hword, lower_pluralOfWord hword⟩
  apply plural_of_lastWord? hword
  rcases hw with ⟨c, small, hchars, hc, hsmall⟩ | ⟨hcut, hne, hsmall⟩
  · rw [hchars]
    exact lastWord?_capital h.toList hc hsmall
  · exact lastWord?_small (mt String.toList_eq_nil_iff.1 hne) (fun c => isSmall_of_isCut hcut) hsmall

/-- an irregular word behind capitals, and a small one behind a mark -/
theorem pluralisesLast_compounds :
    (IsCapitalWord "Person" ∧ PluralisesLast "HTTPSales" "Person") ∧
      (IsCut "Sales_" ∧ IsSmallWord "knife") ∧ PluralisesLast "Sales_" "knife" := by
  have hperson : IsCapitalWord "Person" := ⟨'P', "erson".toList, rfl, rfl, by decide⟩
  have hcut : IsCut "Sales_" := by
    intro c hc
    obtain rfl := Option.some.inj (show some '_' = some c from hc)
    decide
  have hknife : IsSmallWord "knife" := ⟨by decide, by decide⟩
  exact ⟨⟨hperson, pluralisesLast (.inl hperson)⟩, ⟨hcut, hknife⟩,
    pluralisesLast (.inr ⟨hcut, hknife⟩)⟩

end EndpointScaffold.Naming
