import EndpointScaffold.Naming.Plural
import EndpointScaffold.Proofs.Naming.Identifier
import Mathlib.Data.List.TakeWhile

/-!
# Plurals as names of folders

The plural of a name is made of characters of the name and of ASCII letters, and it is not empty
unless the name is. So the plural of a name that can stand in a path can stand in one, too.

* `pluralOfWord_cases` the ways in which a word becomes plural;
* `MadeOf`, `plural_spec` the characters of a plural;
* `IsStem` names that can stand in a path, and begin the name of a file;
* `isStem_plural`, `isStem_of_isIdentifier` which names these are.
-/

namespace EndpointScaffold.Naming

open Text

/-- whether a text is a word of ASCII letters -/
def isLetters (s : String) : Bool := !s.isEmpty && s.toList.all isAsciiLetter

theorem isLetters_iff {s : String} :
    isLetters s = true ↔ s ≠ "" ∧ ∀ c ∈ s.toList, isAsciiLetter c = true := by
  rw [isLetters, Bool.and_eq_true, Bool.not_eq_true', ← Bool.not_eq_true, String.isEmpty_iff,
    List.all_eq_true]

/-! ### The table -/

theorem isLetters_irregularPlurals : irregularPlurals.all (fun e => isLetters e.2) = true := by
  decide

theorem isLetters_of_lookup {low form : String} (h : irregularPlurals.lookup low = some form) :
    isLetters form = true := by
  rw [List.lookup_eq_some_iff] at h
  obtain ⟨front, back, htable, -⟩ := h
  have hmem : (low, form) ∈ irregularPlurals := by
    rw [htable]
    exact List.mem_append_right _ List.mem_cons_self
  exact List.all_eq_true.mp isLetters_irregularPlurals _ hmem

theorem isAsciiLetter_asciiUpperChar {c : Char} (h : isAsciiLetter c = true) :
    isAsciiLetter (asciiUpperChar c) = true := by
  rw [asciiUpperChar]
  split
  · rename_i hlower
    rw [isAsciiLower_iff] at hlower
    have hcode : (Char.ofNat (c.toNat - 32)).toNat = c.toNat - 32 := by
      rw [Char.ofNat, dif_pos (Or.inl (by omega))]
      rfl
    rw [isAsciiLetter_iff, hcode]
    omega
  · exact h

theorem isLetters_matchCase (word : List Char) {form : String} (h : isLetters form = true) :
    isLetters (matchCase word form) = true := by
  obtain ⟨hne, hletters⟩ := isLetters_iff.mp h
  rw [matchCase]
  split
  · rw [asciiUpper, isLetters_iff, String.toList_ofList]
    refine ⟨fun hempty => hne ?_, fun c hc => ?_⟩
    · have hnil := congrArg String.toList hempty
      rw [String.toList_ofList] at hnil
      exact String.toList_eq_nil_iff.mp (List.map_eq_nil_iff.mp hnil)
    · obtain ⟨d, hd, rfl⟩ := List.mem_map.mp hc
      exact isAsciiLetter_asciiUpperChar (hletters d hd)
  · split
    · obtain ⟨c, cs, hform⟩ := List.exists_cons_of_ne_nil (mt String.toList_eq_nil_iff.mp hne)
      rw [hform] at hletters
      rw [hform, capitalize, isLetters_iff, String.toList_ofList]
      refine ⟨fun hempty => ?_, fun d hd => ?_⟩
      · have hnil := congrArg String.toList hempty
        rw [String.toList_ofList] at hnil
        exact List.cons_ne_nil _ _ hnil
      · rcases List.mem_cons.mp hd with rfl | hd
        · exact isAsciiLetter_asciiUpperChar (hletters c List.mem_cons_self)
        · exact hletters d (List.mem_cons_of_mem c hd)
    · exact h

/-! ### Splitting off the last word -/

/-- `word` is all of the last word behind `head` -/
inductive LastWord (head : List Char) : List Char → Prop
  | capital (c : Char) (small : List Char) (hc : isAsciiUpper c = true)
      (hsmall : ∀ d ∈ small, isSmall d = true) : LastWord head (c :: small)
  | small (word : List Char) (hne : word ≠ []) (hsmall : ∀ c ∈ word, isSmall c = true)
      (hhead : ∀ c ∈ head.getLast?, isSmall c = false) : LastWord head word

theorem LastWord.ne_nil {head word : List Char} (h : LastWord head word) : word ≠ [] := by
  cases h with
  | capital => exact List.cons_ne_nil _ _
  | small _ hne => exact hne

theorem lastWord?_eq_some {name head word : List Char} (h : lastWord? name = some (head, word)) :
    name = head ++ word ∧ LastWord head word := by
  have hname : name = (name.reverse.dropWhile isSmall).reverse
      ++ (name.reverse.takeWhile isSmall).reverse := by
    rw [← List.reverse_append, List.takeWhile_append_dropWhile, List.reverse_reverse]
  have hsmall : ∀ c ∈ (name.reverse.takeWhile isSmall).reverse, isSmall c = true :=
    fun c hc => List.mem_takeWhile_imp (List.mem_reverse.mp hc)
  have hstop : ∀ c ∈ (name.reverse.dropWhile isSmall).head?, isSmall c = false := fun c hc => by
    have hnot := List.head?_dropWhile_not isSmall name.reverse
    rw [Option.mem_def.mp hc] at hnot
    exact hnot
  rw [lastWord?] at h
  generalize (name.reverse.takeWhile isSmall).reverse = small at h hname hsmall
  cases hfront : name.reverse.dropWhile isSmall with
  | nil =>
    rw [hfront] at h hname
    by_cases hempty : small.isEmpty = true
    · replace h := (if_pos hempty).symm.trans h
      cases h
    · obtain ⟨rfl, rfl⟩ := Prod.mk.inj (Option.some.inj ((if_neg hempty).symm.trans h))
      exact ⟨hname, .small _ (fun hnil => hempty (List.isEmpty_iff.mpr hnil)) hsmall nofun⟩
  | cons c before =>
    rw [hfront] at h hname hstop
    by_cases hupper : isAsciiUpper c = true
    · obtain ⟨rfl, rfl⟩ := Prod.mk.inj (Option.some.inj ((if_pos hupper).symm.trans h))
      rw [List.reverse_cons, List.append_assoc] at hname
      exact ⟨hname, .capital c small hupper hsmall⟩
    · replace h := (if_neg hupper).symm.trans h
      by_cases hempty : small.isEmpty = true
      · replace h := (if_pos hempty).symm.trans h
        cases h
      · obtain ⟨rfl, rfl⟩ := Prod.mk.inj (Option.some.inj ((if_neg hempty).symm.trans h))
        refine ⟨hname, .small _ (fun hnil => hempty (List.isEmpty_iff.mpr hnil)) hsmall ?_⟩
        rw [List.getLast?_reverse]
        exact hstop

theorem mem_of_mem_dropFinalLineFeed {cs : List Char} {c : Char}
    (h : c ∈ dropFinalLineFeed cs) : c ∈ cs := by
  rw [dropFinalLineFeed] at h
  split at h
  · exact List.dropLast_subset cs h
  · exact h

/-! ### Characters of plurals -/

/-- characters of a text are ASCII letters or stand in another text -/
def MadeOf (name s : String) : Prop := ∀ c ∈ s.toList, isAsciiLetter c = true ∨ c ∈ name.toList

theorem MadeOf.append {name s t : String} (hs : MadeOf name s) (ht : MadeOf name t) :
    MadeOf name (s ++ t) := by
  intro c hc
  rw [String.toList_append, List.mem_append] at hc
  exact hc.elim (hs c) (ht c)

theorem madeOf_self (name : String) : MadeOf name name := fun _ hc => .inr hc

theorem madeOf_ending {ending : String} (h : ending.toList.all isAsciiLetter = true)
    (name : String) : MadeOf name ending := fun c hc => .inl (List.all_eq_true.mp h c hc)

theorem replaceEnd_spec (word : List Char) (n : Nat) {ending : String} (hne : ending ≠ "")
    (h : ending.toList.all isAsciiLetter = true) :
    replaceEnd word n ending ≠ "" ∧ MadeOf (String.ofList word) (replaceEnd word n ending) := by
  constructor
  · intro hempty
    have hlist := congrArg String.toList hempty
    rw [replaceEnd, String.toList_ofList] at hlist
    exact hne (String.toList_eq_nil_iff.mp (List.append_eq_nil_iff.mp hlist).2)
  · intro c hc
    rw [replaceEnd, String.toList_ofList, List.mem_append] at hc
    rw [String.toList_ofList]
    exact hc.elim (fun hc => .inr (List.mem_of_mem_take hc))
      (fun hc => .inl (List.all_eq_true.mp h c hc))

theorem append_ne_empty {s : String} (h : s ≠ "") (t : String) : s ++ t ≠ "" :=
  fun hempty => h (String.append_eq_empty_iff.mp hempty).1

/-- the ways in which a word becomes plural: it stays, has a form of its own, gets longer, or has its
end changed. One of the rules looks the word up and does not compare it with the length of that end. -/
theorem pluralOfWord_cases {s : String} (hs : s ≠ "") :
    (lower s ∈ invariantNouns ∧ pluralOfWord s = s) ∨
    (∃ form, irregularPlurals.lookup (lower s) = some form ∧
      pluralOfWord s = matchCase s.toList form) ∨
    (∃ ending, (ending = "s" ∨ ending = "es") ∧ pluralOfWord s = s ++ ending) ∨
    (∃ n ending, (ending = "ies" ∨ ending = "ves") ∧
      (n < s.toList.length ∨ n = 1 ∧ lower s ∈ vesNouns) ∧
      pluralOfWord s = replaceEnd s.toList n ending) := by
  have hword : ¬ s.toList.isEmpty = true := fun hempty =>
    hs (String.toList_eq_nil_iff.mp (List.isEmpty_iff.mp hempty))
  rw [pluralOfWord]
  simp only [if_neg hword]
  split
  · rename_i hsame
    exact .inl ⟨List.contains_iff_mem.mp hsame, rfl⟩
  · split
    · rename_i form hform
      exact .inr (.inl ⟨form, hform, rfl⟩)
    · refine .inr (.inr ?_)
      split
      · exact .inl ⟨"es", .inr rfl, rfl⟩
      · split
        · rename_i hy
          rw [Bool.and_eq_true, decide_eq_true_eq] at hy
          exact .inr ⟨1, "ies", .inl rfl, .inl hy.2, rfl⟩
        · split
          · rename_i hfe
            rw [Bool.and_eq_true, decide_eq_true_eq] at hfe
            exact .inr ⟨2, "ves", .inr rfl, .inl hfe.2, rfl⟩
          · split
            · rename_i hf
              exact .inr ⟨1, "ves", .inr rfl, .inr ⟨rfl, List.contains_iff_mem.mp hf⟩, rfl⟩
            · split
              · exact .inl ⟨"es", .inr rfl, rfl⟩
              · exact .inl ⟨"s", .inl rfl, rfl⟩

theorem pluralOfWord_spec {s : String} (hs : s ≠ "") :
    pluralOfWord s ≠ "" ∧ MadeOf s (pluralOfWord s) := by
  obtain ⟨-, h⟩ | ⟨form, hform, h⟩ | ⟨ending, hending, h⟩ | ⟨n, ending, hending, -, h⟩ :=
    pluralOfWord_cases hs
  · rw [h]
    exact ⟨hs, madeOf_self s⟩
  · obtain ⟨hne, hletters⟩ := isLetters_iff.mp
      (isLetters_matchCase s.toList (isLetters_of_lookup hform))
    rw [h]
    exact ⟨hne, fun c hc => .inl (hletters c hc)⟩
  · have hletters : ending.toList.all isAsciiLetter = true := by
      rcases hending with rfl | rfl <;> decide
    rw [h]
    exact ⟨append_ne_empty hs _, (madeOf_self s).append (madeOf_ending hletters s)⟩
  · have hletters : ending ≠ "" ∧ ending.toList.all isAsciiLetter = true := by
      rcases hending with rfl | rfl <;> decide
    have hspec := replaceEnd_spec s.toList n hletters.1 hletters.2
    rw [String.ofList_toList] at hspec
    rw [h]
    exact hspec

theorem plural_spec {name : String} (h : name ≠ "") :
    plural name ≠ "" ∧ MadeOf name (plural name) := by
  rw [plural, if_neg (fun hempty => h (String.isEmpty_iff.mp hempty))]
  cases hword : lastWord? (dropFinalLineFeed name.toList) with
  | none => exact pluralOfWord_spec h
  | some parts =>
    obtain ⟨head, word⟩ := parts
    obtain ⟨hname, hlast⟩ := lastWord?_eq_some hword
    have hin : ∀ c, c ∈ head ++ word → c ∈ name.toList := fun c hc =>
      mem_of_mem_dropFinalLineFeed (by rw [hname]; exact hc)
    have hnonempty : String.ofList word ≠ "" := fun hempty => hlast.ne_nil (by
      rw [← String.toList_ofList (l := word), hempty]
      rfl)
    obtain ⟨hplural, hmade⟩ := pluralOfWord_spec hnonempty
    refine ⟨fun hempty => hplural (String.append_eq_empty_iff.mp hempty).2, fun c hc => ?_⟩
    rw [String.toList_append, String.toList_ofList, List.mem_append] at hc
    rcases hc with hc | hc
    · exact .inr (hin c (List.mem_append_left _ hc))
    · refine (hmade c hc).imp id fun hc => hin c (List.mem_append_right _ ?_)
      rw [String.toList_ofList] at hc
      exact hc

/-! ### Stems -/

/-- characters that end no name of a path, and begin no ending -/
def isStemChar (c : Char) : Bool := c != '/' && c != '.' && c != '\x00'

/-- a name that can stand in a path and begin the name of a file -/
structure IsStem (name : String) : Prop where
  nonempty : name ≠ ""
  chars : ∀ c ∈ name.toList, isStemChar c = true

theorem isStemChar_iff {c : Char} : isStemChar c = true ↔ c ≠ '/' ∧ c ≠ '.' ∧ c ≠ '\x00' := by
  rw [isStemChar, Bool.and_eq_true, Bool.and_eq_true, bne_iff_ne, bne_iff_ne, bne_iff_ne, and_assoc]

theorem isStemChar_of_isAsciiLetter {c : Char} (h : isAsciiLetter c = true) :
    isStemChar c = true := by
  rw [isAsciiLetter_iff] at h
  rw [isStemChar_iff, ne_eq, ne_eq, ne_eq, eq_iff_toNat, eq_iff_toNat, eq_iff_toNat]
  show ¬ c.toNat = 47 ∧ ¬ c.toNat = 46 ∧ ¬ c.toNat = 0
  omega

theorem isStem_plural {name : String} (h : IsStem name) : IsStem (plural name) := by
  obtain ⟨hne, hmade⟩ := plural_spec h.nonempty
  exact ⟨hne, fun c hc => (hmade c hc).elim isStemChar_of_isAsciiLetter (h.chars c)⟩

theorem isStemChar_of_isIdentifierPart {c : Char} (h : isIdentifierPart c = true) :
    isStemChar c = true := by
  rw [isIdentifierPart, isIdentifierStart, Bool.or_eq_true, Bool.or_eq_true, beq_iff_eq] at h
  rcases h with (h | rfl) | h
  · exact isStemChar_of_isAsciiLetter h
  · decide
  · rw [isAsciiDigit_iff] at h
    rw [isStemChar_iff, ne_eq, ne_eq, ne_eq, eq_iff_toNat, eq_iff_toNat, eq_iff_toNat]
    show ¬ c.toNat = 47 ∧ ¬ c.toNat = 46 ∧ ¬ c.toNat = 0
    omega

/-- a name that can name a type can also stand in a path, even with the line feed that is
overlooked -/
theorem isStem_of_isIdentifier {name : String} (h : isIdentifier name = true) : IsStem name := by
  obtain ⟨sign, word, back, hspelled⟩ := exists_isSpelled h
  refine ⟨hspelled.ne_empty, fun c hc => ?_⟩
  rcases mem_of_isIdentifier h hc with rfl | hpart | rfl
  · decide
  · exact isStemChar_of_isIdentifierPart hpart
  · decide

end EndpointScaffold.Naming
