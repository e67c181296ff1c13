import EndpointScaffold.CSharp.Plain.Token
import EndpointScaffold.Text.Character

/-!
# Classes and case of ASCII characters

The ASCII classes by code points, and how they exclude each other. A letter of a name is never a
blank, a digit starts no word, and a mark is neither.
-/

namespace EndpointScaffold.Text

variable {c : Char}

/-- what holds of the characters of a list is decided at these alone, not at all characters -/
instance (priority := high) decidableForallMemChars {P : Char → Prop} [DecidablePred P]
    (cs : List Char) : Decidable (∀ c ∈ cs, P c) := List.decidableBAll P cs

theorem isAsciiUpper_iff : isAsciiUpper c = true ↔ 65 ≤ c.toNat ∧ c.toNat ≤ 90 := by
  unfold isAsciiUpper
  rw [Bool.and_eq_true, decide_eq_true_eq, decide_eq_true_eq, Char.le_def, Char.le_def,
    UInt32.le_iff_toNat_le, UInt32.le_iff_toNat_le]
  rfl

theorem isAsciiLower_iff : isAsciiLower c = true ↔ 97 ≤ c.toNat ∧ c.toNat ≤ 122 := by
  unfold isAsciiLower
  rw [Bool.and_eq_true, decide_eq_true_eq, decide_eq_true_eq, Char.le_def, Char.le_def,
    UInt32.le_iff_toNat_le, UInt32.le_iff_toNat_le]
  rfl

theorem isAsciiDigit_iff : isAsciiDigit c = true ↔ 48 ≤ c.toNat ∧ c.toNat ≤ 57 := by
  unfold isAsciiDigit
  rw [Bool.and_eq_true, decide_eq_true_eq, decide_eq_true_eq, Char.le_def, Char.le_def,
    UInt32.le_iff_toNat_le, UInt32.le_iff_toNat_le]
  rfl

theorem isAsciiLetter_iff :
    isAsciiLetter c = true ↔ (65 ≤ c.toNat ∧ c.toNat ≤ 90) ∨ (97 ≤ c.toNat ∧ c.toNat ≤ 122) := by
  unfold isAsciiLetter
  rw [Bool.or_eq_true, isAsciiUpper_iff, isAsciiLower_iff]

theorem eq_iff_toNat {d : Char} : c = d ↔ c.toNat = d.toNat := by
  rw [Char.ext_iff, ← UInt32.toNat_inj]
  rfl

theorem isBlank_eq_false_of_range (h : 33 ≤ c.toNat) (h' : c.toNat ≤ 126) : isBlank c = false := by
  unfold isBlank
  simp only [Bool.or_eq_false_iff, Bool.and_eq_false_iff, beq_eq_false_iff_ne, ne_eq,
    decide_eq_false_iff_not]
  omega

end EndpointScaffold.Text

namespace EndpointScaffold.CSharp.Plain

open Text

variable {c : Char}

theorem isWordStart_iff :
    isWordStart c = true ↔
      (65 ≤ c.toNat ∧ c.toNat ≤ 90) ∨ (97 ≤ c.toNat ∧ c.toNat ≤ 122) ∨ c.toNat = 95 := by
  unfold isWordStart
  rw [Bool.or_eq_true, isAsciiLetter_iff, beq_iff_eq, eq_iff_toNat, or_assoc]
  rfl

theorem isWordPart_iff :
    isWordPart c = true ↔
      (48 ≤ c.toNat ∧ c.toNat ≤ 57) ∨ (65 ≤ c.toNat ∧ c.toNat ≤ 90) ∨
        (97 ≤ c.toNat ∧ c.toNat ≤ 122) ∨ c.toNat = 95 := by
  unfold isWordPart
  rw [Bool.or_eq_true, isAsciiDigit_iff, or_comm]
  refine or_congr Iff.rfl ?_
  rw [← isWordStart_iff]
  rfl

theorem isBlank_of_isWordPart (h : isWordPart c = true) : isBlank c = false := by
  rw [isWordPart_iff] at h
  exact isBlank_eq_false_of_range (by omega) (by omega)

theorem isWordStart_of_isAsciiUpper (h : isAsciiUpper c = true) : isWordStart c = true := by
  rw [isAsciiUpper_iff] at h
  exact isWordStart_iff.mpr (.inl h)

theorem isWordPart_of_isWordStart (h : isWordStart c = true) : isWordPart c = true := by
  rw [isWordStart_iff] at h
  rw [isWordPart_iff]
  omega

theorem isWordStart_of_isAsciiDigit (h : isAsciiDigit c = true) : isWordStart c = false := by
  rw [isAsciiDigit_iff] at h
  rw [Bool.eq_false_iff, ne_eq, isWordStart_iff]
  omega

/-- no mark belongs to a word or a number -/
theorem isWordPart_of_mem_marks (h : c ∈ marks) : isWordPart c = false := by
  have hall : ∀ d ∈ marks, isWordPart d = false := by decide
  exact hall c h

theorem isSpace_of_mem_marks (h : c ∈ marks) : isSpace c = false := by
  have hall : ∀ d ∈ marks, isSpace d = false := by decide
  exact hall c h

theorem isSpace_of_isWordPart (h : isWordPart c = true) : isSpace c = false := by
  rw [isWordPart_iff] at h
  unfold isSpace
  simp only [Bool.or_eq_false_iff, Bool.and_eq_false_iff, beq_eq_false_iff_ne, ne_eq,
    decide_eq_false_iff_not]
  omega

theorem isWordChar_of_isWordPart {c : Char} (h : isWordPart c = true) : isWordChar c = true := by
  have hascii : c.toNat < 128 := by
    rw [isWordPart_iff] at h
    omega
  rw [isWordChar, if_pos hascii]
  unfold isWordPart at h
  simpa [or_assoc, or_comm, or_left_comm] using h

end EndpointScaffold.CSharp.Plain

/-!
## Lower case behind a text

ASCII characters are lowered one by one, wherever they stand. What stands before them may be lowered
in view of them, but always to equally many characters. So texts that differ only behind a common
start, and there in ASCII, differ in lower case if and only if their ends do.

* `IsAscii` texts of ASCII characters;
* `toList_lower`, `lower_append` their lower case;
* `lower_tail_eq` texts with a common start, `lower_ne_of_ending` with ends of the same length;
* `mem_lower_iff` characters that have no case;
* `parts_inj`, `lower_parts_inj` texts of two parts.
-/

namespace EndpointScaffold.Text

/-- texts of ASCII characters -/
def IsAscii (s : String) : Prop := ∀ c ∈ s.toList, c.toNat < 128

instance (s : String) : Decidable (IsAscii s) :=
  inferInstanceAs (Decidable (∀ c ∈ s.toList, c.toNat < 128))

theorem IsAscii.append {s t : String} (hs : IsAscii s) (ht : IsAscii t) : IsAscii (s ++ t) := by
  intro c hc
  rw [String.toList_append, List.mem_append] at hc
  exact hc.elim (hs c) (ht c)

variable {before xs ys : List Char} {c d : Char} {base s t : String}

/-! ### Characters -/

theorem lowerFrom_cons_of_ascii (h : c.toNat < 128) (before cs : List Char) :
    lowerFrom before (c :: cs) = lowerChar c :: lowerFrom (c :: before) cs := by
  have hdotted : (c.toNat == 0x130) = false := beq_false_of_ne (by omega)
  have hsigma : (c.toNat == 0x3A3) = false := beq_false_of_ne (by omega)
  simp only [lowerFrom, hdotted, hsigma, Bool.false_eq_true, if_false]

theorem lowerFrom_of_ascii (h : ∀ c ∈ ys, c.toNat < 128) :
    lowerFrom before ys = ys.map lowerChar := by
  induction ys generalizing before with
  | nil => rfl
  | cons c ys ih =>
    rw [List.forall_mem_cons] at h
    rw [lowerFrom_cons_of_ascii h.1, ih h.2, List.map_cons]

/-- what follows has no influence on the number of characters -/
theorem lowerFrom_append (before xs : List Char) (h : ∀ c ∈ ys, c.toNat < 128) :
    ∃ front, lowerFrom before (xs ++ ys) = front ++ ys.map lowerChar ∧
      front.length = (lowerFrom before xs).length := by
  induction xs generalizing before with
  | nil => exact ⟨[], lowerFrom_of_ascii h, rfl⟩
  | cons c xs ih =>
    obtain ⟨front, hfront, hlength⟩ := ih (c :: before)
    rw [List.cons_append]
    simp only [lowerFrom]
    -- only the dotted capital I becomes two characters
    by_cases hdotted : (c.toNat == 0x130) = true
    · rw [if_pos hdotted, if_pos hdotted, hfront]
      exact ⟨'i' :: Char.ofNat 0x307 :: front, rfl, by simp only [List.length_cons, hlength]⟩
    · rw [if_neg hdotted, if_neg hdotted, hfront]
      by_cases hsigma : (c.toNat == 0x3A3) = true
      · rw [if_pos hsigma, if_pos hsigma]
        exact ⟨_ :: front, rfl, by simp only [List.length_cons, hlength]⟩
      · rw [if_neg hsigma, if_neg hsigma]
        exact ⟨lowerChar c :: front, rfl, by simp only [List.length_cons, hlength]⟩

/-! ### Texts -/

theorem toList_lower (h : IsAscii s) : (lower s).toList = s.toList.map lowerChar := by
  rw [lower, String.toList_ofList, lowerFrom_of_ascii h]

theorem lower_append (hs : IsAscii s) (ht : IsAscii t) : lower (s ++ t) = lower s ++ lower t := by
  rw [← String.toList_inj, toList_lower (hs.append ht), String.toList_append, List.map_append,
    String.toList_append, toList_lower hs, toList_lower ht]

theorem lower_ne_empty (hs : IsAscii s) (hne : s ≠ "") : lower s ≠ "" := by
  rw [ne_eq, ← String.toList_eq_nil_iff, toList_lower hs, List.map_eq_nil_iff,
    String.toList_eq_nil_iff]
  exact hne

/-- behind a common start ASCII texts can be told apart in lower case as well as alone -/
theorem lower_tail_eq (hs : IsAscii s) (ht : IsAscii t) (h : lower (base ++ s) = lower (base ++ t)) :
    lower s = lower t := by
  rw [lower, lower, ← String.toList_inj, String.toList_ofList, String.toList_ofList,
    String.toList_append, String.toList_append] at h
  obtain ⟨front, hfront, hlength⟩ := lowerFrom_append [] base.toList hs
  obtain ⟨front', hfront', hlength'⟩ := lowerFrom_append [] base.toList ht
  rw [hfront, hfront'] at h
  rw [← String.toList_inj, toList_lower hs, toList_lower ht]
  exact (List.append_inj h (hlength.trans hlength'.symm)).2

/-- ends of the same length tell texts apart -/
theorem lower_ne_of_ending {x y : String} (hx : IsAscii x) (hy : IsAscii y) (hs : IsAscii s)
    (ht : IsAscii t) (hlength : s.length = t.length) (hne : lower s ≠ lower t) :
    lower (x ++ s) ≠ lower (y ++ t) := by
  intro h
  rw [lower_append hx hs, lower_append hy ht, ← String.toList_inj, String.toList_append,
    String.toList_append] at h
  refine hne (String.toList_inj.1 (List.append_inj' h ?_).2)
  rw [toList_lower hs, toList_lower ht, List.length_map, List.length_map]
  exact hlength

/-! ### Characters without case -/

theorem toNat_lowerChar (h : c.toNat < 128) :
    (lowerChar c).toNat = if 65 ≤ c.toNat ∧ c.toNat ≤ 90 then c.toNat + 32 else c.toNat := by
  rw [lowerChar, if_pos h]
  by_cases hupper : isAsciiUpper c = true
  · have hrange := isAsciiUpper_iff.1 hupper
    rw [if_pos hupper, if_pos hrange, Char.ofNat, dif_pos (Or.inl (by omega))]
    rfl
  · rw [if_neg hupper, if_neg fun hrange => hupper (isAsciiUpper_iff.2 hrange)]

/-- no capital is lowered to a character that is no letter -/
theorem lowerChar_eq_iff (h : c.toNat < 128) (hd : isAsciiLetter d = false) :
    lowerChar c = d ↔ c = d := by
  rw [← Bool.not_eq_true, isAsciiLetter_iff] at hd
  rw [eq_iff_toNat, eq_iff_toNat, toNat_lowerChar h]
  split <;> omega

theorem mem_lower_iff (hs : IsAscii s) (hd : isAsciiLetter d = false) :
    d ∈ (lower s).toList ↔ d ∈ s.toList := by
  rw [toList_lower hs, List.mem_map]
  constructor
  · rintro ⟨c, hc, hlower⟩
    rw [lowerChar_eq_iff (hs c hc) hd] at hlower
    exact hlower ▸ hc
  · exact fun hmem => ⟨d, hmem, (lowerChar_eq_iff (hs d hmem) hd).2 rfl⟩

/-! ### Parts -/

theorem append_cons_inj {xs ys xs' ys' : List Char} (hx : d ∉ xs) (hx' : d ∉ xs')
    (h : xs ++ d :: ys = xs' ++ d :: ys') : xs = xs' ∧ ys = ys' := by
  induction xs generalizing xs' with
  | nil =>
    cases xs' with
    | nil => exact ⟨rfl, (List.cons.inj h).2⟩
    | cons c xs' => exact absurd ((List.cons.inj h).1 ▸ List.mem_cons_self) hx'
  | cons c xs ih =>
    cases xs' with
    | nil => exact absurd ((List.cons.inj h).1 ▸ List.mem_cons_self) hx
    | cons c' xs' =>
      obtain ⟨rfl, htail⟩ := List.cons.inj h
      obtain ⟨rfl, hys⟩ := ih (List.not_mem_of_not_mem_cons hx) (List.not_mem_of_not_mem_cons hx')
        htail
      exact ⟨rfl, hys⟩

/-- texts are told apart by their parts before and behind the first of the same character -/
theorem parts_inj {s' t' : String} (hs : d ∉ s.toList) (hs' : d ∉ s'.toList)
    (h : s ++ (String.singleton d ++ t) = s' ++ (String.singleton d ++ t')) : s = s' ∧ t = t' := by
  rw [← String.toList_inj] at h
  simp only [String.toList_append, String.toList_singleton, List.singleton_append] at h
  rw [← String.toList_inj, ← String.toList_inj]
  exact append_cons_inj hs hs' h

/-- texts with a common start and parts behind it, in lower case -/
theorem lower_parts_inj {s' t' : String} (hascii : d.toNat < 128) (hd : isAsciiLetter d = false)
    (hs : IsAscii s ∧ d ∉ s.toList) (hs' : IsAscii s' ∧ d ∉ s'.toList) (ht : IsAscii t)
    (ht' : IsAscii t')
    (h : lower (base ++ (s ++ (String.singleton d ++ t))) =
      lower (base ++ (s' ++ (String.singleton d ++ t')))) : lower s = lower s' ∧ lower t = lower t' := by
  have hsep : IsAscii (String.singleton d) := fun c hc => by
    rw [String.toList_singleton, List.mem_singleton] at hc
    exact hc ▸ hascii
  have hlower : lower (String.singleton d) = String.singleton d := by
    rw [← String.toList_inj, toList_lower hsep, String.toList_singleton, List.map_singleton,
      (lowerChar_eq_iff hascii hd).2 rfl]
  have htail := lower_tail_eq (hs.1.append (hsep.append ht)) (hs'.1.append (hsep.append ht')) h
  rw [lower_append hs.1 (hsep.append ht), lower_append hs'.1 (hsep.append ht'),
    lower_append hsep ht, lower_append hsep ht', hlower] at htail
  exact parts_inj (fun hmem => hs.2 ((mem_lower_iff hs.1 hd).1 hmem))
    (fun hmem => hs'.2 ((mem_lower_iff hs'.1 hd).1 hmem)) htail

end EndpointScaffold.Text
