import EndpointScaffold.Proofs.Text.Splitting
import EndpointScaffold.Text.Trim

/-!
# Reading lines

How a text is read that was assembled from lines: its lines are the pieces between line feeds, and
what they hold is found by what they begin with.

* `IsLine`, `split_ofLines` the lines of a text; `HasLines` a text with its lines;
* `after?` what follows a word, `after?_eq_none` lines that begin otherwise;
* `blockLines` lines behind an opening one, `blockLines_eq` the lines of a block that was written.
-/

namespace EndpointScaffold.Text

variable {s t : String} {lines front body back : List String}
  {opening closing line word : String}

/-! ### Lines of a text -/

/-- a text without line feeds -/
def IsLine (s : String) : Prop := '\n' ∉ s.toList

instance (s : String) : Decidable (IsLine s) := inferInstanceAs (Decidable ('\n' ∉ s.toList))

theorem isLine_append : IsLine (s ++ t) ↔ IsLine s ∧ IsLine t := by
  rw [IsLine, String.toList_append, List.mem_append, not_or, IsLine, IsLine]

theorem IsLine.append (hs : IsLine s) (ht : IsLine t) : IsLine (s ++ t) := isLine_append.2 ⟨hs, ht⟩

theorem split_ofLines (hne : lines ≠ []) (h : ∀ line ∈ lines, IsLine line) :
    split '\n' (ofLines lines) = lines := by
  induction lines with
  | nil => exact absurd rfl hne
  | cons line lines ih =>
    rw [List.forall_mem_cons] at h
    cases lines with
    | nil =>
      rw [ofLines, join, String.intercalate_singleton]
      exact split_of_not_mem h.1
    | cons next rest =>
      have hjoin : ofLines (line :: next :: rest) =
          line ++ String.singleton '\n' ++ ofLines (next :: rest) := String.intercalate_cons_cons
      rw [hjoin, split_append, split_of_not_mem h.1, ih (List.cons_ne_nil _ _) h.2,
        List.singleton_append]

/-- a text and the lines that it is assembled from, which are those that are read if `readable` -/
structure HasLines (readable : Prop) (text : String) (lines : List String) : Prop where
  assembled : text = ofLines lines
  read : readable → split '\n' text = lines

theorem hasLines_ofLines {readable : Prop} (hne : lines ≠ [])
    (h : readable → ∀ line ∈ lines, IsLine line) : HasLines readable (ofLines lines) lines :=
  ⟨rfl, fun hreadable => split_ofLines hne (h hreadable)⟩

/-! ### Indented lines -/

theorem isBlankText_append (s t : String) :
    isBlankText (s ++ t) = (isBlankText s && isBlankText t) := by
  rw [isBlankText, String.toList_append, List.all_append, isBlankText, isBlankText]

theorem indent_eq_map {width : Nat} (h : ∀ line ∈ lines, isBlankText line = false) :
    indent width lines = lines.map (blanks width ++ ·) :=
  List.map_congr_left fun line hline => by
    rw [h line hline]
    rfl

theorem head?_indent {width : Nat} (hwidth : 0 < width) (hline : line ∈ indent width lines) :
    ∀ c ∈ line.toList.head?, isBlank c = true := by
  obtain ⟨inner, -, rfl⟩ := List.mem_map.1 hline
  intro c hc
  split at hc
  · rename_i hblank
    exact List.all_eq_true.1 hblank c (List.mem_of_mem_head? hc)
  · obtain ⟨k, rfl⟩ : ∃ k, width = k + 1 := ⟨width - 1, by omega⟩
    rw [blanks, String.toList_append, String.toList_ofList, List.replicate_succ] at hc
    obtain rfl := Option.some.inj hc
    decide

/-! ### Beginnings -/

/-- what follows `word` in a line that begins with it -/
def after? (word line : String) : Option String :=
  if beginsWith line word then some (String.ofList (line.toList.drop word.length)) else none

theorem after?_append (word rest : String) : after? word (word ++ rest) = some rest := by
  have hbegins : beginsWith (word ++ rest) word = true :=
    List.isPrefixOf_iff_prefix.2 (by rw [String.toList_append]; exact List.prefix_append _ _)
  rw [after?, if_pos hbegins, String.toList_append, ← String.length_toList, List.drop_left,
    String.ofList_toList]

/-- the first characters tell that a line does not begin with a word -/
theorem after?_eq_none {n : Nat} (hn : n ≤ word.toList.length)
    (h : line.toList.take n ≠ word.toList.take n) : after? word line = none := by
  rw [after?, if_neg]
  intro hbegins
  obtain ⟨rest, hrest⟩ := List.isPrefixOf_iff_prefix.1 hbegins
  exact h (by rw [← hrest, List.take_append_of_le_length hn])

theorem head?_toList_append {c : Char} (h : s.toList.head? = some c) (t : String) :
    (s ++ t).toList.head? = some c := by
  rw [String.toList_append, List.head?_append, h]
  rfl

theorem after?_eq_none_of_head {c : Char} (hword : word.toList.head? = some c)
    (h : line.toList.head? ≠ some c) : after? word line = none := by
  obtain ⟨cs, hcs⟩ := List.head?_eq_some_iff.1 hword
  refine after?_eq_none (n := 1) (by rw [hcs]; exact Nat.le_add_left _ _) fun heq => h ?_
  have hhead := congrArg List.head? heq
  rw [List.head?_take, List.head?_take, if_neg Nat.one_ne_zero, if_neg Nat.one_ne_zero] at hhead
  exact hhead.trans hword

/-! ### Blocks -/

/-- the lines up to the first `closing` one, behind `opening` and the `n` lines that follow it -/
def blockLines (n : Nat) (opening closing : String) (lines : List String) : List String :=
  ((lines.dropWhile (· != opening)).drop (n + 1)).takeWhile (· != closing)

theorem blockLines_eq (inner : List String) (hfront : opening ∉ front) (hbody : closing ∉ body) :
    blockLines inner.length opening closing
      (front ++ opening :: (inner ++ (body ++ closing :: back))) = body := by
  have hbefore : ∀ line ∈ front, (line != opening) = true := fun line hline =>
    bne_iff_ne.2 fun heq => hfront (heq ▸ hline)
  have hinside : ∀ line ∈ body, (line != closing) = true := fun line hline =>
    bne_iff_ne.2 fun heq => hbody (heq ▸ hline)
  rw [blockLines, List.dropWhile_append_of_pos hbefore, List.dropWhile_cons_of_neg (by simp),
    List.drop_succ_cons, List.drop_left, List.takeWhile_append_of_pos hinside,
    List.takeWhile_cons_of_neg (by simp), List.append_nil]

end EndpointScaffold.Text
