import EndpointScaffold.Proofs.Text.Classes
import EndpointScaffold.Text.Trim
import Mathlib.Data.List.Basic
import Mathlib.Data.List.Induction
import Mathlib.Data.List.TakeWhile

/-!
# Trimming and splitting texts

A text whose first and last characters are no blanks is kept as it is by trimming. Both sides of a
separator are split on their own, a change of characters can only split pieces further, and
separators at the ends add nothing but empty pieces.

* `takeWhile_run`, `dropWhile_run` a run of a class and what is behind it;
* `dropEndWhile_append`, `dropAround_append` what trimming leaves out, `trim_eq_self` texts that need
  none;
* `splitChars_append`, `split_append` the pieces on both sides of a separator;
* `mem_splitChars_iff` where pieces stand;
* `mem_splitChars_map` a piece that a change of characters keeps;
* `filter_split_trimOf` the pieces of a trimmed text.
-/

namespace EndpointScaffold.Text

/-! ### Runs of a class -/

/-- what is left of a text does not begin with what is dropped -/
theorem head?_dropWhile {α : Type} (p : α → Bool) (as : List α) :
    ∀ a ∈ (as.dropWhile p).head?, p a = false := fun a ha => by
  have hnot := List.head?_dropWhile_not p as
  rw [Option.mem_def.1 ha] at hnot
  exact hnot

section
variable {α : Type} {p : α → Bool} {run rest : List α}
  (hrun : ∀ a ∈ run, p a = true) (hrest : ∀ a ∈ rest.head?, p a = false)
include hrun hrest

theorem takeWhile_run : (run ++ rest).takeWhile p = run := by
  rw [List.takeWhile_append_of_pos hrun]
  cases rest with
  | nil => simp
  | cons a rest => simp [hrest a rfl]

theorem dropWhile_run : (run ++ rest).dropWhile p = rest := by
  rw [List.dropWhile_append_of_pos hrun]
  cases rest with
  | nil => rfl
  | cons a rest => simp [hrest a rfl]

end

/-! ### Trimming -/

section
variable {p : Char → Bool} {cs : List Char}

theorem dropWhile_eq_self (h : ∀ c ∈ cs.head?, p c = false) : cs.dropWhile p = cs := by
  cases cs with
  | nil => rfl
  | cons c cs => rw [List.dropWhile_cons, h c rfl]; rfl

theorem dropEndWhile_eq_self (h : ∀ c ∈ cs.getLast?, p c = false) : dropEndWhile p cs = cs := by
  rw [dropEndWhile, dropWhile_eq_self (by rw [List.head?_reverse]; exact h), List.reverse_reverse]

/-- what is at the end is dropped -/
theorem dropEndWhile_append {back : List Char} (hback : ∀ c ∈ back, p c = true)
    (hlast : ∀ c ∈ cs.getLast?, p c = false) : dropEndWhile p (cs ++ back) = cs := by
  rw [dropEndWhile, List.reverse_append,
    List.dropWhile_append_of_pos fun c hc => hback c (List.mem_reverse.mp hc)]
  exact dropEndWhile_eq_self hlast

/-- nothing else is dropped -/
theorem exists_dropEndWhile (p : Char → Bool) (cs : List Char) :
    ∃ back, (∀ c ∈ back, p c = true) ∧ cs = dropEndWhile p cs ++ back := by
  refine ⟨(cs.reverse.takeWhile p).reverse,
    fun c hc => List.mem_takeWhile_imp (List.mem_reverse.1 hc), ?_⟩
  rw [dropEndWhile, ← List.reverse_append, List.takeWhile_append_dropWhile, List.reverse_reverse]

theorem dropAround_eq_self (hfirst : ∀ c ∈ cs.head?, p c = false)
    (hlast : ∀ c ∈ cs.getLast?, p c = false) : dropAround p cs = cs := by
  rw [dropAround, dropWhile_eq_self hfirst, dropEndWhile_eq_self hlast]

/-- what is around a text is dropped -/
theorem dropAround_append {front back : List Char} (hne : cs ≠ []) (hfront : ∀ c ∈ front, p c = true)
    (hback : ∀ c ∈ back, p c = true) (hfirst : ∀ c ∈ cs.head?, p c = false)
    (hlast : ∀ c ∈ cs.getLast?, p c = false) : dropAround p (front ++ cs ++ back) = cs := by
  have hstart : (front ++ cs ++ back).dropWhile p = cs ++ back := by
    rw [List.append_assoc, List.dropWhile_append_of_pos hfront]
    exact dropWhile_eq_self (by rw [List.head?_append_of_ne_nil _ hne]; exact hfirst)
  rw [dropAround, hstart, dropEndWhile_append hback hlast]

/-- nothing is left at the start that is to be dropped -/
theorem head?_dropAround (p : Char → Bool) (cs : List Char) :
    ∀ c ∈ (dropAround p cs).head?, p c = false := by
  intro c hc
  have hstart : dropAround p cs <+: cs.dropWhile p := by
    rw [dropAround, dropEndWhile, ← List.reverse_suffix, List.reverse_reverse]
    exact List.dropWhile_suffix p
  obtain ⟨rest, hrest⟩ := hstart
  have hhead : (cs.dropWhile p).head? = some c := by
    rw [← hrest, List.head?_append, hc]
    rfl
  exact head?_dropWhile p cs c hhead

/-- nothing is left at the end that is to be dropped -/
theorem getLast?_dropAround (p : Char → Bool) (cs : List Char) :
    ∀ c ∈ (dropAround p cs).getLast?, p c = false := by
  rw [dropAround, dropEndWhile, List.getLast?_reverse]
  exact head?_dropWhile p (cs.dropWhile p).reverse

/-- only what is to be dropped is lost -/
theorem mem_dropAround {c : Char} (hc : p c = false) (cs : List Char) :
    c ∈ dropAround p cs ↔ c ∈ cs := by
  have hstart : ∀ cs : List Char, c ∈ cs.dropWhile p ↔ c ∈ cs := fun cs => by
    have hsplit := List.takeWhile_append_dropWhile (p := p) (l := cs)
    refine ⟨fun h => (List.dropWhile_suffix p).subset h, fun h => ?_⟩
    rw [← hsplit, List.mem_append] at h
    refine h.resolve_left fun htake => ?_
    rw [List.mem_takeWhile_imp htake] at hc
    cases hc
  rw [dropAround, dropEndWhile, List.mem_reverse, hstart, List.mem_reverse, hstart]

/-- texts that start and end with something other than a blank -/
def IsTrimmed (s : String) : Prop :=
  (∀ c ∈ s.toList.head?, isBlank c = false) ∧ ∀ c ∈ s.toList.getLast?, isBlank c = false

theorem trim_eq_self {s : String} (h : IsTrimmed s) : trim s = s := by
  rw [trim, dropAround_eq_self h.1 h.2, String.ofList_toList]

end

/-! ### Splitting -/

variable {sep : Char}

theorem splitChars_ne_nil (sep : Char) (cs : List Char) : splitChars sep cs ≠ [] := by
  cases cs with
  | nil => exact List.cons_ne_nil _ _
  | cons c cs =>
    rw [splitChars]
    split
    · exact List.cons_ne_nil _ _
    · cases splitChars sep cs <;> exact List.cons_ne_nil _ _

theorem splitChars_cons_self (sep : Char) (cs : List Char) :
    splitChars sep (sep :: cs) = [] :: splitChars sep cs := by
  rw [splitChars, if_pos rfl]

/-- a character that does not separate belongs to the first piece -/
theorem splitChars_cons_of_ne {c : Char} (h : c ≠ sep) (cs : List Char) :
    ∃ piece pieces, splitChars sep cs = piece :: pieces ∧
      splitChars sep (c :: cs) = (c :: piece) :: pieces := by
  rw [splitChars, if_neg h]
  cases hcs : splitChars sep cs with
  | nil => exact absurd hcs (splitChars_ne_nil sep cs)
  | cons piece pieces => exact ⟨piece, pieces, rfl, rfl⟩

theorem splitChars_of_not_mem {cs : List Char} (h : sep ∉ cs) : splitChars sep cs = [cs] := by
  induction cs with
  | nil => rfl
  | cons c cs ih =>
    rw [List.mem_cons, not_or] at h
    obtain ⟨piece, pieces, hcs, hc⟩ := splitChars_cons_of_ne (Ne.symm h.1) cs
    rw [ih h.2, List.cons.injEq] at hcs
    rw [hc, ← hcs.1, ← hcs.2]

/-- both sides of a separator are split on their own -/
theorem splitChars_append (as bs : List Char) :
    splitChars sep (as ++ sep :: bs) = splitChars sep as ++ splitChars sep bs := by
  induction as with
  | nil => exact splitChars_cons_self sep bs
  | cons a as ih =>
    rw [List.cons_append]
    by_cases ha : a = sep
    · rw [ha, splitChars_cons_self, splitChars_cons_self, ih, List.cons_append]
    · obtain ⟨piece, pieces, has, hsplit⟩ := splitChars_cons_of_ne ha as
      obtain ⟨piece', pieces', hall, hsplit'⟩ := splitChars_cons_of_ne ha (as ++ sep :: bs)
      rw [ih, has, List.cons_append, List.cons.injEq] at hall
      rw [hsplit, hsplit', ← hall.1, ← hall.2, List.cons_append]

theorem split_append (s t : String) :
    split sep (s ++ String.singleton sep ++ t) = split sep s ++ split sep t := by
  rw [split, String.toList_append, String.toList_append, String.toList_singleton, List.append_assoc,
    List.singleton_append, splitChars_append, List.map_append, split, split]

theorem split_of_not_mem {s : String} (h : sep ∉ s.toList) : split sep s = [s] := by
  rw [split, splitChars_of_not_mem h, List.map_singleton, String.ofList_toList]

/-- a change of characters that keeps the separator splits the pieces further -/
theorem splitChars_map {f : Char → Char} (hf : f sep = sep) (cs : List Char) :
    splitChars sep (cs.map f) =
      (splitChars sep cs).flatMap fun piece => splitChars sep (piece.map f) := by
  induction cs with
  | nil => rfl
  | cons c cs ih =>
    rw [List.map_cons]
    by_cases hc : c = sep
    · rw [hc, hf, splitChars_cons_self, splitChars_cons_self, ih, List.flatMap_cons]
      rfl
    · obtain ⟨piece, pieces, hcs, hsplit⟩ := splitChars_cons_of_ne hc cs
      rw [hcs, List.flatMap_cons] at ih
      rw [hsplit, List.flatMap_cons, List.map_cons]
      by_cases hfc : f c = sep
      · rw [hfc, splitChars_cons_self, splitChars_cons_self, ih, List.cons_append]
      · obtain ⟨first, rest, hpiece, hfirst⟩ := splitChars_cons_of_ne hfc (piece.map f)
        obtain ⟨first', rest', hall, hfirst'⟩ := splitChars_cons_of_ne hfc (cs.map f)
        rw [ih, hpiece, List.cons_append, List.cons.injEq] at hall
        rw [hfirst, hfirst', ← hall.1, ← hall.2, List.cons_append]

theorem mem_splitChars_map {f : Char → Char} (hf : f sep = sep) {cs piece : List Char}
    (hpiece : piece ∈ splitChars sep cs) (hsep : sep ∉ piece.map f) :
    piece.map f ∈ splitChars sep (cs.map f) := by
  rw [splitChars_map hf, List.mem_flatMap]
  refine ⟨piece, hpiece, ?_⟩
  rw [splitChars_of_not_mem hsep]
  exact List.mem_singleton_self _

theorem exists_around_of_mem_splitChars {cs part : List Char} (h : part ∈ splitChars sep cs) :
    sep ∉ part ∧ ∃ front back, cs = front ++ part ++ back ∧
      (∀ c ∈ front.getLast?, c = sep) ∧ ∀ c ∈ back.head?, c = sep := by
  -- by the number of characters, since the first separator is cut off with what is before it
  induction hn : cs.length using Nat.strong_induction_on generalizing cs with
  | _ n ih =>
    by_cases hsep : sep ∈ cs
    · obtain ⟨as, bs, rfl, has⟩ := List.eq_append_cons_of_mem hsep
      rw [splitChars_append, splitChars_of_not_mem has, List.singleton_append, List.mem_cons] at h
      rcases h with rfl | h
      · exact ⟨has, [], sep :: bs, rfl, nofun, fun c hc => (Option.some.inj hc).symm⟩
      · have hlength : bs.length < n := by
          rw [← hn, List.length_append, List.length_cons]
          omega
        obtain ⟨hpart, front, back, rfl, hfront, hback⟩ := ih _ hlength h rfl
        refine ⟨hpart, as ++ sep :: front, back, by simp, fun c hc => ?_, hback⟩
        rw [List.getLast?_append_cons] at hc
        cases front with
        | nil => exact (Option.some.inj hc).symm
        | cons d front => exact hfront c hc
    · rw [splitChars_of_not_mem hsep] at h
      obtain rfl := List.mem_singleton.1 h
      exact ⟨hsep, [], [], by simp, nofun, nofun⟩

theorem mem_splitChars_start {part back : List Char} (hpart : sep ∉ part)
    (hback : ∀ c ∈ back.head?, c = sep) : part ∈ splitChars sep (part ++ back) := by
  cases back with
  | nil =>
    rw [List.append_nil, splitChars_of_not_mem hpart]
    exact List.mem_singleton_self part
  | cons c back =>
    obtain rfl := hback c rfl
    rw [splitChars_append, splitChars_of_not_mem hpart]
    exact List.mem_cons_self

/-- a piece is what stands between two separators, or between one of them and an end -/
theorem mem_splitChars_iff {cs part : List Char} : part ∈ splitChars sep cs ↔ sep ∉ part ∧
    ∃ front back, cs = front ++ part ++ back ∧
      (∀ c ∈ front.getLast?, c = sep) ∧ ∀ c ∈ back.head?, c = sep := by
  refine ⟨exists_around_of_mem_splitChars, ?_⟩
  rintro ⟨hpart, front, back, rfl, hfront, hback⟩
  have hstart := mem_splitChars_start hpart hback
  rw [List.append_assoc]
  cases front using List.reverseRecOn with
  | nil => exact hstart
  | append_singleton front c =>
    obtain rfl := hfront c (List.getLast?_concat ..)
    rw [List.append_assoc, List.singleton_append, splitChars_append]
    exact List.mem_append_right _ hstart

/-! ### Separators at the ends -/

theorem dropEndWhile_concat (p : Char → Bool) (cs : List Char) (c : Char) :
    dropEndWhile p (cs ++ [c]) = if p c then dropEndWhile p cs else cs ++ [c] := by
  rw [dropEndWhile, List.reverse_append, List.reverse_singleton, List.singleton_append,
    List.dropWhile_cons]
  cases p c with
  | true => rfl
  | false =>
    rw [if_neg Bool.false_ne_true, if_neg Bool.false_ne_true, List.reverse_cons,
      List.reverse_reverse]

/-- nothing is dropped before what is kept -/
theorem dropEndWhile_append_of_last {p : Char → Bool} {cs : List Char}
    (hlast : ∀ c ∈ cs.getLast?, p c = false) (ds : List Char) :
    dropEndWhile p (cs ++ ds) = cs ++ dropEndWhile p ds := by
  induction ds using List.reverseRecOn with
  | nil =>
    rw [List.append_nil, dropEndWhile_eq_self hlast]
    exact (List.append_nil cs).symm
  | append_singleton ds d ih =>
    rw [← List.append_assoc, dropEndWhile_concat, dropEndWhile_concat, ih]
    split
    · rfl
    · rw [List.append_assoc]

section
variable {q : List Char → Bool} (hq : q [] = false) (cs : List Char)

include hq

theorem filter_splitChars_dropWhile :
    (splitChars sep (cs.dropWhile (· == sep))).filter q = (splitChars sep cs).filter q := by
  induction cs with
  | nil => rfl
  | cons c cs ih =>
    by_cases hc : c = sep
    · rw [List.dropWhile_cons, if_pos (beq_iff_eq.mpr hc), ih, hc, splitChars_cons_self,
        List.filter_cons, hq]
      rfl
    · rw [List.dropWhile_cons, if_neg (fun h => hc (beq_iff_eq.mp h))]

theorem filter_splitChars_dropEndWhile :
    (splitChars sep (dropEndWhile (· == sep) cs)).filter q = (splitChars sep cs).filter q := by
  induction cs using List.reverseRecOn with
  | nil => rfl
  | append_singleton cs c ih =>
    rw [dropEndWhile_concat]
    by_cases hc : c = sep
    · have hlast : (splitChars sep []).filter q = [] := by
        rw [splitChars, List.filter_cons, hq]
        rfl
      rw [if_pos (beq_iff_eq.mpr hc), ih, hc, splitChars_append, List.filter_append, hlast,
        List.append_nil]
    · rw [if_neg (fun h => hc (beq_iff_eq.mp h))]

end

/-- separators at the ends add nothing but empty pieces -/
theorem filter_split_trimOf {q : String → Bool} (hq : q "" = false) (sep : Char) (s : String) :
    (split sep (trimOf sep s)).filter q = (split sep s).filter q := by
  have hempty : (q ∘ String.ofList) [] = false := hq
  rw [split, split, trimOf, String.toList_ofList, dropAround, List.filter_map, List.filter_map,
    filter_splitChars_dropEndWhile hempty, filter_splitChars_dropWhile hempty]

end EndpointScaffold.Text
