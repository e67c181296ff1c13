import EndpointScaffold.Proofs.Files.Parts
import Mathlib.Logic.Relation

/-!
# Normal forms of paths

What cancels out in the text of an absolute path can be dropped in any order: empty pieces, single
dots, a name together with the double dots behind it, and double dots at the very start. Whatever the
order, the same names remain in the end, and these are the place that the path leads to.

* `Simplifies` one thing is dropped, `IsNormalForm` what remains of a text when all is;
* `collapse_of_simplifies`, `simplifies_collapse` the place of the pieces is kept, and is reached;
* `isNormalForm_iff` the one normal form of a text;
* `joined`, `resolved_below` a path as it is seen from a place.
-/

namespace EndpointScaffold.Files

open Relation (ReflTransGen)
open Text

/-- a place whose parts are names -/
def IsPlace (t : Place) : Prop := ∀ name ∈ t, Path.IsName name

theorem IsPlace.dots_not_mem {t : Place} (h : IsPlace t) : ".." ∉ t := fun hmem =>
  (h ".." hmem).noDots rfl

namespace Path

/-- one thing is dropped from the pieces of an absolute path -/
inductive Simplifies : List String → List String → Prop
  | empty (as bs : List String) : Simplifies (as ++ "" :: bs) (as ++ bs)
  | point (as bs : List String) : Simplifies (as ++ "." :: bs) (as ++ bs)
  | upward (as bs : List String) {name : String} (h : IsName name) :
      Simplifies (as ++ name :: ".." :: bs) (as ++ bs)
  /-- above the root of all files there is nothing -/
  | top (bs : List String) : Simplifies (".." :: bs) bs

/-- what remains of a text when nothing more can be dropped from its pieces -/
def IsNormalForm (s : String) (t : Place) : Prop :=
  ReflTransGen Simplifies (split '/' s) t ∧ IsPlace t

def isPart (piece : String) : Bool := piece != "" && piece != "."

/-- the place that pieces lead to from the root of all files -/
def collapse (pieces : List String) : Place := (pieces.filter isPart).foldl step []

/-! ### Dropping keeps the place -/

theorem collapse_append (as bs : List String) :
    collapse (as ++ bs) = (bs.filter isPart).foldl step (collapse as) := by
  rw [collapse, List.filter_append, List.foldl_append, collapse]

theorem isPart_of_isName {name : String} (h : IsName name) : isPart name = true := by
  rw [isPart, bne_iff_ne.mpr h.nonempty, bne_iff_ne.mpr h.undotted]
  rfl

theorem collapse_of_simplifies {as bs : List String} (h : Simplifies as bs) :
    collapse as = collapse bs := by
  cases h with
  | empty as bs | point as bs =>
    rw [collapse_append, collapse_append]
    rfl
  | upward as bs hname =>
    rw [collapse_append, collapse_append, List.filter_cons, isPart_of_isName hname]
    -- the double dots lead back from the name to where it was taken from
    show (bs.filter isPart).foldl step (step (step (collapse as) _) "..") = _
    rw [show step (collapse as) _ = _ from if_neg hname.noDots]
    show (bs.filter isPart).foldl step (List.dropLast _) = _
    rw [List.dropLast_concat]
  | top bs => rfl

theorem collapse_of_isPlace {t : Place} (h : IsPlace t) : collapse t = t := by
  have hall : t.filter isPart = t :=
    List.filter_eq_self.mpr fun name hname => isPart_of_isName (h name hname)
  rw [collapse, hall, foldl_step h.dots_not_mem, List.nil_append]

/-! ### The place is reached -/

theorem Simplifies.append {as bs : List String} (h : Simplifies as bs) (cs : List String) :
    Simplifies (as ++ cs) (bs ++ cs) := by
  cases h with
  | empty as bs =>
    rw [List.append_assoc, List.append_assoc]
    exact .empty as (bs ++ cs)
  | point as bs =>
    rw [List.append_assoc, List.append_assoc]
    exact .point as (bs ++ cs)
  | upward as bs hname =>
    rw [List.append_assoc, List.append_assoc]
    exact .upward as (bs ++ cs) hname
  | top bs => exact .top (bs ++ cs)

def ArePieces (pieces : List String) : Prop := ∀ p ∈ pieces, '/' ∉ p.toList

theorem arePieces_split (s : String) : ArePieces (split '/' s) := by
  intro p hp
  obtain ⟨cs, hcs, rfl⟩ := List.mem_map.mp hp
  rw [String.toList_ofList]
  exact (mem_splitChars_iff.mp hcs).1

theorem isPlace_step {t : Place} {part : String} (ht : IsPlace t) (hpart : isPart part = true)
    (hslash : '/' ∉ part.toList) : IsPlace (step t part) := by
  rw [step]
  by_cases hdots : part = ".."
  · rw [if_pos hdots]
    exact fun name hname => ht name (List.dropLast_subset t hname)
  · rw [isPart, Bool.and_eq_true, bne_iff_ne, bne_iff_ne] at hpart
    rw [if_neg hdots]
    intro name hname
    rcases List.mem_append.mp hname with hname | hname
    · exact ht name hname
    · obtain rfl := List.mem_singleton.mp hname
      exact ⟨hpart.1, hpart.2, hdots, hslash⟩

theorem isPlace_foldl_step {parts : List String} (hparts : ∀ p ∈ parts, isPart p = true)
    (hslash : ArePieces parts) {t : Place} (ht : IsPlace t) : IsPlace (parts.foldl step t) := by
  induction parts generalizing t with
  | nil => exact ht
  | cons p parts ih =>
    rw [List.foldl_cons]
    exact ih (fun q hq => hparts q (List.mem_cons_of_mem p hq))
      (fun q hq => hslash q (List.mem_cons_of_mem p hq))
      (isPlace_step ht (hparts p List.mem_cons_self) (hslash p List.mem_cons_self))

theorem isPlace_collapse {pieces : List String} (h : ArePieces pieces) :
    IsPlace (collapse pieces) :=
  isPlace_foldl_step (fun _ hp => (List.mem_filter.mp hp).2)
    (fun p hp => h p (List.mem_filter.mp hp).1) nofun

/-- one more piece behind a place: it is dropped, it takes the last name with it, or it stays -/
theorem simplifies_concat {t : Place} (ht : IsPlace t) (p : String) :
    ReflTransGen Simplifies (t ++ [p]) (([p].filter isPart).foldl step t) := by
  by_cases hpart : isPart p = true
  · rw [List.filter_singleton, hpart]
    show ReflTransGen Simplifies (t ++ [p]) (step t p)
    rw [step]
    by_cases hdots : p = ".."
    · rw [if_pos hdots, hdots]
      rcases List.eq_nil_or_concat t with rfl | ⟨above, name, rfl⟩
      · exact .single (.top [])
      · have hname := ht name (by rw [List.concat_eq_append]; simp)
        rw [List.concat_eq_append, List.dropLast_concat, List.append_assoc]
        have hdropped := Simplifies.upward above [] hname
        rw [List.append_nil] at hdropped
        exact .single hdropped
    · rw [if_neg hdots]
  · have hstay : ([p].filter isPart).foldl step t = t := by
      rw [List.filter_singleton, Bool.eq_false_iff.mpr hpart]
      rfl
    rw [hstay]
    rw [isPart, Bool.and_eq_true, bne_iff_ne, bne_iff_ne, not_and_or, not_not, not_not] at hpart
    have happend := List.append_nil t
    rcases hpart with rfl | rfl
    · have hdropped := Simplifies.empty t []
      rw [happend] at hdropped
      exact .single hdropped
    · have hdropped := Simplifies.point t []
      rw [happend] at hdropped
      exact .single hdropped

/-- pieces can be simplified to the place that they lead to -/
theorem simplifies_collapse {pieces : List String} (h : ArePieces pieces) :
    ReflTransGen Simplifies pieces (collapse pieces) := by
  induction pieces using List.reverseRecOn with
  | nil => exact .refl
  | append_singleton pieces p ih =>
    have hfront : ArePieces pieces := fun q hq => h q (List.mem_append_left _ hq)
    have hlift : ReflTransGen Simplifies (pieces ++ [p]) (collapse pieces ++ [p]) :=
      (ih hfront).lift (· ++ [p]) fun _ _ hab => hab.append [p]
    rw [collapse_append]
    exact hlift.trans (simplifies_concat (isPlace_collapse hfront) p)

/-! ### Texts -/

theorem resolved_nil (p : Path) : p.resolved [] = p.parts.foldl step [] := by
  rw [resolved, start]
  cases p.anchor <;> rfl

theorem resolved_ofText (s : String) : (ofText s).resolved [] = collapse (split '/' s) :=
  resolved_nil (ofText s)

/-- a text has one normal form: the place it leads to -/
theorem isNormalForm_iff {s : String} {t : Place} :
    IsNormalForm s t ↔ t = (ofText s).resolved [] := by
  rw [resolved_ofText]
  constructor
  · rintro ⟨hsimplified, ht⟩
    have hsame : ∀ {as bs}, ReflTransGen Simplifies as bs → collapse as = collapse bs :=
      fun hab => by
        induction hab with
        | refl => rfl
        | tail _ hstep ih => exact ih.trans (collapse_of_simplifies hstep)
    rw [hsame hsimplified, collapse_of_isPlace ht]
  · rintro rfl
    have hpieces := arePieces_split s
    exact ⟨simplifies_collapse hpieces, isPlace_collapse hpieces⟩

theorem isPlace_resolved {here : Place} (hhere : IsPlace here) (s : String) :
    IsPlace ((ofText s).resolved here) := by
  refine isPlace_foldl_step (fun p hp => (List.mem_filter.mp hp).2)
    (fun p hp => arePieces_split s p (List.mem_filter.mp hp).1) ?_
  rw [start]
  cases (ofText s).anchor with
  | here => exact hhere
  | root | doubleRoot => exact fun _ hp => absurd hp List.not_mem_nil

/-! ### Paths seen from a place -/

/-- a path from a place on; one that starts with a slash stands for itself -/
def joined (root : Place) (path : String) : String :=
  if path.toList.head? = some '/' then path else ofPlaceText root ++ "/" ++ path

theorem slashed_eq_join {root : Place} (hne : root ≠ []) :
    slashed root = "/" ++ Text.join "/" root := by
  induction root with
  | nil => exact absurd rfl hne
  | cons name names ih =>
    rw [slashed_cons, Text.join]
    cases names with
    | nil => rw [slashed, List.map_nil, String.join_nil, String.append_empty,
        String.intercalate_singleton]
    | cons name' names =>
      rw [ih (List.cons_ne_nil _ _), Text.join, String.intercalate_cons_cons, String.append_assoc,
        String.append_assoc]

theorem partsOf_ofPlaceText {root : Place} (h : IsPlace root) :
    partsOf (ofPlaceText root) = root := by
  rw [ofPlaceText, text_ofPlace]
  by_cases hne : root = []
  · rw [hne]
    decide
  · rw [← slashed_eq_join hne, ← String.empty_append (s := slashed root), partsOf_slashed "" h]
    rfl

theorem anchorOf_slash (cs : List Char) : anchorOf ('/' :: cs) ≠ .here := by
  unfold anchorOf
  split
  · nofun
  · nofun
  · nofun
  · rename_i hother
    exact absurd rfl (hother cs)

/-- a path taken from a place leads where the joined text does -/
theorem resolved_below {root : Place} (h : IsPlace root) (path : String) :
    ((ofPlace root).below path).resolved [] = (ofText (joined root path)).resolved [] := by
  rw [resolved_nil, resolved_nil, joined, below, join]
  by_cases hslash : path.toList.head? = some '/'
  · rw [if_pos hslash]
    obtain ⟨cs, hcs⟩ := List.head?_eq_some_iff.mp hslash
    have hanchor : (ofText path).anchor ≠ .here := by
      rw [ofText, hcs]
      exact anchorOf_slash cs
    cases hof : (ofText path).anchor with
    | here => exact absurd hof hanchor
    | root | doubleRoot => rfl
  · rw [if_neg hslash]
    have hanchor : (ofText path).anchor = .here := by
      rw [ofText]
      cases hcs : path.toList with
      | nil => rfl
      | cons c cs => exact anchorOf_cons (fun hc => hslash (by rw [hcs, hc]; rfl)) cs
    rw [hanchor]
    show (root ++ partsOf path).foldl step [] =
      (partsOf (ofPlaceText root ++ "/" ++ path)).foldl step []
    rw [partsOf_slash, partsOf_ofPlaceText h]

end Path

end EndpointScaffold.Files
