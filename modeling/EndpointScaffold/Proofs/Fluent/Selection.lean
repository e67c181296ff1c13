import EndpointScaffold.Proofs.Fluent.Grammar
import EndpointScaffold.Proofs.Plain.Call

/-!
# Selectors on paper

A selector on paper picks the members that are printed in it, in their order.

* `memberOf?_member` one member;
* `membersOf_member`, `membersOf_members` one or several.
-/

namespace EndpointScaffold.Fluent

open CSharp.Plain Text

theorem isName_text (n : Name) : IsName n.text.toList := by
  obtain ⟨c, cs, hlist, hc, hcs⟩ := n.toList_eq
  rw [hlist]
  exact ⟨isWordStart_of_isAsciiUpper hc, fun d hd => isWordChar_of_isWordPart (hcs d hd)⟩

theorem areBlanks_single : AreBlanks [' '] := by
  unfold AreBlanks
  decide

/-! ### Spelling -/

theorem toList_access (n : Name) : (access n).text.toList = 'x' :: '.' :: n.text.toList :=
  String.toList_append

/-- the tokens of an access, with blanks around them -/
theorem spelled_access (n : Name) {front back : List Char} (hfront : AreBlanks front)
    (hback : AreBlanks back) : Spelled (accessTokens ['x'] (some n.text.toList))
      (front ++ (access n).text.toList ++ back) := by
  refine ⟨back, hback, front, '.' :: n.text.toList ++ back, hfront, ?_,
    [], n.text.toList ++ back, areBlanks_nil, rfl, [], back, areBlanks_nil, rfl, rfl⟩
  rw [toList_access]
  simp

/-- what stands between the braces -/
theorem spelled_joined (n : Name) (ns : List Name) :
    Spelled ([[',']].intercalate
        (((n :: ns).map fun m => some m.text.toList).map (accessTokens ['x'])))
      (' ' :: (Text.join ", " (((n :: ns).map access).map Phrase.text)).toList ++ [' ']) := by
  induction ns generalizing n with
  | nil =>
    have hjoin : (Text.join ", " (([n].map access).map Phrase.text)).toList =
        (access n).text.toList := by
      simp [Text.join]
    rw [hjoin]
    exact spelled_access n areBlanks_single areBlanks_single
  | cons m ns ih =>
    have hjoin : ' ' :: (Text.join ", " (((n :: m :: ns).map access).map Phrase.text)).toList ++ [' ']
        = ([' '] ++ (access n).text.toList ++ []) ++ ',' :: (' ' ::
          (Text.join ", " (((m :: ns).map access).map Phrase.text)).toList ++ [' ']) := by
      simp [Text.join, String.intercalate_cons_cons]
    rw [hjoin, List.map_cons, List.map_cons, List.map_cons, List.map_cons,
      List.intercalate_cons_cons, List.append_assoc, List.singleton_append, spelled_append_cons]
    exact ⟨_, _, rfl, spelled_access n areBlanks_single areBlanks_nil, ih m⟩

theorem toList_picked (n : Name) (ns : List Name) : (picked n ns).text.toList =
    'n' :: 'e' :: 'w' :: ' ' :: '\x7b' :: ((' ' ::
      (Text.join ", " (((n :: ns).map access).map Phrase.text)).toList ++ [' ']) ++ ['\x7d']) := by
  simp [picked]

/-- a selector on paper, from what stands behind its arrow -/
theorem isSpelled_arrow {body : String} {s : Selector} (hparameter : s.parameter = ['x'])
    (hparentheses : s.inParentheses = false)
    (h : Spelled (s.picked.tokens ['x']) (' ' :: body.toList)) : s.IsSpelled ("x => " ++ body) := by
  rw [Selector.isSpelled_iff, hparameter, hparentheses]
  refine ⟨' ' :: body.toList, ?_, h⟩
  exact ⟨[], _, areBlanks_nil, String.toList_append, [' '], _, areBlanks_single, rfl, rfl⟩

/-! ### Members -/

theorem isName_parameter : IsName ['x'] := ⟨by decide, List.forall_mem_nil _⟩

theorem memberOf?_member (n : Name) : memberOf? (Argument.member n).phrase.text = some n.text := by
  refine (memberOf?_eq_some_iff _ _).2 ⟨⟨['x'], false, .member n.text.toList, isName_parameter,
    List.forall_mem_singleton.2 (.inl (isName_text n))⟩, isSpelled_arrow rfl rfl ?_, rfl⟩
  have haccess := spelled_access n areBlanks_single areBlanks_nil
  rw [List.append_nil] at haccess
  exact haccess

theorem membersOf_member (n : Name) : membersOf (Argument.member n).phrase.text = [n.text] :=
  membersOf_of_memberOf? (memberOf?_member n)

theorem membersOf_members (n : Name) (ns : List Name) :
    membersOf (Argument.members n ns).phrase.text = (n :: ns).map Name.text := by
  have hmembers : ((n :: ns).map fun m => some m.text.toList).reduceOption =
      (n :: ns).map fun m => m.text.toList := by
    rw [List.reduceOption, List.filterMap_map]
    exact congrFun List.filterMap_eq_map _
  have hnames : ∀ m ∈ (Picked.object ((n :: ns).map fun m => some m.text.toList)).members,
      IsMember m := by
    rw [Picked.members, hmembers]
    intro m hm
    obtain ⟨name, -, rfl⟩ := List.mem_map.1 hm
    exact .inl (isName_text name)
  refine (membersOf_eq_cons_iff _ _ _).2 ⟨⟨['x'], false, .object _, isName_parameter, hnames⟩,
    isSpelled_arrow rfl rfl ?_, ?_⟩
  · rw [toList_picked]
    exact ⟨[], areBlanks_nil, [' '], _, areBlanks_single, rfl, [' '], _, areBlanks_single, rfl,
      begins_concat.2 ⟨_, rfl, spelled_joined n ns⟩⟩
  · rw [Selector.members, Picked.members, hmembers, List.map_map]
    exact List.map_congr_left fun m _ => String.ofList_toList

end EndpointScaffold.Fluent
