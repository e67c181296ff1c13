import EndpointScaffold.CSharp.Chain
import EndpointScaffold.Proofs.Plain.Call

/-!
# Segments of printed chains

The chain that is found in a run of printed links has one segment for each link, in the order of the
links. Nothing is found in the arguments, as their chains start at the parameter of a selector.

* `chainTo?_links`, `chainsIn_links`.
-/

namespace EndpointScaffold.CSharp.Plain

open Text Printed CSharp.Tree

/-! ### Names -/

/-- a name is all of the identifier that it starts with -/
theorem leadingIdentifier_name (n : Name) : leadingIdentifier n.text = n.text := by
  obtain ⟨c, cs, hlist, hc, hcs⟩ := n.toList_eq
  have hblank : isBlank c = false :=
    isBlank_of_isWordPart (isWordPart_of_isWordStart (isWordStart_of_isAsciiUpper hc))
  have hat : c ≠ '@' := by
    rintro rfl
    exact absurd hc (by decide)
  have hstart : (isAsciiLetter c || c == '_') = true := isWordStart_of_isAsciiUpper hc
  have hword : ∀ d ∈ cs, isWordChar d = true := fun d hd => isWordChar_of_isWordPart (hcs d hd)
  have htake : (cs ++ []).takeWhile isWordChar = cs := takeWhile_run hword (by simp)
  have hdrop : (c :: cs).dropWhile isBlank = c :: cs := dropWhile_eq_self (by simpa using hblank)
  unfold leadingIdentifier
  rw [hlist, hdrop]
  split
  · next heq => exact absurd (List.cons.inj heq).1 hat
  · next heq =>
    obtain ⟨rfl, rfl⟩ := List.cons.inj heq
    rw [if_pos hstart, ← List.append_nil cs, htake, ← hlist, String.ofList_toList]
  · next heq => simp at heq

/-! ### Segments -/

def Link.segment (l : Link) : ChainSegment :=
  ⟨l.name.text, l.text, some (l.argumentPhrases.map Phrase.text)⟩

/-- texts of the items of a kind in a printed list -/
theorem texts_commaParts {k : Kind} (hk : k ≠ .mark) (gap : String)
    (hgap : gap.toList.all isSpace = true) (bs : List Phrase)
    (hbs : ∀ b ∈ bs, ∀ g, (b.part g).tree.kind = k) :
    (((Phrase.commaParts gap bs).map Part.tree).filter (hasKind k)).map Tree.text =
      bs.map Phrase.text := by
  have hcomma : hasKind k ((sign "" ",").leaf .mark).tree = false := by
    rw [hasKind, beq_eq_false_iff_ne]
    exact hk.symm
  fun_induction Phrase.commaParts gap bs with
  | case1 => rfl
  | case2 gap b =>
    have hb : hasKind k (b.part gap).tree = true := by
      rw [hasKind, hbs b List.mem_cons_self, beq_self_eq_true]
    simp [hb, b.text_part hgap]
  | case3 gap b c bs ih =>
    have hb : hasKind k (b.part gap).tree = true := by
      rw [hasKind, hbs b List.mem_cons_self, beq_self_eq_true]
    have htail := ih rfl fun d hd => hbs d (List.mem_cons_of_mem b hd)
    rw [List.map_cons, List.map_cons, List.filter_cons_of_pos hb,
      List.filter_cons_of_neg (by rw [hcomma]; decide), List.map_cons, htail, b.text_part hgap]
    rfl

theorem tree_parens (bs : List Phrase) (gap : String) :
    ((Phrase.parens bs).part gap).tree = .node none .other (((sign gap "(").leaf .mark).tree ::
      (Phrase.commaParts "" bs).map Part.tree ++ [((sign "" ")").leaf .mark).tree]) := by
  show Tree.node none .other (_ :: Part.trees (Phrase.commaParts "" bs ++ [_])) = _
  rw [trees_of_lead, List.map_append]
  · rfl
  · intro p hp
    rcases List.mem_append.mp hp with hp | hp
    · exact Phrase.lead_commaParts "" bs p hp
    · rw [List.mem_singleton.mp hp]
      rfl

namespace Link

variable (l : Link) (left : Part)

theorem tree_accessPart : (l.accessPart left).tree =
    .node none .memberAccess [(left.as .expression).tree, ((sign "" ".").leaf .mark).tree,
      ((term "" l.name.text).name.as .name).tree] := rfl

theorem tree_part : (l.part left).tree =
    .node none .invocation [((l.accessPart left).as .function).tree,
      ((l.call.part "").as .arguments).tree] := rfl

theorem argumentTexts_part : argumentTexts (l.part left).tree = l.argumentPhrases.map Phrase.text := by
  have hpart : (l.part left).tree.part? .arguments = some ((l.call.part "").as .arguments).tree := by
    rw [tree_part]
    simp [part?, parts]
  rw [argumentTexts, hpart, Option.map_some, Option.getD_some, textsOf, Part.parts_as]
  have htree := tree_parens l.argumentPhrases ""
  rw [call, htree]
  have htexts := texts_commaParts (k := .argument) (by decide) "" rfl l.argumentPhrases
    (by
      intro b hb g
      obtain ⟨a, -, rfl⟩ := List.mem_map.mp hb
      rfl)
  show List.map Tree.text (List.filter (hasKind .argument) (_ :: _ ++ [_])) = _
  rw [List.cons_append, List.filter_cons_of_neg (by decide), List.filter_append, List.map_append,
    htexts]
  exact List.append_nil _

/-- what is printed of a link without the point -/
theorem text_link :
    textOfAll [((term "" l.name.text).name.as .name).tree, ((l.call.part "").as .arguments).tree] =
      l.text := by
  have hbare : IsBare (term "" l.name.text :: l.call.printed "") :=
    isBare_cons (fit_name rfl l.name) (by simp) rfl (l.call.isBare rfl)
  have hname : Spells [((term "" l.name.text).name.as .name).tree] [term "" l.name.text] := rfl
  have hcall := (spells_as .arguments).mpr (l.call.spells "")
  refine textOfAll_of_spells (spells_cons hname hcall) hbare (rfl : _ = some "") ?_
  rw [List.flatMap_append, l.call.chars]
  simp [chars_term, Link.text]

theorem callSegment?_part : callSegment? (l.part left).tree = some l.segment := by
  have hfunction : (l.part left).tree.part? .function =
      some (.node (some .function) .memberAccess (l.accessPart left).tree.parts) := by
    rw [tree_part]
    simp [part?, parts]
    rfl
  have hmember : (Tree.node (some .function) .memberAccess (l.accessPart left).tree.parts).part? .name
      = some ((term "" l.name.text).name.as .name).tree := by
    simp [part?, parts, tree_accessPart]
  have hfrom : (Tree.node (some .function) .memberAccess
      (l.accessPart left).tree.parts).partsFrom .name
      = [((term "" l.name.text).name.as .name).tree] := by
    simp [partsFrom, parts, tree_accessPart]
  have htail : ((l.part left).tree.partsFrom .function).tail =
      [((l.call.part "").as .arguments).tree] := by
    rw [tree_part]
    simp [partsFrom, parts]
  rw [callSegment?, hfunction]
  show (((Tree.node (some .function) .memberAccess
    (l.accessPart left).tree.parts).part? .name).map _) = _
  rw [hmember, hfrom, htail, Option.map_some, argumentTexts_part, Name.text_name_as,
    leadingIdentifier_name, List.singleton_append, text_link]
  rfl

theorem accessSegment?_part : (accessSegment? (l.accessPart left).tree).isSome = true := by
  simp [accessSegment?, part?, parts, tree_accessPart]

end Link

/-! ### Chains -/

theorem chainTo?_name (root gap w : String) :
    chainTo? root (term gap w).name.tree = if trim w = root then some [] else none := by
  rw [← text_name_eq_trim gap]
  show chainTo? root (.node none .identifier _) = _
  rw [chainTo?]
  · simp only [Tree.kind, decide_true, Bool.true_and, decide_eq_true_eq]
    rfl
  · simp
  · simp

/-- the label of a tree is nothing to the chain that it ends -/
theorem chainTo?_label (root : String) (l m : Option Label) (k : Kind) (ps : List Tree) :
    chainTo? root (.node l k ps) = chainTo? root (.node m k ps) := by
  cases k <;> rfl

theorem chainTo?_as (root : String) (p : Part) (label : Label) :
    chainTo? root (p.as label).tree = chainTo? root p.tree := by
  unfold Part.as
  cases p.tree with
  | leaf l k gap text => rfl
  | missing l k => rfl
  | node l k ps => exact chainTo?_label root _ _ k ps

theorem chainsIn_as (root : String) (isReceiver : Bool) (p : Part) (label : Label) :
    chainsIn root isReceiver (p.as label).tree = chainsIn root isReceiver p.tree := by
  unfold Part.as
  cases p.tree with
  | leaf l k gap text => rfl
  | missing l k => rfl
  | node l k ps =>
    show chainsIn root isReceiver (.node (some label) k ps) = _
    rw [chainsIn, chainsIn, chainTo?_label root (some label) l k ps]

theorem chainTo?_access (root : String) (l : Link) (left : Part) :
    ∃ s, chainTo? root (l.accessPart left).tree = (chainTo? root left.tree).map (· ++ [s]) := by
  obtain ⟨s, hs⟩ := Option.isSome_iff_exists.mp (l.accessSegment?_part left)
  refine ⟨s, ?_⟩
  rw [l.tree_accessPart] at hs ⊢
  rw [chainTo?, hs, Option.bind_some, chainToPart?,
    Part.hasLabel_as, if_pos (by decide), chainTo?_as]

theorem chainTo?_link (root : String) (l : Link) (left : Part) :
    chainTo? root (l.part left).tree = (chainTo? root left.tree).map (· ++ [l.segment]) := by
  have hsegment := l.callSegment?_part left
  obtain ⟨s, hs⟩ := chainTo?_access root l left
  rw [l.tree_part] at hsegment ⊢
  rw [chainTo?, hsegment, Option.bind_some, chainToPart?, Part.hasLabel_as, if_pos (by decide),
    chainTo?_as, hs, Option.map_map]
  refine congrArg (fun f => Option.map f _) (funext fun c => ?_)
  show (c ++ [s]).dropLast ++ [l.segment] = c ++ [l.segment]
  rw [List.dropLast_concat]

/-- a run of links gives a chain one segment each -/
theorem chainTo?_links (root : String) (ls : List Link) (left : Part) :
    chainTo? root (ls.foldl Link.part left).tree =
      (chainTo? root left.tree).map (· ++ ls.map Link.segment) := by
  induction ls generalizing left with
  | nil => simp
  | cons l ls ih =>
    rw [List.foldl_cons, ih, chainTo?_link, Option.map_map]
    simp [Function.comp_def]

/-! ### What is in the arguments -/

/-- parts in which no chain of a root is found, and with no comments before them -/
def IsQuiet (root : String) (p : Part) : Prop := chainsIn root false p.tree = [] ∧ p.lead = []

theorem isQuiet_leaf (root : String) {p : Printed} (h : p.comments = []) (k : Kind) :
    IsQuiet root (p.leaf k) := by
  refine ⟨rfl, ?_⟩
  show p.comments.map _ = []
  rw [h]
  rfl

theorem isQuiet_as {root : String} {p : Part} (h : IsQuiet root p) (l : Label) :
    IsQuiet root (p.as l) := ⟨by rw [chainsIn_as]; exact h.1, h.2⟩

theorem chainsInAll_of_quiet {root : String} {ps : List Part} (h : ∀ p ∈ ps, IsQuiet root p) :
    chainsInAll root none (ps.map Part.tree) = [] := by
  induction ps with
  | nil => rfl
  | cons p ps ih =>
    rw [List.map_cons, chainsInAll, if_neg (by simp), (h p List.mem_cons_self).1,
      ih fun q hq => h q (List.mem_cons_of_mem p hq)]
    rfl

/-- a node that ends no chain is quiet if its parts are -/
theorem isQuiet_node {root : String} {k : Kind} (hk : receiverLabel? k = none) {ps : List Part}
    (h : ∀ p ∈ ps, IsQuiet root p) : IsQuiet root (.node k ps) := by
  have hquiet := chainsInAll_of_quiet h
  cases ps with
  | nil =>
    refine ⟨?_, rfl⟩
    show chainsIn root false (.node none k []) = []
    rw [chainsIn, hk]
    rfl
  | cons p ps =>
    refine ⟨?_, (h p List.mem_cons_self).2⟩
    show chainsIn root false (.node none k (p.tree :: Part.trees ps)) = []
    rw [chainsIn, hk, trees_of_lead fun q hq => (h q (List.mem_cons_of_mem p hq)).2,
      ← List.map_cons, hquiet]
    rfl

theorem isQuiet_literal (root : String) (l : Literal) (gap : String) :
    IsQuiet root (l.part gap) := by
  rcases l with ⟨_ | _, d, hd⟩ | b | ⟨s, hs⟩
  · exact ⟨rfl, rfl⟩
  · exact ⟨rfl, rfl⟩
  · exact ⟨rfl, rfl⟩
  · refine ⟨?_, rfl⟩
    show chainsIn root false (.node none .other (_ :: (if s.isEmpty then [] else [_]) ++ [_])) = []
    by_cases hempty : s.isEmpty = true
    · rw [if_pos hempty]
      rfl
    · rw [if_neg hempty]
      rfl

theorem isQuiet_commaParts (root : String) (bs : List Phrase)
    (h : ∀ b ∈ bs, ∀ gap, IsQuiet root (b.part gap)) (gap : String) :
    ∀ p ∈ Phrase.commaParts gap bs, IsQuiet root p :=
  Phrase.forall_mem_commaParts h (isQuiet_leaf root rfl .mark) gap

theorem isQuiet_lambda {root : String} {body : Phrase} (h : IsQuiet root (body.part " "))
    (gap : String) : IsQuiet root ((lambda body).part gap) := by
  refine isQuiet_node rfl fun p hp => ?_
  simp only [List.mem_cons, List.not_mem_nil, or_false] at hp
  rcases hp with rfl | rfl | rfl
  · exact ⟨rfl, rfl⟩
  · exact ⟨rfl, rfl⟩
  · exact isQuiet_as h .body

theorem chainsIn_receiver (root : String) {l : Label} {k : Kind} (hk : receiverLabel? k = some l)
    (label : Option Label) (ps : List Tree) :
    chainsIn root true (.node label k ps) = chainsInAll root (some l) ps := by
  rw [chainsIn, hk]
  rfl

theorem chainsIn_of_none {root : String} {label : Option Label} {k : Kind} {ps : List Tree}
    (h : chainTo? root (.node label k ps) = none) :
    chainsIn root false (.node label k ps) = chainsInAll root (receiverLabel? k) ps := by
  rw [chainsIn, h]
  split <;> rfl

theorem chainsIn_of_some {root : String} {label : Option Label} {k : Kind} {ps : List Tree}
    (hk : (receiverLabel? k).isSome = true) {s : ChainSegment} {ss : Chain}
    (h : chainTo? root (.node label k ps) = some (s :: ss)) :
    chainsIn root false (.node label k ps) =
      (s :: ss) :: chainsIn root true (.node label k ps) := by
  obtain ⟨l, hl⟩ := Option.isSome_iff_exists.mp hk
  rw [chainsIn_receiver root hl, chainsIn, h, hl]
  rfl

theorem chainsIn_access (root : String) (l : Link) (left : Part) :
    chainsIn root true (l.accessPart left).tree = chainsIn root true left.tree := by
  rw [l.tree_accessPart, chainsIn_receiver root rfl, chainsInAll, Option.any_some,
    Part.hasLabel_as, if_pos (by decide), chainsIn_as]
  exact List.append_nil _

section
variable {root : String} (hroot : root ≠ "x")
include hroot

theorem isQuiet_access (m : Name) (gap : String) : IsQuiet root ((access m).part gap) := by
  have htree : ((access m).part gap).tree = .node none .memberAccess
      [((term gap "x").name.as .expression).tree, ((sign "" ".").leaf .mark).tree,
        ((term "" m.text).name.as .name).tree] := rfl
  have hx : trim "x" = "x" := by decide
  have hstart : chainTo? root (term gap "x").name.tree = none := by
    rw [chainTo?_name, hx, if_neg fun h => hroot h.symm]
  refine ⟨?_, rfl⟩
  rw [htree, chainsIn_of_none]
  · rfl
  · rw [chainTo?, chainToPart?, Part.hasLabel_as, if_pos (by decide), chainTo?_as, hstart]
    cases accessSegment? _ <;> rfl

theorem isQuiet_picked (m : Name) (ms : List Name) (gap : String) :
    IsQuiet root ((picked m ms).part gap) := by
  have hinner := isQuiet_commaParts root ((m :: ms).map access) (by
    intro b hb g
    obtain ⟨n, -, rfl⟩ := List.mem_map.mp hb
    exact isQuiet_access hroot n g) " "
  refine isQuiet_node rfl fun p hp => ?_
  rw [List.cons_append, List.cons_append, List.mem_cons, List.mem_cons, List.mem_append,
    List.mem_singleton] at hp
  rcases hp with rfl | rfl | hp | rfl
  · exact ⟨rfl, rfl⟩
  · exact ⟨rfl, rfl⟩
  · exact hinner p hp
  · exact ⟨rfl, rfl⟩

theorem isQuiet_argument (a : Argument) (gap : String) : IsQuiet root (a.phrase.part gap) := by
  cases a with
  | literal l => exact isQuiet_literal root l gap
  | member m => exact isQuiet_lambda (isQuiet_access hroot m " ") gap
  | members m ms => exact isQuiet_lambda (isQuiet_picked hroot m ms " ") gap

theorem isQuiet_call (l : Link) : IsQuiet root (l.call.part "") := by
  have hinner := isQuiet_commaParts root l.argumentPhrases (by
    intro b hb g
    obtain ⟨a, -, rfl⟩ := List.mem_map.mp hb
    refine isQuiet_node rfl fun p hp => ?_
    rw [List.mem_singleton.mp hp]
    exact isQuiet_argument hroot a g) ""
  refine isQuiet_node rfl fun p hp => ?_
  rw [List.cons_append, List.mem_cons, List.mem_append, List.mem_singleton] at hp
  rcases hp with rfl | hp | rfl
  · exact ⟨rfl, rfl⟩
  · exact hinner p hp
  · exact ⟨rfl, rfl⟩

/-! ### All chains -/

theorem chainsIn_link (l : Link) (left : Part) :
    chainsIn root true (l.part left).tree = chainsIn root true left.tree := by
  have hcall := (isQuiet_call hroot l).1
  rw [l.tree_part, chainsIn_receiver root rfl, chainsInAll, Option.any_some, Part.hasLabel_as,
    if_pos (by decide), chainsIn_as, chainsIn_access root, chainsInAll, if_neg (by simp), chainsIn_as,
    hcall]
  exact List.append_nil _

theorem chainsIn_links (ls : List Link) (left : Part) :
    chainsIn root true (ls.foldl Link.part left).tree = chainsIn root true left.tree := by
  induction ls generalizing left with
  | nil => rfl
  | cons l ls ih => rw [List.foldl_cons, ih, chainsIn_link hroot]

/-- the one chain in a run of links from a root -/
theorem chainsIn_root (hname : trim root = root) (gap : String) (comments : List Comment)
    {ls : List Link} (hls : ls ≠ []) :
    chainsIn root false (ls.foldl Link.part ((term gap root).behind comments).name).tree =
      [ls.map Link.segment] := by
  have hstart : chainTo? root ((term gap root).behind comments).name.tree = some [] := by
    rw [show ((term gap root).behind comments).name.tree = (term gap root).name.tree from rfl,
      chainTo?_name, if_pos hname]
  have hchain := chainTo?_links root ls ((term gap root).behind comments).name
  rw [hstart, Option.map_some, List.nil_append] at hchain
  have hinner := chainsIn_links hroot ls ((term gap root).behind comments).name
  obtain ⟨k, ps, htree, hk⟩ : ∃ k ps, (ls.foldl Link.part
      ((term gap root).behind comments).name).tree = .node none k ps ∧
      (receiverLabel? k).isSome = true := by
    rcases List.eq_nil_or_concat ls with rfl | ⟨init, l, rfl⟩
    · exact absurd rfl hls
    · rw [List.concat_eq_append, List.foldl_append]
      exact ⟨_, _, rfl, rfl⟩
  obtain ⟨s, ss, hss⟩ := List.exists_cons_of_ne_nil (mt List.map_eq_nil_iff.mp hls :
    ls.map Link.segment ≠ [])
  rw [htree, hss] at hchain
  rw [htree] at hinner ⊢
  rw [chainsIn_of_some hk hchain, hinner, hss]
  rfl

end

end EndpointScaffold.CSharp.Plain
