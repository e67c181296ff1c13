import EndpointScaffold.CSharp.Chain
import EndpointScaffold.Proofs.CSharp.Addresses
import EndpointScaffold.Proofs.Text.Splitting

/-!
# Where chains stand

A node is a chain of a root if it is reached from the root by accesses and calls; every access and
every call on the way is a segment. Nothing is accessed of a maximal chain, and it is not called. The
maximal chains of a root in a tree are reported, in the order of the tree, and no others.

* `ChainTo`, `chainTo?_eq_some_iff`   the chains of a root and their segments;
* `IsReceiver`, `MaximalChain`        the maximal ones;
* `filterMap_spotsFrom`               the walk that reports chains finds them at their addresses;
* `chainsReported`                    the whole of it.

In damaged text a call may lack its closing parenthesis. What a segment says runs to the end of the
call, so to this parenthesis if there is one.
-/

namespace EndpointScaffold.CSharp

open Text

namespace Tree

/-! ### Text from an address on -/

/-- the text of tokens without the blanks around it -/
def textOfTokens : List (String × String) → String
  | [] => ""
  | (_, text) :: rest => trim (text ++ joinTokens rest)

theorem textOfAll_eq (ts : List Tree) : textOfAll ts = textOfTokens (tokensOfAll ts) := by
  rw [textOfAll]
  cases tokensOfAll ts <;> rfl

/-- the text from what stands at an address to the end of the tree -/
def textFrom (t : Tree) (a : Address) : String :=
  textOfTokens (t.tokens.drop (t.tokensBefore a).length)

variable {t u p : Tree} {ts front : List Tree} {a b : Address} {i j : Nat} {l : Label}

/-- from a part of a part on: what is left of the part, and what follows it -/
theorem textFrom_eq {f m : Tree} (hf : u.parts[i]? = some f) (hm : f.parts[j]? = some m) :
    u.textFrom [i, j] = textOfAll (f.parts.drop j ++ u.parts.drop (i + 1)) := by
  have hj : f.tokens = tokensOfAll (f.parts.take j) ++ tokensOfAll (f.parts.drop j) := by
    rw [← tokensOfAll_append, List.take_append_drop, tokens_of_part hm]
  have hi : u.tokens =
      tokensOfAll (u.parts.take i) ++ (f.tokens ++ tokensOfAll (u.parts.drop (i + 1))) := by
    rw [tokens_of_part hf]
    conv_lhs => rw [eq_take_append hf, tokensOfAll_append, tokensOfAll]
  have hbefore : u.tokensBefore [i, j] =
      tokensOfAll (u.parts.take i) ++ tokensOfAll (f.parts.take j) := by
    rw [tokensBefore_cons hf, tokensBefore_cons hm, tokensBefore, List.append_nil]
  rw [textFrom, hbefore, hi, hj, textOfAll_eq, tokensOfAll_append, List.append_assoc,
    ← List.append_assoc, List.drop_left]

/-! ### Labelled parts -/

theorem drop_eq_partsFrom (h : u.partIndex? l = some i) : u.parts.drop i = u.partsFrom l := by
  rw [partsFrom]
  rw [partIndex?] at h
  generalize u.parts = ps at h ⊢
  induction ps generalizing i with
  | nil => cases h
  | cons p ps ih =>
    rw [List.findIdx?_cons] at h
    by_cases hp : p.hasLabel l = true
    · rw [if_pos hp] at h
      obtain rfl := Option.some.inj h
      rw [List.dropWhile_cons_of_neg (by rw [hp]; decide), List.drop_zero]
    · rw [if_neg hp] at h
      obtain ⟨k, hk, rfl⟩ := Option.map_eq_some_iff.1 h
      rw [Bool.not_eq_true] at hp
      rw [List.dropWhile_cons_of_pos (by rw [hp]; rfl), List.drop_succ_cons, ih hk]

end Tree

/-! ### The chains of a root -/

open CSharp.Tree

variable {root : String} {t u : Tree} {c : Chain} {a b : Address} {i : Nat}

/-- the tree is a chain of `root` with the segments `c` -/
inductive ChainTo (root : String) : Tree → Chain → Prop
  /-- the bare name of the root -/
  | root {u : Tree} (hk : u.kind = .identifier) (htext : u.text = root) : ChainTo root u []
  /-- a member that is accessed -/
  | access {u receiver member : Tree} {c : Chain} (hk : u.kind = .memberAccess)
      (hmember : u.part? .name = some member) (hreceiver : u.part? .expression = some receiver)
      (h : ChainTo root receiver c) :
      ChainTo root u (c ++ [⟨leadingIdentifier member.text, member.text, none⟩])
  /-- a member that is called; the text is that from the member on -/
  | call {u access receiver member : Tree} {c : Chain} {i j : Nat} (hk : u.kind = .invocation)
      (hi : u.partIndex? .function = some i) (haccess : u.parts[i]? = some access)
      (hka : access.kind = .memberAccess)
      (hj : access.partIndex? .name = some j) (hmember : access.parts[j]? = some member)
      (hreceiver : access.part? .expression = some receiver) (h : ChainTo root receiver c) :
      ChainTo root u
        (c ++ [⟨leadingIdentifier member.text, u.textFrom [i, j], some u.argumentTexts⟩])

theorem chainTo_access_iff (hk : u.kind = .memberAccess) : ChainTo root u c ↔
    ∃ s receiver c', accessSegment? u = some s ∧ u.part? .expression = some receiver ∧
      ChainTo root receiver c' ∧ c = c' ++ [s] := by
  constructor
  · intro h
    cases h with
    | root hk' => exact absurd (hk.symm.trans hk') (by decide)
    | access _ hmember hreceiver h =>
      refine ⟨_, _, _, ?_, hreceiver, h, rfl⟩
      rw [accessSegment?, hmember, Option.map_some]
    | call hk' => exact absurd (hk.symm.trans hk') (by decide)
  · rintro ⟨s, receiver, c', hs, hreceiver, h, rfl⟩
    obtain ⟨member, hmember, rfl⟩ := Option.map_eq_some_iff.1 hs
    exact .access hk hmember hreceiver h

/-- what a call adds, told by the access that it calls -/
theorem callSegment?_eq_some_iff {s : ChainSegment} : callSegment? u = some s ↔
    ∃ i j access member, u.partIndex? .function = some i ∧ u.parts[i]? = some access ∧
      access.kind = .memberAccess ∧ access.partIndex? .name = some j ∧
      access.parts[j]? = some member ∧
      s = ⟨leadingIdentifier member.text, u.textFrom [i, j], some u.argumentTexts⟩ := by
  constructor
  · intro h
    rw [callSegment?] at h
    split at h
    · next l ps hfunction =>
      obtain ⟨member, hmember, rfl⟩ := Option.map_eq_some_iff.1 h
      obtain ⟨i, hi, haccess⟩ := exists_partIndex?_of_part? hfunction
      obtain ⟨j, hj, hj'⟩ := exists_partIndex?_of_part? hmember
      refine ⟨i, j, _, member, hi, haccess, rfl, hj, hj', ?_⟩
      rw [textFrom_eq haccess hj', drop_eq_partsFrom hj, ← drop_eq_partsFrom hi, List.tail_drop]
    · cases h
  · rintro ⟨i, j, access, member, hi, haccess, hka, hj, hmember, rfl⟩
    obtain ⟨l, ps, rfl⟩ : ∃ l ps, access = .node l .memberAccess ps := by
      cases access with
      | leaf | missing => cases hmember
      | node l k ps =>
        obtain rfl : k = .memberAccess := hka
        exact ⟨l, ps, rfl⟩
    rw [callSegment?, part?_of_partIndex? hi haccess]
    show (part? .name _).map _ = _
    rw [part?_of_partIndex? hj hmember, Option.map_some, textFrom_eq haccess hmember,
      drop_eq_partsFrom hj, ← drop_eq_partsFrom hi, List.tail_drop]

theorem chainTo_call_iff (hk : u.kind = .invocation) : ChainTo root u c ↔
    ∃ s access c', callSegment? u = some s ∧ u.part? .function = some access ∧
      ChainTo root access c' ∧ c = c'.dropLast ++ [s] := by
  constructor
  · intro h
    cases h with
    | root hk' => exact absurd (hk.symm.trans hk') (by decide)
    | access hk' => exact absurd (hk.symm.trans hk') (by decide)
    | call _ hi haccess hka hj hmember hreceiver h =>
      refine ⟨_, _, _, callSegment?_eq_some_iff.2 ⟨_, _, _, _, hi, haccess, hka, hj, hmember, rfl⟩,
        part?_of_partIndex? hi haccess,
        .access hka (part?_of_partIndex? hj hmember) hreceiver h, ?_⟩
      rw [List.dropLast_concat]
  · rintro ⟨s, access, c', hs, haccess, h, rfl⟩
    obtain ⟨i, j, access', member, hi, haccess', hka, hj, hmember, rfl⟩ :=
      callSegment?_eq_some_iff.1 hs
    obtain rfl := Option.some.inj ((part?_of_partIndex? hi haccess').symm.trans haccess)
    obtain ⟨_, receiver, c, -, hreceiver, hc, rfl⟩ := (chainTo_access_iff hka).1 h
    rw [List.dropLast_concat]
    exact .call hk hi haccess' hka hj hmember hreceiver hc

theorem chainTo_other_iff (ha : u.kind ≠ .memberAccess) (hc : u.kind ≠ .invocation) :
    ChainTo root u c ↔ u.kind = .identifier ∧ u.text = root ∧ c = [] := by
  constructor
  · intro h
    cases h with
    | root hk htext => exact ⟨hk, htext, rfl⟩
    | access hk => exact absurd hk ha
    | call hk => exact absurd hk hc
  · rintro ⟨hk, htext, rfl⟩
    exact .root hk htext

namespace Tree

/-- a tree without parts is a chain only if it is the root -/
theorem chainTo_of_parts_iff (h : u.parts = []) :
    ChainTo root u c ↔ u.kind = .identifier ∧ u.text = root ∧ c = [] := by
  constructor
  · intro hchain
    cases hchain with
    | root hk htext => exact ⟨hk, htext, rfl⟩
    | access _ hmember =>
      rw [part?, h] at hmember
      cases hmember
    | call _ _ haccess =>
      rw [h] at haccess
      cases haccess
  · rintro ⟨hk, htext, rfl⟩
    exact .root hk htext

theorem ite_chain_eq_some_iff : (if u.kind = .identifier && u.text = root then some [] else none) =
    some c ↔ u.kind = .identifier ∧ u.text = root ∧ c = [] := by
  split
  · next h =>
    rw [Bool.and_eq_true, decide_eq_true_iff, decide_eq_true_iff] at h
    rw [Option.some_inj, eq_comm]
    exact ⟨fun hc => ⟨h.1, h.2, hc⟩, fun hc => hc.2.2⟩
  · next h =>
    rw [Bool.and_eq_true, decide_eq_true_iff, decide_eq_true_iff] at h
    exact iff_of_false nofun fun hc => h ⟨hc.1, hc.2.1⟩

mutual
theorem chainTo?_eq_some_iff {t : Tree} {c : Chain} : chainTo? root t = some c ↔ ChainTo root t c := by
  cases t with
  | leaf | missing =>
    rw [chainTo_of_parts_iff rfl, chainTo?]
    · exact ite_chain_eq_some_iff
    all_goals nofun
  | node l k ps =>
    by_cases ha : (node l k ps).kind = .memberAccess
    · obtain rfl : k = .memberAccess := ha
      rw [chainTo_access_iff rfl, chainTo?, Option.bind_eq_some_iff]
      constructor
      · rintro ⟨s, hs, h⟩
        obtain ⟨c', hc', rfl⟩ := Option.map_eq_some_iff.1 h
        obtain ⟨receiver, hreceiver, h⟩ := chainToPart?_eq_some_iff.1 hc'
        exact ⟨s, receiver, c', hs, hreceiver, h, rfl⟩
      · rintro ⟨s, receiver, c', hs, hreceiver, h, rfl⟩
        have hpart := chainToPart?_eq_some_iff.2 ⟨receiver, hreceiver, h⟩
        exact ⟨s, hs, Option.map_eq_some_iff.2 ⟨c', hpart, rfl⟩⟩
    · by_cases hc : (node l k ps).kind = .invocation
      · obtain rfl : k = .invocation := hc
        rw [chainTo_call_iff rfl, chainTo?, Option.bind_eq_some_iff]
        constructor
        · rintro ⟨s, hs, h⟩
          obtain ⟨c', hc', rfl⟩ := Option.map_eq_some_iff.1 h
          obtain ⟨access, haccess, h⟩ := chainToPart?_eq_some_iff.1 hc'
          exact ⟨s, access, c', hs, haccess, h, rfl⟩
        · rintro ⟨s, access, c', hs, haccess, h, rfl⟩
          have hpart := chainToPart?_eq_some_iff.2 ⟨access, haccess, h⟩
          exact ⟨s, hs, Option.map_eq_some_iff.2 ⟨c', hpart, rfl⟩⟩
      · rw [chainTo_other_iff ha hc, chainTo?]
        · exact ite_chain_eq_some_iff
        · intro _ _ h
          obtain ⟨-, rfl, -⟩ := Tree.node.inj h
          exact ha rfl
        · intro _ _ h
          obtain ⟨-, rfl, -⟩ := Tree.node.inj h
          exact hc rfl

theorem chainToPart?_eq_some_iff {l : Label} {ps : List Tree} {c : Chain} :
    chainToPart? root l ps = some c ↔ ∃ p, ps.find? (hasLabel l) = some p ∧ ChainTo root p c := by
  cases ps with
  | nil =>
    refine iff_of_false nofun ?_
    rintro ⟨p, hp, -⟩
    cases hp
  | cons p ps =>
    rw [chainToPart?]
    by_cases hp : p.hasLabel l = true
    · rw [if_pos hp, List.find?_cons_of_pos hp, chainTo?_eq_some_iff]
      constructor
      · exact fun h => ⟨p, rfl, h⟩
      · rintro ⟨q, hq, h⟩
        obtain rfl := Option.some.inj hq
        exact h
    · rw [if_neg hp, List.find?_cons_of_neg hp, chainToPart?_eq_some_iff]
end

end Tree

/-! ### Receivers -/

namespace Tree

/-- the number of the part that a chain goes on from -/
def receiverIndex? (t : Tree) : Option Nat := (receiverLabel? t.kind).bind (partIndex? · t)

/-- whether a chain goes on from what stands at an address -/
def isReceiver (t : Tree) (a : Address) : Bool :=
  match a.getLast? with
  | none => false
  | some i => (t.at? a.dropLast).bind receiverIndex? == some i

theorem isReceiver_concat (h : t.at? a = some u) (i : Nat) :
    t.isReceiver (a ++ [i]) = (u.receiverIndex? == some i) := by
  rw [isReceiver, List.getLast?_concat, List.dropLast_concat, h]
  rfl

end Tree

/-- what stands at the address is called, or a member of it is accessed -/
def IsReceiver (t : Tree) (a : Address) : Prop :=
  ∃ b i u, a = b ++ [i] ∧ t.at? b = some u ∧ u.receiverIndex? = some i

theorem isReceiver_iff : t.isReceiver a = true ↔ IsReceiver t a := by
  cases a using List.reverseRecOn with
  | nil =>
    refine iff_of_false nofun ?_
    rintro ⟨b, i, u, hb, -⟩
    exact absurd hb.symm (List.append_ne_nil_of_right_ne_nil b (List.cons_ne_nil i []))
  | append_singleton b i _ =>
    rw [isReceiver, List.getLast?_concat, List.dropLast_concat]
    show ((t.at? b).bind receiverIndex? == some i) = true ↔ _
    rw [beq_iff_eq, Option.bind_eq_some_iff]
    constructor
    · rintro ⟨u, hu, hi⟩
      exact ⟨b, i, u, rfl, hu, hi⟩
    · rintro ⟨b', i', u, hb, hu, hi⟩
      obtain ⟨rfl, hi'⟩ := List.append_inj' hb rfl
      obtain rfl := List.head_eq_of_cons_eq hi'
      exact ⟨u, hu, hi⟩

/-- a chain of `root` that does not go on -/
structure MaximalChain (root : String) (t : Tree) (a : Address) (c : Chain) : Prop where
  chain : ∃ u, t.at? a = some u ∧ ChainTo root u c
  ne_nil : c ≠ []
  maximal : ¬ IsReceiver t a

/-- what stands at `b` is what the chain at `a` goes on from, in one step or in more -/
inductive ReceiverPart (t : Tree) (a : Address) : Address → Prop
  | direct {u : Tree} {i : Nat} (hu : t.at? a = some u) (hi : u.receiverIndex? = some i) :
      ReceiverPart t a (a ++ [i])
  | further {b : Address} {u : Tree} {i : Nat} (h : ReceiverPart t a b) (hu : t.at? b = some u)
      (hi : u.receiverIndex? = some i) : ReceiverPart t a (b ++ [i])

theorem ReceiverPart.isReceiver (h : ReceiverPart t a b) : IsReceiver t b := by
  cases h with
  | direct hu hi => exact ⟨_, _, _, rfl, hu, hi⟩
  | further _ hu hi => exact ⟨_, _, _, rfl, hu, hi⟩

/-! ### The walk -/

namespace Tree

variable {front ts : List Tree} {T : Tree}

/-- the chain that a tree is, unless it is a bare name -/
def fullChain? (root : String) (t : Tree) : Option Chain :=
  (chainTo? root t).filter fun c => !c.isEmpty

theorem fullChain?_eq_some_iff : fullChain? root t = some c ↔ ChainTo root t c ∧ c ≠ [] := by
  rw [fullChain?, Option.filter_eq_some_iff, chainTo?_eq_some_iff, Bool.not_eq_true',
    List.isEmpty_eq_false_iff]

theorem fullChain?_eq_none (h : receiverLabel? t.kind = none) : fullChain? root t = none := by
  rw [Option.eq_none_iff_forall_ne_some]
  intro c hc
  obtain ⟨hchain, hne⟩ := fullChain?_eq_some_iff.1 hc
  cases hchain with
  | root => exact hne rfl
  | access hk =>
    rw [hk] at h
    cases h
  | call hk =>
    rw [hk] at h
    cases h

theorem fullChain?_of_parts (h : t.parts = []) : fullChain? root t = none := by
  rw [Option.eq_none_iff_forall_ne_some]
  intro c hc
  obtain ⟨hchain, hne⟩ := fullChain?_eq_some_iff.1 hc
  exact hne ((chainTo_of_parts_iff h).1 hchain).2.2

def reportedAt? (root : String) (T : Tree) (s : Spot) : Option Chain :=
  if T.isReceiver s.address then none else fullChain? root s.tree

theorem chainsIn_node (root : String) (isReceiver : Bool) (l : Option Label) (k : Kind)
    (ps : List Tree) : chainsIn root isReceiver (node l k ps) =
      (if isReceiver then none else fullChain? root (node l k ps)).toList ++
        chainsInAll root (receiverLabel? k) ps := by
  rw [chainsIn]
  cases isReceiver with
  | true => rfl
  | false =>
    rw [Bool.false_or, if_neg Bool.false_ne_true]
    cases hk : receiverLabel? k with
    | none =>
      have hnone : fullChain? root (node l k ps) = none := fullChain?_eq_none hk
      rw [hnone]
      rfl
    | some label =>
      rw [fullChain?]
      cases chainTo? root (node l k ps) with
      | none => rfl
      | some c => cases c <;> rfl

/-- the label of the receiver as long as none of the parts in front has it -/
def awaited (u : Tree) (front : List Tree) : Option Label :=
  (receiverLabel? u.kind).filter fun l => !front.any (hasLabel l)

theorem awaited_nil (u : Tree) : awaited u [] = receiverLabel? u.kind := by
  rw [awaited]
  cases receiverLabel? u.kind <;> rfl

/-- the first one behind what is in front -/
theorem findIdx?_eq_length_iff {f : Tree → Bool} {p : Tree} :
    (front ++ p :: ts).findIdx? f = some front.length ↔ front.any f = false ∧ f p = true := by
  rw [List.findIdx?_append, List.findIdx?_cons]
  cases hfront : front.any f with
  | true =>
    have hsome : (front.findIdx? f).isSome := by rwa [List.findIdx?_isSome]
    obtain ⟨k, hk⟩ := Option.isSome_iff_exists.1 hsome
    obtain ⟨hlt, -⟩ := List.findIdx?_eq_some_iff_getElem.1 hk
    rw [hk, Option.some_or, Option.some_inj]
    exact iff_of_false (Nat.ne_of_lt hlt) fun h => Bool.false_ne_true h.1.symm
  | false =>
    have hnone : front.findIdx? f = none := by
      rw [List.findIdx?_eq_none_iff]
      intro q hq
      rw [← Bool.not_eq_true]
      exact List.any_eq_false.1 hfront q hq
    rw [hnone, Option.none_or]
    cases f p with
    | true =>
      rw [if_pos rfl, Option.map_some, Nat.zero_add]
      exact iff_of_true rfl ⟨rfl, rfl⟩
    | false =>
      rw [if_neg Bool.false_ne_true, Option.map_map]
      refine iff_of_false (fun h => ?_) fun h => Bool.false_ne_true h.2
      obtain ⟨k, -, hk⟩ := Option.map_eq_some_iff.1 h
      rw [Function.comp_apply] at hk
      omega

theorem any_awaited {p : Tree} (hparts : u.parts = front ++ p :: ts) :
    (awaited u front).any p.hasLabel = (u.receiverIndex? == some front.length) := by
  rw [awaited, receiverIndex?]
  cases receiverLabel? u.kind with
  | none => rfl
  | some l =>
    rw [Option.bind_some, partIndex?, hparts, Option.filter_some, Bool.eq_iff_iff, beq_iff_eq,
      findIdx?_eq_length_iff]
    cases front.any (hasLabel l) with
    | true => exact iff_of_false Bool.false_ne_true fun h => Bool.false_ne_true h.1.symm
    | false => exact ⟨fun h => ⟨rfl, h⟩, fun h => h.2⟩

theorem awaited_concat (u p : Tree) (front : List Tree) :
    awaited u (front ++ [p]) = if (awaited u front).any p.hasLabel then none else awaited u front := by
  rw [awaited, awaited]
  cases receiverLabel? u.kind with
  | none => rfl
  | some l =>
    rw [Option.filter_some, Option.filter_some, List.any_append, List.any_cons, List.any_nil,
      Bool.or_false]
    cases front.any (hasLabel l) with
    | true => rfl
    | false =>
      show (if (!p.hasLabel l) = true then some l else none) =
        if p.hasLabel l = true then none else some l
      cases p.hasLabel l <;> rfl

mutual
/-- the walk finds the chains that are maximal at their addresses -/
theorem filterMap_spotsFrom {t : Tree} {a : Address} (h : T.at? a = some t) :
    (spotsFrom a t).filterMap (reportedAt? root T) = chainsIn root (T.isReceiver a) t := by
  cases t with
  | leaf l k gap text =>
    have hnone : reportedAt? root T ⟨a, leaf l k gap text⟩ = none := by
      rw [reportedAt?, fullChain?_of_parts rfl, ite_self]
    rw [spotsFrom, List.filterMap_cons_none hnone]
    rfl
  | missing l k =>
    have hnone : reportedAt? root T ⟨a, missing l k⟩ = none := by
      rw [reportedAt?, fullChain?_of_parts rfl, ite_self]
    rw [spotsFrom, List.filterMap_cons_none hnone]
    rfl
  | node l k ps =>
    have hnil : (node l k ps).parts = [] ++ ps := rfl
    have hparts : (spotsFromAll a 0 ps).filterMap (reportedAt? root T) =
        chainsInAll root (awaited (node l k ps) []) ps := filterMap_spotsFromAll h hnil
    rw [awaited_nil] at hparts
    rw [chainsIn_node, spotsFrom]
    show _ = _ ++ chainsInAll root (receiverLabel? (node l k ps).kind) ps
    rw [← hparts]
    cases hreported : reportedAt? root T ⟨a, node l k ps⟩ with
    | none =>
      rw [List.filterMap_cons_none hreported]
      rw [reportedAt?] at hreported
      rw [hreported]
      rfl
    | some c =>
      rw [List.filterMap_cons_some hreported]
      rw [reportedAt?] at hreported
      rw [hreported]
      rfl

theorem filterMap_spotsFromAll {ts front : List Tree} {u : Tree} {a : Address}
    (hu : T.at? a = some u) (hparts : u.parts = front ++ ts) :
    (spotsFromAll a front.length ts).filterMap (reportedAt? root T) =
      chainsInAll root (awaited u front) ts := by
  cases ts with
  | nil => rfl
  | cons p ps =>
    have hp : T.at? (a ++ [front.length]) = some p := at?_concat_length hu hparts
    have hreceiver : T.isReceiver (a ++ [front.length]) = (awaited u front).any p.hasLabel := by
      rw [isReceiver_concat hu, any_awaited hparts]
    have hrest : (spotsFromAll a (front ++ [p]).length ps).filterMap (reportedAt? root T) =
        chainsInAll root (awaited u (front ++ [p])) ps :=
      filterMap_spotsFromAll hu (by rw [hparts, List.append_assoc]; rfl)
    rw [List.length_append, List.length_singleton, awaited_concat] at hrest
    rw [spotsFromAll, List.filterMap_append, filterMap_spotsFrom hp, hreceiver, chainsInAll, hrest]
    cases (awaited u front).any p.hasLabel <;> rfl
end

end Tree

/-! ### All chains -/

/-- a call that ends with its arguments, and these with a closing parenthesis -/
structure IsClosed (u arguments : Tree) : Prop where
  last : u.parts.getLast? = some arguments
  label_eq : arguments.label = some .arguments
  closing : ∃ gap, arguments.tokens.getLast? = some (gap, ")")

/-- the text of a segment runs from the member that is called to the end of the call -/
structure IsCallText (u : Tree) (s : ChainSegment) : Prop where
  from_member : ∃ a member after, u.at? a = some member ∧
    u.tokens = u.tokensBefore a ++ member.tokens ++ after ∧
    s.name = leadingIdentifier member.text ∧ s.text = textOfTokens (member.tokens ++ after)
  to_parenthesis : ∀ arguments, IsClosed u arguments → ∃ x, s.text = x ++ ")"

/-- what is reported of the chains of `root` in a tree -/
structure ChainsReported (root : String) (t : Tree) : Prop where
  /-- the maximal chains at their addresses, and no others; none is the receiver of another one -/
  maximal : ∃ as : List Address, as.Pairwise t.Before ∧
    List.Forall₂ (MaximalChain root t) as (chainsOf root t) ∧
    (∀ a c, MaximalChain root t a c → (a, c) ∈ as.zip (chainsOf root t)) ∧
    ∀ a ∈ as, ∀ b ∈ as, ¬ ReceiverPart t a b
  calls : ∀ u c s, ChainTo root u (c ++ [s]) → u.kind = .invocation → IsCallText u s

namespace Tree

theorem chainsOf_eq (root : String) (t : Tree) :
    chainsOf root t = t.spots.filterMap (reportedAt? root t) := by
  have hself : t.at? [] = some t := rfl
  exact (filterMap_spotsFrom hself).symm

theorem reportedAt?_eq_some_iff {T : Tree} {s : Spot} (hs : T.at? s.address = some s.tree) :
    reportedAt? root T s = some c ↔ MaximalChain root T s.address c := by
  rw [reportedAt?]
  constructor
  · intro h
    split at h
    · cases h
    · next hreceiver =>
      obtain ⟨hchain, hne⟩ := fullChain?_eq_some_iff.1 h
      exact ⟨⟨s.tree, hs, hchain⟩, hne, mt isReceiver_iff.2 hreceiver⟩
  · intro h
    obtain ⟨u, hu, hchain⟩ := h.chain
    obtain rfl := Option.some.inj (hs.symm.trans hu)
    rw [if_neg (mt isReceiver_iff.1 h.maximal)]
    exact fullChain?_eq_some_iff.2 ⟨hchain, h.ne_nil⟩

/-! ### Closing parentheses -/

theorem getLast?_trim {s : String} {d : Char} (hd : isBlank d = false)
    (h : s.toList.getLast? = some d) : (trim s).toList.getLast? = some d := by
  obtain ⟨cs, hcs⟩ := List.getLast?_eq_some_iff.1 h
  have hfront : ∃ cs', s.toList.dropWhile isBlank = cs' ++ [d] := by
    rw [hcs, List.dropWhile_append]
    split
    · refine ⟨[], ?_⟩
      rw [List.dropWhile_cons_of_neg (by rw [hd]; exact Bool.false_ne_true), List.nil_append]
    · exact ⟨_, rfl⟩
  obtain ⟨cs', hcs'⟩ := hfront
  rw [trim, String.toList_ofList, dropAround, hcs', dropEndWhile_concat, hd,
    if_neg Bool.false_ne_true, List.getLast?_concat]

theorem joinTokens_concat (ts : List (String × String)) (gap text : String) :
    joinTokens (ts ++ [(gap, text)]) = joinTokens ts ++ gap ++ text := by
  rw [joinTokens, joinTokens, List.flatMap_append]
  show String.join (_ ++ [gap, text]) = _
  rw [String.join_append]
  simp [String.join, String.append_assoc]

/-- tokens that end with a closing parenthesis have a text that ends with it -/
theorem getLast?_textOfTokens {ts : List (String × String)} {gap : String}
    (h : ts.getLast? = some (gap, ")")) : (textOfTokens ts).toList.getLast? = some ')' := by
  obtain ⟨front, rfl⟩ := List.getLast?_eq_some_iff.1 h
  have hlast : (")" : String).toList.getLast? = some ')' := rfl
  cases front with
  | nil => exact getLast?_trim (by decide) (by rw [String.toList_append, joinTokens]; rfl)
  | cons token front =>
    refine getLast?_trim (by decide) ?_
    show (token.2 ++ joinTokens (front ++ [(gap, ")")])).toList.getLast? = _
    rw [joinTokens_concat, ← String.append_assoc, String.toList_append, List.getLast?_append,
      hlast, Option.some_or]

end Tree

/-- the arguments at the end of a call come after the member that is called -/
theorem getLast?_textFrom {access member arguments : Tree} {i j : Nat}
    (hi : u.partIndex? .function = some i) (haccess : u.parts[i]? = some access)
    (hmember : access.parts[j]? = some member) (h : IsClosed u arguments) :
    (u.textFrom [i, j]).toList.getLast? = some ')' := by
  obtain ⟨front, hfront⟩ := List.getLast?_eq_some_iff.1 h.last
  obtain ⟨gap, hgap⟩ := h.closing
  have hlt : i < front.length := by
    obtain ⟨hlt, hlabel, -⟩ := List.findIdx?_eq_some_iff_getElem.1 hi
    rw [hfront, List.length_append, List.length_singleton] at hlt
    refine Nat.lt_of_le_of_ne (by omega) fun heq => ?_
    have hlast : u.parts[i] = arguments := by
      simp only [hfront, heq, List.getElem_concat_length]
    rw [hlast, hasLabel, h.label_eq] at hlabel
    exact absurd hlabel (by decide)
  rw [textFrom_eq haccess hmember, textOfAll_eq, hfront, List.drop_append_of_le_length hlt,
    ← List.append_assoc, tokensOfAll_append]
  have hlast : (tokensOfAll (access.parts.drop j ++ front.drop (i + 1)) ++
      (arguments.tokens ++ [])).getLast? = some (gap, ")") := by
    rw [List.append_nil, List.getLast?_append, hgap, Option.some_or]
  exact getLast?_textOfTokens hlast

theorem isCallText_of_chainTo {s : ChainSegment} (h : ChainTo root u (c ++ [s]))
    (hk : u.kind = .invocation) : IsCallText u s := by
  obtain ⟨s', _, c', hs, -, -, hc⟩ := (chainTo_call_iff hk).1 h
  obtain ⟨-, hsingle⟩ := List.append_inj' hc rfl
  obtain rfl := List.head_eq_of_cons_eq hsingle
  obtain ⟨i, j, access, member, hi, haccess, -, -, hmember, rfl⟩ := callSegment?_eq_some_iff.1 hs
  constructor
  · have hat : u.at? [i, j] = some member :=
      at?_cons_eq_some_iff.2 ⟨access, haccess, at?_cons_eq_some_iff.2 ⟨member, hmember, rfl⟩⟩
    obtain ⟨after, hafter⟩ := exists_tokens_eq hat
    refine ⟨[i, j], member, after, hat, hafter, rfl, ?_⟩
    show u.textFrom [i, j] = _
    rw [textFrom, hafter, List.append_assoc, List.drop_left]
  · intro arguments hclosed
    obtain ⟨cs, hcs⟩ :=
      List.getLast?_eq_some_iff.1 (getLast?_textFrom hi haccess hmember hclosed)
    refine ⟨String.ofList cs, ?_⟩
    show u.textFrom [i, j] = _
    rw [← String.toList_inj, String.toList_append, String.toList_ofList, hcs]
    rfl

theorem chainsReported (root : String) (t : Tree) : ChainsReported root t where
  maximal := by
    obtain ⟨as, hbefore, hchains, hall⟩ :=
      exists_addresses (List.Sublist.refl t.spots) (reportedAt? root t)
    rw [← chainsOf_eq] at hchains
    have hmaximal : List.Forall₂ (MaximalChain root t) as (chainsOf root t) := by
      refine hchains.imp ?_
      rintro a c ⟨u, hu, hc⟩
      exact (reportedAt?_eq_some_iff (mem_spots_iff.1 hu)).1 hc
    refine ⟨as, hbefore, hmaximal, fun a c h => ?_, fun a _ b hb hpart => ?_⟩
    · -- the tree at an address has one chain, so the partner of the address is this chain
      obtain ⟨u, hu, -⟩ := h.chain
      have hspot : Spot.mk a u ∈ t.spots := mem_spots_iff.2 hu
      have hreported : reportedAt? root t ⟨a, u⟩ = some c :=
        (reportedAt?_eq_some_iff (mem_spots_iff.1 hspot)).2 h
      have ha : a ∈ as := (hall a).2 ⟨u, hspot, by rw [hreported]; rfl⟩
      obtain ⟨c', hzip, u', hu', hc'⟩ := exists_mem_zip hchains ha
      obtain rfl := Option.some.inj (hu.symm.trans (mem_spots_iff.1 hu'))
      obtain rfl := Option.some.inj (hreported.symm.trans hc')
      exact hzip
    · obtain ⟨c, -, hc⟩ := exists_mem_zip hmaximal hb
      exact hc.maximal hpart.isReceiver
  calls _ _ _ := isCallText_of_chainTo

end EndpointScaffold.CSharp
