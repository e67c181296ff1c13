import EndpointScaffold.CSharp.Tree
import Mathlib.Data.List.Basic
import Mathlib.Data.List.Forall2
import Mathlib.Data.List.Infix

/-!
# Addresses in a tree

Equal trees may stand in several places of one tree, so a place is told by its address: which part to
take, again and again, from the outside inwards. In the order of the tree a node comes before its
parts, and these from left to right; it is the order of the source text, too.

* `Tree.at?`                what stands at an address;
* `Tree.tokensBefore`       the tokens in front of an address;
* `Tree.Before`, `before_of_lt`   the order of addresses, and of the text there;
* `Tree.spots`              all addresses in order with what stands there;
* `exists_addresses`        what is picked out of a tree in order stands at addresses in order.
-/

namespace EndpointScaffold.CSharp

/-- which part to take, again and again -/
abbrev Address := List Nat

namespace Tree

variable {t u p : Tree} {ts : List Tree} {a b : Address} {i : Nat} {l : Label}

def at? : Tree → Address → Option Tree
  | t, [] => some t
  | t, i :: a => t.parts[i]?.bind fun p => p.at? a

theorem at?_cons : t.at? (i :: a) = t.parts[i]?.bind (·.at? a) := rfl

theorem at?_cons_eq_some_iff : t.at? (i :: a) = some u ↔
    ∃ p, t.parts[i]? = some p ∧ p.at? a = some u := Option.bind_eq_some_iff

theorem at?_append (t : Tree) (a b : Address) : t.at? (a ++ b) = (t.at? a).bind (·.at? b) := by
  induction a generalizing t with
  | nil => rfl
  | cons i a ih =>
    rw [List.cons_append, at?_cons, at?_cons]
    cases t.parts[i]? with
    | none => rfl
    | some p => exact ih p

theorem at?_concat (h : t.at? a = some u) (i : Nat) : t.at? (a ++ [i]) = u.parts[i]? := by
  rw [at?_append, h, Option.bind_some, at?_cons]
  cases u.parts[i]? <;> rfl

theorem at?_concat_length {front : List Tree} (h : t.at? a = some u)
    (hparts : u.parts = front ++ p :: ts) : t.at? (a ++ [front.length]) = some p := by
  rw [at?_concat h, hparts, List.getElem?_append_right (Nat.le_refl _), Nat.sub_self]
  rfl

/-! ### Labelled parts -/

def partIndex? (l : Label) (t : Tree) : Option Nat := t.parts.findIdx? (hasLabel l)

theorem part?_of_partIndex? (hi : u.partIndex? l = some i) (hp : u.parts[i]? = some p) :
    u.part? l = some p := by
  obtain ⟨hlt, hlabel, hbefore⟩ := List.findIdx?_eq_some_iff_getElem.1 hi
  obtain ⟨_, rfl⟩ := List.getElem?_eq_some_iff.1 hp
  exact List.find?_eq_some_iff_getElem.2 ⟨hlabel, i, hlt, rfl, fun j hj => by
    rw [Bool.not_eq_true', ← Bool.not_eq_true]
    exact hbefore j hj⟩

theorem exists_partIndex?_of_part? (h : u.part? l = some p) :
    ∃ i, u.partIndex? l = some i ∧ u.parts[i]? = some p := by
  obtain ⟨hlabel, i, hlt, rfl, hbefore⟩ := List.find?_eq_some_iff_getElem.1 h
  refine ⟨i, List.findIdx?_eq_some_iff_getElem.2 ⟨hlt, hlabel, fun j hj => ?_⟩,
    List.getElem?_eq_getElem hlt⟩
  rw [Bool.not_eq_true, ← Bool.not_eq_true']
  exact hbefore j hj

/-! ### The text in front of an address -/

def tokensBefore : Tree → Address → List (String × String)
  | _, [] => []
  | t, i :: a =>
    tokensOfAll (t.parts.take i) ++ (t.parts[i]?).elim [] fun p => p.tokensBefore a

theorem tokensBefore_cons (h : t.parts[i]? = some p) :
    t.tokensBefore (i :: a) = tokensOfAll (t.parts.take i) ++ p.tokensBefore a := by
  rw [tokensBefore, h]
  rfl

theorem tokens_of_part (h : t.parts[i]? = some p) : t.tokens = tokensOfAll t.parts := by
  cases t with
  | leaf | missing => cases h
  | node l k ps => rfl

theorem eq_take_append (h : ts[i]? = some p) : ts = ts.take i ++ p :: ts.drop (i + 1) := by
  obtain ⟨hi, hp⟩ := List.getElem?_eq_some_iff.1 h
  rw [← hp, ← List.drop_eq_getElem_cons hi, List.take_append_drop]

/-- the text of a tree is what is in front of an address, what stands there, and what follows -/
theorem exists_tokens_eq (h : t.at? a = some u) :
    ∃ after, t.tokens = t.tokensBefore a ++ u.tokens ++ after := by
  induction a generalizing t with
  | nil =>
    obtain rfl := Option.some.inj h
    exact ⟨[], (List.append_nil _).symm⟩
  | cons i a ih =>
    obtain ⟨p, hp, hu⟩ := at?_cons_eq_some_iff.1 h
    obtain ⟨after, hafter⟩ := ih hu
    refine ⟨after ++ tokensOfAll (t.parts.drop (i + 1)), ?_⟩
    rw [tokens_of_part hp, tokensBefore_cons hp]
    conv_lhs => rw [eq_take_append hp, tokensOfAll_append, tokensOfAll, hafter]
    simp only [List.append_assoc]

/-! ### Order -/

/-- one address comes before another: in the tree, and in the text unless it is around the other -/
structure Before (t : Tree) (a b : Address) : Prop where
  lt : a < b
  text : a <+: b ∨ ∀ u, t.at? a = some u → t.tokensBefore a ++ u.tokens <+: t.tokensBefore b

theorem text_of_lt {v : Tree} (h : a < b) (ha : t.at? a = some u) (hb : t.at? b = some v) :
    a <+: b ∨ t.tokensBefore a ++ u.tokens <+: t.tokensBefore b := by
  induction a generalizing t b with
  | nil => exact .inl List.nil_prefix
  | cons i a ih =>
    cases b with
    | nil => cases h
    | cons j b =>
      obtain ⟨p, hp, hu⟩ := at?_cons_eq_some_iff.1 ha
      obtain ⟨q, hq, hv⟩ := at?_cons_eq_some_iff.1 hb
      rw [tokensBefore_cons hp, tokensBefore_cons hq, List.append_assoc]
      rcases List.cons_lt_cons_iff.1 h with hij | ⟨rfl, hab⟩
      · -- all of the earlier part is in front of the later one
        right
        obtain ⟨after, hafter⟩ := exists_tokens_eq hu
        have htake : t.parts.take j =
            t.parts.take i ++ p :: (t.parts.drop (i + 1)).take (j - i - 1) := by
          conv_lhs => rw [eq_take_append hp]
          obtain ⟨hi, -⟩ := List.getElem?_eq_some_iff.1 hp
          have hlength : (t.parts.take i).length = i := by
            rw [List.length_take]
            omega
          rw [List.take_append, hlength, List.take_take, Nat.min_eq_right (Nat.le_of_lt hij)]
          obtain ⟨k, hk⟩ : ∃ k, j - i = k + 1 := ⟨j - i - 1, by omega⟩
          rw [hk, List.take_succ_cons, Nat.add_sub_cancel]
        rw [htake, tokensOfAll_append, tokensOfAll, hafter]
        refine ⟨after ++ tokensOfAll ((t.parts.drop (i + 1)).take (j - i - 1)) ++
          q.tokensBefore b, ?_⟩
        simp only [List.append_assoc]
      · obtain rfl := Option.some.inj (hp.symm.trans hq)
        refine (ih hab hu hv).imp (fun hprefix => ?_) fun htext => ?_
        · rw [List.cons_prefix_cons]
          exact ⟨rfl, hprefix⟩
        · rw [List.prefix_append_right_inj]
          exact htext

theorem before_of_lt {v : Tree} (h : a < b) (ha : t.at? a = some u) (hb : t.at? b = some v) :
    t.Before a b := by
  refine ⟨h, (text_of_lt h ha hb).imp id fun htext w hw => ?_⟩
  obtain rfl := Option.some.inj (ha.symm.trans hw)
  exact htext

end Tree

/-! ### All addresses -/

/-- an address with what stands there -/
@[ext]
structure Spot where
  address : Address
  tree : Tree

namespace Tree

mutual
/-- a tree that stands at the address `a`, and all trees inside, each node before its parts -/
def spotsFrom (a : Address) : Tree → List Spot
  | node l k ps => ⟨a, node l k ps⟩ :: spotsFromAll a 0 ps
  | leaf l k gap text => [⟨a, leaf l k gap text⟩]
  | missing l k => [⟨a, missing l k⟩]

/-- the same for the parts from number `i` on of what stands at the address -/
def spotsFromAll (a : Address) (i : Nat) : List Tree → List Spot
  | [] => []
  | t :: ts => spotsFrom (a ++ [i]) t ++ spotsFromAll a (i + 1) ts
end

def spots (t : Tree) : List Spot := spotsFrom [] t

variable {t : Tree} {ts : List Tree} {a b : Address} {i : Nat} {s : Spot}

theorem spotsFrom_eq_cons (a : Address) (t : Tree) :
    spotsFrom a t = ⟨a, t⟩ :: spotsFromAll a 0 t.parts := by
  cases t <;> rfl

mutual
theorem mem_spotsFrom_iff {t : Tree} {a : Address} :
    s ∈ spotsFrom a t ↔ ∃ b, s.address = a ++ b ∧ t.at? b = some s.tree := by
  cases t with
  | leaf | missing =>
    rw [spotsFrom, List.mem_singleton]
    constructor
    · rintro rfl
      exact ⟨[], (List.append_nil _).symm, rfl⟩
    · rintro ⟨_ | ⟨i, b⟩, haddress, hu⟩
      · exact Spot.ext (haddress.trans (List.append_nil _)) (Option.some.inj hu).symm
      · cases hu
  | node l k ps =>
    rw [spotsFrom, List.mem_cons, mem_spotsFromAll_iff]
    constructor
    · rintro (rfl | ⟨j, p, b, hp, haddress, hu⟩)
      · exact ⟨[], (List.append_nil _).symm, rfl⟩
      · rw [Nat.zero_add] at haddress
        exact ⟨j :: b, haddress, at?_cons_eq_some_iff.2 ⟨p, hp, hu⟩⟩
    · rintro ⟨_ | ⟨j, b⟩, haddress, hu⟩
      · exact .inl (Spot.ext (haddress.trans (List.append_nil _)) (Option.some.inj hu).symm)
      · obtain ⟨p, hp, hu⟩ := at?_cons_eq_some_iff.1 hu
        exact .inr ⟨j, p, b, hp, by rw [Nat.zero_add]; exact haddress, hu⟩

theorem mem_spotsFromAll_iff {ts : List Tree} {a : Address} {i : Nat} :
    s ∈ spotsFromAll a i ts ↔ ∃ j p b, ts[j]? = some p ∧ s.address = a ++ (i + j) :: b ∧
      p.at? b = some s.tree := by
  cases ts with
  | nil =>
    refine iff_of_false List.not_mem_nil ?_
    rintro ⟨j, p, b, hp, -⟩
    cases hp
  | cons t ts =>
    rw [spotsFromAll, List.mem_append, mem_spotsFrom_iff, mem_spotsFromAll_iff]
    constructor
    · rintro (⟨b, haddress, hu⟩ | ⟨j, p, b, hp, haddress, hu⟩)
      · exact ⟨0, t, b, rfl, by rw [haddress, List.append_assoc]; rfl, hu⟩
      · exact ⟨j + 1, p, b, hp, by rw [haddress, Nat.add_assoc, Nat.add_comm 1 j], hu⟩
    · rintro ⟨_ | j, p, b, hp, haddress, hu⟩
      · obtain rfl := Option.some.inj hp
        exact .inl ⟨b, by rw [haddress, List.append_assoc]; rfl, hu⟩
      · exact .inr ⟨j, p, b, hp, by rw [haddress, Nat.add_assoc, Nat.add_comm 1 j], hu⟩
end

theorem mem_spots_iff : s ∈ t.spots ↔ t.at? s.address = some s.tree := by
  rw [spots, mem_spotsFrom_iff]
  constructor
  · rintro ⟨b, haddress, hu⟩
    rw [haddress]
    exact hu
  · exact fun hu => ⟨s.address, rfl, hu⟩

theorem lt_append_cons (a : Address) (i : Nat) (b : Address) : a < a ++ i :: b := by
  have hlt : a ++ [] < a ++ i :: b := List.append_left_lt (List.nil_lt_cons i b)
  rwa [List.append_nil] at hlt

mutual
theorem pairwise_spotsFrom (a : Address) (t : Tree) :
    (spotsFrom a t).Pairwise fun s s' => s.address < s'.address := by
  cases t with
  | leaf | missing => exact List.pairwise_singleton _ _
  | node l k ps =>
    rw [spotsFrom, List.pairwise_cons]
    refine ⟨fun s hs => ?_, pairwise_spotsFromAll a 0 ps⟩
    obtain ⟨j, p, b, -, haddress, -⟩ := mem_spotsFromAll_iff.1 hs
    rw [haddress]
    exact lt_append_cons a (0 + j) b

theorem pairwise_spotsFromAll (a : Address) (i : Nat) (ts : List Tree) :
    (spotsFromAll a i ts).Pairwise fun s s' => s.address < s'.address := by
  cases ts with
  | nil => exact .nil
  | cons t ts =>
    rw [spotsFromAll, List.pairwise_append]
    refine ⟨pairwise_spotsFrom _ t, pairwise_spotsFromAll a (i + 1) ts, fun s hs s' hs' => ?_⟩
    obtain ⟨b, hb, -⟩ := mem_spotsFrom_iff.1 hs
    obtain ⟨j, p, b', -, hb', -⟩ := mem_spotsFromAll_iff.1 hs'
    rw [hb, hb', List.append_assoc]
    apply List.append_left_lt
    rw [List.singleton_append, List.cons_lt_cons_iff]
    exact .inl (by omega)
end

theorem spotsFrom_sublist_all {p : Tree} (h : ts[i]? = some p) (a : Address) (k : Nat) :
    (spotsFrom (a ++ [k + i]) p).Sublist (spotsFromAll a k ts) := by
  induction ts generalizing i k with
  | nil => cases h
  | cons t ts ih =>
    rw [spotsFromAll]
    cases i with
    | zero =>
      obtain rfl := Option.some.inj h
      exact List.sublist_append_left _ _
    | succ i =>
      rw [Nat.add_comm i 1, ← Nat.add_assoc]
      exact (ih h (k + 1)).trans (List.sublist_append_right _ _)

/-- what is inside of what stands at an address -/
theorem spotsFrom_sublist {u : Tree} (h : t.at? b = some u) (a : Address) :
    (spotsFrom (a ++ b) u).Sublist (spotsFrom a t) := by
  induction b generalizing t a with
  | nil =>
    obtain rfl := Option.some.inj h
    rw [List.append_nil]
  | cons i b ih =>
    obtain ⟨p, hp, hu⟩ := at?_cons_eq_some_iff.1 h
    have hpart := spotsFrom_sublist_all hp a 0
    rw [Nat.zero_add] at hpart
    have hrest := ih hu (a ++ [i])
    rw [List.append_assoc, List.singleton_append] at hrest
    rw [spotsFrom_eq_cons a t]
    exact (hrest.trans hpart).cons _

/-- each item of a list has a partner in a related one -/
theorem exists_mem_zip {α β : Type} {R : α → β → Prop} {xs : List α} {ys : List β} {x : α}
    (h : List.Forall₂ R xs ys) (hx : x ∈ xs) : ∃ y, (x, y) ∈ xs.zip ys ∧ R x y := by
  induction h with
  | nil => exact absurd hx List.not_mem_nil
  | cons hxy _ ih =>
    rcases List.mem_cons.1 hx with rfl | hx
    · exact ⟨_, List.mem_cons_self, hxy⟩
    · obtain ⟨y, hy, hR⟩ := ih hx
      exact ⟨y, List.mem_cons_of_mem _ hy, hR⟩

/-- what is picked out of some of the addresses in order -/
theorem exists_addresses {α : Type} {ss : List Spot} (h : ss.Sublist t.spots)
    (pick : Spot → Option α) : ∃ as : List Address, as.Pairwise t.Before ∧
      List.Forall₂ (fun a x => ∃ u, Spot.mk a u ∈ ss ∧ pick ⟨a, u⟩ = some x) as (ss.filterMap pick) ∧
      ∀ a, a ∈ as ↔ ∃ u, Spot.mk a u ∈ ss ∧ (pick ⟨a, u⟩).isSome := by
  refine ⟨(ss.filter fun s => (pick s).isSome).map Spot.address, ?_, ?_, fun a => ?_⟩
  · rw [List.pairwise_map]
    have hsub := (List.filter_sublist (p := fun s => (pick s).isSome)).trans h
    refine ((pairwise_spotsFrom [] t).sublist hsub).imp_of_mem fun hs hs' hlt => ?_
    exact before_of_lt hlt (mem_spots_iff.1 (hsub.subset hs)) (mem_spots_iff.1 (hsub.subset hs'))
  · rw [List.forall₂_map_left_iff]
    clear h
    induction ss with
    | nil => exact .nil
    | cons s ss ih =>
      have hrest : List.Forall₂ (fun (s' : Spot) x => ∃ u, Spot.mk s'.address u ∈ s :: ss ∧
          pick ⟨s'.address, u⟩ = some x) (ss.filter fun s => (pick s).isSome) (ss.filterMap pick) :=
        ih.imp fun s' x ⟨u, hu, hx⟩ => ⟨u, List.mem_cons_of_mem s hu, hx⟩
      cases hs : pick s with
      | none =>
        rw [List.filterMap_cons_none hs, List.filter_cons_of_neg (by rw [hs]; exact nofun)]
        exact hrest
      | some x =>
        rw [List.filterMap_cons_some hs, List.filter_cons_of_pos (by rw [hs]; rfl)]
        exact .cons ⟨s.tree, List.mem_cons_self, hs⟩ hrest
  · rw [List.mem_map]
    constructor
    · rintro ⟨s, hs, rfl⟩
      exact ⟨s.tree, List.mem_filter.1 hs⟩
    · rintro ⟨u, hu⟩
      exact ⟨⟨a, u⟩, List.mem_filter.2 hu, rfl⟩

end Tree

end EndpointScaffold.CSharp

/-!
## Members of a node

A member of a node is a part of it, or stands in a part with nothing but damage around it. Reading
the parts of a node and looking through damage finds its members, each once and in order.

* `Tree.Shows`, `Tree.IsMember`   where the members of a node stand;
* `Tree.membersFrom`, `mem_membersFrom_iff`   the members with their addresses;
* `membersFrom_sublist`           they are in the order of the tree.
-/

namespace EndpointScaffold.CSharp.Tree

variable {t u p : Tree} {ts : List Tree} {a c r : Address} {i : Nat} {s : Spot}

/-- the tree shows `u` at `c`: there is nothing but damage around it -/
structure Shows (t : Tree) (c : Address) (u : Tree) : Prop where
  at_eq : t.at? c = some u
  undamaged : u.kind ≠ .damage
  around : ∀ x y v, c = x ++ y → y ≠ [] → t.at? x = some v → v.kind = .damage

theorem shows_nil_iff : Shows t [] u ↔ t = u ∧ t.kind ≠ .damage := by
  constructor
  · intro h
    obtain rfl := Option.some.inj h.at_eq
    exact ⟨rfl, h.undamaged⟩
  · rintro ⟨rfl, hk⟩
    refine ⟨rfl, hk, fun x y v hxy hy _ => ?_⟩
    exact absurd (List.append_eq_nil_iff.1 hxy.symm).2 hy

theorem shows_cons_iff : Shows t (i :: c) u ↔
    t.kind = .damage ∧ ∃ p, t.parts[i]? = some p ∧ Shows p c u := by
  constructor
  · intro h
    obtain ⟨p, hp, hu⟩ := at?_cons_eq_some_iff.1 h.at_eq
    refine ⟨h.around [] (i :: c) t rfl (List.cons_ne_nil i c) rfl, p, hp, hu, h.undamaged, ?_⟩
    intro x y v hxy hy hv
    refine h.around (i :: x) y v ?_ hy (at?_cons_eq_some_iff.2 ⟨p, hp, hv⟩)
    rw [hxy, List.cons_append]
  · rintro ⟨hk, p, hp, h⟩
    refine ⟨at?_cons_eq_some_iff.2 ⟨p, hp, h.at_eq⟩, h.undamaged, fun x y v hxy hy hv => ?_⟩
    cases x with
    | nil =>
      obtain rfl := Option.some.inj hv
      exact hk
    | cons j x =>
      obtain ⟨rfl, hc⟩ := List.cons_eq_cons.1 hxy
      obtain ⟨q, hq, hv⟩ := at?_cons_eq_some_iff.1 hv
      obtain rfl := Option.some.inj (hp.symm.trans hq)
      exact h.around x y v hc hy hv

/-- a member of a node: what one of its parts shows -/
def IsMember (t : Tree) (r : Address) (u : Tree) : Prop :=
  ∃ i c p, r = i :: c ∧ t.parts[i]? = some p ∧ Shows p c u

theorem IsMember.at_eq (h : IsMember t r u) : t.at? r = some u := by
  obtain ⟨i, c, p, rfl, hp, hu⟩ := h
  exact at?_cons_eq_some_iff.2 ⟨p, hp, hu.at_eq⟩

/-- between a node and its member there is only damage -/
theorem IsMember.between (h : IsMember t r u) {x y : Address} {v : Tree} (hxy : r = x ++ y)
    (hx : x ≠ []) (hy : y ≠ []) (hv : t.at? x = some v) : v.kind = .damage := by
  obtain ⟨i, c, p, rfl, hp, hu⟩ := h
  obtain ⟨j, x, rfl⟩ := List.exists_cons_of_ne_nil hx
  obtain ⟨rfl, hc⟩ := List.cons_eq_cons.1 hxy
  obtain ⟨q, hq, hv⟩ := at?_cons_eq_some_iff.1 hv
  obtain rfl := Option.some.inj (hp.symm.trans hq)
  exact hu.around x y v hc hy hv

/-! ### All members -/

mutual
/-- what a tree shows, given the address that it stands at -/
def undamagedFrom (a : Address) : Tree → List Spot
  | node l k ps => if k = .damage then undamagedFromAll a 0 ps else [⟨a, node l k ps⟩]
  | missing l k => if k = .damage then [] else [⟨a, missing l k⟩]
  | leaf l k gap text => if k = .damage then [] else [⟨a, leaf l k gap text⟩]

def undamagedFromAll (a : Address) (i : Nat) : List Tree → List Spot
  | [] => []
  | t :: ts => undamagedFrom (a ++ [i]) t ++ undamagedFromAll a (i + 1) ts
end

/-- the members of a node with their addresses, given the address of the node -/
def membersFrom (a : Address) (t : Tree) : List Spot := undamagedFromAll a 0 t.parts

mutual
theorem map_tree_undamagedFrom (a : Address) (t : Tree) :
    (undamagedFrom a t).map Spot.tree = undamaged t := by
  cases t with
  | leaf | missing =>
    rw [undamagedFrom, undamaged, apply_ite (List.map Spot.tree)]
    rfl
  | node l k ps =>
    rw [undamagedFrom, undamaged, apply_ite (List.map Spot.tree), map_tree_undamagedFromAll a 0 ps]
    rfl

theorem map_tree_undamagedFromAll (a : Address) (i : Nat) (ts : List Tree) :
    (undamagedFromAll a i ts).map Spot.tree = undamagedAll ts := by
  cases ts with
  | nil => rfl
  | cons t ts =>
    rw [undamagedFromAll, undamagedAll, List.map_append, map_tree_undamagedFrom (a ++ [i]) t,
      map_tree_undamagedFromAll a (i + 1) ts]
end

theorem map_tree_membersFrom (a : Address) (t : Tree) :
    (membersFrom a t).map Spot.tree = t.members := map_tree_undamagedFromAll a 0 t.parts

mutual
theorem undamagedFrom_sublist (a : Address) (t : Tree) :
    (undamagedFrom a t).Sublist (spotsFrom a t) := by
  cases t with
  | leaf | missing =>
    rw [undamagedFrom, spotsFrom]
    split
    · exact List.nil_sublist _
    · exact List.Sublist.refl _
  | node l k ps =>
    rw [undamagedFrom, spotsFrom]
    split
    · exact (undamagedFromAll_sublist a 0 ps).cons _
    · exact (List.nil_sublist _).cons_cons _

theorem undamagedFromAll_sublist (a : Address) (i : Nat) (ts : List Tree) :
    (undamagedFromAll a i ts).Sublist (spotsFromAll a i ts) := by
  cases ts with
  | nil => exact List.Sublist.refl _
  | cons t ts =>
    rw [undamagedFromAll, spotsFromAll]
    exact (undamagedFrom_sublist (a ++ [i]) t).append (undamagedFromAll_sublist a (i + 1) ts)
end

theorem membersFrom_sublist (a : Address) (t : Tree) :
    (membersFrom a t).Sublist (spotsFrom a t) := by
  rw [spotsFrom_eq_cons]
  exact (undamagedFromAll_sublist a 0 t.parts).cons _

theorem undamagedFrom_of_damage (a : Address) (hk : t.kind = .damage) :
    undamagedFrom a t = undamagedFromAll a 0 t.parts := by
  cases t <;> exact if_pos hk

theorem undamagedFrom_of_ne (a : Address) (hk : t.kind ≠ .damage) :
    undamagedFrom a t = [⟨a, t⟩] := by
  cases t <;> exact if_neg hk

/-- damage shows what its parts show -/
theorem exists_shows_iff (hk : t.kind = .damage) :
    (∃ c, s.address = a ++ c ∧ Shows t c s.tree) ↔
      ∃ j p c, t.parts[j]? = some p ∧ s.address = a ++ (0 + j) :: c ∧ Shows p c s.tree := by
  constructor
  · rintro ⟨_ | ⟨j, c⟩, haddress, h⟩
    · exact absurd hk (shows_nil_iff.1 h).2
    · obtain ⟨-, p, hp, h⟩ := shows_cons_iff.1 h
      exact ⟨j, p, c, hp, by rw [Nat.zero_add]; exact haddress, h⟩
  · rintro ⟨j, p, c, hp, haddress, h⟩
    rw [Nat.zero_add] at haddress
    exact ⟨j :: c, haddress, shows_cons_iff.2 ⟨hk, p, hp, h⟩⟩

mutual
theorem mem_undamagedFrom_iff {t : Tree} {a : Address} :
    s ∈ undamagedFrom a t ↔ ∃ c, s.address = a ++ c ∧ Shows t c s.tree := by
  by_cases hk : t.kind = .damage
  · rw [undamagedFrom_of_damage a hk, exists_shows_iff hk]
    cases t with
    | leaf | missing =>
      refine iff_of_false List.not_mem_nil ?_
      rintro ⟨j, p, c, hp, -⟩
      cases hp
    | node l k ps => exact mem_undamagedFromAll_iff
  · rw [undamagedFrom_of_ne a hk, List.mem_singleton]
    constructor
    · rintro rfl
      exact ⟨[], (List.append_nil a).symm, shows_nil_iff.2 ⟨rfl, hk⟩⟩
    · rintro ⟨_ | ⟨j, c⟩, haddress, h⟩
      · rw [List.append_nil] at haddress
        exact Spot.ext haddress (shows_nil_iff.1 h).1.symm
      · exact absurd (shows_cons_iff.1 h).1 hk

theorem mem_undamagedFromAll_iff {ts : List Tree} {a : Address} {i : Nat} :
    s ∈ undamagedFromAll a i ts ↔
      ∃ j p c, ts[j]? = some p ∧ s.address = a ++ (i + j) :: c ∧ Shows p c s.tree := by
  cases ts with
  | nil =>
    refine iff_of_false List.not_mem_nil ?_
    rintro ⟨j, p, c, hp, -⟩
    cases hp
  | cons t ts =>
    rw [undamagedFromAll, List.mem_append, mem_undamagedFrom_iff, mem_undamagedFromAll_iff]
    constructor
    · rintro (⟨c, haddress, h⟩ | ⟨j, p, c, hp, haddress, h⟩)
      · exact ⟨0, t, c, rfl, by rw [haddress, List.append_assoc]; rfl, h⟩
      · exact ⟨j + 1, p, c, hp, by rw [haddress, Nat.add_assoc, Nat.add_comm 1 j], h⟩
    · rintro ⟨_ | j, p, c, hp, haddress, h⟩
      · obtain rfl := Option.some.inj hp
        exact .inl ⟨c, by rw [haddress, List.append_assoc]; rfl, h⟩
      · exact .inr ⟨j, p, c, hp, by rw [haddress, Nat.add_assoc, Nat.add_comm 1 j], h⟩
end

theorem mem_membersFrom_iff :
    s ∈ membersFrom a t ↔ ∃ r, s.address = a ++ r ∧ IsMember t r s.tree := by
  rw [membersFrom, mem_undamagedFromAll_iff]
  constructor
  · rintro ⟨j, p, c, hp, haddress, h⟩
    rw [Nat.zero_add] at haddress
    exact ⟨j :: c, haddress, j, c, p, rfl, hp, h⟩
  · rintro ⟨r, haddress, j, c, p, rfl, hp, h⟩
    exact ⟨j, p, c, hp, by rw [Nat.zero_add]; exact haddress, h⟩

end EndpointScaffold.CSharp.Tree
