import EndpointScaffold.Fluent.Rules
import EndpointScaffold.Proofs.CSharp.Addresses

/-!
# Overloads of a method

A class may have several methods of one name, and some of them have no body: they are abstract,
partial or extern. The body that is found under a name is that of the first method of the name that
has one, so a later overload stands in for a first one without a body.

* `IsMethod`, `IsFirst`       the methods of a name in the body of a class, and the first one;
* `BodyFound`, `bodyFound`    whose body is found, and when it is the first one's;
* `overloadsRead`             the overload of `Configure` that a configuration is read from.
-/

namespace EndpointScaffold.CSharp

open CSharp.Tree

variable {c : ClassDeclaration} {body m b : Tree} {name : String} {a : Address}

/-- a method called `name` that is declared directly in the body of a class -/
structure IsMethod (body : Tree) (name : String) (a : Address) (m : Tree) : Prop where
  member : IsMember body a m
  kind_eq : m.kind = .methodDeclaration
  name_eq : m.partText .name = name

structure IsFirst (body : Tree) (name : String) (a : Address) (m : Tree) : Prop where
  method : IsMethod body name a m
  least : ∀ a' m', IsMethod body name a' m' → ¬ a' < a

/-- the block of a method or its expression behind `=>`; none if the method has no body -/
def Tree.ownBody? (m : Tree) : Option Tree := m.parts.find? fun p => p.kind.isMethodBody

/-- what a member has to offer as the body of a method called `name` -/
def Tree.bodyFor? (name : String) (m : Tree) : Option Tree :=
  if m.kind = .methodDeclaration ∧ m.partText .name = name then m.ownBody? else none

theorem bodyFor?_eq_some_iff (hmember : IsMember body a m) :
    m.bodyFor? name = some b ↔ IsMethod body name a m ∧ m.ownBody? = some b := by
  rw [bodyFor?]
  constructor
  · intro h
    split at h
    · next hm => exact ⟨⟨hmember, hm.1, hm.2⟩, h⟩
    · cases h
  · rintro ⟨h, hb⟩
    rw [if_pos ⟨h.kind_eq, h.name_eq⟩, hb]

theorem bodyFor?_eq_none_iff (hmember : IsMember body a m) :
    m.bodyFor? name = none ↔ (IsMethod body name a m → m.ownBody? = none) := by
  rw [bodyFor?]
  constructor
  · intro h hm
    rwa [if_pos ⟨hm.kind_eq, hm.name_eq⟩] at h
  · intro h
    split
    · next hm => exact h ⟨hmember, hm.1, hm.2⟩
    · rfl

/-! ### The search -/

theorem findSome?_filter (name : String) (ms : List Tree) :
    (((ms.filter (hasKind .methodDeclaration)).filter fun m => m.partText .name == name).findSome?
      ownBody?) = ms.findSome? (bodyFor? name) := by
  induction ms with
  | nil => rfl
  | cons m ms ih =>
    rw [List.findSome?_cons, ← ih, bodyFor?]
    by_cases hk : m.kind = .methodDeclaration
    · have hkind : hasKind .methodDeclaration m = true := beq_iff_eq.2 hk
      rw [List.filter_cons_of_pos hkind]
      by_cases hn : m.partText .name = name
      · rw [List.filter_cons_of_pos (by rw [hn, beq_self_eq_true]), List.findSome?_cons,
          if_pos ⟨hk, hn⟩]
      · rw [List.filter_cons_of_neg (by rw [beq_iff_eq]; exact hn), if_neg fun h => hn h.2]
    · have hkind : ¬ hasKind .methodDeclaration m = true := mt beq_iff_eq.1 hk
      rw [List.filter_cons_of_neg hkind, if_neg fun h => hk h.1]

theorem methodBody?_eq (c : ClassDeclaration) (name : String) :
    c.methodBody? name = (membersFrom [] c.body).findSome? fun s => s.tree.bodyFor? name := by
  show ((c.body.members.filter _).filter _).findSome? ownBody? = _
  rw [findSome?_filter, ← map_tree_membersFrom [] c.body, List.findSome?_map]
  rfl

/-- the first find in a list that is sorted by addresses -/
theorem findSome?_eq_some_iff_of_sorted {α : Type} {ss : List Spot} {f : Spot → Option α} {x : α}
    (h : ss.Pairwise fun s s' => s.address < s'.address) : ss.findSome? f = some x ↔
      ∃ s ∈ ss, f s = some x ∧ ∀ s' ∈ ss, s'.address < s.address → f s' = none := by
  constructor
  · intro hfind
    obtain ⟨front, s, back, rfl, hs, hfront⟩ := List.findSome?_eq_some_iff.1 hfind
    refine ⟨s, List.mem_append_right _ List.mem_cons_self, hs, fun s' hs' hlt => ?_⟩
    rw [List.pairwise_append, List.pairwise_cons] at h
    rcases List.mem_append.1 hs' with hs' | hs'
    · exact hfront s' hs'
    · rcases List.mem_cons.1 hs' with rfl | hs'
      · exact absurd hlt (List.lt_irrefl _)
      · exact absurd (h.2.1.1 s' hs') (List.lt_asymm hlt)
  · rintro ⟨s, hs, hx, hnone⟩
    obtain ⟨front, back, rfl⟩ := List.append_of_mem hs
    refine List.findSome?_eq_some_iff.2 ⟨front, s, back, rfl, hx, fun s' hs' => ?_⟩
    rw [List.pairwise_append] at h
    exact hnone s' (List.mem_append_left _ hs') (h.2.2 s' hs' s List.mem_cons_self)

theorem mem_membersFrom_nil_iff {s : Spot} :
    s ∈ membersFrom [] body ↔ IsMember body s.address s.tree := by
  rw [mem_membersFrom_iff]
  constructor
  · rintro ⟨r, hr, h⟩
    rwa [hr]
  · exact fun h => ⟨s.address, rfl, h⟩

theorem pairwise_membersFrom (t : Tree) :
    (membersFrom [] t).Pairwise fun s s' => s.address < s'.address :=
  (pairwise_spotsFrom [] t).sublist (membersFrom_sublist [] t)

/-! ### Whose body is found -/

/-- whose body is found under a name: the first one's that there is -/
structure BodyFound (c : ClassDeclaration) (name : String) : Prop where
  some_iff : ∀ b, c.methodBody? name = some b ↔ ∃ a m, IsMethod c.body name a m ∧
    m.ownBody? = some b ∧ ∀ a' m', IsMethod c.body name a' m' → a' < a → m'.ownBody? = none
  none_iff : c.methodBody? name = none ↔ ∀ a m, IsMethod c.body name a m → m.ownBody? = none
  /-- the body of the first method is found if it has one -/
  first : ∀ a m, IsFirst c.body name a m → m.ownBody?.isSome → c.methodBody? name = m.ownBody?
  /-- if it has none, nothing is found just in case no overload has a body -/
  first_iff : ∀ a m, IsFirst c.body name a m → m.ownBody? = none →
    (c.methodBody? name = none ↔ ∀ a' m', IsMethod c.body name a' m' → a < a' → m'.ownBody? = none)

theorem methodBody?_eq_some_iff : c.methodBody? name = some b ↔ ∃ a m, IsMethod c.body name a m ∧
    m.ownBody? = some b ∧ ∀ a' m', IsMethod c.body name a' m' → a' < a → m'.ownBody? = none := by
  rw [methodBody?_eq, findSome?_eq_some_iff_of_sorted (pairwise_membersFrom c.body)]
  constructor
  · rintro ⟨s, hs, hb, hnone⟩
    obtain ⟨hm, hb⟩ := (bodyFor?_eq_some_iff (mem_membersFrom_nil_iff.1 hs)).1 hb
    refine ⟨s.address, s.tree, hm, hb, fun a' m' hm' hlt => ?_⟩
    have hspot : Spot.mk a' m' ∈ membersFrom [] c.body := mem_membersFrom_nil_iff.2 hm'.member
    exact (bodyFor?_eq_none_iff hm'.member).1 (hnone _ hspot hlt) hm'
  · rintro ⟨a, m, hm, hb, hnone⟩
    refine ⟨⟨a, m⟩, mem_membersFrom_nil_iff.2 hm.member,
      (bodyFor?_eq_some_iff hm.member).2 ⟨hm, hb⟩, fun s hs hlt => ?_⟩
    rw [bodyFor?_eq_none_iff (mem_membersFrom_nil_iff.1 hs)]
    exact fun hm' => hnone _ _ hm' hlt

theorem methodBody?_eq_none_iff :
    c.methodBody? name = none ↔ ∀ a m, IsMethod c.body name a m → m.ownBody? = none := by
  rw [methodBody?_eq, List.findSome?_eq_none_iff]
  constructor
  · intro h a m hm
    have hspot : Spot.mk a m ∈ membersFrom [] c.body := mem_membersFrom_nil_iff.2 hm.member
    exact (bodyFor?_eq_none_iff hm.member).1 (h _ hspot) hm
  · intro h s hs
    rw [bodyFor?_eq_none_iff (mem_membersFrom_nil_iff.1 hs)]
    exact h s.address s.tree

/-- one address holds one method -/
theorem IsMethod.unique {m' : Tree} (h : IsMethod body name a m) (h' : IsMethod body name a m') :
    m = m' :=
  Option.some.inj (h.member.at_eq.symm.trans h'.member.at_eq)

theorem bodyFound (c : ClassDeclaration) (name : String) : BodyFound c name where
  some_iff _ := methodBody?_eq_some_iff
  none_iff := methodBody?_eq_none_iff
  first := by
    intro a m h hsome
    obtain ⟨b, hb⟩ := Option.isSome_iff_exists.1 hsome
    rw [hb, methodBody?_eq_some_iff]
    exact ⟨a, m, h.method, hb, fun a' m' h' hlt => absurd hlt (h.least a' m' h')⟩
  first_iff := by
    intro a m h hnone
    rw [methodBody?_eq_none_iff]
    constructor
    · exact fun hall a' m' h' _ => hall a' m' h'
    · intro hlater a' m' h'
      rcases List.le_iff_lt_or_eq.1 (List.not_lt.1 (h.least a' m' h')) with hlt | rfl
      · exact hlater a' m' h' hlt
      · rw [← h.method.unique h']
        exact hnone

example :
    let method := fun parts =>
      node none .methodDeclaration (leaf (some .name) .identifier " " "F" :: parts)
    let body := node (some .body) .other
      [method [], method [node (some .body) .block [leaf none .mark " " "second"]]]
    ((ClassDeclaration.mk "C" [] [] none body (by decide)).methodBody? "F").map text =
      some "second" := by
  decide

end EndpointScaffold.CSharp

/-!
## Overloads of `Configure`

A configuration is read from the body that is found under the name `Configure`.
-/

namespace EndpointScaffold.Fluent

open CSharp

/-- whose body a configuration is read from -/
structure OverloadsRead (builder source : String) : Prop where
  bodies : ∀ c name, BodyFound c name
  /-- the rules of a configuration are those of the chains in the body that is found -/
  rules : ∀ c entity, (Tree.ofSource source).classes.head? = some c →
    configuredEntity? c.bases = some entity →
    (ofSource builder source).value =
      (c.methodBody? "Configure").map fun b => (entity, rulesOf (chainsOf builder b))
  /-- the first `Configure` is read if it has a body -/
  first : ∀ c entity a m b, (Tree.ofSource source).classes.head? = some c →
    configuredEntity? c.bases = some entity → IsFirst c.body "Configure" a m →
    m.ownBody? = some b →
    (ofSource builder source).value = some (entity, rulesOf (chainsOf builder b))
  /-- if it has none, nothing is read just in case no later one has a body -/
  first_iff : ∀ c entity a m, (Tree.ofSource source).classes.head? = some c →
    configuredEntity? c.bases = some entity → IsFirst c.body "Configure" a m →
    m.ownBody? = none → ((ofSource builder source).value = none ↔
      ∀ a' m', IsMethod c.body "Configure" a' m' → a < a' → m'.ownBody? = none)

theorem value_ofTree {builder : String} {t : Tree} {c : ClassDeclaration} {entity : String}
    (hc : t.classes.head? = some c) (he : configuredEntity? c.bases = some entity) :
    (ofTree builder t).value =
      (c.methodBody? "Configure").map fun b => (entity, rulesOf (chainsOf builder b)) := by
  have hconfigured : (do
      let c ← t.classes.head?
      let entity ← configuredEntity? c.bases
      some (c, entity)) = some (c, entity) := by
    rw [hc]
    show (configuredEntity? c.bases).bind (fun entity => some (c, entity)) = _
    rw [he]
    rfl
  rw [ofTree, hconfigured]
  dsimp only
  cases c.methodBody? "Configure" with
  | none => rfl
  | some b => rfl

theorem overloadsRead (builder source : String) : OverloadsRead builder source where
  bodies := bodyFound
  rules _ _ hc he := value_ofTree hc he
  first := by
    intro c entity a m b hc he h hb
    have hfound := (bodyFound c "Configure").first a m h (by rw [hb]; rfl)
    show (ofTree builder (Tree.ofSource source)).value = _
    rw [value_ofTree hc he, hfound, hb, Option.map_some]
  first_iff := by
    intro c entity a m hc he h hnone
    show (ofTree builder (Tree.ofSource source)).value = none ↔ _
    rw [value_ofTree hc he, Option.map_eq_none_iff]
    exact (bodyFound c "Configure").first_iff a m h hnone

end EndpointScaffold.Fluent
