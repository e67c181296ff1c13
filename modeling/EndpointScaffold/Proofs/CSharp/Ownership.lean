import EndpointScaffold.CSharp.Reading
import EndpointScaffold.Proofs.CSharp.Addresses
import EndpointScaffold.Proofs.CSharp.Namespaces
import EndpointScaffold.Proofs.Plain.ClassNames
import Mathlib.Data.List.Nodup

/-!
# The class of a property

Classes stand in each other to any depth, and members are looked for through damage. Still a property
belongs to one class only, the innermost one that has it in its body: between this body and the
property there is only damage, which is neither a class nor the body of one.

* `isUnlabelled_ofSource`   damage has no label;
* `Declares`, `IsIn`        which properties a class declares, and what is in its body;
* `prefix_of_declares`      the class that declares a property is the innermost one around it;
* `propertiesOwned`         the properties that are read of each class, all of them and each once.
-/

namespace EndpointScaffold.CSharp

open Grammar Parsing CSharp.Tree

variable {t u v : Tree} {a d q : Address} {source : String}

/-! ### Damage has no label -/

/-- damage in a tree is not labelled as a part of anything -/
def Tree.IsUnlabelled (t : Tree) : Prop :=
  ∀ a u, t.at? a = some u → u.kind = .damage → u.label = none

theorem isUnlabelled_of_parts (hself : t.kind = .damage → t.label = none)
    (hparts : ∀ p ∈ t.parts, p.IsUnlabelled) : t.IsUnlabelled := by
  intro a u hu hk
  cases a with
  | nil =>
    obtain rfl := Option.some.inj hu
    exact hself hk
  | cons i a =>
    obtain ⟨p, hp, hu⟩ := at?_cons_eq_some_iff.1 hu
    exact hparts p (List.mem_of_getElem? hp) a u hu hk

namespace Dialect

variable {s : Source}

mutual
theorem isUnlabelled_of_mem_trees (dialect : Dialect) (f : Fragment Interpolation)
    (shown : Option (String × Bool)) (label : Option String) :
    ∀ t ∈ dialect.trees s shown label f, t.IsUnlabelled := by
  obtain ⟨facts, ps⟩ := f
  intro t ht
  cases ps with
  | nil =>
    rw [Dialect.trees] at ht
    split at ht
    all_goals
      rw [List.mem_singleton.1 ht]
      exact isUnlabelled_of_parts (fun hk => if_pos hk) fun p hp => absurd hp List.not_mem_nil
  | cons p ps =>
    rw [Dialect.trees] at ht
    split at ht
    · exact isUnlabelled_of_mem_allTrees dialect (p :: ps) _ _ t ht
    · rw [List.mem_singleton.1 ht]
      exact isUnlabelled_of_parts (fun hk => if_pos hk)
        (isUnlabelled_of_mem_allTrees dialect (p :: ps) _ _)

theorem isUnlabelled_of_mem_allTrees (dialect : Dialect) (fs : List (Fragment Interpolation))
    (label : Option String) (steps : List (Option (String × Bool) × Option String)) :
    ∀ t ∈ dialect.allTrees s label steps fs, t.IsUnlabelled := by
  intro t ht
  cases fs with
  | nil => exact absurd ht List.not_mem_nil
  | cons f fs =>
    rw [Dialect.allTrees] at ht
    split at ht
    · rcases List.mem_append.1 ht with ht | ht
      · exact isUnlabelled_of_mem_trees dialect f _ _ t ht
      · exact isUnlabelled_of_mem_allTrees dialect fs _ _ t ht
    · rcases List.mem_append.1 ht with ht | ht
      · exact isUnlabelled_of_mem_trees dialect f _ _ t ht
      · exact isUnlabelled_of_mem_allTrees dialect fs _ _ t ht
end

end Dialect

theorem Dialect.isUnlabelled_tree (dialect : Dialect) (source : String) :
    (dialect.tree source).IsUnlabelled := by
  have hleaf : (leaf none .damage "" source).IsUnlabelled :=
    isUnlabelled_of_parts (fun _ => rfl) fun p hp => absurd hp List.not_mem_nil
  unfold Dialect.tree
  dsimp only
  split
  · next t hparsed =>
    split
    · obtain ⟨f, -, htrees⟩ := Option.map_eq_some_iff.1 hparsed
      have ht : t ∈ dialect.trees (Source.ofString source) none none f := by
        rw [htrees]
        exact List.mem_singleton_self t
      exact dialect.isUnlabelled_of_mem_trees f none none t ht
    · exact hleaf
  · exact hleaf

theorem Plain.Named.of_at? (h : Plain.Named t) (hu : t.at? a = some u) : Plain.Named u := by
  induction a generalizing t with
  | nil =>
    obtain rfl := Option.some.inj hu
    exact h
  | cons i a ih =>
    obtain ⟨p, hp, hu⟩ := at?_cons_eq_some_iff.1 hu
    exact ih (h.of_mem_parts (List.mem_of_getElem? hp)) hu

theorem isUnlabelled_ofSource (source : String) : (Tree.ofSource source).IsUnlabelled := by
  rw [Tree.ofSource]
  cases hplain : Plain.tree? source with
  | some t =>
    intro a u hu hk
    exact absurd hk ((Plain.named_of_tree? hplain).of_at? hu).kind_ne
  | none => exact dialect.get.isUnlabelled_tree source

/-! ### Bodies -/

/-- the part number `k` of a class declaration is its body -/
structure HasBody (t : Tree) (a : Address) (k : Nat) (body : Tree) : Prop where
  class_at : ∃ u, t.at? a = some u ∧ u.kind = .classDeclaration ∧ u.partIndex? .body = some k
  body_at : t.at? (a ++ [k]) = some body

/-- what stands at `q` is in the body of the class declaration at `a` -/
def IsIn (t : Tree) (a q : Address) : Prop :=
  ∃ k body r, HasBody t a k body ∧ r ≠ [] ∧ q = a ++ k :: r

/-- a property with a type and a name -/
structure IsProperty (v : Tree) : Prop where
  kind_eq : v.kind = .propertyDeclaration
  has_type : (v.part? .type).isSome
  has_name : (v.part? .name).isSome

/-- the property at `q` is declared directly in the class declaration at `a`: between the body of
the class and the property there is only damage -/
def Declares (t : Tree) (a q : Address) : Prop :=
  ∃ k body r v, HasBody t a k body ∧ IsMember body r v ∧ IsProperty v ∧ q = a ++ k :: r

theorem HasBody.label_eq {k : Nat} {body : Tree} (h : HasBody t a k body) :
    body.label = some .body := by
  obtain ⟨u, hu, -, hk⟩ := h.class_at
  obtain ⟨hlt, hlabel, -⟩ := List.findIdx?_eq_some_iff_getElem.1 hk
  have hbody := h.body_at
  rw [at?_concat hu, List.getElem?_eq_getElem hlt] at hbody
  rw [← Option.some.inj hbody]
  exact beq_iff_eq.1 hlabel

theorem HasBody.unique {k k' : Nat} {body body' : Tree} (h : HasBody t a k body)
    (h' : HasBody t a k' body') : k = k' ∧ body = body' := by
  obtain ⟨u, hu, -, hk⟩ := h.class_at
  obtain ⟨u', hu', -, hk'⟩ := h'.class_at
  obtain rfl := Option.some.inj (hu.symm.trans hu')
  obtain rfl := Option.some.inj (hk.symm.trans hk')
  exact ⟨rfl, Option.some.inj (h.body_at.symm.trans h'.body_at)⟩

theorem Declares.isIn (h : Declares t a q) : IsIn t a q := by
  obtain ⟨k, body, r, v, hbody, ⟨i, c, p, rfl, -⟩, -, rfl⟩ := h
  exact ⟨k, body, i :: c, hbody, List.cons_ne_nil i c, rfl⟩

/-- a class between the body and the property would be damage, or its body would be -/
theorem prefix_of_declares (ht : t.IsUnlabelled) (h : Declares t a q) (hd : IsIn t d q) :
    d <+: a := by
  obtain ⟨k, body, r, v, hbody, hmember, -, rfl⟩ := h
  obtain ⟨j, inner, s, hinner, hs, hq⟩ := hd
  rcases List.prefix_or_prefix_of_prefix (List.prefix_append a (k :: r)) ⟨j :: s, hq.symm⟩ with
    ⟨z, rfl⟩ | hprefix
  · cases z with
    | nil =>
      rw [List.append_nil]
    | cons k' z =>
      exfalso
      rw [List.append_assoc, List.append_cancel_left_eq, List.cons_append] at hq
      obtain ⟨rfl, rfl⟩ := List.cons_eq_cons.1 hq
      have hat : ∀ x u, t.at? (a ++ k :: x) = some u → body.at? x = some u := by
        intro x u hu
        rw [← List.singleton_append, ← List.append_assoc, at?_append, hbody.body_at] at hu
        exact hu
      cases z with
      | nil =>
        -- the body of the class is a class, whose own body would be damage
        have hinner_at : body.at? [j] = some inner := by
          refine hat [j] inner ?_
          have hbody_at := hinner.body_at
          rwa [List.append_assoc] at hbody_at
        have hsplit : [] ++ j :: s = [j] ++ s := rfl
        have hk := hmember.between hsplit (List.cons_ne_nil j []) hs hinner_at
        have hlabel := ht _ _ hinner.body_at hk
        rw [hinner.label_eq] at hlabel
        cases hlabel
      | cons i z =>
        obtain ⟨u, hu, hclass, -⟩ := hinner.class_at
        have hk := hmember.between rfl (List.cons_ne_nil i z) (List.cons_ne_nil j s)
          (hat (i :: z) u hu)
        rw [hclass] at hk
        cases hk
  · exact hprefix

theorem eq_of_declares {a' : Address} (ht : t.IsUnlabelled) (h : Declares t a q)
    (h' : Declares t a' q) : a = a' := by
  have hprefix := prefix_of_declares ht h' h.isIn
  exact hprefix.eq_of_length_le (prefix_of_declares ht h h'.isIn).length_le

/-! ### Addresses of classes -/

namespace Tree

/-- the nodes around an address, the innermost first -/
def around : Tree → Address → List Tree
  | _, [] => []
  | t, i :: a => ((t.parts[i]?).elim [] fun p => p.around a) ++ [t]

theorem around_concat (h : t.at? a = some u) (i : Nat) : t.around (a ++ [i]) = u :: t.around a := by
  induction a generalizing t with
  | nil =>
    obtain rfl := Option.some.inj h
    show ((t.parts[i]?).elim [] fun p => p.around []) ++ [t] = [t]
    cases t.parts[i]? <;> rfl
  | cons j a ih =>
    obtain ⟨p, hp, hu⟩ := at?_cons_eq_some_iff.1 h
    rw [List.cons_append, around, around, hp]
    show p.around (a ++ [i]) ++ [t] = u :: (p.around a ++ [t])
    rw [ih hu, List.cons_append]

def placeOf (t : Tree) (s : Spot) : Place := ⟨t.around s.address, s.tree⟩

mutual
theorem map_placeOf_spotsFrom {T t : Tree} {a : Address} (h : T.at? a = some t) :
    (spotsFrom a t).map T.placeOf = placesFrom (T.around a) t := by
  cases t with
  | leaf | missing => rfl
  | node l k ps =>
    have hnil : (node l k ps).parts = [] ++ ps := rfl
    have hparts : (spotsFromAll a 0 ps).map T.placeOf = placesFromAll (node l k ps :: T.around a) ps :=
      map_placeOf_spotsFromAll h hnil
    rw [spotsFrom, placesFrom, List.map_cons, hparts]
    rfl

theorem map_placeOf_spotsFromAll {T u : Tree} {a : Address} {front ts : List Tree}
    (hu : T.at? a = some u) (hparts : u.parts = front ++ ts) :
    (spotsFromAll a front.length ts).map T.placeOf = placesFromAll (u :: T.around a) ts := by
  cases ts with
  | nil => rfl
  | cons p ps =>
    have hp : T.at? (a ++ [front.length]) = some p := at?_concat_length hu hparts
    have hrest : (spotsFromAll a (front ++ [p]).length ps).map T.placeOf =
        placesFromAll (u :: T.around a) ps :=
      map_placeOf_spotsFromAll hu (by rw [hparts, List.append_assoc]; rfl)
    rw [List.length_append, List.length_singleton] at hrest
    rw [spotsFromAll, placesFromAll, List.map_append, map_placeOf_spotsFrom hp,
      around_concat hu, hrest]
end

/-- the classes with the addresses of their declarations -/
theorem classes_eq_filterMap_spots (t : Tree) : t.classes = t.spots.filterMap fun s =>
    s.tree.class? (innermost? t.fileNamespaces.head? (t.around s.address)) := by
  have hself : t.at? [] = some t := rfl
  have hplaces : t.places = t.spots.map t.placeOf := (map_placeOf_spotsFrom hself).symm
  rw [classes_eq, hplaces, List.filterMap_map]
  rfl

end Tree

/-- a class declaration with a name and a body -/
structure IsClass (t : Tree) (a : Address) (u : Tree) : Prop where
  at_eq : t.at? a = some u
  kind_eq : u.kind = .classDeclaration
  named : u.partText .name ≠ ""
  has_body : (u.part? .body).isSome

theorem isSome_class?_iff {space : Option String} : (u.class? space).isSome ↔
    u.kind = .classDeclaration ∧ u.partText .name ≠ "" ∧ (u.part? .body).isSome := by
  by_cases hk : u.kind = .classDeclaration
  · have hkind : ¬ (u.kind != .classDeclaration) = true := fun h => bne_iff_ne.1 h hk
    rw [class?, if_neg hkind]
    by_cases hempty : (u.partText .name).isEmpty = true
    · rw [dif_pos hempty]
      exact iff_of_false Bool.false_ne_true fun h => h.2.1 (String.isEmpty_iff.1 hempty)
    · rw [dif_neg hempty, Option.isSome_map]
      exact ⟨fun h => ⟨hk, mt String.isEmpty_iff.2 hempty, h⟩, fun h => h.2.2⟩
  · rw [class?_of_ne hk]
    exact iff_of_false Bool.false_ne_true fun h => hk h.1

theorem part?_of_class? {space : Option String} {c : ClassDeclaration}
    (h : u.class? space = some c) : u.part? .body = some c.body := by
  rw [class?] at h
  split at h
  · cases h
  · split at h
    · cases h
    · obtain ⟨body, hbody, rfl⟩ := Option.map_eq_some_iff.1 h
      exact hbody

theorem isSome_property?_iff : v.property?.isSome ↔ IsProperty v := by
  rw [property?]
  split
  · next hk =>
    exact iff_of_false Bool.false_ne_true fun h => absurd h.kind_eq (bne_iff_ne.1 hk)
  · next hk =>
    rw [bne_iff_ne, ne_eq, Decidable.not_not] at hk
    split
    · next htype hname => exact iff_of_true rfl ⟨hk, by rw [htype]; rfl, by rw [hname]; rfl⟩
    · next hnone =>
      refine iff_of_false Bool.false_ne_true fun h => ?_
      obtain ⟨type, htype⟩ := Option.isSome_iff_exists.1 h.has_type
      obtain ⟨name, hname⟩ := Option.isSome_iff_exists.1 h.has_name
      exact hnone type name htype hname

/-! ### The properties of a class -/

def ClassAt (t : Tree) (a : Address) (c : ClassDeclaration) : Prop :=
  ∃ u space, t.at? a = some u ∧ u.class? space = some c

def PropertyAt (t : Tree) (q : Address) (p : PropertyDeclaration) : Prop :=
  ∃ v, t.at? q = some v ∧ v.property? = some p

/-- the class is declared at `a`, and its properties at the addresses `qs`, in the order of the
tree; these are all properties that the declaration declares -/
structure Owns (t : Tree) (a : Address) (qs : List Address) (c : ClassDeclaration) : Prop where
  class_at : ClassAt t a c
  properties_at : List.Forall₂ (PropertyAt t) qs c.properties
  in_order : qs.Pairwise t.Before
  mem_iff : ∀ q, q ∈ qs ↔ Declares t a q

theorem exists_owns {c : ClassDeclaration} (h : ClassAt t a c) : ∃ qs, Owns t a qs c := by
  obtain ⟨u, space, hu, hclass⟩ := h
  obtain ⟨hk, -, -⟩ := isSome_class?_iff.1 (Option.isSome_of_eq_some hclass)
  obtain ⟨k, hindex, hpart⟩ := exists_partIndex?_of_part? (part?_of_class? hclass)
  have hbody : HasBody t a k c.body := ⟨⟨u, hu, hk, hindex⟩, by rw [at?_concat hu, hpart]⟩
  have hsub : (membersFrom (a ++ [k]) c.body).Sublist t.spots :=
    (membersFrom_sublist _ _).trans (spotsFrom_sublist hbody.body_at [])
  obtain ⟨qs, hbefore, hproperties, hall⟩ := exists_addresses hsub fun s => s.tree.property?
  have heq : (membersFrom (a ++ [k]) c.body).filterMap (fun s => s.tree.property?) =
      c.properties := by
    rw [ClassDeclaration.properties, ← map_tree_membersFrom (a ++ [k]) c.body, List.filterMap_map]
    rfl
  rw [heq] at hproperties
  refine ⟨qs, ⟨u, space, hu, hclass⟩, hproperties.imp ?_, hbefore, fun q => ?_⟩
  · rintro q p ⟨v, hv, hp⟩
    exact ⟨v, mem_spots_iff.1 (hsub.subset hv), hp⟩
  · rw [hall q]
    constructor
    · rintro ⟨v, hv, hp⟩
      obtain ⟨r, hr, hmember⟩ := mem_membersFrom_iff.1 hv
      refine ⟨k, c.body, r, v, hbody, hmember, isSome_property?_iff.1 hp, ?_⟩
      rw [← List.singleton_append, ← List.append_assoc]
      exact hr
    · rintro ⟨k', body', r, v, hbody', hmember, hproperty, rfl⟩
      obtain ⟨rfl, rfl⟩ := hbody.unique hbody'
      refine ⟨v, mem_membersFrom_iff.2 ⟨r, ?_, hmember⟩, isSome_property?_iff.2 hproperty⟩
      rw [List.append_assoc, List.singleton_append]

/-! ### All classes -/

/-- a choice for each of two lists' pairs -/
theorem exists_forall₂ {α β γ : Type} {R : α → γ → Prop} {S : α → β → γ → Prop} {xs : List α}
    {zs : List γ} (h : List.Forall₂ R xs zs) (hchoice : ∀ x z, R x z → ∃ y, S x y z) :
    ∃ ps : List (α × β), ps.map Prod.fst = xs ∧ List.Forall₂ (fun p z => S p.1 p.2 z) ps zs := by
  induction h with
  | nil => exact ⟨[], rfl, .nil⟩
  | @cons x z xs zs hxz _ ih =>
    obtain ⟨y, hy⟩ := hchoice x z hxz
    obtain ⟨ps, rfl, hps⟩ := ih
    exact ⟨(x, y) :: ps, rfl, .cons hy hps⟩

/-- what is read of the properties of classes -/
structure PropertiesOwned (t : Tree) : Prop where
  /-- the classes that are read at the addresses of their declarations, each with its properties; no
  property is one of two classes -/
  owners : ∃ owners : List (Address × List Address),
    List.Forall₂ (fun o c => Owns t o.1 o.2 c) owners t.classes ∧
    (owners.map Prod.fst).Pairwise t.Before ∧
    (∀ a, a ∈ owners.map Prod.fst ↔ ∃ u, IsClass t a u) ∧
    ∀ o ∈ owners, ∀ o' ∈ owners, ∀ q, q ∈ o.2 → q ∈ o'.2 → o = o'
  /-- a property is declared by the innermost class that has it in its body -/
  closest : ∀ a q, Declares t a q → IsIn t a q ∧ ∀ d, IsIn t d q → d <+: a

/-- two classes with a property in common are one, and classes have different addresses -/
theorem eq_of_mem_owners {owners : List (Address × List Address)} {cs : List ClassDeclaration}
    (ht : t.IsUnlabelled) (howners : List.Forall₂ (fun o c => Owns t o.1 o.2 c) owners cs)
    (hbefore : (owners.map Prod.fst).Pairwise t.Before) :
    ∀ o ∈ owners, ∀ o' ∈ owners, ∀ q, q ∈ o.2 → q ∈ o'.2 → o = o' := by
  intro o ho o' ho' q hq hq'
  obtain ⟨c, -, howns⟩ := exists_mem_zip howners ho
  obtain ⟨c', -, howns'⟩ := exists_mem_zip howners ho'
  have haddress := eq_of_declares ht ((howns.mem_iff q).1 hq) ((howns'.mem_iff q).1 hq')
  have hnodup : (owners.map Prod.fst).Nodup := hbefore.imp fun h heq => by
    rw [heq] at h
    exact List.lt_irrefl _ h.lt
  exact List.inj_on_of_nodup_map hnodup ho ho' haddress

theorem propertiesOwned (source : String) : PropertiesOwned (Tree.ofSource source) where
  owners := by
    have ht := isUnlabelled_ofSource source
    generalize Tree.ofSource source = t at ht
    obtain ⟨as, hbefore, hclasses, hall⟩ := exists_addresses (List.Sublist.refl t.spots) fun s =>
      s.tree.class? (innermost? t.fileNamespaces.head? (t.around s.address))
    rw [← classes_eq_filterMap_spots] at hclasses
    have hclasses_at : List.Forall₂ (ClassAt t) as t.classes := by
      refine hclasses.imp ?_
      rintro a c ⟨u, hu, hc⟩
      exact ⟨u, _, mem_spots_iff.1 hu, hc⟩
    obtain ⟨owners, rfl, howners⟩ := exists_forall₂ hclasses_at fun a c => exists_owns
    refine ⟨owners, howners, hbefore, fun a => ?_, eq_of_mem_owners ht howners hbefore⟩
    rw [hall a]
    constructor
    · rintro ⟨u, hu, hclass⟩
      obtain ⟨hk, hname, hbody⟩ := isSome_class?_iff.1 hclass
      exact ⟨u, mem_spots_iff.1 hu, hk, hname, hbody⟩
    · rintro ⟨u, h⟩
      exact ⟨u, mem_spots_iff.2 h.at_eq, isSome_class?_iff.2 ⟨h.kind_eq, h.named, h.has_body⟩⟩
  closest a q h := ⟨h.isIn, fun _ => prefix_of_declares (isUnlabelled_ofSource source) h⟩

end EndpointScaffold.CSharp
