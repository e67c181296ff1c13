import EndpointScaffold.CSharp.ClassDeclaration

/-!
# Places in a tree

Every tree inside another one, with the nodes around it.

* `Stands` where a tree stands in another one;
* `Place`, `Tree.places` the places in a tree in source order; `Tree.mem_places_iff` nothing stands
  anywhere else.
-/

namespace EndpointScaffold.CSharp

/-- `t` stands in `root` with the nodes `around` it, the innermost first -/
inductive Stands (root : Tree) : List Tree → Tree → Prop
  | root : Stands root [] root
  | part {around : List Tree} {t part : Tree} (h : Stands root around t)
      (hpart : part ∈ t.parts) : Stands root (t :: around) part

/-- a tree with the nodes around it, the innermost first -/
structure Place where
  around : List Tree
  tree : Tree

namespace Tree

/-! ### Walks -/

mutual
def placesFrom (around : List Tree) : Tree → List Place
  | node l k ps => ⟨around, node l k ps⟩ :: placesFromAll (node l k ps :: around) ps
  | leaf l k gap text => [⟨around, leaf l k gap text⟩]
  | missing l k => [⟨around, missing l k⟩]

def placesFromAll (around : List Tree) : List Tree → List Place
  | [] => []
  | t :: ts => placesFrom around t ++ placesFromAll around ts
end

/-- all trees inside a tree, each node before its parts -/
def places (t : Tree) : List Place := placesFrom [] t

variable {root t : Tree} {ts around : List Tree} {p : Place}

mutual
theorem stands_of_mem_placesFrom {t : Tree} {around : List Tree} (h : Stands root around t)
    (hp : p ∈ placesFrom around t) : Stands root p.around p.tree := by
  cases t with
  | leaf | missing => exact List.mem_singleton.1 hp ▸ h
  | node l k ps =>
    rw [placesFrom] at hp
    rcases List.mem_cons.1 hp with rfl | hp
    · exact h
    · exact stands_of_mem_placesFromAll (fun _ hpart => h.part hpart) hp

theorem stands_of_mem_placesFromAll {ts around : List Tree} (h : ∀ t ∈ ts, Stands root around t)
    (hp : p ∈ placesFromAll around ts) : Stands root p.around p.tree := by
  cases ts with
  | nil => exact absurd hp List.not_mem_nil
  | cons t ts =>
    rw [List.forall_mem_cons] at h
    rw [placesFromAll, List.mem_append] at hp
    rcases hp with hp | hp
    · exact stands_of_mem_placesFrom h.1 hp
    · exact stands_of_mem_placesFromAll h.2 hp
end

theorem mem_placesFrom_self (around : List Tree) (t : Tree) : ⟨around, t⟩ ∈ placesFrom around t := by
  cases t <;> exact List.mem_cons_self

theorem placesFrom_subset_all (ht : t ∈ ts) : placesFrom around t ⊆ placesFromAll around ts := by
  induction ts with
  | nil => exact absurd ht List.not_mem_nil
  | cons u us ih =>
    rw [placesFromAll]
    rcases List.mem_cons.1 ht with rfl | ht
    · exact List.subset_append_left _ _
    · exact fun q hq => List.mem_append_right _ (ih ht hq)

mutual
/-- with a tree, all its parts are listed -/
theorem mem_placesFrom_part {root : Tree} {outer : List Tree}
    (h : ⟨around, t⟩ ∈ placesFrom outer root) {part : Tree} (hpart : part ∈ t.parts) :
    ⟨t :: around, part⟩ ∈ placesFrom outer root := by
  cases root with
  | leaf | missing =>
    obtain ⟨rfl, rfl⟩ := Place.mk.inj (List.mem_singleton.1 h)
    exact absurd hpart List.not_mem_nil
  | node l k ps =>
    rw [placesFrom] at h ⊢
    refine List.mem_cons_of_mem _ ?_
    rcases List.mem_cons.1 h with h | h
    · obtain ⟨rfl, rfl⟩ := Place.mk.inj h
      exact placesFrom_subset_all hpart (mem_placesFrom_self _ _)
    · exact mem_placesFromAll_part h hpart

theorem mem_placesFromAll_part {ts outer : List Tree} (h : ⟨around, t⟩ ∈ placesFromAll outer ts)
    {part : Tree} (hpart : part ∈ t.parts) : ⟨t :: around, part⟩ ∈ placesFromAll outer ts := by
  cases ts with
  | nil => exact absurd h List.not_mem_nil
  | cons u us =>
    rw [placesFromAll, List.mem_append] at h ⊢
    exact h.imp (fun h => mem_placesFrom_part h hpart) fun h => mem_placesFromAll_part h hpart
end

theorem mem_places_iff : p ∈ root.places ↔ Stands root p.around p.tree := by
  constructor
  · exact stands_of_mem_placesFrom .root
  · intro h
    obtain ⟨around, t⟩ := p
    change Stands root around t at h
    induction h with
    | root => exact mem_placesFrom_self [] root
    | part _ hpart ih => exact mem_placesFrom_part ih hpart

end Tree

end EndpointScaffold.CSharp

/-!
## Namespaces around classes

What a walk from the root passes down to a class is what a walk outwards from the class meets first:
the name of the innermost namespace. The namespace that the class is declared in has the names of all
namespaces around it, from the outermost to the innermost, so it has another name as soon as a second
one is around.

* `innermost?` the first name on the way outwards, `Tree.classes_eq` the classes with these names;
* `spacesAround` all namespaces on the way, `declaring?` their joined names;
* `innermost?_eq_declaring?_iff` when the two are the same.
-/

namespace EndpointScaffold.CSharp

open Text CSharp.Tree

variable {file : Option Tree} {t : Tree} {around : List Tree}

def Tree.isNamespace (t : Tree) : Bool := t.kind.isNamespace

/-- name of the first namespace around a tree, else of the one of the file -/
def innermost? (file : Option Tree) (around : List Tree) : Option String :=
  ((around.find? isNamespace).or file).bind namespaceName?

theorem innermost?_cons : innermost? file (t :: around) =
    if t.kind.isNamespace then t.namespaceName? else innermost? file around := by
  rw [innermost?, List.find?_cons, isNamespace]
  cases t.kind.isNamespace <;> rfl

theorem class?_of_ne {space : Option String} (h : t.kind ≠ .classDeclaration) :
    t.class? space = none := by
  rw [class?, if_pos (bne_iff_ne.2 h)]

theorem class?_of_parts {space : Option String} (h : t.parts = []) : t.class? space = none := by
  have hempty : (t.partText .name).isEmpty = true := by
    rw [partText, part?, h]
    rfl
  rw [class?, dif_pos hempty, ite_self]

namespace Tree

mutual
/-- the namespace that is passed down is the first one on the way outwards -/
theorem filterMap_classTrees (around : List Tree) (t : Tree) :
    ((classTrees (innermost? file around) t).filterMap fun c => c.2.class? c.1) =
      (placesFrom around t).filterMap fun p => p.tree.class? (innermost? file p.around) := by
  cases t with
  | leaf l k gap text =>
    rw [placesFrom, List.filterMap_cons, class?_of_parts rfl]
    rfl
  | missing l k =>
    rw [placesFrom, List.filterMap_cons, class?_of_parts rfl]
    rfl
  | node l k ps =>
    have hparts := filterMap_classTreesOfAll (node l k ps :: around) ps
    rw [innermost?_cons] at hparts
    rw [classTrees, placesFrom, List.filterMap_cons, ← hparts]
    by_cases hk : k = .classDeclaration
    · rw [if_pos hk, List.filterMap_cons]
      rfl
    · have hnone : (node l k ps).class? (innermost? file around) = none := class?_of_ne hk
      rw [if_neg hk, hnone]
      rfl

theorem filterMap_classTreesOfAll (around ts : List Tree) :
    ((classTreesOfAll (innermost? file around) ts).filterMap fun c => c.2.class? c.1) =
      (placesFromAll around ts).filterMap fun p => p.tree.class? (innermost? file p.around) := by
  cases ts with
  | nil => rfl
  | cons t ts =>
    rw [classTreesOfAll, placesFromAll, List.filterMap_append, List.filterMap_append,
      filterMap_classTrees around t, filterMap_classTreesOfAll around ts]
end

theorem classes_eq (t : Tree) : t.classes =
    t.places.filterMap fun p => p.tree.class? (innermost? t.fileNamespaces.head? p.around) :=
  filterMap_classTrees [] t

end Tree

theorem namespaceName_of_class? {space : Option String} {d : ClassDeclaration}
    (h : t.class? space = some d) : d.namespaceName = space := by
  rw [class?] at h
  split at h
  · cases h
  · split at h
    · cases h
    · obtain ⟨body, -, rfl⟩ := Option.map_eq_some_iff.mp h
      rfl

theorem innermost?_ne_empty : innermost? file around ≠ some "" := by
  intro h
  obtain ⟨space, -, hname⟩ := Option.bind_eq_some_iff.1 h
  rw [namespaceName?, nonEmpty?] at hname
  split at hname
  · cases hname
  · rename_i hne
    exact hne (String.isEmpty_iff.2 (Option.some.inj hname))

theorem namespaceName_ne_of_mem_classes {d : ClassDeclaration} (h : d ∈ t.classes) :
    d.namespaceName ≠ some "" := by
  rw [classes_eq, List.mem_filterMap] at h
  obtain ⟨p, -, hclass⟩ := h
  rw [namespaceName_of_class? hclass]
  exact innermost?_ne_empty

/-! ### All namespaces on the way outwards -/

/-- the namespaces around a tree, the innermost first; the one of the file is around everything -/
def spacesAround (file : Option Tree) (around : List Tree) : List Tree :=
  around.filter isNamespace ++
    if around.any (hasKind .fileNamespace) then [] else file.toList

/-- names joined by points -/
def joined? : List String → Option String
  | [] => none
  | names => some (join "." names)

/-- the namespace that a tree is declared in -/
def declaring? (file : Option Tree) (around : List Tree) : Option String :=
  joined? ((spacesAround file around).filterMap namespaceName?).reverse

/-- names of the namespaces around the innermost one, the outermost last -/
def outerNames (file : Option Tree) (around : List Tree) : List String :=
  (spacesAround file around).tail.filterMap namespaceName?

theorem innermost?_eq (file : Option Tree) (around : List Tree) :
    innermost? file around = (spacesAround file around).head?.bind namespaceName? := by
  have hhead : (spacesAround file around).head? = (around.find? isNamespace).or file := by
    rw [spacesAround, List.head?_append, List.head?_filter]
    cases hfind : around.find? isNamespace with
    | some t => rfl
    | none =>
      have hany : around.any (hasKind .fileNamespace) = false := by
        rw [List.any_eq_false]
        intro t ht hkind
        refine List.find?_eq_none.1 hfind t ht ?_
        rw [Tree.isNamespace, beq_iff_eq.1 hkind]
        rfl
      rw [hany]
      cases file <;> rfl
  rw [innermost?, hhead]

theorem joined?_eq_none_iff {names : List String} : joined? names = none ↔ names = [] := by
  cases names with
  | nil => exact ⟨fun _ => rfl, fun _ => rfl⟩
  | cons name names => exact ⟨nofun, nofun⟩

theorem joined?_concat {names : List String} (hne : names ≠ []) (name : String) :
    joined? (names ++ [name]) = some (join "." names ++ "." ++ name) := by
  have hjoin : join "." (names ++ [name]) = join "." names ++ "." ++ name := by
    induction names with
    | nil => exact absurd rfl hne
    | cons first names ih =>
      cases names with
      | nil =>
        rw [List.singleton_append, join, String.intercalate_cons_cons, join,
          String.intercalate_singleton, String.intercalate_singleton]
      | cons second names =>
        have hrest := ih (List.cons_ne_nil _ _)
        rw [join, join] at hrest ⊢
        rw [List.cons_append, List.cons_append, String.intercalate_cons_cons,
          String.intercalate_cons_cons, ← List.cons_append, hrest]
        simp only [String.append_assoc]
  obtain ⟨first, rest, rfl⟩ := List.exists_cons_of_ne_nil hne
  exact congrArg some hjoin

/-- the name of the innermost namespace is that of the declaring one if no other has a name -/
theorem innermost?_eq_declaring?_iff :
    innermost? file around = declaring? file around ↔ outerNames file around = [] := by
  rw [innermost?_eq, declaring?, outerNames]
  cases spacesAround file around with
  | nil => exact ⟨fun _ => rfl, fun _ => rfl⟩
  | cons t ts =>
    rw [List.head?_cons, Option.bind_some, List.tail_cons]
    cases hname : t.namespaceName? with
    | none =>
      rw [List.filterMap_cons_none hname, eq_comm, joined?_eq_none_iff, List.reverse_eq_nil_iff]
    | some name =>
      rw [List.filterMap_cons_some hname, List.reverse_cons]
      constructor
      · intro heq
        refine Decidable.byContradiction fun hne => ?_
        rw [joined?_concat (mt List.reverse_eq_nil_iff.1 hne)] at heq
        have hlength := congrArg String.length (Option.some.inj heq)
        rw [String.length_append, String.length_append] at hlength
        have hpoint : ".".length = 1 := by decide
        omega
      · intro hnil
        rw [hnil]
        rfl

example :
    let space := fun name => node none .namespaceDeclaration [leaf (some .name) .identifier " " name]
    innermost? none [space "B", space "A"] = some "B" ∧
      declaring? none [space "B", space "A"] = some "A.B" := by
  decide +kernel

end EndpointScaffold.CSharp
