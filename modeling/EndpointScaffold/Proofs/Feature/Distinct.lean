import EndpointScaffold.Feature.Basic
import EndpointScaffold.Proofs.Config.Stable
import EndpointScaffold.Proofs.Validation.Valid

/-!
# Features keep apart

The features of entities whose names were checked differ in their requests, and in their namespaces
without regard to case. Both have the plural of the entity as a part of its own, and tell the kind
behind it.

* `namespaceName_eq`, `namespace_inj` what a namespace tells, `route_eq`, `request_inj` a request;
* `nodup_namespaces`, `nodup_requests` all features of entities.
-/

namespace EndpointScaffold.Feature

open Text Validation

variable {c : Config} {a b : Entity} {es : List Entity} {k l : FeatureKind}

theorem mem_all (k : FeatureKind) : k ∈ FeatureKind.all := by
  cases k <;> decide

/-! ### Namespaces -/

theorem isAscii_name (k : FeatureKind) : IsAscii k.name := by
  cases k <;> decide

theorem lower_name_inj (h : lower k.name = lower l.name) : k = l := by
  have hall : ∀ k ∈ FeatureKind.all, ∀ l ∈ FeatureKind.all, lower k.name = lower l.name → k = l := by
    decide
  exact hall k (mem_all k) l (mem_all l) h

theorem namespaceName_eq (c : Config) (name : String) (k : FeatureKind) :
    (ofKind c name k).namespaceName =
      c.baseNamespace ++ "." ++ (Naming.plural name ++ (String.singleton '.' ++ k.name)) := by
  show c.baseNamespace ++ "." ++ Naming.plural name ++ "." ++ k.name = _
  rw [String.append_assoc, String.append_assoc]
  rfl

/-- a namespace tells the folder of its entity and the kind of the feature, in any case -/
theorem namespace_inj (h : AreApart es) (ha : a ∈ es) (hb : b ∈ es)
    (heq : lower (ofKind c a.name k).namespaceName = lower (ofKind c b.name l).namespaceName) :
    folderKey a = folderKey b ∧ k = l := by
  have hpart := h.isPart ha
  have hpart' := h.isPart hb
  rw [namespaceName_eq, namespaceName_eq] at heq
  obtain ⟨hfolder, hkind⟩ := lower_parts_inj (by decide) (by decide) ⟨hpart.ascii, hpart.noPoint⟩
    ⟨hpart'.ascii, hpart'.noPoint⟩ (isAscii_name k) (isAscii_name l) heq
  exact ⟨hfolder, lower_name_inj hkind⟩

/-! ### Requests -/

def routeHead (c : Config) : String := if c.routeStart.isEmpty then "" else c.routeStart ++ "/"

theorem route_eq (c : Config) {name : String} (hne : lower (Naming.plural name) ≠ "")
    (k : FeatureKind) :
    (ofKind c name k).route = routeHead c ++ (lower (Naming.plural name) ++ k.routeEnd) := by
  show baseRoute c (Naming.plural name) ++ k.routeEnd = _
  have hplural : (lower (Naming.plural name)).isEmpty = false := by
    rw [← Bool.not_eq_true, String.isEmpty_iff]
    exact hne
  rw [baseRoute, routeHead, List.filter_cons, List.filter_singleton, hplural]
  -- an empty start of routes is left out with its slash
  cases c.routeStart.isEmpty with
  | true => simp [join]
  | false => simp [join, String.append_assoc]

/-- a verb and the end of a route tell the kind of a feature -/
theorem kind_of_request (hverb : k.verb = l.verb) (hend : k.routeEnd = l.routeEnd) : k = l := by
  have hall : ∀ k ∈ FeatureKind.all, ∀ l ∈ FeatureKind.all, k.verb = l.verb →
      k.routeEnd = l.routeEnd → k = l := by
    decide
  exact hall k (mem_all k) l (mem_all l) hverb hend

/-- what follows the plural in a route is nothing, or is set apart by a slash -/
theorem exists_routeEnd (k : FeatureKind) :
    ∃ rest, k.routeEnd ++ "/" = String.singleton '/' ++ rest := by
  cases k with
  | create | update | getAll => exact ⟨"", rfl⟩
  | delete | getById => exact ⟨"\x7bid\x7d/", rfl⟩
  | getPaged => exact ⟨"paged/", rfl⟩

/-- a request tells the folder of its entity and the kind of the feature -/
theorem request_inj (h : AreApart es) (ha : a ∈ es) (hb : b ∈ es)
    (hverb : (ofKind c a.name k).verb = (ofKind c b.name l).verb)
    (hroute : (ofKind c a.name k).route = (ofKind c b.name l).route) :
    folderKey a = folderKey b ∧ k = l := by
  have hpart : ∀ e ∈ es, IsAscii (Naming.plural e.name) ∧ lower (Naming.plural e.name) ≠ "" ∧
      '/' ∉ (lower (Naming.plural e.name)).toList := fun e he => by
    have hascii := (h.isPart he).ascii
    refine ⟨hascii, lower_ne_empty hascii (Naming.isStem_plural (h.isStem he)).nonempty, ?_⟩
    rw [mem_lower_iff hascii (by decide)]
    exact (h.isPart he).noSlash
  rw [route_eq c (hpart a ha).2.1, route_eq c (hpart b hb).2.1, String.append_right_inj] at hroute
  obtain ⟨rest, hrest⟩ := exists_routeEnd k
  obtain ⟨rest', hrest'⟩ := exists_routeEnd l
  have hslash := congrArg (· ++ "/") hroute
  simp only [String.append_assoc, hrest, hrest'] at hslash
  have hfolder := (parts_inj (hpart a ha).2.2 (hpart b hb).2.2 hslash).1
  rw [hfolder, String.append_right_inj] at hroute
  exact ⟨hfolder, kind_of_request hverb hroute⟩

/-! ### All features -/

theorem nodup_namespaces (h : AreApart es) (hkinds : c.kinds.Nodup) :
    (es.flatMap fun e => (planned c e).map fun f => lower f.namespaceName).Nodup := by
  refine h.nodup_flatMap (fun e he => ?_) fun a ha b hb x hxa hxb => ?_
  · rw [planned, List.map_map]
    exact hkinds.map_on fun k _ l _ heq => (namespace_inj h he he heq).2
  · rw [planned, List.map_map, List.mem_map] at hxa hxb
    obtain ⟨k, -, rfl⟩ := hxa
    obtain ⟨l, -, heq⟩ := hxb
    exact (namespace_inj h ha hb heq.symm).1

theorem nodup_requests (h : AreApart es) (hkinds : c.kinds.Nodup) :
    (es.flatMap fun e => (planned c e).map fun f => (f.verb, f.route)).Nodup := by
  refine h.nodup_flatMap (fun e he => ?_) fun a ha b hb x hxa hxb => ?_
  · rw [planned, List.map_map]
    refine hkinds.map_on fun k _ l _ heq => ?_
    exact (request_inj h he he (Prod.mk.inj heq).1 (Prod.mk.inj heq).2).2
  · rw [planned, List.map_map, List.mem_map] at hxa hxb
    obtain ⟨k, -, rfl⟩ := hxa
    obtain ⟨l, -, heq⟩ := hxb
    exact (request_inj h ha hb (Prod.mk.inj heq.symm).1 (Prod.mk.inj heq.symm).2).1

end EndpointScaffold.Feature
