import EndpointScaffold.Proofs.Entity.Merging
import Mathlib.Data.List.Dedup
import Mathlib.Data.List.Forall2
import Mathlib.Logic.Function.Iterate

/-!
# Merging several times

What rules do to entities depends only on the tokens that they have for each property of each entity.
So rules that are merged one after the other are merged at once with their tokens one behind the
other, and the order in which rules list entities and properties has no influence.

* `tokensOf` the tokens of a property of an entity; `HasOwnEntries` rules without repeated entries;
* `given` an entity with tokens for its properties, `value_merge` what merging does;
* `Receives` entities before and after, property by property;
* `Composes`, `composes` two maps of rules one after the other, many times and in any order.
-/

namespace EndpointScaffold.Entity

open Fluent

/-! ### Tokens of a map -/

/-- tokens that rules have for a property of an entity -/
def tokensOf (rules : RuleMap) (entity property : String) : List String :=
  tokensFor ((rules.lookup entity).getD []) property

/-- no entity and no property of an entity has two entries -/
structure HasOwnEntries (rules : RuleMap) : Prop where
  entities : (rules.map Prod.fst).Nodup
  properties : ∀ r ∈ rules, (r.2.map Prod.fst).Nodup

instance (rules : RuleMap) : Decidable (HasOwnEntries rules) :=
  decidable_of_iff ((rules.map Prod.fst).Nodup ∧ ∀ r ∈ rules, (r.2.map Prod.fst).Nodup)
    ⟨fun h => ⟨h.1, h.2⟩, fun h => ⟨h.entities, h.properties⟩⟩

theorem HasOwnEntries.nodup_of_lookup {map : RuleMap} (h : HasOwnEntries map) {entity : String}
    {rules : Rules} (hrules : map.lookup entity = some rules) : (rules.map Prod.fst).Nodup :=
  h.properties _ ((lookup_eq_some_iff_mem h.entities).mp hrules)

/-! ### Entities with tokens -/

/-- the entity with tokens for the first property of each name -/
def given (tokens : String → List String) (e : Entity) : Entity :=
  { e with properties := giveTokens tokens [] e.properties }

theorem given_given (tokens more : String → List String) (e : Entity) :
    (e.given tokens).given more = e.given fun name => tokens name ++ more name := by
  show { e with properties := giveTokens more [] (giveTokens tokens [] e.properties) } = _
  rw [giveTokens_giveTokens, given]

theorem given_nil (e : Entity) : e.given (fun _ => []) = e := by
  rw [given, giveTokens_eq_self fun _ _ => rfl]

theorem addRulesOf_eq_given {map : RuleMap} (h : HasOwnEntries map) (e : Entity) :
    e.addRulesOf map = e.given (tokensOf map e.name) := by
  rw [addRulesOf]
  cases hrules : map.lookup e.name with
  | none =>
    have htokens : tokensOf map e.name = fun _ => [] := by
      funext name
      rw [tokensOf, hrules]
      rfl
    rw [htokens, given_nil]
  | some rules =>
    have htokens : tokensOf map e.name = tokensFor rules := by
      funext name
      rw [tokensOf, hrules, Option.getD_some]
    show e.addRules rules = _
    rw [addRules, foldl_addTokensTo (h.nodup_of_lookup hrules), htokens, given]

/-- merging gives each entity the tokens of its properties -/
theorem value_merge {map : RuleMap} (h : HasOwnEntries map) (es : List Entity) :
    (merge map es).value = es.map fun e => e.given (tokensOf map e.name) :=
  List.map_congr_left fun e _ => addRulesOf_eq_given h e

/-- `after` is `before` with these tokens behind those of the first property of each name; such a
property becomes a key if one of them is the key token -/
structure Receives (tokens : String → String → List String) (before after : Entity) : Prop where
  sameName : after.name = before.name
  sameFile : after.sourceFile = before.sourceFile
  sameNamespace : after.namespaceName = before.namespaceName
  properties : ∀ i : Nat, after.properties[i]? = (before.properties[i]?).map fun p =>
    let new := if p.name ∈ (before.properties.take i).map Property.name then []
      else tokens before.name p.name
    { p with
      attributes := p.attributes ++ new
      isPrimaryKey := p.isPrimaryKey || new.contains "HasKey" }
  /-- what was a key stays one -/
  keys : ∀ (i : Nat) (p q : Property), before.properties[i]? = some p →
    after.properties[i]? = some q → p.isPrimaryKey = true → q.isPrimaryKey = true

theorem receives_given (tokens : String → String → List String) (e : Entity) :
    Receives tokens e (e.given (tokens e.name)) := by
  have hproperties : ∀ i : Nat, (giveTokens (tokens e.name) [] e.properties)[i]? =
      (e.properties[i]?).map fun p =>
        p.addTokens (if p.name ∈ (e.properties.take i).map Property.name then []
          else tokens e.name p.name) := by
    intro i
    rw [getElem?_giveTokens, List.append_nil]
  refine ⟨rfl, rfl, rfl, fun i => ?_, fun i p q hp hq hkey => ?_⟩
  · rw [given, hproperties]
    exact congrArg (Option.map · _) (funext fun p => rfl)
  · have hafter := (hproperties i).symm.trans hq
    rw [hp, Option.map_some] at hafter
    obtain rfl := Option.some.inj hafter
    rw [Property.addTokens, hkey, Bool.true_or]

theorem forall₂_receives (tokens : String → String → List String) (es : List Entity) :
    List.Forall₂ (Receives tokens) es (es.map fun e => e.given (tokens e.name)) := by
  rw [List.forall₂_map_right_iff, List.forall₂_same]
  exact fun e _ => receives_given tokens e

/-! ### Rules of two maps -/

/-- for every property, `joined` has the tokens of the first map and then those of the second -/
def IsJoined (first second joined : RuleMap) : Prop :=
  ∀ entity property, tokensOf joined entity property =
    tokensOf first entity property ++ tokensOf second entity property

/-- one entry for each of the names, with the value that `f` has there -/
def tabulated {β : Type} (names : List String) (f : String → β) : List (String × β) :=
  names.dedup.map fun n => (n, f n)

theorem keys_tabulated {β : Type} (names : List String) (f : String → β) :
    (tabulated names f).map Prod.fst = names.dedup := by
  rw [tabulated, List.map_map]
  exact List.map_id _

theorem lookup_tabulated {β : Type} (names : List String) (f : String → β) (n : String) :
    (tabulated names f).lookup n = if n ∈ names then some (f n) else none := by
  have hlookup : ∀ ms : List String, (ms.map fun m => (m, f m)).lookup n =
      if n ∈ ms then some (f n) else none := by
    intro ms
    induction ms with
    | nil => rfl
    | cons m ms ih =>
      rw [List.map_cons, lookup_cons_eq, ih]
      by_cases hm : m = n
      · rw [if_pos hm, if_pos (List.mem_cons.mpr (.inl hm.symm)), hm]
      · have hmem : n ∈ m :: ms ↔ n ∈ ms :=
          ⟨fun h => (List.mem_cons.mp h).resolve_left (Ne.symm hm), List.mem_cons_of_mem m⟩
        rw [if_neg hm]
        exact (ite_congr (propext hmem) (fun _ => rfl) fun _ => rfl).symm
  rw [tabulated, hlookup]
  exact ite_congr (propext List.mem_dedup) (fun _ => rfl) fun _ => rfl

/-- the rules of two maps for one entity -/
def joinedRules (first second : Rules) : Rules :=
  tabulated ((first ++ second).map Prod.fst) fun name => tokensFor first name ++ tokensFor second name

def joinedMap (first second : RuleMap) : RuleMap :=
  tabulated ((first ++ second).map Prod.fst) fun entity =>
    joinedRules ((first.lookup entity).getD []) ((second.lookup entity).getD [])

theorem tokensFor_joinedRules (first second : Rules) (name : String) :
    tokensFor (joinedRules first second) name = tokensFor first name ++ tokensFor second name := by
  rw [tokensFor, joinedRules, lookup_tabulated]
  by_cases hname : name ∈ (first ++ second).map Prod.fst
  · rw [if_pos hname, Option.getD_some]
  · rw [if_neg hname, Option.getD_none]
    rw [List.map_append, List.mem_append, not_or] at hname
    rw [tokensFor_of_not_mem hname.1, tokensFor_of_not_mem hname.2]
    rfl

theorem hasOwnEntries_joinedMap (first second : RuleMap) :
    HasOwnEntries (joinedMap first second) := by
  constructor
  · rw [joinedMap, keys_tabulated]
    exact List.nodup_dedup _
  · intro r hr
    obtain ⟨entity, -, rfl⟩ := List.mem_map.mp hr
    show ((joinedRules _ _).map Prod.fst).Nodup
    rw [joinedRules, keys_tabulated]
    exact List.nodup_dedup _

theorem tokensOf_of_not_mem {map : RuleMap} {entity : String} (h : entity ∉ map.map Prod.fst)
    (property : String) : tokensOf map entity property = [] := by
  rw [tokensOf, lookup_eq_none_of_not_mem h]
  rfl

theorem isJoined_joinedMap (first second : RuleMap) :
    IsJoined first second (joinedMap first second) := by
  intro entity property
  rw [tokensOf, joinedMap, lookup_tabulated]
  by_cases hentity : entity ∈ (first ++ second).map Prod.fst
  · rw [if_pos hentity, Option.getD_some, tokensFor_joinedRules]
    rfl
  · rw [if_neg hentity]
    rw [List.map_append, List.mem_append, not_or] at hentity
    rw [tokensOf_of_not_mem hentity.1, tokensOf_of_not_mem hentity.2]
    rfl

/-! ### Rules in another order -/

/-- the same entries, with entities and the properties of each in any order -/
def IsReordered (map other : RuleMap) : Prop :=
  ∃ between, map.Perm between ∧
    List.Forall₂ (fun r s => r.1 = s.1 ∧ r.2.Perm s.2) between other

theorem tokensFor_eq_of_perm {rules other : Rules} (h : (rules.map Prod.fst).Nodup)
    (hperm : rules.Perm other) (name : String) : tokensFor rules name = tokensFor other name := by
  rw [tokensFor, tokensFor, lookup_eq_of_perm h hperm]

theorem lookup_of_forall₂ {map other : RuleMap}
    (h : List.Forall₂ (fun r s => r.1 = s.1 ∧ r.2.Perm s.2) map other) (entity : String) :
    ((map.lookup entity).getD []).Perm ((other.lookup entity).getD []) := by
  induction h with
  | nil => exact .nil
  | @cons r s _ _ hrs _ ih =>
    obtain ⟨n, rules⟩ := r
    obtain ⟨m, others⟩ := s
    obtain ⟨rfl, hperm⟩ := hrs
    rw [lookup_cons_eq, lookup_cons_eq]
    by_cases hn : n = entity
    · rw [if_pos hn, if_pos hn]
      exact hperm
    · rw [if_neg hn, if_neg hn]
      exact ih

theorem nodup_getD_lookup {map : RuleMap} (h : HasOwnEntries map) (entity : String) :
    (((map.lookup entity).getD []).map Prod.fst).Nodup := by
  cases hrules : map.lookup entity with
  | none => exact List.nodup_nil
  | some rules => exact h.nodup_of_lookup hrules

theorem tokensOf_eq_of_isReordered {map other : RuleMap} (h : HasOwnEntries map)
    (hother : IsReordered map other) : tokensOf other = tokensOf map := by
  obtain ⟨between, hperm, hpairs⟩ := hother
  funext entity property
  have hlookup : between.lookup entity = map.lookup entity :=
    (lookup_eq_of_perm h.entities hperm entity).symm
  have hrules := lookup_of_forall₂ hpairs entity
  rw [hlookup] at hrules
  exact (tokensFor_eq_of_perm (nodup_getD_lookup h entity) hrules property).symm

theorem HasOwnEntries.of_isReordered {map other : RuleMap} (h : HasOwnEntries map)
    (hother : IsReordered map other) : HasOwnEntries other := by
  obtain ⟨between, hperm, hpairs⟩ := hother
  have hbetween : HasOwnEntries between :=
    ⟨(hperm.map Prod.fst).nodup_iff.mp h.entities, fun r hr => h.properties r (hperm.mem_iff.mpr hr)⟩
  have hkeys : other.map Prod.fst = between.map Prod.fst := by
    clear hperm hbetween
    induction hpairs with
    | nil => rfl
    | cons hrs _ ih => rw [List.map_cons, List.map_cons, ih, hrs.1]
  refine ⟨hkeys ▸ hbetween.entities, fun s hs => ?_⟩
  obtain ⟨r, hr, -, hrs⟩ : ∃ r ∈ between, r.1 = s.1 ∧ r.2.Perm s.2 := by
    clear hperm hbetween hkeys
    induction hpairs with
    | nil => cases hs
    | @cons r s' _ _ hrs _ ih =>
      rcases List.mem_cons.mp hs with rfl | hs
      · exact ⟨r, List.mem_cons_self, hrs⟩
      · obtain ⟨q, hq, hqs⟩ := ih hs
        exact ⟨q, List.mem_cons_of_mem r hq, hqs⟩
  exact (hrs.map Prod.fst).nodup_iff.mp (hbetween.properties r hr)

/-! ### Merging many times -/

/-- entities after merging the same rules again and again -/
def mergedTimes (n : Nat) (map : RuleMap) (es : List Entity) : List Entity :=
  (fun es => (merge map es).value)^[n] es

theorem mergedTimes_eq {map : RuleMap} (h : HasOwnEntries map) (n : Nat) (es : List Entity) :
    mergedTimes n map es = es.map fun e =>
      e.given fun name => (List.replicate n (tokensOf map e.name name)).flatten := by
  induction n generalizing es with
  | zero =>
    refine ((List.map_congr_left fun e _ => ?_).trans (List.map_id es)).symm
    exact e.given_nil
  | succ n ih =>
    show mergedTimes n map (merge map es).value = _
    rw [ih, value_merge h, List.map_map]
    refine List.map_congr_left fun e _ => ?_
    show (e.given (tokensOf map e.name)).given _ = _
    rw [given_given]
    rfl

/-- what two maps of rules do to entities one after the other -/
structure Composes (es : List Entity) (first second : RuleMap) : Prop where
  /-- each token is added once, in its order, to the first property of its name -/
  once : List.Forall₂ (Receives (tokensOf first)) es (merge first es).value
  exists_joined : ∃ joined, HasOwnEntries joined ∧ IsJoined first second joined
  /-- merging twice is merging the tokens of both -/
  both : ∀ joined, HasOwnEntries joined → IsJoined first second joined →
    (merge second (merge first es).value).value = (merge joined es).value
  /-- merging the same rules `n` times adds their tokens `n` times -/
  many : ∀ n, List.Forall₂
    (Receives fun entity property => (List.replicate n (tokensOf first entity property)).flatten)
    es (mergedTimes n first es)
  reordered : ∀ other, IsReordered first other → (merge other es).value = (merge first es).value

theorem merge_merge {first second joined : RuleMap} (hfirst : HasOwnEntries first)
    (hsecond : HasOwnEntries second) (hjoined : HasOwnEntries joined)
    (h : IsJoined first second joined) (es : List Entity) :
    (merge second (merge first es).value).value = (merge joined es).value := by
  rw [value_merge hsecond, value_merge hfirst, value_merge hjoined, List.map_map]
  refine List.map_congr_left fun e _ => ?_
  show (e.given (tokensOf first e.name)).given (tokensOf second e.name) = _
  rw [given_given]
  congr 1
  funext name
  exact (h e.name name).symm

theorem composes {first second : RuleMap} (hfirst : HasOwnEntries first)
    (hsecond : HasOwnEntries second) (es : List Entity) : Composes es first second where
  once := by
    rw [value_merge hfirst]
    exact forall₂_receives (tokensOf first) es
  exists_joined :=
    ⟨joinedMap first second, hasOwnEntries_joinedMap first second, isJoined_joinedMap first second⟩
  both _ hjoined h := merge_merge hfirst hsecond hjoined h es
  many n := by
    rw [mergedTimes_eq hfirst]
    exact forall₂_receives
      (fun entity property => (List.replicate n (tokensOf first entity property)).flatten) es
  reordered other h := by
    rw [value_merge (hfirst.of_isReordered h), value_merge hfirst,
      tokensOf_eq_of_isReordered hfirst h]

/-- two entities of one name, of which one has two properties of one name -/
def twins : List Entity :=
  [⟨"A", [⟨"Id", "int", ["Key"], false, false⟩, ⟨"Note", "string", [], false, true⟩,
      ⟨"Id", "long", [], true, false⟩], none, none⟩,
    ⟨"A", [⟨"Note", "string", [], false, false⟩], some "A.cs", some "Shop"⟩]

def keyRules : RuleMap := [("A", [("Id", ["HasKey"]), ("Note", ["IsRequired()", "HasMaxLength(9)"])])]

/-- rules for an entity that is not there, and further ones for the twins -/
def laterRules : RuleMap :=
  [("B", [("Id", ["HasKey"])]), ("A", [("Note", []), ("Id", ["IsRequired()"])])]

theorem composes_overlapping :
    HasOwnEntries keyRules ∧ HasOwnEntries laterRules ∧ Composes twins keyRules laterRules ∧
    (merge laterRules (merge keyRules twins).value).value =
      [⟨"A", [⟨"Id", "int", ["Key", "HasKey", "IsRequired()"], true, false⟩,
          ⟨"Note", "string", ["IsRequired()", "HasMaxLength(9)"], false, true⟩,
          ⟨"Id", "long", [], true, false⟩], none, none⟩,
        ⟨"A", [⟨"Note", "string", ["IsRequired()", "HasMaxLength(9)"], false, false⟩], some "A.cs",
          some "Shop"⟩] ∧
    (mergedTimes 2 keyRules twins).map (fun e => e.properties.map Property.attributes) =
      [[["Key", "HasKey", "HasKey"],
        ["IsRequired()", "HasMaxLength(9)", "IsRequired()", "HasMaxLength(9)"], []],
        [["IsRequired()", "HasMaxLength(9)", "IsRequired()", "HasMaxLength(9)"]]] :=
  ⟨by decide, by decide, composes (by decide) (by decide) _, by decide, by decide⟩

end EndpointScaffold.Entity
