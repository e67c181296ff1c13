import EndpointScaffold.Entity.Merge
import EndpointScaffold.Proofs.Fluent.Accumulation

/-!
# Merging rules into entities

The first property of each name gets the tokens of its own rules, and nothing else changes. Where all
properties of an entity have different names, this is each of them.

* `giveTokens` tokens for the first property of each name, `getElem?_giveTokens` what each property
  gets, `giveTokens_giveTokens` tokens given twice;
* `foldl_addTokensTo` rules given one by one;
* `addRules_eq` the rules of one entity;
* `propertyNames_addRulesOf` no rules change a name.
-/

namespace EndpointScaffold.Entity

open Fluent

namespace Property

@[simp] theorem name_addTokens (p : Property) (tokens : List String) :
    (p.addTokens tokens).name = p.name := rfl

theorem addTokens_nil (p : Property) : p.addTokens [] = p := by
  rw [addTokens, List.append_nil, List.contains_nil, Bool.or_false]

theorem addTokens_addTokens (p : Property) (as bs : List String) :
    (p.addTokens as).addTokens bs = p.addTokens (as ++ bs) := by
  simp only [addTokens, List.append_assoc, List.contains_eq_any_beq, List.any_append,
    Bool.or_assoc]

end Property

/-- tokens of a property; none if it is not mentioned -/
def tokensFor (rules : Rules) (name : String) : List String := (rules.lookup name).getD []

theorem tokensFor_cons (n : String) (tokens : List String) (rules : Rules) (name : String) :
    tokensFor ((n, tokens) :: rules) name = if n = name then tokens else tokensFor rules name := by
  rw [tokensFor, lookup_cons_eq]
  by_cases h : n = name
  · rw [if_pos h, if_pos h, Option.getD_some]
  · rw [if_neg h, if_neg h, tokensFor]

theorem tokensFor_of_not_mem {rules : Rules} {name : String} (h : name ∉ rules.map Prod.fst) :
    tokensFor rules name = [] := by
  rw [tokensFor, lookup_eq_none_of_not_mem h, Option.getD_none]

/-! ### First properties of a name -/

/-- the properties, of which the first one of each name that is not in `seen` gets the tokens of its
name -/
def giveTokens (tokens : String → List String) (seen : List String) : List Property → List Property
  | [] => []
  | p :: ps =>
    (if p.name ∈ seen then p else p.addTokens (tokens p.name))
      :: giveTokens tokens (p.name :: seen) ps

section
variable {tokens : String → List String} {seen : List String} {ps : List Property}

theorem giveTokens_eq_self (h : ∀ name, name ∉ seen → tokens name = []) :
    giveTokens tokens seen ps = ps := by
  induction ps generalizing seen with
  | nil => rfl
  | cons p ps ih =>
    have hp : (if p.name ∈ seen then p else p.addTokens (tokens p.name)) = p := by
      by_cases hseen : p.name ∈ seen
      · rw [if_pos hseen]
      · rw [if_neg hseen, h p.name hseen, Property.addTokens_nil]
    rw [giveTokens, hp, ih fun name hname => h name (List.not_mem_of_not_mem_cons hname)]

/-- tokens given one after the other are given together -/
theorem giveTokens_giveTokens (more : String → List String) :
    giveTokens more seen (giveTokens tokens seen ps) =
      giveTokens (fun name => tokens name ++ more name) seen ps := by
  induction ps generalizing seen with
  | nil => rfl
  | cons p ps ih =>
    simp only [giveTokens]
    by_cases hseen : p.name ∈ seen
    · simp only [if_pos hseen, ih]
    · simp only [if_neg hseen, Property.name_addTokens, Property.addTokens_addTokens, ih]

theorem giveTokens_eq_map (hnames : (ps.map Property.name).Nodup)
    (hseen : ∀ p ∈ ps, p.name ∉ seen) :
    giveTokens tokens seen ps = ps.map fun p => p.addTokens (tokens p.name) := by
  induction ps generalizing seen with
  | nil => rfl
  | cons p ps ih =>
    have hnodup := List.nodup_cons.mp hnames
    rw [List.forall_mem_cons] at hseen
    have hrest : ∀ q ∈ ps, q.name ∉ p.name :: seen := by
      intro q hq hmem
      rcases List.mem_cons.mp hmem with hname | hmem
      · exact hnodup.1 (hname ▸ List.mem_map_of_mem hq)
      · exact hseen.2 q hq hmem
    rw [giveTokens, if_neg hseen.1, ih hnodup.2 hrest, List.map_cons]

/-- each property where it stands -/
theorem getElem?_giveTokens (i : Nat) :
    (giveTokens tokens seen ps)[i]? = (ps[i]?).map fun p =>
      p.addTokens (if p.name ∈ (ps.take i).map Property.name ++ seen then []
        else tokens p.name) := by
  induction ps generalizing seen i with
  | nil => rfl
  | cons p ps ih =>
    cases i with
    | zero =>
      show some (if p.name ∈ seen then p else p.addTokens (tokens p.name)) =
        some (p.addTokens (if p.name ∈ seen then [] else tokens p.name))
      by_cases hseen : p.name ∈ seen
      · rw [if_pos hseen, if_pos hseen, Property.addTokens_nil]
      · rw [if_neg hseen, if_neg hseen]
    | succ i =>
      have hmem : ∀ q : Property, q.name ∈ (ps.take i).map Property.name ++ p.name :: seen ↔
          q.name ∈ ((p :: ps).take (i + 1)).map Property.name ++ seen := fun q => by
        rw [List.take_succ_cons, List.map_cons, List.mem_append, List.mem_cons, List.cons_append,
          List.mem_cons, List.mem_append, or_left_comm]
      rw [giveTokens, List.getElem?_cons_succ, List.getElem?_cons_succ, ih]
      congr 1
      funext q
      exact congrArg q.addTokens (ite_congr (propext (hmem q)) (fun _ => rfl) fun _ => rfl)

theorem addTokensTo_eq_giveTokens {name : String} (given : List String) (hname : name ∉ seen) :
    addTokensTo name given ps =
      giveTokens (fun n => if n = name then given else []) seen ps := by
  induction ps generalizing seen with
  | nil => rfl
  | cons p ps ih =>
    rw [addTokensTo, giveTokens]
    by_cases hp : p.name = name
    · have hrest : giveTokens (fun n => if n = name then given else []) (p.name :: seen) ps = ps :=
        giveTokens_eq_self fun n hn => if_neg fun heq =>
          hn (List.mem_cons.mpr (.inl (heq.trans hp.symm)))
      rw [if_pos (beq_iff_eq.mpr hp), if_neg (hp ▸ hname), if_pos hp, hrest]
    · have hhead : (if p.name ∈ seen then p
          else p.addTokens (if p.name = name then given else [])) = p := by
        rw [if_neg hp, Property.addTokens_nil, ite_self]
      have hnew : name ∉ p.name :: seen := fun hmem =>
        (List.mem_cons.mp hmem).elim (fun heq => hp heq.symm) hname
      rw [if_neg (by rw [beq_iff_eq]; exact hp), hhead, ih hnew]

end

/-- the first property of every name gets the tokens that its name has in the rules -/
theorem foldl_addTokensTo {rules : Rules} (hrules : (rules.map Prod.fst).Nodup)
    (ps : List Property) :
    rules.foldl (fun qs r => addTokensTo r.1 r.2 qs) ps = giveTokens (tokensFor rules) [] ps := by
  induction rules generalizing ps with
  | nil => exact (giveTokens_eq_self fun _ _ => rfl).symm
  | cons r rules ih =>
    obtain ⟨name, given⟩ := r
    have hnodup := List.nodup_cons.mp hrules
    rw [List.foldl_cons, ih hnodup.2, addTokensTo_eq_giveTokens given List.not_mem_nil,
      giveTokens_giveTokens]
    congr 1
    funext n
    rw [tokensFor_cons]
    by_cases hn : n = name
    · rw [if_pos hn, if_pos hn.symm, hn, tokensFor_of_not_mem hnodup.1, List.append_nil]
    · rw [if_neg hn, if_neg (Ne.symm hn), List.nil_append]

/-- the property with tokens behind its annotations; it is a key if one of them is the key token -/
def Property.withTokens (tokens : List String) (p : Property) : Property :=
  { p with attributes := p.attributes ++ tokens, isPrimaryKey := tokens.contains keyToken }

/-- the entity with the tokens that rules give to each of its properties -/
def withRules (rules : Rules) (e : Entity) : Entity :=
  { e with properties := e.properties.map fun p => p.withTokens (tokensFor rules p.name) }

theorem Property.addTokens_eq {p : Property} (hp : p.isPrimaryKey = false) (tokens : List String) :
    p.addTokens tokens = p.withTokens tokens := by
  rw [addTokens, withTokens, hp, Bool.false_or]

/-- the entity with rules, property by property -/
theorem addRules_eq {rules : Rules} (hrules : (rules.map Prod.fst).Nodup) {e : Entity}
    (he : (e.properties.map Property.name).Nodup) (hkeys : ∀ p ∈ e.properties, p.isPrimaryKey = false) :
    e.addRules rules = e.withRules rules := by
  rw [addRules, foldl_addTokensTo hrules, giveTokens_eq_map he fun _ _ => List.not_mem_nil, withRules,
    List.map_congr_left fun p hp => p.addTokens_eq (hkeys p hp) _]

theorem withRules_nil {e : Entity} (hkeys : ∀ p ∈ e.properties, p.isPrimaryKey = false) :
    e.withRules [] = e := by
  have hall : e.properties.map (fun p => p.withTokens (tokensFor [] p.name)) = e.properties := by
    refine (List.map_congr_left fun p hp => ?_).trans (List.map_id _)
    rw [← Property.addTokens_eq (hkeys p hp)]
    exact p.addTokens_nil
  rw [withRules, hall]

/-! ### Names -/

theorem map_name_addTokensTo (name : String) (tokens : List String) (ps : List Property) :
    (addTokensTo name tokens ps).map Property.name = ps.map Property.name := by
  induction ps with
  | nil => rfl
  | cons p ps ih =>
    rw [addTokensTo]
    split
    · rfl
    · rw [List.map_cons, ih, List.map_cons]

theorem propertyNames_addRules (rules : Rules) (e : Entity) :
    (e.addRules rules).propertyNames = e.propertyNames := by
  show (rules.foldl _ e.properties).map Property.name = e.properties.map Property.name
  induction rules generalizing e with
  | nil => rfl
  | cons r rules ih =>
    rw [List.foldl_cons, ← map_name_addTokensTo r.1 r.2 e.properties]
    exact ih { e with properties := addTokensTo r.1 r.2 e.properties }

theorem propertyNames_addRulesOf (rules : RuleMap) (e : Entity) :
    (addRulesOf rules e).propertyNames = e.propertyNames := by
  rw [addRulesOf]
  split
  · exact e.propertyNames_addRules _
  · rfl

end EndpointScaffold.Entity
