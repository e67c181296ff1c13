import EndpointScaffold.Fluent.Rules

/-!
# Accumulation of rules

Rules are looked up by the names of properties, and no name has two entries.

* `lookup_eq_of_perm` entries in another order;
* `Rules.lookup_extend` more tokens for one property leave all others alone;
* `Rules.lookup_foldl` many additions give every property its tokens one behind the other;
* `RuleMap.lookup_put` new rules take the place of the old ones.
-/

namespace EndpointScaffold.Fluent

theorem lookup_cons_eq {β : Type} (n : String) (b : β) (l : List (String × β)) (m : String) :
    ((n, b) :: l).lookup m = if n = m then some b else l.lookup m := by
  rw [List.lookup_cons]
  by_cases h : n = m
  · rw [if_pos h, h, beq_self_eq_true]
  · rw [if_neg h, beq_false_of_ne (Ne.symm h)]

theorem lookup_eq_none_of_not_mem {β : Type} {l : List (String × β)} {n : String}
    (h : n ∉ l.map Prod.fst) : l.lookup n = none := by
  rw [List.lookup_eq_none_iff]
  intro r hr
  rw [bne_iff_ne]
  exact fun heq => h (heq ▸ List.mem_map_of_mem hr)

theorem lookup_eq_some_iff_mem {β : Type} {l : List (String × β)} (h : (l.map Prod.fst).Nodup)
    {n : String} {b : β} : l.lookup n = some b ↔ (n, b) ∈ l := by
  induction l with
  | nil => simp
  | cons r l ih =>
    obtain ⟨m, c⟩ := r
    have hnodup := List.nodup_cons.mp h
    rw [lookup_cons_eq, List.mem_cons, Prod.mk.injEq]
    by_cases hm : m = n
    · have hnot : (n, b) ∉ l := fun hmem =>
        hnodup.1 (List.mem_map.mpr ⟨(n, b), hmem, hm.symm⟩)
      rw [if_pos hm, Option.some.injEq, or_iff_left hnot]
      exact ⟨fun hc => ⟨hm.symm, hc.symm⟩, fun hb => hb.2.symm⟩
    · rw [if_neg hm, ih hnodup.2, or_iff_right fun hn => hm hn.1.symm]

/-- the order of entries does not matter as long as no name has two -/
theorem lookup_eq_of_perm {β : Type} {l l' : List (String × β)} (h : (l.map Prod.fst).Nodup)
    (hperm : l.Perm l') (n : String) : l.lookup n = l'.lookup n := by
  have h' : (l'.map Prod.fst).Nodup := (hperm.map Prod.fst).nodup_iff.mp h
  ext b
  rw [lookup_eq_some_iff_mem h, lookup_eq_some_iff_mem h', hperm.mem_iff]

/-- tokens that additions give to one property, in their order -/
def tokensGiven (m : String) (given : List (String × List String)) : List String :=
  given.flatMap fun g => if g.1 = m then g.2 else []

theorem tokensGiven_cons (m : String) (g : String × List String)
    (given : List (String × List String)) :
    tokensGiven m (g :: given) = (if g.1 = m then g.2 else []) ++ tokensGiven m given :=
  List.flatMap_cons

theorem tokensGiven_eq_nil {m : String} {given : List (String × List String)}
    (h : m ∉ given.map Prod.fst) : tokensGiven m given = [] := by
  rw [tokensGiven, List.flatMap_eq_nil_iff]
  intro g hg
  exact if_neg fun (heq : g.1 = m) => h (heq ▸ List.mem_map_of_mem hg)

namespace Rules

theorem lookup_extend (name : String) (tokens : List String) (rules : Rules) (m : String) :
    (Rules.extend name tokens rules).lookup m =
      if name = m then some ((rules.lookup m).getD [] ++ tokens) else rules.lookup m := by
  induction rules with
  | nil => exact lookup_cons_eq name tokens [] m
  | cons r rules ih =>
    obtain ⟨n, ts⟩ := r
    rw [lookup_cons_eq]
    by_cases hn : n = name
    · subst hn
      rw [Rules.extend, if_pos (beq_self_eq_true n), lookup_cons_eq]
      by_cases hm : n = m
      · rw [if_pos hm, if_pos hm, if_pos hm, Option.getD_some]
      · rw [if_neg hm, if_neg hm, if_neg hm]
    · rw [Rules.extend, if_neg (by rw [beq_iff_eq]; exact hn), lookup_cons_eq, ih]
      by_cases hm : n = m
      · rw [if_pos hm, if_pos hm, if_neg fun h => hn (hm.trans h.symm)]
      · rw [if_neg hm, if_neg hm]

theorem mem_keys_extend {name : String} {tokens : List String} {rules : Rules} {m : String} :
    m ∈ (Rules.extend name tokens rules).map Prod.fst ↔ m = name ∨ m ∈ rules.map Prod.fst := by
  induction rules with
  | nil => simp [Rules.extend]
  | cons r rules ih =>
    obtain ⟨n, ts⟩ := r
    by_cases hn : n = name
    · subst hn
      rw [Rules.extend, if_pos (beq_self_eq_true n), List.map_cons, List.map_cons, List.mem_cons]
      exact ⟨.inr, fun h => h.elim .inl id⟩
    · rw [Rules.extend, if_neg (by rw [beq_iff_eq]; exact hn), List.map_cons, List.map_cons,
        List.mem_cons, List.mem_cons, ih]
      exact or_left_comm

theorem nodup_extend (name : String) (tokens : List String) {rules : Rules}
    (h : (rules.map Prod.fst).Nodup) : ((Rules.extend name tokens rules).map Prod.fst).Nodup := by
  induction rules with
  | nil => exact List.nodup_cons.mpr ⟨List.not_mem_nil, List.nodup_nil⟩
  | cons r rules ih =>
    obtain ⟨n, ts⟩ := r
    have hrest := List.nodup_cons.mp h
    by_cases hn : n = name
    · rw [Rules.extend, if_pos (by rw [beq_iff_eq]; exact hn)]
      exact h
    · rw [Rules.extend, if_neg (by rw [beq_iff_eq]; exact hn), List.map_cons, List.nodup_cons]
      refine ⟨fun hmem => ?_, ih hrest.2⟩
      rcases mem_keys_extend.mp hmem with rfl | hmem
      · exact hn rfl
      · exact hrest.1 hmem

/-- every property gets what is given to it, behind what it has -/
theorem lookup_foldl (given : List (String × List String)) (rules : Rules) (m : String) :
    (given.foldl (fun rs g => Rules.extend g.1 g.2 rs) rules).lookup m =
      if m ∈ given.map Prod.fst then some ((rules.lookup m).getD [] ++ tokensGiven m given)
      else rules.lookup m := by
  induction given generalizing rules with
  | nil => rfl
  | cons g given ih =>
    rw [List.foldl_cons, ih, lookup_extend, List.map_cons, tokensGiven_cons]
    by_cases hg : g.1 = m
    · rw [if_pos hg, if_pos hg, if_pos (List.mem_cons.mpr (.inl hg.symm)), ← List.append_assoc]
      by_cases hmem : m ∈ given.map Prod.fst
      · rw [if_pos hmem, Option.getD_some]
      · rw [if_neg hmem, tokensGiven_eq_nil hmem, List.append_nil]
    · rw [if_neg hg, if_neg hg, List.nil_append]
      by_cases hmem : m ∈ given.map Prod.fst
      · rw [if_pos hmem, if_pos (List.mem_cons_of_mem _ hmem)]
      · rw [if_neg hmem, if_neg fun h => (List.mem_cons.mp h).elim (fun h => hg h.symm) hmem]

theorem nodup_foldl (given : List (String × List String)) {rules : Rules}
    (h : (rules.map Prod.fst).Nodup) :
    ((given.foldl (fun rs g => Rules.extend g.1 g.2 rs) rules).map Prod.fst).Nodup := by
  induction given generalizing rules with
  | nil => exact h
  | cons g given ih => exact ih (nodup_extend g.1 g.2 h)

end Rules

/-- rules of chains have one entry for each property -/
theorem nodup_rulesOf (chains : List CSharp.Chain) : ((rulesOf chains).map Prod.fst).Nodup :=
  Rules.nodup_foldl _ List.nodup_nil

theorem nodup_of_ofSource {builder source entity : String} {rules : Rules}
    (h : (ofSource builder source).value = some (entity, rules)) :
    (rules.map Prod.fst).Nodup := by
  rw [ofSource, ofTree] at h
  split at h
  · cases h
  · next c e _ =>
    cases hbody : c.methodBody? "Configure" with
    | none =>
      rw [hbody] at h
      cases h
    | some body =>
      rw [hbody] at h
      obtain ⟨-, rfl⟩ := Prod.mk.inj (Option.some.inj h)
      exact nodup_rulesOf _

theorem RuleMap.lookup_put (entity : String) (rules : Rules) (map : RuleMap) (e : String) :
    (RuleMap.put entity rules map).lookup e = if entity = e then some rules else map.lookup e := by
  induction map with
  | nil => exact lookup_cons_eq entity rules [] e
  | cons r map ih =>
    obtain ⟨n, rs⟩ := r
    rw [lookup_cons_eq]
    by_cases hn : n = entity
    · subst hn
      rw [RuleMap.put, if_pos (beq_self_eq_true n), lookup_cons_eq]
      by_cases he : n = e
      · rw [if_pos he, if_pos he]
      · rw [if_neg he, if_neg he, if_neg he]
    · rw [RuleMap.put, if_neg (by rw [beq_iff_eq]; exact hn), lookup_cons_eq, ih]
      by_cases he : n = e
      · rw [if_pos he, if_pos he, if_neg fun h => hn (he.trans h.symm)]
      · rw [if_neg he, if_neg he]

end EndpointScaffold.Fluent
