import EndpointScaffold.Proofs.Plain.Inner

/-!
# Phrases

A phrase is what is printed of a piece of source behind any blanks, with the part that is read from
it and the text of that part. Phrases are put together here:

* `Phrase.under` a phrase as the only part of a node;
* `Phrase.commas` phrases with commas between them, read by `listed`; `forall_mem_commaParts` what
  holds of all parts that they become;
* `Phrase.parens` the same in parentheses.
-/

namespace EndpointScaffold.CSharp.Plain

open Text Printed

structure Phrase where
  /-- what is printed behind blanks -/
  printed : String → List Printed
  part : String → Part
  text : String
  plain : ∀ gap, ∀ p ∈ printed gap, p.kind ≠ .stop ∧ p.comments = []
  legible : ∀ gap, gap.toList.all isSpace = true → Legible (printed gap)
  first : ∀ gap, (printed gap).head?.map Printed.gap = some gap
  opens : ∀ gap, ∀ p ∈ (printed gap).head?, (p.kind == .mark && p.text == ")") = false
  last : ∀ gap, ∀ p ∈ (printed gap).getLast?, p.closes = true
  chars : ∀ gap, (printed gap).flatMap Printed.chars = gap.toList ++ text.toList
  spells : ∀ gap, Spells [(part gap).tree] (printed gap)
  lead : ∀ gap, (part gap).lead = []
  inner : ∀ gap, (part gap).isInner = true

namespace Phrase

/-- what is printed of a phrase is read as its part, unless it goes on -/
def ReadBy (item : Reads Part) (b : Phrase) : Prop :=
  ∀ gap ts, Ends ts → item (tokensOf (b.printed gap) ++ ts) = some (b.part gap, ts)

theorem isBare (b : Phrase) {gap : String} (hgap : gap.toList.all isSpace = true) :
    IsBare (b.printed gap) := fun p hp => ⟨(b.legible gap hgap).1 p hp, b.plain gap p hp⟩

theorem text_as (b : Phrase) {gap : String} (hgap : gap.toList.all isSpace = true) (l : Label) :
    ((b.part gap).as l).tree.text = b.text :=
  textOfAll_of_spells ((spells_as l).mpr (b.spells gap)) (b.isBare hgap) (b.first gap) (b.chars gap)

theorem text_part (b : Phrase) {gap : String} (hgap : gap.toList.all isSpace = true) :
    (b.part gap).tree.text = b.text :=
  textOfAll_of_spells (b.spells gap) (b.isBare hgap) (b.first gap) (b.chars gap)

theorem printed_ne_nil (b : Phrase) (gap : String) : b.printed gap ≠ [] := by
  intro h
  have hfirst := b.first gap
  rw [h] at hfirst
  exact absurd hfirst (by simp)

/-- the phrase as the only part of a node -/
def under (kind : Kind) (hkind : (kind != .classDeclaration && !kind.isNamespace) = true)
    (b : Phrase) : Phrase where
  printed := b.printed
  part gap := .node kind [b.part gap]
  text := b.text
  plain := b.plain
  legible := b.legible
  first := b.first
  opens := b.opens
  last := b.last
  chars := b.chars
  spells gap := spells_node_parts (fun _ hp => List.mem_singleton.mp hp ▸ b.lead gap) (b.spells gap)
  lead := b.lead
  inner gap := Part.isInner_node hkind fun p hp => by
    rw [List.mem_singleton.mp hp]
    exact b.inner gap

theorem under_reads {item : Reads Part} {b : Phrase} (h : b.ReadBy item) (kind : Kind)
    (hkind : (kind != .classDeclaration && !kind.isNamespace) = true) :
    (b.under kind hkind).ReadBy (do pure (.node kind [← item])) := by
  intro gap ts hts
  show (item (tokensOf (b.printed gap) ++ ts)).bind _ = _
  rw [h gap ts hts]
  rfl

/-! ### Commas -/

/-- phrases with commas between them; the first stands behind `gap`, the others behind a blank -/
def commas : String → List Phrase → List Printed
  | _, [] => []
  | gap, [b] => b.printed gap
  | gap, b :: c :: bs => b.printed gap ++ sign "" "," :: commas " " (c :: bs)

def commaParts : String → List Phrase → List Part
  | _, [] => []
  | gap, [b] => [b.part gap]
  | gap, b :: c :: bs => b.part gap :: (sign "" ",").leaf .mark :: commaParts " " (c :: bs)

variable {gap : String} {bs : List Phrase}

theorem plain_commas (gap : String) (bs : List Phrase) :
    ∀ p ∈ commas gap bs, p.kind ≠ .stop ∧ p.comments = [] := by
  fun_induction commas gap bs with
  | case1 => exact fun p hp => absurd hp List.not_mem_nil
  | case2 gap b => exact b.plain gap
  | case3 gap b c bs ih =>
    intro p hp
    rw [List.mem_append, List.mem_cons] at hp
    rcases hp with hp | rfl | hp
    · exact b.plain gap p hp
    · exact ⟨by simp, rfl⟩
    · exact ih p hp

theorem first_commas (gap : String) (hne : bs ≠ []) :
    (commas gap bs).head?.map Printed.gap = some gap := by
  fun_cases commas gap bs with
  | case1 => exact absurd rfl hne
  | case2 gap b => exact b.first gap
  | case3 gap b c bs =>
    rw [List.head?_append_of_ne_nil _ (b.printed_ne_nil gap)]
    exact b.first gap

theorem opens_commas (gap : String) (bs : List Phrase) :
    ∀ p ∈ (commas gap bs).head?, (p.kind == .mark && p.text == ")") = false := by
  fun_cases commas gap bs with
  | case1 => exact fun p hp => absurd hp (by simp)
  | case2 gap b => exact b.opens gap
  | case3 gap b c bs =>
    rw [List.head?_append_of_ne_nil _ (b.printed_ne_nil gap)]
    exact b.opens gap

theorem commas_ne_nil (gap : String) (hne : bs ≠ []) : commas gap bs ≠ [] := by
  intro h
  have hfirst := first_commas gap hne
  rw [h] at hfirst
  exact absurd hfirst (by simp)

theorem last_commas (gap : String) (bs : List Phrase) :
    ∀ p ∈ (commas gap bs).getLast?, p.closes = true := by
  fun_induction commas gap bs with
  | case1 => exact fun p hp => absurd hp (by simp)
  | case2 gap b => exact b.last gap
  | case3 gap b c bs ih =>
    intro p hp
    rw [List.getLast?_append_of_ne_nil _ (List.cons_ne_nil _ _), List.getLast?_cons,
      Option.mem_some_iff] at hp
    refine ih p ?_
    rw [List.getLast?_eq_getLast_of_ne_nil (commas_ne_nil _ (List.cons_ne_nil c bs))] at hp ⊢
    simpa using hp

theorem legible_commas (hgap : gap.toList.all isSpace = true) (bs : List Phrase) :
    Legible (commas gap bs) := by
  fun_induction commas gap bs with
  | case1 => exact ⟨by simp, List.isChain_nil⟩
  | case2 gap b => exact b.legible gap hgap
  | case3 gap b c bs ih =>
    have htail := ih rfl
    obtain ⟨q, qs, hqs⟩ := List.exists_cons_of_ne_nil
      (commas_ne_nil " " (List.cons_ne_nil c bs))
    have hq : q.gap = " " := by
      have hfirst := first_commas " " (List.cons_ne_nil c bs)
      rw [hqs] at hfirst
      simpa using hfirst
    refine legible_append (b.legible gap hgap) ?_ ?_
    · rw [hqs] at htail ⊢
      exact legible_cons_cons.mpr
        ⟨fit_sign rfl rfl, before_of_blank hq, htail⟩
    · intro p hp r hr
      rw [List.head?_cons, Option.mem_some_iff] at hr
      subst hr
      exact before_closing (b.last gap p hp) (by decide)

theorem chars_commas (hne : bs ≠ []) :
    (commas gap bs).flatMap Printed.chars =
      gap.toList ++ (Text.join ", " (bs.map Phrase.text)).toList := by
  fun_induction commas gap bs with
  | case1 => exact absurd rfl hne
  | case2 gap b => rw [b.chars gap]; simp [Text.join]
  | case3 gap b c bs ih =>
    rw [List.flatMap_append, b.chars gap, List.flatMap_cons, ih (List.cons_ne_nil c bs)]
    simp [Text.join, chars_sign, String.intercalate_cons_cons]

/-- what holds of the parts of all phrases and of a comma -/
theorem forall_mem_commaParts {P : Part → Prop} (hparts : ∀ b ∈ bs, ∀ gap, P (b.part gap))
    (hcomma : P ((sign "" ",").leaf .mark)) (gap : String) : ∀ p ∈ commaParts gap bs, P p := by
  fun_induction commaParts gap bs with
  | case1 => exact fun p hp => absurd hp List.not_mem_nil
  | case2 gap b => exact List.forall_mem_singleton.2 (hparts b List.mem_cons_self gap)
  | case3 gap b c bs ih =>
    rw [List.forall_mem_cons, List.forall_mem_cons]
    exact ⟨hparts b List.mem_cons_self gap, hcomma,
      ih fun d hd => hparts d (List.mem_cons_of_mem b hd)⟩

theorem lead_commaParts (gap : String) (bs : List Phrase) :
    ∀ p ∈ commaParts gap bs, p.lead = [] :=
  forall_mem_commaParts (P := fun p => p.lead = []) (fun b _ => b.lead) rfl gap

theorem inner_commaParts (gap : String) (bs : List Phrase) :
    ∀ p ∈ commaParts gap bs, p.isInner = true :=
  forall_mem_commaParts (fun b _ => b.inner) (Part.isInner_leaf _ _) gap

theorem spells_commas (gap : String) (bs : List Phrase) :
    Spells ((commaParts gap bs).map Part.tree) (commas gap bs) := by
  fun_induction commas gap bs with
  | case1 => rfl
  | case2 gap b => exact b.spells gap
  | case3 gap b c bs ih =>
    exact spells_cons (b.spells gap) (spells_token (by simp) _ ih)

theorem commas_reads {item : Reads Part} (hne : bs ≠ []) (hitem : ∀ b ∈ bs, b.ReadBy item)
    (gap : String) (rest : List Token) (hrest : isMarkNext "," rest = some (false, rest))
    (hends : Ends rest) (fuel : Nat) (hfuel : bs.length ≤ fuel) :
    listed item fuel (tokensOf (commas gap bs) ++ rest) = some (commaParts gap bs, rest) := by
  fun_induction commas gap bs generalizing fuel with
  | case1 => exact absurd rfl hne
  | case2 gap b =>
    obtain ⟨n, rfl⟩ : ∃ n, fuel = n + 1 := ⟨fuel - 1, by simp at hfuel; omega⟩
    have hb := hitem b List.mem_cons_self gap rest hends
    simp [listed, hb, hrest, commaParts]
  | case3 gap b c bs ih =>
    obtain ⟨n, rfl⟩ : ∃ n, fuel = n + 1 := ⟨fuel - 1, by simp at hfuel; omega⟩
    have htail := ih (List.cons_ne_nil c bs) (fun d hd => hitem d (List.mem_cons_of_mem b hd)) n
      (by simpa using hfuel)
    have hb := hitem b List.mem_cons_self gap _ (ends_cons (p := sign "" ",")
      (fun _ => by decide) (tokensOf (commas " " (c :: bs)) ++ rest))
    rw [tokensOf, List.map_append, List.append_assoc, List.map_cons, List.cons_append, listed,
      bind_reads, hb]
    simp [htail, commaParts]

theorem length_le_commas (gap : String) (bs : List Phrase) :
    bs.length ≤ (commas gap bs).length := by
  fun_induction commas gap bs with
  | case1 => exact Nat.le_refl 0
  | case2 gap b => exact List.length_pos_of_ne_nil (b.printed_ne_nil gap)
  | case3 gap b c bs ih =>
    have hb := List.length_pos_of_ne_nil (b.printed_ne_nil gap)
    simp only [List.length_append, List.length_cons] at ih ⊢
    omega

theorem exists_length_le_commas {b : Phrase} {bs : List Phrase} (hb : b ∈ bs) (gap : String) :
    ∃ g, (b.printed g).length ≤ (commas gap bs).length := by
  fun_induction commas gap bs with
  | case1 => exact absurd hb List.not_mem_nil
  | case2 gap c =>
    rw [List.mem_singleton.mp hb]
    exact ⟨gap, Nat.le_refl _⟩
  | case3 gap c d bs ih =>
    rcases List.mem_cons.mp hb with rfl | hb
    · exact ⟨gap, by rw [List.length_append]; omega⟩
    · obtain ⟨g, hg⟩ := ih hb
      exact ⟨g, by rw [List.length_append, List.length_cons]; omega⟩

/-! ### Parentheses -/

def parens (bs : List Phrase) : Phrase where
  printed gap := sign gap "(" :: commas "" bs ++ [sign "" ")"]
  part gap := .node .other
    ((sign gap "(").leaf .mark :: commaParts "" bs ++ [(sign "" ")").leaf .mark])
  text := "(" ++ Text.join ", " (bs.map Phrase.text) ++ ")"
  plain gap := by
    intro p hp
    rw [List.cons_append, List.mem_cons, List.mem_append, List.mem_singleton] at hp
    rcases hp with rfl | hp | rfl
    · exact ⟨by simp, rfl⟩
    · exact plain_commas "" bs p hp
    · exact ⟨by simp, rfl⟩
  legible gap hgap := by
    refine legible_cons.mpr ⟨fit_sign hgap rfl, fun q _ => before_any (by decide) q, ?_⟩
    refine legible_append (legible_commas rfl bs) (legible_singleton.mpr (fit_sign rfl rfl)) ?_
    intro p hp q hq
    obtain rfl : sign "" ")" = q := by simpa using hq
    exact before_closing (last_commas "" bs p hp) (by decide)
  first gap := rfl
  opens gap := by
    intro p hp
    obtain rfl : sign gap "(" = p := by simpa using hp
    rfl
  last gap := by
    intro p hp
    rw [List.getLast?_append_of_ne_nil _ (List.cons_ne_nil _ _)] at hp
    obtain rfl : sign "" ")" = p := by simpa using hp
    rfl
  chars gap := by
    cases bs with
    | nil => simp [commas, chars_sign, Text.join]
    | cons b bs =>
      rw [List.cons_append, List.flatMap_cons, List.flatMap_append,
        chars_commas (List.cons_ne_nil b bs)]
      simp [chars_sign]
  spells gap := by
    refine spells_node_parts ?_ ?_
    · intro p hp
      rw [List.cons_append, List.mem_cons, List.mem_append, List.mem_singleton] at hp
      rcases hp with rfl | hp | rfl
      · rfl
      · exact lead_commaParts "" bs p hp
      · rfl
    · rw [List.cons_append, List.map_cons, List.map_append, List.cons_append]
      exact spells_token (by simp) _ (spells_append (spells_commas "" bs)
        (spells_token (by simp) _ spells_nil))
  lead gap := rfl
  inner gap := by
    refine Part.isInner_node rfl fun p hp => ?_
    rw [List.cons_append, List.mem_cons, List.mem_append, List.mem_singleton] at hp
    rcases hp with rfl | hp | rfl
    · exact Part.isInner_leaf _ _
    · exact inner_commaParts "" bs p hp
    · exact Part.isInner_leaf _ _

theorem parens_reads {item : Reads Part} (hitem : ∀ b ∈ bs, b.ReadBy item) (gap : String)
    (ts : List Token) {fuel : Nat} (hfuel : bs.length ≤ fuel) :
    parenthesized item fuel (tokensOf ((parens bs).printed gap) ++ ts) =
      some ((parens bs).part gap, ts) := by
  have hsplit : tokensOf ((parens bs).printed gap) ++ ts
      = (sign gap "(").token :: (tokensOf (commas "" bs) ++ (sign "" ")").token :: ts) := by
    simp [parens]
  rw [hsplit]
  cases bs with
  | nil => simp [parenthesized, commas, parens, commaParts]
  | cons b bs =>
    have hinner := commas_reads (List.cons_ne_nil b bs) hitem "" ((sign "" ")").token :: ts)
      (by simp) (ends_cons (fun _ => by decide) ts) fuel hfuel
    obtain ⟨p, ps, hps⟩ := List.exists_cons_of_ne_nil
      (commas_ne_nil "" (List.cons_ne_nil b bs))
    have hp : (p.kind == .mark && p.text == ")") = false := by
      refine opens_commas "" (b :: bs) p ?_
      rw [hps]
      rfl
    rw [hps] at hinner ⊢
    simp only [tokensOf, List.map_cons, List.cons_append] at hinner ⊢
    simp [parenthesized, hp, hinner, parens]

end Phrase

end EndpointScaffold.CSharp.Plain
