import EndpointScaffold.Proofs.Plain.TypeForm

/-!
# Calls on paper

A call on paper has literals and selectors as arguments. A selector is a lambda with the parameter
`x` that picks one member, or several by an anonymous object. Calls follow each other in a chain: a
link is a point, the name of what is called, and its arguments. Each link takes the part before it in.

* `Argument.phrase` arguments, `Argument.phrase_reads` what is read of them;
* `Link.part` the part up to a link, `links_reads` what is read of a run of links.
-/

namespace EndpointScaffold.CSharp.Plain

open Text Printed

/-! ### Selectors -/

/-- a member of the parameter -/
def access (m : Name) : Phrase where
  printed gap := [term gap "x", sign "" ".", term "" m.text]
  part gap := .node .memberAccess [(term gap "x").name.as .expression, (sign "" ".").leaf .mark,
    (term "" m.text).name.as .name]
  text := "x." ++ m.text
  plain gap := by simp [term, sign]
  legible gap hgap := by
    rw [legible_cons_cons, legible_cons_cons, legible_singleton]
    exact ⟨fit_term hgap rfl, before_sign_of_word rfl (c := '.') rfl (by decide), fit_sign rfl rfl,
      before_name rfl m, fit_name rfl m⟩
  first gap := rfl
  opens gap := by simp
  last gap := by simp [closes, term]
  chars gap := by simp [chars_term, chars_sign]
  spells gap := rfl
  lead gap := rfl
  inner gap := rfl

theorem chain_access (m : Name) (fuel : Nat) : (access m).ReadBy (chain (fuel + 3)) := by
  intro gap ts hts
  have hpoint := isMarkNext_of_ends "." (by decide) hts
  have hcall := isMarkNext_of_ends "(" (by decide) hts
  have hname : isName "x" = true := by decide
  simp [access, chain, links, hpoint, hcall, hname, m.isName_text]

theorem guarded_access (m : Name) (fuel : Nat) :
    (access m).ReadBy (guarded isAccess (chain (fuel + 3))) := by
  intro gap ts hts
  have hread := chain_access m fuel gap ts hts
  have haccess : isAccess ((access m).part gap) = true := rfl
  simp [guarded, hread, haccess]

theorem expression_access (m : Name) (fuel : Nat) :
    (access m).ReadBy (expression (fuel + 4)) := by
  intro gap ts hts
  have hread := chain_access m fuel gap ts hts
  have hx : isBoolean "x" = false := by decide
  simp only [access, tokensOf, List.map_cons, List.map_nil, List.cons_append,
    List.nil_append] at hread ⊢
  rw [expression]
  simp [isLiteralNext, hx, hread]

/-- an anonymous object of members -/
def picked (m : Name) (ms : List Name) : Phrase where
  printed gap := term gap "new" :: sign " " "\x7b" :: Phrase.commas " " ((m :: ms).map access)
    ++ [sign " " "\x7d"]
  part gap := .node .other ((term gap "new").leaf .mark :: (sign " " "\x7b").leaf .mark ::
    Phrase.commaParts " " ((m :: ms).map access) ++ [(sign " " "\x7d").leaf .mark])
  text := "new \x7b " ++ Text.join ", " (((m :: ms).map access).map Phrase.text) ++ " \x7d"
  plain gap := by
    intro p hp
    simp only [List.cons_append, List.mem_cons, List.mem_append, List.not_mem_nil, or_false] at hp
    rcases hp with rfl | rfl | hp | rfl
    · exact ⟨by simp, rfl⟩
    · exact ⟨by simp, rfl⟩
    · exact Phrase.plain_commas " " _ p hp
    · exact ⟨by simp, rfl⟩
  legible gap hgap := by
    refine legible_cons.mpr ⟨fit_term hgap rfl, ?_, ?_⟩
    · intro q hq
      obtain rfl : sign " " "\x7b" = q := by simpa using hq
      exact before_of_blank rfl
    refine legible_cons.mpr ⟨fit_sign rfl rfl, fun q _ => before_any (by decide) q, ?_⟩
    refine legible_append (Phrase.legible_commas rfl _) (legible_singleton.mpr (fit_sign rfl rfl)) ?_
    intro p _ q hq
    obtain rfl : sign " " "\x7d" = q := by simpa using hq
    exact before_of_blank rfl
  first gap := rfl
  opens gap := by simp
  last gap := by
    intro p hp
    rw [List.getLast?_append_of_ne_nil _ (List.cons_ne_nil _ _)] at hp
    obtain rfl : sign " " "\x7d" = p := by simpa using hp
    rfl
  chars gap := by
    rw [List.cons_append, List.cons_append, List.flatMap_cons, List.flatMap_cons,
      List.flatMap_append, Phrase.chars_commas (by simp)]
    simp [chars_sign, chars_term]
  spells gap := by
    refine spells_node_parts ?_ ?_
    · intro p hp
      simp only [List.cons_append, List.mem_cons, List.mem_append, List.not_mem_nil, or_false] at hp
      rcases hp with rfl | rfl | hp | rfl
      · rfl
      · rfl
      · exact Phrase.lead_commaParts " " _ p hp
      · rfl
    · rw [List.cons_append, List.cons_append, List.map_cons, List.map_cons, List.map_append,
        List.cons_append, List.cons_append]
      exact spells_token (by simp) _ (spells_token (by simp) _
        (spells_append (Phrase.spells_commas " " _) (spells_token (by simp) _ spells_nil)))
  lead gap := rfl
  inner gap := by
    refine Part.isInner_node rfl fun p hp => ?_
    simp only [List.cons_append, List.mem_cons, List.mem_append, List.not_mem_nil, or_false] at hp
    rcases hp with rfl | rfl | hp | rfl
    · exact Part.isInner_leaf _ _
    · exact Part.isInner_leaf _ _
    · exact Phrase.inner_commaParts " " _ p hp
    · exact Part.isInner_leaf _ _

theorem anonymousObject_picked (m : Name) (ms : List Name) {fuel : Nat}
    (hfuel : ms.length + 4 ≤ fuel) : (picked m ms).ReadBy (anonymousObject fuel) := by
  obtain ⟨n, rfl⟩ : ∃ n, fuel = n + 4 := ⟨fuel - 4, by omega⟩
  intro gap ts _
  have hitem : ∀ b ∈ (m :: ms).map access, b.ReadBy (guarded isAccess (chain (n + 3))) := by
    intro b hb
    obtain ⟨k, -, rfl⟩ := List.mem_map.mp hb
    exact guarded_access k n
  have hinner := Phrase.commas_reads (by simp) hitem " " ((sign " " "\x7d").token :: ts) (by simp)
    (ends_cons (fun _ => by decide) ts) (n + 3) (by simp; omega)
  have hsplit : tokensOf ((picked m ms).printed gap) ++ ts
      = (term gap "new").token :: (sign " " "\x7b").token ::
        (tokensOf (Phrase.commas " " ((m :: ms).map access)) ++ (sign " " "\x7d").token :: ts) := by
    simp [picked]
  rw [hsplit, anonymousObject]
  simp only [List.map_cons] at hinner
  simp [hinner, picked]

/-- a lambda with the parameter `x` -/
def lambda (body : Phrase) : Phrase where
  printed gap := term gap "x" :: sign " " "=>" :: body.printed " "
  part gap := .node .other [.node .other [(term gap "x").leaf .hidden], (sign " " "=>").leaf .mark,
    (body.part " ").as .body]
  text := "x => " ++ body.text
  plain gap := by
    intro p hp
    simp only [List.mem_cons] at hp
    rcases hp with rfl | rfl | hp
    · exact ⟨by simp, rfl⟩
    · exact ⟨by simp, rfl⟩
    · exact body.plain " " p hp
  legible gap hgap := by
    refine legible_cons_cons.mpr ⟨fit_term hgap rfl, before_of_blank rfl,
      legible_cons.mpr ⟨fit_sign rfl rfl, ?_, body.legible " " rfl⟩⟩
    intro q hq
    have hfirst := body.first " "
    rw [Option.mem_def.mp hq] at hfirst
    obtain hgap' : q.gap = " " := by simpa using hfirst
    exact before_of_blank hgap'
  first gap := rfl
  opens gap := by simp
  last gap := by
    intro p hp
    obtain ⟨q, qs, hqs⟩ := List.exists_cons_of_ne_nil (body.printed_ne_nil " ")
    refine body.last " " p ?_
    rw [hqs] at hp ⊢
    simpa using hp
  chars gap := by
    rw [List.flatMap_cons, List.flatMap_cons, body.chars]
    simp [chars_sign, chars_term]
  spells gap := by
    refine spells_node_parts ?_ ?_
    · intro p hp
      simp only [List.mem_cons, List.not_mem_nil, or_false] at hp
      rcases hp with rfl | rfl | rfl
      · rfl
      · rfl
      · exact body.lead " "
    · exact spells_token (p := term gap "x") (by simp) .hidden (spells_token (by simp) .mark
        ((spells_as .body).mpr (body.spells " ")))
  lead gap := rfl
  inner gap := by
    refine Part.isInner_node rfl fun p hp => ?_
    simp only [List.mem_cons, List.not_mem_nil, or_false] at hp
    rcases hp with rfl | rfl | rfl
    · rfl
    · exact Part.isInner_leaf _ _
    · rw [Part.isInner_as]
      exact body.inner " "

/-! ### Arguments -/

inductive Argument where
  | literal (l : Literal)
  /-- `x => x.M` -/
  | member (m : Name)
  /-- `x => new { x.M, … }` -/
  | members (m : Name) (ms : List Name)

namespace Argument

def phrase : Argument → Phrase
  | literal l => l.phrase
  | member m => lambda (access m)
  | members m ms => lambda (picked m ms)

/-- enough fuel to read an argument -/
def size : Argument → Nat
  | literal _ => 1
  | member _ => 5
  | members _ ms => ms.length + 5

theorem lambda_member (m : Name) (fuel : Nat) :
    (lambda (access m)).ReadBy (expression (fuel + 5)) := by
  intro gap ts hts
  have hbody := expression_access m fuel " " ts hts
  have hx : isBoolean "x" = false := by decide
  have hname : isName "x" = true := by decide
  simp only [access, lambda, tokensOf, List.map_cons, List.map_nil, List.cons_append,
    List.nil_append] at hbody ⊢
  rw [expression]
  simp [isLiteralNext, hx, hname, hbody]

theorem lambda_picked (m : Name) (ms : List Name) {fuel : Nat} (hfuel : ms.length + 5 ≤ fuel) :
    (lambda (picked m ms)).ReadBy (expression fuel) := by
  obtain ⟨n, rfl⟩ : ∃ n, fuel = n + 1 := ⟨fuel - 1, by omega⟩
  intro gap ts hts
  have hbody := anonymousObject_picked m ms (by omega : ms.length + 4 ≤ n) " " ts hts
  have hx : isBoolean "x" = false := by decide
  have hname : isName "x" = true := by decide
  obtain ⟨ps, hps⟩ : ∃ ps, (picked m ms).printed " " = term " " "new" :: ps := ⟨_, rfl⟩
  rw [hps] at hbody
  simp only [lambda, hps, tokensOf, List.map_cons, List.cons_append] at hbody ⊢
  rw [expression]
  simp [isLiteralNext, hx, hname, hbody]

theorem phrase_reads (a : Argument) {fuel : Nat} (hfuel : a.size ≤ fuel) :
    a.phrase.ReadBy (expression fuel) := by
  cases a with
  | literal l =>
    obtain ⟨n, rfl⟩ : ∃ n, fuel = n + 1 := ⟨fuel - 1, by rw [size] at hfuel; omega⟩
    intro gap ts hts
    have hnext := l.isLiteralNext_printed gap ts
    have hread := l.phrase_reads gap ts hts
    show expression (n + 1) (tokensOf (l.printed gap) ++ ts) = some (l.part gap, ts)
    rw [expression, bind_reads, hnext]
    exact hread
  | member m =>
    obtain ⟨n, rfl⟩ : ∃ n, fuel = n + 5 := ⟨fuel - 5, by rw [size] at hfuel; omega⟩
    exact lambda_member m n
  | members m ms => exact lambda_picked m ms (by rw [size] at hfuel; omega)

end Argument

/-! ### Sizes -/

theorem Argument.size_le (a : Argument) (gap : String) : a.size ≤ (a.phrase.printed gap).length := by
  cases a with
  | literal l => exact List.length_pos_of_ne_nil (l.phrase.printed_ne_nil gap)
  | member m => exact Nat.le_refl 5
  | members m ms =>
    have hlength := Phrase.length_le_commas " " ((m :: ms).map access)
    rw [List.length_map, List.length_cons] at hlength
    show ms.length + 5 ≤ (term gap "x" :: sign " " "=>" :: (picked m ms).printed " ").length
    simp only [picked, List.length_cons, List.length_append, List.length_nil]
    omega

/-! ### Links -/

/-- one call of a chain -/
structure Link where
  name : Name
  arguments : List Argument

namespace Link

def argumentPhrases (l : Link) : List Phrase := l.arguments.map fun a => a.phrase.under .argument rfl

def call (l : Link) : Phrase := Phrase.parens l.argumentPhrases

def text (l : Link) : String := l.name.text ++ l.call.text

def printed (l : Link) : List Printed := sign "" "." :: term "" l.name.text :: l.call.printed ""

def accessPart (l : Link) (left : Part) : Part :=
  .node .memberAccess [left.as .expression, (sign "" ".").leaf .mark,
    (term "" l.name.text).name.as .name]

def part (left : Part) (l : Link) : Part :=
  .node .invocation [(l.accessPart left).as .function, (l.call.part "").as .arguments]

end Link

/-! ### Reading -/

theorem Link.isInner_part (l : Link) {left : Part} (h : left.isInner = true) :
    (l.part left).isInner = true := by
  have haccess : (l.accessPart left).isInner = true := by
    refine Part.isInner_node rfl fun p hp => ?_
    simp only [List.mem_cons, List.not_mem_nil, or_false] at hp
    rcases hp with rfl | rfl | rfl
    · rw [Part.isInner_as]
      exact h
    · exact Part.isInner_leaf _ _
    · rw [Part.isInner_as]
      exact Printed.isInner_name _
  refine Part.isInner_node rfl fun p hp => ?_
  simp only [List.mem_cons, List.not_mem_nil, or_false] at hp
  rcases hp with rfl | rfl
  · rw [Part.isInner_as]
    exact haccess
  · rw [Part.isInner_as]
    exact l.call.inner ""

theorem Link.isInner_links (ls : List Link) {left : Part} (h : left.isInner = true) :
    (ls.foldl Link.part left).isInner = true := by
  induction ls generalizing left with
  | nil => exact h
  | cons l ls ih => exact ih (l.isInner_part h)

/-- comments before a chain stay before all of it -/
theorem Link.lead_links (ls : List Link) (left : Part) :
    (ls.foldl Link.part left).lead = left.lead := by
  induction ls generalizing left with
  | nil => rfl
  | cons l ls ih => exact ih (l.part left)

theorem call_reads (l : Link) (ts : List Token) {fuel : Nat}
    (hfuel : (l.call.printed "").length ≤ fuel) :
    arguments fuel (tokensOf (l.call.printed "") ++ ts) = some (l.call.part "", ts) := by
  have hcall : (l.call.printed "").length
      = (Phrase.commas "" l.argumentPhrases).length + 2 := by
    simp [Link.call, Phrase.parens]
  have hlength := Phrase.length_le_commas "" l.argumentPhrases
  obtain ⟨n, rfl⟩ : ∃ n, fuel = n + 2 := ⟨fuel - 2, by omega⟩
  rw [arguments]
  refine Phrase.parens_reads ?_ "" ts (by omega)
  intro b hb
  obtain ⟨a, ha, rfl⟩ := List.mem_map.mp hb
  obtain ⟨g, hg⟩ := Phrase.exists_length_le_commas hb ""
  have hsize : a.size ≤ n := by
    have := a.size_le g
    have : (a.phrase.printed g).length = ((a.phrase.under .argument rfl).printed g).length := rfl
    omega
  exact Phrase.under_reads (a.phrase_reads hsize) .argument rfl

/-- links behind a part are read as calls of it, one around the other -/
theorem links_reads (ls : List Link) (left : Part) {ts : List Token} (hts : Ends ts) {fuel : Nat}
    (hfuel : (ls.flatMap Link.printed).length < fuel) :
    links fuel left (tokensOf (ls.flatMap Link.printed) ++ ts) =
      some (ls.foldl Link.part left, ts) := by
  induction ls generalizing left fuel with
  | nil =>
    obtain ⟨n, rfl⟩ : ∃ n, fuel = n + 1 := ⟨fuel - 1, by simp at hfuel; omega⟩
    have hpoint := isMarkNext_of_ends "." (by decide) hts
    have hcall := isMarkNext_of_ends "(" (by decide) hts
    simp [links, hpoint, hcall]
  | cons l ls ih =>
    rw [List.flatMap_cons, List.length_append, Link.printed, List.length_cons,
      List.length_cons] at hfuel
    obtain ⟨n, rfl⟩ : ∃ n, fuel = n + 2 := ⟨fuel - 2, by omega⟩
    have hcall := call_reads l (tokensOf (ls.flatMap Link.printed) ++ ts)
      (by omega : (l.call.printed "").length ≤ n)
    have htail := ih (l.part left) (by omega : (ls.flatMap Link.printed).length < n)
    obtain ⟨ps, hps⟩ : ∃ ps, l.call.printed "" = sign "" "(" :: ps := ⟨_, rfl⟩
    rw [hps] at hcall
    simp only [List.flatMap_cons, Link.printed, hps, tokensOf, List.map_append, List.map_cons,
      List.cons_append, List.append_assoc] at hcall htail ⊢
    rw [links]
    simp [l.name.isName_text]
    rw [links]
    simp [hcall]
    exact htail

end EndpointScaffold.CSharp.Plain
