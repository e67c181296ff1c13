import EndpointScaffold.CSharp.Plain.Declaration
import EndpointScaffold.Proofs.Plain.Adjacency

/-!
# Reading phrases

What the readers of plain source make of printed tokens. A reader leaves off where nothing follows
that would continue what it has read (`Ends`).

* the readers of single tokens, as rules for `simp`;
* `repeated_reads` items as long as one can begin.
-/

namespace EndpointScaffold.CSharp.Plain

open Text

variable {α β : Type}

/-! ### Readers -/

@[simp] theorem bind_reads (x : Reads α) (f : α → Reads β) (ts : List Token) :
    (x >>= f) ts = (x ts).bind fun r => f r.1 r.2 := rfl

@[simp] theorem map_reads (f : α → β) (x : Reads α) (ts : List Token) :
    (f <$> x) ts = (x ts).bind fun r => some (f r.1, r.2) := rfl

@[simp] theorem pure_reads (a : α) (ts : List Token) : (pure a : Reads α) ts = some (a, ts) := rfl

@[simp] theorem get_reads (ts : List Token) : (get : Reads (List Token)) ts = some (ts, ts) := rfl

@[simp] theorem ite_reads (c : Prop) [Decidable c] (x y : Reads α) (ts : List Token) :
    (if c then x else y) ts = if c then x ts else y ts := by
  split <;> rfl

/-! ### Single tokens -/

namespace Printed

@[simp] theorem kind_sign (gap text : String) : (sign gap text).kind = .mark := rfl

@[simp] theorem text_sign (gap text : String) : (sign gap text).text = text := rfl

@[simp] theorem kind_term (gap text : String) : (term gap text).kind = .word := rfl

@[simp] theorem text_term (gap text : String) : (term gap text).text = text := rfl

@[simp] theorem kind_behind (cs : List Comment) (p : Printed) : (p.behind cs).kind = p.kind := rfl

@[simp] theorem text_behind (cs : List Comment) (p : Printed) : (p.behind cs).text = p.text := rfl

def leaf (p : Printed) (kind : Kind) : Part := p.token.leaf kind

@[simp] theorem leaf_token (p : Printed) (kind : Kind) : p.token.leaf kind = p.leaf kind := rfl

def name (p : Printed) : Part := .node .identifier [p.leaf .hidden]

end Printed

section
variable {p : Printed} {kind : TokenKind} {test : String → Bool} (text : String) (ts : List Token)

@[simp] theorem token_reads (h : (p.kind == kind && test p.text) = true) :
    token kind test (p.token :: ts) = some (p.token, ts) := if_pos h

@[simp] theorem isNext_reads :
    isNext kind test (p.token :: ts) = some (p.kind == kind && test p.text, p.token :: ts) := rfl

@[simp] theorem isMarkNext_reads :
    isMarkNext text (p.token :: ts) = some (p.kind == .mark && p.text == text, p.token :: ts) := rfl

@[simp] theorem isWordNext_reads :
    isWordNext text (p.token :: ts) = some (p.kind == .word && p.text == text, p.token :: ts) := rfl

@[simp] theorem isLambdaNext_reads (q : Printed) :
    isLambdaNext (p.token :: q.token :: ts) =
      some (p.kind == .word && q.kind == .mark && q.text == "=>", p.token :: q.token :: ts) := rfl

@[simp] theorem mark_reads (h : (p.kind == .mark && p.text == text) = true) :
    mark text (p.token :: ts) = some (p.leaf .mark, ts) := by
  rw [mark, bind_reads, token_reads ts h]
  rfl

@[simp] theorem word_reads (h : (p.kind == .word && p.text == text) = true) :
    word text (p.token :: ts) = some (p.leaf .mark, ts) := by
  rw [word, bind_reads, token_reads ts h]
  rfl

@[simp] theorem name_reads (h : (p.kind == .word && isName p.text) = true) :
    name (p.token :: ts) = some (p.name, ts) := by
  rw [name, bind_reads, token_reads ts h]
  rfl

end

/-! ### What continues a phrase -/

/-- marks that continue a name, a type or a chain -/
def continuing : List String := [".", "(", "<", "[", "?"]

/-- nothing that comes next continues what was read -/
def Ends (ts : List Token) : Prop := ∀ t ∈ ts.head?, t.kind = .mark → t.text ∉ continuing

theorem ends_cons {p : Printed} (h : p.kind = .mark → p.text ∉ continuing) (ts : List Token) :
    Ends (p.token :: ts) := by
  intro t ht
  rw [List.head?_cons, Option.mem_some_iff] at ht
  subst ht
  exact h

theorem isMarkNext_of_ends (text : String) (htext : text ∈ continuing) {ts : List Token}
    (h : Ends ts) : isMarkNext text ts = some (false, ts) := by
  cases ts with
  | nil => rfl
  | cons t ts =>
    have hne : (t.kind == .mark && t.text == text) = false := by
      rw [Bool.and_eq_false_imp, beq_iff_eq, beq_eq_false_iff_ne]
      rintro hkind rfl
      exact h t rfl hkind htext
    exact congrArg (fun b => some (b, t :: ts)) hne

/-! ### Repetition -/

abbrev tokensOf (ps : List Printed) : List Token := ps.map Printed.token

/-- items are read one behind the other, where each needs `P` of what follows it -/
theorem repeated_reads (P : List Token → Prop) {begins : Reads Bool} {item : Reads Part}
    {phrase : β → List Printed} {part : β → Part} {rest : List Token} (hP : P rest)
    (hrest : begins rest = some (false, rest)) (bs : List β)
    (hphrase : ∀ b ∈ bs, ∀ ts, P (tokensOf (phrase b) ++ ts))
    (hbegins : ∀ b ∈ bs, ∀ ts,
      begins (tokensOf (phrase b) ++ ts) = some (true, tokensOf (phrase b) ++ ts))
    (hitem : ∀ b ∈ bs, ∀ ts, P ts → item (tokensOf (phrase b) ++ ts) = some (part b, ts))
    (fuel : Nat) (hfuel : bs.length < fuel) :
    repeated begins item fuel (tokensOf (bs.flatMap phrase) ++ rest) =
      some (bs.map part, rest) := by
  induction bs generalizing fuel with
  | nil =>
    obtain ⟨n, rfl⟩ : ∃ n, fuel = n + 1 := ⟨fuel - 1, by simp at hfuel; omega⟩
    rw [List.flatMap_nil, tokensOf, List.map_nil, List.nil_append, repeated, bind_reads, hrest]
    rfl
  | cons b bs ih =>
    obtain ⟨n, rfl⟩ : ∃ n, fuel = n + 1 := ⟨fuel - 1, by omega⟩
    have htail := ih (fun c hc => hphrase c (List.mem_cons_of_mem b hc))
      (fun c hc => hbegins c (List.mem_cons_of_mem b hc))
      (fun c hc => hitem c (List.mem_cons_of_mem b hc)) n (by simpa using hfuel)
    have hnext : P (tokensOf (bs.flatMap phrase) ++ rest) := by
      cases bs with
      | nil => exact hP
      | cons c bs =>
        rw [List.flatMap_cons, tokensOf, List.map_append, List.append_assoc]
        exact hphrase c (List.mem_cons_of_mem b List.mem_cons_self) _
    rw [List.flatMap_cons, tokensOf, List.map_append, List.append_assoc, repeated, bind_reads,
      hbegins b List.mem_cons_self, Option.bind_some, if_pos rfl, bind_reads,
      hitem b List.mem_cons_self _ hnext, Option.bind_some, bind_reads, htail]
    rfl

end EndpointScaffold.CSharp.Plain
