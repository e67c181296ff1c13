import EndpointScaffold.Schema.Checked
import Mathlib.Data.List.Forall2

/-!
# Values and lists of which each item is checked

Two checks side by side succeed if both do. A run over a list succeeds exactly when it does at each
item, and then the values are those of the items.

* `app_imp`, `also_eq_ok` checks side by side;
* `mapM_ok`, `mapM_isOk_iff`, `forall₂_of_mapM_ok`, `mem_of_mapM_ok` values of all items;
* `filterM_eq_ok_iff` the items that pass a test which can fail.
-/

namespace EndpointScaffold.Schema

variable {ε ε' α β : Type}

theorem isOk_iff_exists {r : Except ε α} : r.isOk = true ↔ ∃ a, r = .ok a := by
  cases r with
  | error e => exact ⟨fun h => absurd h Bool.false_ne_true, fun ⟨a, h⟩ => (by cases h)⟩
  | ok a => exact ⟨fun _ => ⟨a, rfl⟩, fun _ => rfl⟩

theorem toOption_eq_some_iff {r : Except ε α} {a : α} : r.toOption = some a ↔ r = .ok a := by
  cases r with
  | error e => exact ⟨fun h => (by cases h), fun h => (by cases h)⟩
  | ok b => exact ⟨fun h => congrArg Except.ok (Option.some.inj h),
      fun h => congrArg some (Except.ok.inj h)⟩

theorem map_eq_ok {f : α → β} {r : Except ε α} {b : β} (h : r.map f = .ok b) :
    ∃ a, r = .ok a ∧ b = f a := by
  cases r with
  | error e => cases h
  | ok a => exact ⟨a, rfl, (Except.ok.inj h).symm⟩

@[simp] theorem mapError_ok {f : ε → ε'} (a : α) :
    (Except.ok a : Except ε α).mapError f = .ok a := rfl

@[simp] theorem mapError_error {f : ε → ε'} (e : ε) :
    (Except.error e : Except ε α).mapError f = .error (f e) := rfl

theorem mapError_eq_ok {f : ε → ε'} {r : Except ε α} {a : α} (h : r.mapError f = .ok a) :
    r = .ok a := by
  cases r with
  | error e => cases h
  | ok b => exact congrArg Except.ok (Except.ok.inj h)

theorem bind_eq_ok {f : α → Except ε β} {r : Except ε α} {b : β} (h : (r >>= f) = .ok b) :
    ∃ a, r = .ok a ∧ f a = .ok b := by
  cases r with
  | error e => cases h
  | ok a => exact ⟨a, rfl, h⟩

/-! ### Checks side by side -/

/-- what holds of a checked function at every checked value holds of the value that it gives -/
theorem app_imp {f : Checked (α → β)} {c : Checked α} {P : β → Prop}
    (h : ∀ g, f = .ok g → ∀ a, c = .ok a → P (g a)) : ∀ b, f.app c = .ok b → P b := by
  intro b hb
  cases f with
  | error is => cases c <;> cases hb
  | ok g =>
    cases c with
    | error is => cases hb
    | ok a => exact Except.ok.inj hb ▸ h g rfl a rfl

theorem also_eq_ok {extra : List Issue} {c : Checked α} {a : α} (h : c.also extra = .ok a) :
    c = .ok a := by
  cases c with
  | error is => cases extra <;> cases h
  | ok b =>
    cases extra with
    | nil => exact h
    | cons i is => cases h

/-! ### Values of all items -/

section
variable {f : α → Except ε β}

theorem mapM_ok {g : α → β} {as : List α} (h : ∀ a ∈ as, f a = .ok (g a)) :
    as.mapM f = .ok (as.map g) := by
  induction as with
  | nil => rfl
  | cons a as ih =>
    rw [List.mapM_cons, h a List.mem_cons_self, ih fun b hb => h b (List.mem_cons_of_mem a hb)]
    rfl

theorem mapM_cons_eq_ok {a : α} {as : List α} {bs : List β} (h : (a :: as).mapM f = .ok bs) :
    ∃ c cs, f a = .ok c ∧ as.mapM f = .ok cs ∧ bs = c :: cs := by
  rw [List.mapM_cons] at h
  cases ha : f a with
  | error e =>
    rw [ha] at h
    cases h
  | ok c =>
    rw [ha] at h
    cases has : as.mapM f with
    | error e =>
      rw [has] at h
      cases h
    | ok cs =>
      rw [has] at h
      exact ⟨c, cs, rfl, rfl, (Except.ok.inj h).symm⟩

theorem mapM_congr {g : α → Except ε β} {as : List α} (h : ∀ a ∈ as, f a = g a) :
    as.mapM f = as.mapM g := by
  induction as with
  | nil => rfl
  | cons a as ih =>
    rw [List.mapM_cons, List.mapM_cons, h a List.mem_cons_self,
      ih fun b hb => h b (List.mem_cons_of_mem a hb)]

theorem forall₂_of_mapM_ok {as : List α} {bs : List β} (h : as.mapM f = .ok bs) :
    List.Forall₂ (fun a b => f a = .ok b) as bs := by
  induction as generalizing bs with
  | nil =>
    obtain rfl := Except.ok.inj h
    exact .nil
  | cons a as ih =>
    obtain ⟨c, cs, hc, hcs, rfl⟩ := mapM_cons_eq_ok h
    exact .cons hc (ih hcs)

theorem mem_of_mapM_ok {as : List α} {bs : List β} (h : as.mapM f = .ok bs) {b : β} (hb : b ∈ bs) :
    ∃ a ∈ as, f a = .ok b := by
  induction as generalizing bs with
  | nil =>
    obtain rfl := Except.ok.inj h
    exact absurd hb List.not_mem_nil
  | cons a as ih =>
    obtain ⟨c, cs, hc, hcs, rfl⟩ := mapM_cons_eq_ok h
    rcases List.mem_cons.mp hb with rfl | hb
    · exact ⟨a, List.mem_cons_self, hc⟩
    · obtain ⟨d, hd, hfd⟩ := ih hcs hb
      exact ⟨d, List.mem_cons_of_mem a hd, hfd⟩

/-- a list is checked exactly when all of its items are -/
theorem mapM_isOk_iff {as : List α} :
    (as.mapM f).isOk = true ↔ ∀ a ∈ as, (f a).isOk = true := by
  induction as with
  | nil => exact ⟨fun _ a ha => absurd ha List.not_mem_nil, fun _ => rfl⟩
  | cons a as ih =>
    rw [List.mapM_cons, List.forall_mem_cons, ← ih]
    cases f a with
    | error e => exact ⟨fun h => absurd h Bool.false_ne_true, fun h => absurd h.1 Bool.false_ne_true⟩
    | ok b =>
      cases as.mapM f with
      | error e => exact ⟨fun h => absurd h Bool.false_ne_true, fun h => absurd h.2 Bool.false_ne_true⟩
      | ok bs => exact ⟨fun _ => ⟨rfl, rfl⟩, fun _ => rfl⟩

end

/-! ### Items that pass a test -/

section
variable {f : α → Except ε Bool}

/-- whether a test was made and passed -/
def passes : Except ε Bool → Bool
  | .ok b => b
  | .error _ => false

theorem passes_iff {r : Except ε Bool} : passes r = true ↔ r = .ok true := by
  cases r with
  | error e => exact ⟨fun h => absurd h Bool.false_ne_true, fun h => by cases h⟩
  | ok b => exact ⟨fun h => congrArg Except.ok h, fun h => Except.ok.inj h⟩

theorem filterAuxM_eq_ok_iff {as acc bs : List α} :
    as.filterAuxM f acc = .ok bs ↔
      (∀ a ∈ as, (f a).isOk = true) ∧ bs = (as.filter fun a => passes (f a)).reverse ++ acc := by
  induction as generalizing acc with
  | nil =>
    refine ⟨fun h => ⟨fun a ha => absurd ha List.not_mem_nil, (Except.ok.inj h).symm⟩, fun h => ?_⟩
    rw [h.2]
    rfl
  | cons a as ih =>
    rw [List.filterAuxM, List.forall_mem_cons, List.filter_cons]
    cases f a with
    | error e => exact ⟨fun h => (by cases h), fun h => absurd h.1.1 Bool.false_ne_true⟩
    | ok b =>
      show as.filterAuxM f (cond b (a :: acc) acc) = .ok bs ↔ _
      rw [ih]
      cases b with
      | false => exact ⟨fun h => ⟨⟨rfl, h.1⟩, h.2⟩, fun h => ⟨h.1.2, h.2⟩⟩
      | true =>
        rw [passes, if_pos rfl, List.reverse_cons, List.append_assoc]
        exact ⟨fun h => ⟨⟨rfl, h.1⟩, h.2⟩, fun h => ⟨h.1.2, h.2⟩⟩

/-- the items that pass a test, which has to be made at each of them -/
theorem filterM_eq_ok_iff {as bs : List α} :
    as.filterM f = .ok bs ↔
      (∀ a ∈ as, (f a).isOk = true) ∧ bs = as.filter fun a => passes (f a) := by
  rw [List.filterM]
  cases haux : as.filterAuxM f [] with
  | error e =>
    refine ⟨fun h => (by cases h), fun h => ?_⟩
    rw [filterAuxM_eq_ok_iff.mpr ⟨h.1, rfl⟩] at haux
    cases haux
  | ok cs =>
    obtain ⟨hok, rfl⟩ := filterAuxM_eq_ok_iff.mp haux
    show Except.ok (List.reverse _) = _ ↔ _
    rw [List.append_nil, List.reverse_reverse, Except.ok.injEq]
    exact ⟨fun h => ⟨hok, h.symm⟩, fun h => h.2.symm⟩

end

end EndpointScaffold.Schema
