import EndpointScaffold.Config.Schema
import EndpointScaffold.Proofs.Schema.Lists
import EndpointScaffold.Proofs.Text.Splitting

/-!
# Settings stay in form

Settings are read from an object, and their fields are assigned one at a time. What is read is in
form: certain texts are not empty, the start of a route has no slashes at its ends, no kind of feature
is listed twice, and a timeout is above zero. Assignments keep the settings so, whether they are
accepted or refused. Settings in form are the same when they are written and read again, and then it
does not matter whether a field is assigned or read together with all the others.

* `IsInForm` settings in form, `ReadsAs`, `ofEntries_eq_ok_iff` settings field by field;
* `IsMade`, `inForm_of_isMade` settings that can come into being;
* `inForm_iff` settings that can be read again;
* `toEntries_assignField`, `assignField_eq_ok_iff` what an assignment changes;
* `Assignment`, `attempts` assignments one after the other;
* `IsStable`, `isStable_of_read` all of it.
-/

namespace EndpointScaffold.Config

open Data Schema Text
open Entity (NullabilityPolicy)

variable {α β : Type} {c c' : Config} {v : Value} {name s : String} {es : Entries}

/-! ### Normal forms -/

def IsStripped (s : String) : Prop :=
  s.toList.head? ≠ some '/' ∧ s.toList.getLast? ≠ some '/'

theorem isStripped_trimOf (s : String) : IsStripped (trimOf '/' s) := by
  rw [IsStripped, trimOf, String.toList_ofList]
  exact ⟨fun h => absurd (head?_dropAround _ _ '/' h) (by decide),
    fun h => absurd (getLast?_dropAround _ _ '/' h) (by decide)⟩

theorem trimOf_eq_self (h : IsStripped s) : trimOf '/' s = s := by
  rw [trimOf, dropAround_eq_self, String.ofList_toList]
  · exact fun ch hch => beq_false_of_ne fun heq => h.1 (heq ▸ hch)
  · exact fun ch hch => beq_false_of_ne fun heq => h.2 (heq ▸ hch)

theorem nodup_distinct [BEq α] [LawfulBEq α] (xs : List α) : (distinct xs).Nodup := by
  suffices h : ∀ (xs seen : List α), seen.Nodup →
      (xs.foldl (fun seen x => if seen.contains x then seen else seen ++ [x]) seen).Nodup from
    h xs [] List.nodup_nil
  intro xs
  induction xs with
  | nil => exact fun seen h => h
  | cons x xs ih =>
    intro seen h
    rw [List.foldl_cons]
    refine ih _ ?_
    by_cases hseen : seen.contains x = true
    · rw [if_pos hseen]
      exact h
    · rw [if_neg hseen]
      rw [List.contains_iff_mem] at hseen
      exact List.nodup_append.2 ⟨h, List.pairwise_singleton _ x, fun a ha b hb hab =>
        hseen (List.mem_singleton.1 hb ▸ hab ▸ ha)⟩

theorem distinct_eq_self [BEq α] [LawfulBEq α] {xs : List α} (h : xs.Nodup) : distinct xs = xs := by
  suffices hfold : ∀ (xs seen : List α), (seen ++ xs).Nodup →
      xs.foldl (fun seen x => if seen.contains x then seen else seen ++ [x]) seen = seen ++ xs from
    hfold xs [] h
  intro xs
  induction xs with
  | nil => exact fun seen _ => (List.append_nil seen).symm
  | cons x xs ih =>
    intro seen h
    have hx : ¬ seen.contains x = true := fun hx =>
      (List.nodup_append.mp h).2.2 x (List.contains_iff_mem.mp hx) x List.mem_cons_self rfl
    rw [List.append_cons] at h
    rw [List.foldl_cons, if_neg hx, ih _ h, List.append_assoc, List.singleton_append]

/-- settings whose fields all have the values that their readers give -/
structure IsInForm (c : Config) : Prop where
  baseNamespace : c.baseNamespace ≠ ""
  baseEntity : c.baseEntity ≠ ""
  builder : c.builder ≠ ""
  sdk : c.sdk ≠ ""
  templatePack : c.templatePack ≠ ""
  routeStart : IsStripped c.routeStart
  kinds : c.kinds.Nodup
  timeout : ∀ x, c.timeout = some x → 0.0 < x

/-! ### What readers give -/

theorem ne_empty_of_read (h : Reader.nonEmptyText v = .ok s) : s ≠ "" := by
  rw [Reader.nonEmptyText] at h
  split at h
  · split at h
    · cases h
    · rename_i hempty
      obtain rfl := Except.ok.inj h
      exact mt String.isEmpty_iff.mpr hempty
  · cases h

theorem isStripped_of_read (h : routeStartOf v = .ok s) : IsStripped s := by
  obtain ⟨t, -, rfl⟩ := map_eq_ok h
  exact isStripped_trimOf t

theorem nodup_of_read {kinds : List FeatureKind} (h : kindsOf v = .ok kinds) : kinds.Nodup := by
  obtain ⟨read, -, rfl⟩ := map_eq_ok h
  exact nodup_distinct read

theorem positive_of_read {x : Float} (h : Reader.positive v = .ok x) : 0.0 < x := by
  rw [Reader.positive] at h
  split at h
  · split at h
    · rename_i hpositive
      obtain rfl := Except.ok.inj h
      exact hpositive
    · cases h
  · cases h

theorem optional_eq_ok {r : Reader α} {a : Option α} (h : Reader.optional r v = .ok a) :
    a = none ∨ ∃ b, r v = .ok b ∧ a = some b := by
  cases v with
  | null => exact .inl (Except.ok.inj h).symm
  | _ => exact .inr (map_eq_ok h)

theorem positive_of_read_optional {t : Option Float}
    (h : Reader.optional Reader.positive v = .ok t) : ∀ x, t = some x → 0.0 < x := by
  intro x hx
  obtain hnone | ⟨y, hy, hsome⟩ := optional_eq_ok h
  · rw [hnone] at hx
    cases hx
  · rw [hsome, Option.some.injEq] at hx
    rw [← hx]
    exact positive_of_read hy

/-- what a reader gives, and holds of the value where the field is left out, holds of a field -/
theorem defaulted_imp {r : Reader α} {d a : α} {P : α → Prop} (h : defaulted name r d es = .ok a)
    (hd : P d) (hr : ∀ v a, r v = .ok a → P a) : P a := by
  rw [defaulted] at h
  split at h
  · exact hr _ a (mapError_eq_ok h)
  · exact Except.ok.inj h ▸ hd

theorem ne_empty_of_defaulted {d : String} (h : defaulted name .nonEmptyText d es = .ok s)
    (hd : d ≠ "") : s ≠ "" :=
  defaulted_imp (P := fun s => s ≠ "") h hd fun _ _ => ne_empty_of_read

/-- settings each field of which is read from its own entry, or left as it is by itself -/
structure ReadsAs (es : Entries) (c : Config) : Prop where
  baseNamespace : defaulted "base_namespace" .nonEmptyText ({} : Config).baseNamespace es =
    .ok c.baseNamespace
  baseEntity : defaulted "base_entity" .nonEmptyText ({} : Config).baseEntity es = .ok c.baseEntity
  modelsFolder : defaulted "models_dir" .text ({} : Config).modelsFolder es = .ok c.modelsFolder
  configurationsFolder : defaulted "configurations_dir" .text ({} : Config).configurationsFolder es =
    .ok c.configurationsFolder
  builder : defaulted "builder_name" .nonEmptyText ({} : Config).builder es = .ok c.builder
  nullability : defaulted "nullability_policy" policy ({} : Config).nullability es =
    .ok c.nullability
  featuresFolder : defaulted "features_dir" .text ({} : Config).featuresFolder es =
    .ok c.featuresFolder
  routeStart : defaulted "route_prefix" routeStartOf ({} : Config).routeStart es = .ok c.routeStart
  kinds : defaulted "feature_kinds" kindsOf ({} : Config).kinds es = .ok c.kinds
  makesContracts : defaulted "generate_contracts" .flag ({} : Config).makesContracts es =
    .ok c.makesContracts
  makesMappers : defaulted "generate_mappers" .flag ({} : Config).makesMappers es =
    .ok c.makesMappers
  makesValidators : defaulted "generate_validators" .flag ({} : Config).makesValidators es =
    .ok c.makesValidators
  makesPaging : defaulted "generate_paging" .flag ({} : Config).makesPaging es = .ok c.makesPaging
  overwrites : defaulted "overwrite_existing" .flag ({} : Config).overwrites es = .ok c.overwrites
  runsSdk : defaulted "run_sdk" .flag ({} : Config).runsSdk es = .ok c.runsSdk
  sdk : defaulted "sdk_command" .nonEmptyText ({} : Config).sdk es = .ok c.sdk
  templatePack : defaulted "template_pack" .nonEmptyText ({} : Config).templatePack es =
    .ok c.templatePack
  timeout : defaulted "command_timeout" (.optional .positive) ({} : Config).timeout es =
    .ok c.timeout

theorem ofEntries_eq_ok_iff : ofEntries es = .ok c ↔ ReadsAs es c := by
  constructor
  · intro h
    have hall : ∀ c, ofEntries es = .ok c → ReadsAs es c := by
      unfold ofEntries
      -- the fields are read one after the other
      repeat refine app_imp ?_
      intro make hmake
      obtain rfl := Except.ok.inj hmake
      intros
      constructor <;> assumption
    exact hall c h
  · intro h
    rw [ofEntries, h.baseNamespace, h.baseEntity, h.modelsFolder, h.configurationsFolder, h.builder,
      h.nullability, h.featuresFolder, h.routeStart, h.kinds, h.makesContracts, h.makesMappers,
      h.makesValidators, h.makesPaging, h.overwrites, h.runsSdk, h.sdk, h.templatePack, h.timeout]
    rfl

theorem ReadsAs.inForm (h : ReadsAs es c) : IsInForm c where
  baseNamespace := ne_empty_of_defaulted h.baseNamespace (by decide)
  baseEntity := ne_empty_of_defaulted h.baseEntity (by decide)
  builder := ne_empty_of_defaulted h.builder (by decide)
  sdk := ne_empty_of_defaulted h.sdk (by decide)
  templatePack := ne_empty_of_defaulted h.templatePack (by decide)
  routeStart := defaulted_imp h.routeStart ⟨by decide, by decide⟩ fun _ _ => isStripped_of_read
  kinds := defaulted_imp h.kinds (by decide) fun _ _ => nodup_of_read
  timeout := defaulted_imp (P := fun t => ∀ x, t = some x → 0.0 < x) h.timeout
    (fun x hx => by cases hx) fun _ _ => positive_of_read_optional

theorem inForm_of_read (h : ofValue v = .ok c) : IsInForm c := by
  cases v with
  | object es => exact (ofEntries_eq_ok_iff.mp (also_eq_ok h)).inForm
  | _ => cases h

/-- a field is assigned what its reader gives, and the others are left alone -/
theorem inForm_assignField (hc : IsInForm c) (h : assignField c name v = .ok c') :
    IsInForm c' := by
  replace h := mapError_eq_ok h
  split at h
  case h_19 => cases h
  all_goals obtain ⟨x, hx, rfl⟩ := map_eq_ok h
  case h_1 => exact { hc with baseNamespace := ne_empty_of_read hx }
  case h_2 => exact { hc with baseEntity := ne_empty_of_read hx }
  case h_5 => exact { hc with builder := ne_empty_of_read hx }
  case h_8 => exact { hc with routeStart := isStripped_of_read hx }
  case h_9 => exact { hc with kinds := nodup_of_read hx }
  case h_16 => exact { hc with sdk := ne_empty_of_read hx }
  case h_17 => exact { hc with templatePack := ne_empty_of_read hx }
  case h_18 => exact { hc with timeout := positive_of_read_optional hx }
  all_goals exact { hc with }

/-- settings that are read, or made from others by an assignment -/
inductive IsMade : Config → Prop
  | read {c : Config} {v : Value} (h : ofValue v = .ok c) : IsMade c
  | assigned {c c' : Config} {name : String} {v : Value} (hc : IsMade c)
      (h : assign c name v = .ok c') : IsMade c'

theorem inForm_of_isMade (h : IsMade c) : IsInForm c := by
  induction h with
  | read h => exact inForm_of_read h
  | assigned _ h ih =>
    rw [assign, assigned] at h
    split at h
    · cases h
    · split at h
      · rw [← Except.ok.inj h]
        exact ih
      · exact inForm_assignField ih (mapError_eq_ok h)

theorem nodup_kinds (h : IsMade c) : c.kinds.Nodup := (inForm_of_isMade h).kinds

/-! ### Reading again -/

theorem nonEmptyText_text (h : s ≠ "") : Reader.nonEmptyText (.text s) = .ok s :=
  if_neg (mt String.isEmpty_iff.mp h)

theorem policy_name (n : NullabilityPolicy) : policy (.text n.name) = .ok n := by
  cases n <;> rfl

theorem routeStartOf_text (h : IsStripped s) : routeStartOf (.text s) = .ok s :=
  congrArg Except.ok (trimOf_eq_self h)

theorem kind_name (k : FeatureKind) : kind (.text k.name) = .ok k := by
  cases k <;> rfl

/-- texts are no collections, so they are the same inside of a list and outside of it -/
theorem itemsOf_texts (names : List String) :
    Value.itemsOf (names.map .text) = names.map .text := by
  have hsame : ∀ x ∈ (names.map Value.text).zipIdx, Value.standingIn
      (fun depth => .list ((names.map .text).set x.2 (.again depth x.1.isObject))) 0 x.1 = x.1 := by
    intro x hx
    obtain ⟨name, -, hname⟩ := List.mem_map.mp (List.fst_mem_of_mem_zipIdx hx)
    rw [← hname]
    rfl
  rw [Value.itemsOf, List.map_congr_left hsame, List.zipIdx_map_fst]

theorem items_ok {r : Reader α} {f : α → Value} (hr : ∀ a, r (f a) = .ok a) (as : List α)
    (n : Nat) : Checked.items r n (as.map f) = .ok as := by
  induction as generalizing n with
  | nil => rfl
  | cons a as ih => rw [List.map_cons, Checked.items, hr, ih]; rfl

theorem kindsOf_names {ks : List FeatureKind} (h : ks.Nodup) :
    kindsOf (.list (ks.map fun k => .text k.name)) = .ok ks := by
  have hitems : Value.itemsOf (ks.map fun k => .text k.name) = ks.map fun k => .text k.name := by
    have htexts := itemsOf_texts (ks.map FeatureKind.name)
    rw [List.map_map] at htexts
    exact htexts
  rw [kindsOf, Reader.list, hitems, items_ok kind_name ks 0]
  exact congrArg Except.ok (distinct_eq_self h)

theorem positive_float {x : Float} (h : 0.0 < x) : Reader.positive (.float x) = .ok x := if_pos h

theorem optional_positive {t : Option Float} (h : ∀ x, t = some x → 0.0 < x) :
    Reader.optional Reader.positive ((t.map Value.float).getD .null) = .ok t := by
  cases t with
  | none => rfl
  | some x =>
    show (Reader.positive (.float x)).map some = .ok (some x)
    rw [positive_float (h x rfl)]
    rfl

theorem defaulted_ok {r : Reader α} {d a : α} (hfind : Value.find? name es = some v)
    (hr : r v = .ok a) : defaulted name r d es = .ok a := by
  rw [defaulted, hfind]
  show Checked.under (.field name) (r v) = .ok a
  rw [hr]
  rfl

theorem readsAs_toEntries (h : IsInForm c) : ReadsAs c.toEntries c where
  baseNamespace := defaulted_ok rfl (nonEmptyText_text h.baseNamespace)
  baseEntity := defaulted_ok rfl (nonEmptyText_text h.baseEntity)
  modelsFolder := defaulted_ok rfl rfl
  configurationsFolder := defaulted_ok rfl rfl
  builder := defaulted_ok rfl (nonEmptyText_text h.builder)
  nullability := defaulted_ok rfl (policy_name c.nullability)
  featuresFolder := defaulted_ok rfl rfl
  routeStart := defaulted_ok rfl (routeStartOf_text h.routeStart)
  kinds := defaulted_ok rfl (kindsOf_names h.kinds)
  makesContracts := defaulted_ok rfl rfl
  makesMappers := defaulted_ok rfl rfl
  makesValidators := defaulted_ok rfl rfl
  makesPaging := defaulted_ok rfl rfl
  overwrites := defaulted_ok rfl rfl
  runsSdk := defaulted_ok rfl rfl
  sdk := defaulted_ok rfl (nonEmptyText_text h.sdk)
  templatePack := defaulted_ok rfl (nonEmptyText_text h.templatePack)
  timeout := defaulted_ok rfl (optional_positive h.timeout)

/-- settings in form are the same when they are written and read again -/
theorem ofValue_toValue (h : IsInForm c) : ofValue c.toValue = .ok c := by
  show (ofEntries c.toEntries).also (strayEntries fieldNames c.toEntries) = .ok c
  rw [ofEntries_eq_ok_iff.mpr (readsAs_toEntries h)]
  rfl

/-- settings are in form exactly if they can be read again -/
theorem inForm_iff : IsInForm c ↔ ofValue c.toValue = .ok c :=
  ⟨ofValue_toValue, inForm_of_read⟩

/-! ### What an assignment changes -/

theorem find?_put_of_ne {other : String} (hne : other ≠ name) (w : Value) (es : Entries) :
    Value.find? other (Value.put name w es) = Value.find? other es := by
  have hother : ¬ (name == other) = true := fun h => hne (beq_iff_eq.mp h).symm
  fun_induction Value.put name w es with
  | case1 => exact if_neg hother
  | case2 s u rest hs =>
    obtain rfl := beq_iff_eq.mp hs
    rw [Value.find?, Value.find?, if_neg hother, if_neg hother]
  | case3 s u rest hs ih => rw [Value.find?, Value.find?, ih]
  | case4 e rest he ih =>
    obtain ⟨key, u⟩ := e
    cases key with
    | text s => exact (he s u rfl).elim
    | _ => exact ih

/-- an assignment puts a value in the place of that of its own field -/
theorem toEntries_assignField (h : assignField c name v = .ok c') :
    ∃ w, c'.toEntries = Value.put name w c.toEntries := by
  replace h := mapError_eq_ok h
  split at h
  case h_19 => cases h
  all_goals
    obtain ⟨x, -, rfl⟩ := map_eq_ok h
    exact ⟨_, rfl⟩

/-! ### Assigning and reading -/

theorem find?_put_self (w : Value) (es : Entries) :
    Value.find? name (Value.put name w es) = some w := by
  fun_induction Value.put name w es with
  | case1 => exact if_pos (beq_self_eq_true name)
  | case2 s u rest hs => exact if_pos hs
  | case3 s u rest hs ih => exact (if_neg hs).trans ih
  | case4 e rest he ih =>
    obtain ⟨key, u⟩ := e
    cases key with
    | text s => exact (he s u rfl).elim
    | _ => exact ih

theorem strayEntries_of_mem {names : List String} (hs : s ∈ names) (w : Value) (es : Entries) :
    strayEntries names ((.text s, w) :: es) = strayEntries names es :=
  List.filterMap_cons_none (if_pos (List.contains_iff_mem.mpr hs))

theorem strayEntries_cons_congr {names : List String} {es es' : Entries} (e : Value × Value)
    (h : strayEntries names es = strayEntries names es') :
    strayEntries names (e :: es) = strayEntries names (e :: es') := by
  unfold strayEntries at h ⊢
  rw [List.filterMap_cons, List.filterMap_cons, h]

theorem strayEntries_put {names : List String} (hname : name ∈ names) (w : Value) (es : Entries) :
    strayEntries names (Value.put name w es) = strayEntries names es := by
  fun_induction Value.put name w es with
  | case1 => exact strayEntries_of_mem hname w []
  | case2 s u rest hs =>
    obtain rfl := beq_iff_eq.mp hs
    rw [strayEntries_of_mem hname, strayEntries_of_mem hname]
  | case3 s u rest hs ih => exact strayEntries_cons_congr _ ih
  | case4 e rest he ih => exact strayEntries_cons_congr e ih

theorem read_of_defaulted {r : Reader α} {d a : α}
    (h : defaulted name r d (Value.put name v es) = .ok a) : r v = .ok a := by
  rw [defaulted, find?_put_self] at h
  exact mapError_eq_ok h

/-- the field of an accepted assignment is read from its new value, and the others as before -/
theorem readsAs_put (hc : ReadsAs c.toEntries c) (h : assignField c name v = .ok c') :
    ReadsAs (Value.put name v c.toEntries) c' := by
  replace h := mapError_eq_ok h
  split at h
  case h_19 => cases h
  all_goals obtain ⟨x, hx, rfl⟩ := map_eq_ok h
  case h_1 => exact { hc with baseNamespace := defaulted_ok rfl hx }
  case h_2 => exact { hc with baseEntity := defaulted_ok rfl hx }
  case h_3 => exact { hc with modelsFolder := defaulted_ok rfl hx }
  case h_4 => exact { hc with configurationsFolder := defaulted_ok rfl hx }
  case h_5 => exact { hc with builder := defaulted_ok rfl hx }
  case h_6 => exact { hc with nullability := defaulted_ok rfl hx }
  case h_7 => exact { hc with featuresFolder := defaulted_ok rfl hx }
  case h_8 => exact { hc with routeStart := defaulted_ok rfl hx }
  case h_9 => exact { hc with kinds := defaulted_ok rfl hx }
  case h_10 => exact { hc with makesContracts := defaulted_ok rfl hx }
  case h_11 => exact { hc with makesMappers := defaulted_ok rfl hx }
  case h_12 => exact { hc with makesValidators := defaulted_ok rfl hx }
  case h_13 => exact { hc with makesPaging := defaulted_ok rfl hx }
  case h_14 => exact { hc with overwrites := defaulted_ok rfl hx }
  case h_15 => exact { hc with runsSdk := defaulted_ok rfl hx }
  case h_16 => exact { hc with sdk := defaulted_ok rfl hx }
  case h_17 => exact { hc with templatePack := defaulted_ok rfl hx }
  case h_18 => exact { hc with timeout := defaulted_ok rfl hx }

theorem map_under_ok {f : α → β} {r : Checked α} {a : α} (step : Step) (h : r = .ok a) :
    Checked.under step (r.map f) = .ok (f a) := by
  rw [h]
  rfl

/-- an assignment is accepted if the new value can be read together with the other fields -/
theorem exists_assignField (hname : name ∈ fieldNames)
    (h : ReadsAs (Value.put name v c.toEntries) c') : ∃ c'', assignField c name v = .ok c'' := by
  simp only [fieldNames, List.mem_cons, List.not_mem_nil, or_false] at hname
  rcases hname with rfl | rfl | rfl | rfl | rfl | rfl | rfl | rfl | rfl | rfl | rfl | rfl | rfl |
    rfl | rfl | rfl | rfl | rfl
  · exact ⟨_, map_under_ok _ (read_of_defaulted h.baseNamespace)⟩
  · exact ⟨_, map_under_ok _ (read_of_defaulted h.baseEntity)⟩
  · exact ⟨_, map_under_ok _ (read_of_defaulted h.modelsFolder)⟩
  · exact ⟨_, map_under_ok _ (read_of_defaulted h.configurationsFolder)⟩
  · exact ⟨_, map_under_ok _ (read_of_defaulted h.builder)⟩
  · exact ⟨_, map_under_ok _ (read_of_defaulted h.nullability)⟩
  · exact ⟨_, map_under_ok _ (read_of_defaulted h.featuresFolder)⟩
  · exact ⟨_, map_under_ok _ (read_of_defaulted h.routeStart)⟩
  · exact ⟨_, map_under_ok _ (read_of_defaulted h.kinds)⟩
  · exact ⟨_, map_under_ok _ (read_of_defaulted h.makesContracts)⟩
  · exact ⟨_, map_under_ok _ (read_of_defaulted h.makesMappers)⟩
  · exact ⟨_, map_under_ok _ (read_of_defaulted h.makesValidators)⟩
  · exact ⟨_, map_under_ok _ (read_of_defaulted h.makesPaging)⟩
  · exact ⟨_, map_under_ok _ (read_of_defaulted h.overwrites)⟩
  · exact ⟨_, map_under_ok _ (read_of_defaulted h.runsSdk)⟩
  · exact ⟨_, map_under_ok _ (read_of_defaulted h.sdk)⟩
  · exact ⟨_, map_under_ok _ (read_of_defaulted h.templatePack)⟩
  · exact ⟨_, map_under_ok _ (read_of_defaulted h.timeout)⟩

/-- an assignment does what reading does, if the entry of the field has the new value -/
theorem assignField_eq_ok_iff (hc : IsInForm c) (hname : name ∈ fieldNames) :
    assignField c name v = .ok c' ↔ ofValue (.object (Value.put name v c.toEntries)) = .ok c' := by
  have hread : ∀ c', assignField c name v = .ok c' →
      ofValue (.object (Value.put name v c.toEntries)) = .ok c' := fun c' h => by
    show (ofEntries _).also (strayEntries fieldNames (Value.put name v c.toEntries)) = .ok c'
    rw [ofEntries_eq_ok_iff.mpr (readsAs_put (readsAs_toEntries hc) h), strayEntries_put hname]
    rfl
  refine ⟨hread c', fun h => ?_⟩
  obtain ⟨c'', hassign⟩ := exists_assignField hname (ofEntries_eq_ok_iff.mp (also_eq_ok h))
  obtain rfl := Except.ok.inj ((hread c'' hassign).symm.trans h)
  exact hassign

/-! ### Assignments one after the other -/

/-- a name of a field with a value for it -/
structure Assignment where
  name : String
  value : Value
  isField : name ∈ fieldNames

theorem assign_of_isField (hname : name ∈ fieldNames) :
    assign c name v = (assignField c name v).mapError .misfit := by
  have hfree : ∀ name ∈ fieldNames, (name == "__class__") = false ∧ (name == "__dict__") = false ∧
      (computedOfAll ++ []).contains name = false ∧ isMark name = false := by
    decide
  obtain ⟨hclass, hdict, hcomputed, hmark⟩ := hfree name hname
  have hnone : barrier? title [] name v = none := by
    unfold barrier?
    rw [hclass, hdict, hcomputed]
    rfl
  rw [assign, assigned, hnone, hmark]
  rfl

/-- the settings after an assignment, which are the same if it is refused -/
def attempt (c : Config) (a : Assignment) : Config :=
  match c.assign a.name a.value with
  | .ok c' => c'
  | .error _ => c

/-- the settings after assignments one after the other -/
def attempts (c : Config) (as : List Assignment) : Config := as.foldl attempt c

theorem isMade_attempt (hc : IsMade c) (a : Assignment) : IsMade (attempt c a) := by
  rw [attempt]
  cases h : c.assign a.name a.value with
  | error refusal => exact hc
  | ok c' => exact .assigned hc h

theorem isMade_attempts (hc : IsMade c) (as : List Assignment) : IsMade (attempts c as) := by
  induction as generalizing c with
  | nil => exact hc
  | cons a as ih => exact ih (isMade_attempt hc a)

/-! ### All of it -/

/-- settings after assignments, with what one more assignment does -/
structure IsStable (c : Config) (as : List Assignment) : Prop where
  inForm : IsInForm (attempts c as)
  reread : ofValue (attempts c as).toValue = .ok (attempts c as)
  rejected : ∀ a refusal, (attempts c as).assign a.name a.value = .error refusal →
    attempts c (as ++ [a]) = attempts c as
  accepted : ∀ a c', (attempts c as).assign a.name a.value = .ok c' →
    attempts c (as ++ [a]) = c' ∧ ∀ other, other ≠ a.name →
      Value.find? other c'.toEntries = Value.find? other (attempts c as).toEntries
  /-- an assignment does what reading does, if the entry of the field has the new value -/
  consistent : ∀ (a : Assignment) c', (attempts c as).assign a.name a.value = .ok c' ↔
    ofValue (.object (Value.put a.name a.value (attempts c as).toEntries)) = .ok c'

theorem isStable_of_read (h : ofValue v = .ok c) (as : List Assignment) : IsStable c as := by
  have hform := inForm_of_isMade (isMade_attempts (.read h) as)
  have hlast : ∀ a, attempts c (as ++ [a]) = attempt (attempts c as) a := fun a => by
    rw [attempts, List.foldl_append]
    rfl
  constructor
  case inForm => exact hform
  case reread => exact ofValue_toValue hform
  case rejected =>
    intro a refusal hassign
    rw [hlast, attempt, hassign]
  case accepted =>
    intro a c' hassign
    refine ⟨by rw [hlast, attempt, hassign], fun other hne => ?_⟩
    rw [assign_of_isField a.isField] at hassign
    obtain ⟨w, hw⟩ := toEntries_assignField (mapError_eq_ok hassign)
    rw [hw, find?_put_of_ne hne]
  case consistent =>
    intro a c'
    rw [assign_of_isField a.isField, ← assignField_eq_ok_iff hform a.isField]
    exact ⟨mapError_eq_ok, fun h => by rw [h]; rfl⟩

/-! ### A refused command -/

def shopData : Value := .object [(.text "route_prefix", .text "//shop/"),
  (.text "feature_kinds", .list [.text "Create", .text "Delete", .text "Create"])]

def shopConfig : Config := { routeStart := "shop", kinds := [.create, .delete] }

/-- the first assignment is refused, and the second one accepted -/
def shopAssignments : List Assignment :=
  [⟨"sdk_command", .text "", by decide⟩, ⟨"route_prefix", .text "/api/v1/", by decide⟩]

theorem isStable_shop :
    ofValue shopData = .ok shopConfig ∧ IsStable shopConfig shopAssignments ∧
      (attempts shopConfig shopAssignments).sdk = "dotnet" ∧
      (attempts shopConfig shopAssignments).routeStart = "api/v1" := by
  have hread : ofValue shopData = .ok shopConfig := by rfl
  exact ⟨hread, isStable_of_read hread shopAssignments, by decide, by decide⟩

end EndpointScaffold.Config
