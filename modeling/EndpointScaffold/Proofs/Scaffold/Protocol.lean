import EndpointScaffold.Proofs.Scaffold.Attempts
import EndpointScaffold.Proofs.Scaffold.Course

/-!
# What the SDK is asked

A run with the SDK asks for its version, then for the packs that are installed, and then to make the
planned features one by one. Without an answer it goes no further, and reports one error.

* `question_eq` what a question comes to;
* `HasAnswer`, `HasPack` what the first two replies come to, `IsPrompt` hosts that always give them;
* `Probed`, `probed_of_status` the questions about the SDK;
* `Follows`, `follows_of_makeAll` the commands of a run and its report of them,
  `Follows.errors_eq_nil_iff` runs without an error;
* `IsExchange`, `isExchange_of_isPrompt` all of that, for whole runs too.
-/

namespace EndpointScaffold.Scaffold

open Files Log Sdk Text Validation

/-! ### Questions -/

section
variable (sdk pack : String) (host : Host) (before : List Command)

def versionReply : Except Sdk.Failure String :=
  reply host before { arguments := [sdk, "--version"] }

/-- reply to the question for the packs, right after that for the version -/
def listReply : Except Sdk.Failure String :=
  reply host (before ++ [{ arguments := [sdk, "--version"] }]) { arguments := [sdk, "new", "uninstall"] }

/-- the SDK tells a version that is not blank -/
def HasAnswer : Prop :=
  ∃ text, versionReply sdk host before = .ok text ∧ ∃ ch ∈ text.toList, isBlank ch = false

/-- a list of packs names a pack; case does not matter -/
def Names (listing : String) : Prop := (lower pack).toList <:+: (lower listing).toList

/-- the SDK tells a version, and lists the pack -/
def HasPack : Prop :=
  HasAnswer sdk host before ∧
    ∃ listing, listReply sdk host before = .ok listing ∧ Names pack listing

/-- the system does not run a program: it is missing, or may not be run, or there is another reason -/
def IsRefusal (f : Sdk.Failure) : Prop :=
  (∃ program, f = .notFound program) ∨ (∃ program, f = .denied program) ∨ ∃ reason, f = .refused reason

/-- the first two questions are answered, unless the system refuses to run the SDK -/
structure IsPrompt : Prop where
  version : ∀ f, versionReply sdk host before = .error f → IsRefusal f
  list : ∀ f, listReply sdk host before = .error f → IsRefusal f

end

theorem isSystem_of_isRefusal {f : Sdk.Failure} (h : IsRefusal f) : f.isSystem = true := by
  obtain ⟨program, rfl⟩ | ⟨program, rfl⟩ | ⟨reason, rfl⟩ := h <;> rfl

theorem listsPack_iff {pack listing : String} : listsPack pack listing = true ↔ Names pack listing :=
  occursIn_iff

variable {c : Config} {folder : String} {host : Host} {before : List Command}
  {features : List Feature}

/-! ### The whole stage -/

section
variable {sdk pack : String}

/-- what a question comes to -/
theorem question_eq {α : Type} (answer : String → α) (refused : α) (level : Level)
    (complaint : Sdk.Failure → String) {command : Command} (hcommand : command.arguments ≠ [])
    (host : Host) (before : List Command) :
    (question command answer refused level complaint host before).commands = [command] ∧
      (question command answer refused level complaint host before).value =
        match reply host before command with
        | .ok output => .ok (answer output)
        | .error f => if f.isSystem then .ok refused else .error f := by
  unfold question
  simp only [Dialogue.commands_bind, Dialogue.value_bind, Dialogue.commands_run]
  rw [value_run hcommand]
  cases reply host before command with
  | ok output => exact ⟨rfl, rfl⟩
  | error f =>
    cases hsystem : f.isSystem with
    | true => simp only [hsystem]; exact ⟨rfl, rfl⟩
    | false => simp only [hsystem]; exact ⟨rfl, rfl⟩

/-- the question for the version is asked, and its reply tells whether the SDK is there -/
theorem isInstalled_eq (sdk : String) (host : Host) (before : List Command) :
    (isInstalled sdk host before).commands = [{ arguments := [sdk, "--version"] }] ∧
      (isInstalled sdk host before).value =
        match versionReply sdk host before with
        | .ok text => .ok (!isBlankText text)
        | .error f => if f.isSystem then .ok false else .error f := by
  rw [isInstalled_eq_question]
  exact question_eq _ _ _ _ (List.cons_ne_nil _ _) host before

theorem packStatus_eq (sdk pack : String) (host : Host) (before : List Command) :
    let after := before ++ [{ arguments := [sdk, "--version"] }]
    (packStatus sdk pack host after).commands = [{ arguments := [sdk, "new", "uninstall"] }] ∧
      (packStatus sdk pack host after).value =
        match listReply sdk host before with
        | .ok listing => .ok (if listsPack pack listing then .installed else .notInstalled)
        | .error f => if f.isSystem then .ok .unavailable else .error f := by
  rw [packStatus_eq_question]
  exact question_eq _ _ _ _ (List.cons_ne_nil _ _) host _

/-- what is asked about the SDK and its pack, and what the replies come to -/
inductive Probed (sdk pack : String) (host : Host) (before : List Command) :
    List Command → ToolStatus → Prop
  /-- no version, or a blank one -/
  | unanswered (h : ¬ HasAnswer sdk host before) :
      Probed sdk pack host before [{ arguments := [sdk, "--version"] }] .unavailable
  /-- no list of the packs -/
  | refused (h : HasAnswer sdk host before) (hlist : ∃ f, listReply sdk host before = .error f) :
      Probed sdk pack host before (questions sdk) .unavailable
  | missing (h : HasAnswer sdk host before)
      (hlist : ∃ listing, listReply sdk host before = .ok listing ∧ ¬ Names pack listing) :
      Probed sdk pack host before (questions sdk) .notInstalled
  | found (h : HasPack sdk pack host before) :
      Probed sdk pack host before (questions sdk) .installed

/-- with an answer the list of packs is asked for -/
theorem status_of_hasAnswer (pack : String) (h : HasAnswer sdk host before) :
    (status sdk pack host before).commands = questions sdk ∧
      (status sdk pack host before).value =
        match listReply sdk host before with
        | .ok listing => .ok (if listsPack pack listing then .installed else .notInstalled)
        | .error f => if f.isSystem then .ok .unavailable else .error f := by
  obtain ⟨text, htext, hfirm⟩ := h
  have hblank := isBlankText_eq_false_iff.mpr hfirm
  obtain ⟨hcommands, hvalue⟩ := isInstalled_eq sdk host before
  obtain ⟨hlist, hstatus⟩ := packStatus_eq sdk pack host before
  rw [htext] at hvalue
  simp only [hblank, Bool.not_false] at hvalue
  unfold status
  simp only [Dialogue.commands_bind, Dialogue.value_bind, hvalue, hcommands]
  rw [hlist, hstatus]
  exact ⟨rfl, rfl⟩

/-- without one nothing else is asked -/
theorem status_of_not_hasAnswer (pack : String) (h : ¬ HasAnswer sdk host before) :
    (status sdk pack host before).commands = [{ arguments := [sdk, "--version"] }] ∧
      (status sdk pack host before).value =
        match versionReply sdk host before with
        | .ok _ => .ok .unavailable
        | .error f => if f.isSystem then .ok .unavailable else .error f := by
  obtain ⟨hcommands, hvalue⟩ := isInstalled_eq sdk host before
  unfold status
  simp only [Dialogue.commands_bind, Dialogue.value_bind, hcommands, hvalue]
  cases hversion : versionReply sdk host before with
  | ok text =>
    cases hblank : isBlankText text with
    | false => exact absurd ⟨text, hversion, isBlankText_eq_false_iff.mp hblank⟩ h
    | true => simp only [hblank]; exact ⟨rfl, rfl⟩
  | error f =>
    cases hsystem : f.isSystem with
    | true => simp only [hsystem]; exact ⟨rfl, rfl⟩
    | false => simp only [hsystem]; exact ⟨rfl, rfl⟩

theorem probed_of_status {s : ToolStatus} (h : (status sdk pack host before).value = .ok s) :
    Probed sdk pack host before (status sdk pack host before).commands s := by
  by_cases hanswer : HasAnswer sdk host before
  · obtain ⟨hcommands, hvalue⟩ := status_of_hasAnswer pack hanswer
    rw [hcommands]
    rw [hvalue] at h
    cases hlist : listReply sdk host before with
    | ok listing =>
      rw [hlist] at h
      obtain rfl := Except.ok.inj h
      cases hpack : listsPack pack listing with
      | true => exact .found ⟨hanswer, listing, hlist, listsPack_iff.mp hpack⟩
      | false =>
        refine .missing hanswer ⟨listing, hlist, fun hnames => ?_⟩
        rw [listsPack_iff.mpr hnames] at hpack
        cases hpack
    | error f =>
      rw [hlist] at h
      cases hsystem : f.isSystem with
      | true =>
        simp only [hsystem] at h
        obtain rfl := Except.ok.inj h
        exact .refused hanswer ⟨f, hlist⟩
      | false =>
        simp only [hsystem] at h
        cases h
  · obtain ⟨hcommands, hvalue⟩ := status_of_not_hasAnswer pack hanswer
    rw [hcommands]
    have hs : s = .unavailable := by
      rw [hvalue] at h
      split at h
      · exact (Except.ok.inj h).symm
      · split at h
        · exact (Except.ok.inj h).symm
        · cases h
    rw [hs]
    exact .unanswered hanswer

theorem status_of_isPrompt (pack : String) (h : IsPrompt sdk host before) :
    ∃ s, (status sdk pack host before).value = .ok s := by
  by_cases hanswer : HasAnswer sdk host before
  · rw [(status_of_hasAnswer pack hanswer).2]
    cases hlist : listReply sdk host before with
    | ok listing => exact ⟨_, rfl⟩
    | error f => exact ⟨.unavailable, by simp only [isSystem_of_isRefusal (h.list f hlist), if_true]⟩
  · rw [(status_of_not_hasAnswer pack hanswer).2]
    cases hversion : versionReply sdk host before with
    | ok text => exact ⟨_, rfl⟩
    | error f => exact ⟨.unavailable, by simp only [isSystem_of_isRefusal (h.version f hversion), if_true]⟩

end

/-- the commands of a run that asks the SDK, and the outputs and errors that it reports -/
inductive Follows (c : Config) (folder : String) (host : Host) (before : List Command)
    (features : List Feature) : List Command → List (String × String) → List String → Prop
  | unanswered (h : ¬ HasAnswer c.sdk host before) :
      Follows c folder host before features [{ arguments := [c.sdk, "--version"] }] []
        [c.sdk ++ " is not installed or not in PATH."]
  | refused (h : HasAnswer c.sdk host before)
      (hlist : ∃ f, listReply c.sdk host before = .error f) :
      Follows c folder host before features (questions c.sdk) []
        [c.sdk ++ " is not installed or not in PATH."]
  | missing (h : HasAnswer c.sdk host before)
      (hlist : ∃ listing, listReply c.sdk host before = .ok listing ∧
        ¬ Names c.templatePack listing) :
      Follows c folder host before features (questions c.sdk) []
        [c.templatePack ++ " is not installed; run 'fescaffold check' first."]
  /-- each feature that is tried adds one entry, to the outputs or to the errors -/
  | served {tried : List Feature} {entries : List ((String × String) ⊕ String)}
      (h : HasPack c.sdk c.templatePack host before)
      (htried : Tried c folder host (before ++ questions c.sdk) features tried)
      (hentries : (attemptsAt c folder host (before ++ questions c.sdk) tried).map
        (Attempt.entry c.sdk) = entries) :
      Follows c folder host before features (questions c.sdk ++ tried.map (asking c folder))
        (entries.filterMap Sum.getLeft?) (entries.filterMap Sum.getRight?)

theorem follows_of_makeAll {m : Making} (h : (makeAll c folder features host before).value = .ok m) :
    Follows c folder host before features (makeAll c folder features host before).commands
      m.outputs m.errors := by
  unfold makeAll at h ⊢
  simp only [Dialogue.commands_bind, Dialogue.value_bind] at h ⊢
  cases hstatus : (status c.sdk c.templatePack host before).value with
  | error f =>
    rw [hstatus] at h
    cases h
  | ok s =>
    have hprobed := probed_of_status hstatus
    rw [hstatus] at h
    generalize (status c.sdk c.templatePack host before).commands = asked at hprobed h ⊢
    cases hprobed with
    | unanswered hno =>
      obtain rfl := Except.ok.inj h
      exact .unanswered hno
    | refused hanswer hlist =>
      obtain rfl := Except.ok.inj h
      exact .refused hanswer hlist
    | missing hanswer hlist =>
      obtain rfl := Except.ok.inj h
      exact .missing hanswer hlist
    | found hpack =>
      obtain ⟨tried, htried, hcommands, hattempts⟩ :=
        tried_attempts c folder host (before ++ questions c.sdk) features
      obtain rfl := Except.ok.inj h
      simp only [Dialogue.commands_bind, Dialogue.commands_pure, List.append_nil]
      rw [hcommands, hattempts, Making.ofAttempts, outputs_eq, errors_eq c.sdk]
      exact .served hpack htried rfl

/-! ### Runs without an error -/

section
variable {commands : List Command} {outputs : List (String × String)} {errors : List String}
  (h : Follows c folder host before features commands outputs errors)

include h

/-- nothing goes wrong if and only if the pack is found and every feature is answered -/
theorem Follows.errors_eq_nil_iff :
    errors = [] ↔ HasPack c.sdk c.templatePack host before ∧
      ∀ r ∈ heard host (before ++ questions c.sdk) (features.map (asking c folder)),
        ∃ output, r = .ok output := by
  cases h with
  | unanswered hno => simp [HasPack, hno]
  | refused hanswer hlist =>
    obtain ⟨f, hf⟩ := hlist
    simp [HasPack, hf]
  | missing hanswer hlist =>
    obtain ⟨listing, hlisting, hpack⟩ := hlist
    simp [HasPack, hlisting, hpack]
  | served hpack htried hentries =>
    rw [← hentries, htried.errors_eq_nil_iff]
    exact ⟨fun hall => ⟨hpack, hall⟩, And.right⟩

/-- and then every feature is asked for once, in their order -/
theorem Follows.commands_of_errors_eq_nil (hnone : errors = []) :
    commands = questions c.sdk ++ features.map (asking c folder) := by
  obtain ⟨hpack, hall⟩ := h.errors_eq_nil_iff.1 hnone
  cases h with
  | unanswered hno => cases hnone
  | refused hanswer hlist => cases hnone
  | missing hanswer hlist => cases hnone
  | served hpack htried hentries =>
    rw [htried.eq_of_answered fun r hr =>
      hall r ((heard_mono (htried.planned.map (asking c folder))).subset hr)]

end

/-! ### Exchanges -/

/-- what a stage that asks the SDK comes to, and the runs that it is part of -/
structure IsExchange (o : Options) (c : Config) (folder : Path) (features : List Feature)
    (host : Host) (before : List Command) (m : Making) : Prop where
  value : (makingIfAsked o c folder features host before).value = .ok (some m)
  follows : Follows c folder.text host before features
    (makingIfAsked o c folder features host before).commands m.outputs m.errors
  errors : m.errors = [] ↔ HasPack c.sdk c.templatePack host before ∧
    ∀ r ∈ heard host (before ++ questions c.sdk) (features.map (asking c folder.text)),
      ∃ output, r = .ok output
  /-- a run past its validation gives no other commands, and reports the same of them -/
  run : ∀ d es, (Project.entities d c folder).value = .ok es → plannedFeatures c es = features →
    (o.isStrict = true → (ofProject es c).value.isValid = true) →
      (run o c d folder host before).commands =
          (makingIfAsked o c folder features host before).commands ∧
        ∀ r, (run o c d folder host before).value = .ok r →
          r.report.sdkOutputs = m.outputs ∧ r.report.sdkErrors = m.errors

variable {o : Options}

/-- the stage is all of its dialogue with the SDK -/
theorem makingIfAsked_asked (hdry : o.isDryRun = false) (hasked : c.runsSdk = true)
    (folder : Path) (features : List Feature) (host : Host) (before : List Command) :
    (makingIfAsked o c folder features host before).commands =
        (makeAll c folder.text features host before).commands ∧
      (makingIfAsked o c folder features host before).value =
        (makeAll c folder.text features host before).value.map some := by
  have hmaking : making o.isDryRun c folder.text features = makeAll c folder.text features := by
    rw [making, hdry]
    rfl
  rw [makingIfAsked, if_pos hasked, hmaking]
  simp only [Dialogue.commands_bind, Dialogue.value_bind]
  cases (makeAll c folder.text features host before).value with
  | error f => exact ⟨List.append_nil _, rfl⟩
  | ok m => exact ⟨List.append_nil _, rfl⟩

theorem makeAll_of_isPrompt (h : IsPrompt c.sdk host before) (folder : String)
    (features : List Feature) : ∃ m, (makeAll c folder features host before).value = .ok m := by
  obtain ⟨s, hs⟩ := status_of_isPrompt c.templatePack h
  unfold makeAll
  simp only [Dialogue.value_bind]
  rw [hs]
  cases s with
  | installed | notInstalled | unavailable => exact ⟨_, rfl⟩

/-- a run asks for the version, for the packs once there is one, and for the features once the pack is
there, one after the other up to one at which the SDK is lost, and reports what became of each -/
theorem isExchange_of_isPrompt (hdry : o.isDryRun = false) (hasked : c.runsSdk = true)
    (hhost : IsPrompt c.sdk host before) (folder : Path) (features : List Feature) :
    ∃ m, IsExchange o c folder features host before m := by
  obtain ⟨m, hm⟩ := makeAll_of_isPrompt hhost folder.text features
  obtain ⟨hcommands, hvalue⟩ := makingIfAsked_asked hdry hasked folder features host before
  rw [hm] at hvalue
  have hfollows := follows_of_makeAll hm
  refine ⟨m, hvalue, ?_, hfollows.errors_eq_nil_iff, fun d es hread hfeatures hvalid => ?_⟩
  · rw [hcommands]
    exact hfollows
  · subst hfeatures
    refine ⟨(run_of_valid hread hvalid host before).2, fun r hr => ?_⟩
    obtain ⟨outcome, hreport⟩ := report_of_run hread hvalid hvalue hr
    rw [hreport]
    exact ⟨rfl, rfl⟩

/-- a host that makes the first feature, is too slow for the second one, and is gone after that -/
def fadingHost : Host where
  runner before command :=
    match before.length with
    | 0 => .finished "9.0.100" 0
    | 1 => .finished "fastendpoints.templatepack" 0
    | 2 => .finished "Created." 0
    | 3 => .failed (.timedOut command.arguments command.timeout)
    | _ => .failed (.notFound command.program)
  here := "/work"

/-- settings with half a minute for each feature -/
def hurriedConfig : Config := { timeout := some 30 }

def crateFeatures : List Feature := FeatureKind.all.map (Feature.ofKind hurriedConfig "Crate")

theorem isExchange_fadingHost :
    ∃ m, ({} : Options).isDryRun = false ∧ hurriedConfig.runsSdk = true ∧
      IsPrompt hurriedConfig.sdk fadingHost [] ∧
      IsExchange {} hurriedConfig ⟨.here, []⟩ crateFeatures fadingHost [] m ∧
      (makingIfAsked {} hurriedConfig ⟨.here, []⟩ crateFeatures fadingHost []).commands = [
        { arguments := ["dotnet", "--version"] },
        { arguments := ["dotnet", "new", "uninstall"] },
        { arguments := ["dotnet", "new", "feat", "-n", "MyProject.Crates.Create", "-m", "post", "-r",
            "api/crates", "-o", "Features/Crates"]
          folder := some "."
          timeout := some (.float 30) },
        { arguments := ["dotnet", "new", "feat", "-n", "MyProject.Crates.Update", "-m", "put", "-r",
            "api/crates", "-o", "Features/Crates"]
          folder := some "."
          timeout := some (.float 30) },
        { arguments := ["dotnet", "new", "feat", "-n", "MyProject.Crates.Delete", "-m", "delete", "-r",
            "api/crates/\x7bid\x7d", "-o", "Features/Crates"]
          folder := some "."
          timeout := some (.float 30) }] ∧
      m.outputs = [("MyProject.Crates.Create", "Created.")] ∧ m.errors.length = 2 := by
  have hhost : IsPrompt hurriedConfig.sdk fadingHost [] := ⟨nofun, nofun⟩
  obtain ⟨m, h⟩ := isExchange_of_isPrompt (o := {}) (c := hurriedConfig) rfl rfl hhost ⟨.here, []⟩
    crateFeatures
  have hvalue := h.value
  obtain rfl := Option.some.inj (Except.ok.inj hvalue)
  exact ⟨_, rfl, rfl, hhost, h, rfl, rfl, rfl⟩

end EndpointScaffold.Scaffold
