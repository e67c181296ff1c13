import EndpointScaffold.CommandLine.Program
import EndpointScaffold.Proofs.Scaffold.Completion
import EndpointScaffold.Proofs.Scaffold.Prediction

/-!
# What an exit code says

The exit code of a project that is scaffolded names the first kind of error in the report, and it is
zero only if there is none: then everything that was to be generated is there.

* `settings`, `options`, `outcome` the run of a scaffold command;
* `eq_refused_or_ran` how the command ends, `run_of_outcome` it ends if its run comes to a report;
* `codeNumber`, `number_codeOf` the code of a report, `hasCause` one of its cases always applies;
* `exitCode_scaffold` the code of the program.
-/

namespace EndpointScaffold.CommandLine.ScaffoldCommand

open Files Log Scaffold

variable (w : World) (file : Option String) (o : ScaffoldOptions)

/-! ### The run of a command -/

/-- settings for the project of a command -/
def settings : Except Config.Problem Config :=
  (Config.build w.disk (projectRoot w.disk o.folder)
    ((file.filter fun s => !s.isEmpty).map Path.ofText) (overrides o)).value

def options : Options := { isStrict := !o.noStrict, isDryRun := o.dryRun }

/-- what a command runs once it has its settings -/
def outcome (c : Config) : Sdk.Transcript (Except Abort Run) :=
  Scaffold.run (options o) c w.disk (projectRoot w.disk o.folder) w.host []

variable {w file o} {c : Config} {done : Run} {s : Session}

structure IsSessionOf (w : World) (o : ScaffoldOptions) (c : Config) (done : Run) (s : Session) :
    Prop where
  code : s.code = codeOf done.report (!o.noStrict)
  commands : s.commands = (outcome w o c).commands
  disk : s.disk = done.disk

/-- without settings, or with settings of a project that cannot be read, there is no run -/
theorem eq_refused_or_ran (h : run w file o = .ok s) :
    s.code = .badInput ∨
      ∃ c done, settings w file o = .ok c ∧ (outcome w o c).value = .ok done ∧
        IsSessionOf w o c done s := by
  unfold run withConfig at h
  dsimp only at h
  cases hbuilt : settings w file o with
  | error problem =>
    rw [settings] at hbuilt
    simp only [hbuilt] at h
    split at h
    · obtain rfl := Except.ok.inj h
      exact .inl rfl
    · cases h
  | ok c =>
    rw [settings] at hbuilt
    simp only [hbuilt] at h
    split at h
    · obtain rfl := Except.ok.inj h
      exact .inl rfl
    · cases h
    · cases h
    · cases h
    · cases h
    next done hdone =>
      obtain rfl := Except.ok.inj h
      exact .inr ⟨c, done, rfl, hdone, rfl, by rw [outcome, options], rfl⟩

/-- a run that comes to its report ends its session -/
theorem run_of_outcome (hbuilt : settings w file o = .ok c)
    (hdone : (outcome w o c).value = .ok done) :
    ∃ s, run w file o = .ok s ∧ IsSessionOf w o c done s := by
  rw [settings] at hbuilt
  rw [outcome, options] at hdone
  unfold run withConfig
  simp only [hbuilt, hdone]
  exact ⟨_, rfl, rfl, by rw [outcome, options], rfl⟩

/-! ### The code of a report -/

/-- number of the first kind of error in a report -/
def codeNumber (r : Report) (isStrict : Bool) : Nat :=
  if isStrict = true ∧ r.validationErrors ≠ [] then 1
  else if r.sdkErrors ≠ [] ∨ r.generationErrors ≠ [] then 2
  else if r.exportErrors ≠ [] then 3
  else 0

/-- whether a report is a success or has an error that its code names -/
def HasCause (r : Report) (isStrict : Bool) : Prop :=
  r.success = true ∨ (isStrict = true ∧ r.validationErrors ≠ []) ∨ r.sdkErrors ≠ [] ∨
    r.generationErrors ≠ [] ∨ r.exportErrors ≠ []

section
variable {r : Report} {isStrict : Bool}

/-- the cases of an exit code, of which the last one is a fallback -/
theorem codeOf_eq (r : Report) (isStrict : Bool) :
    codeOf r isStrict =
      if r.success = true then .success
      else if isStrict = true ∧ r.validationErrors ≠ [] then .invalid
      else if r.sdkErrors ≠ [] ∨ r.generationErrors ≠ [] then .generationFailed
      else if r.exportErrors ≠ [] then .exportFailed
      else .generationFailed := by
  rw [codeOf]
  simp only [Bool.and_eq_true, Bool.or_eq_true, Bool.not_eq_true', List.isEmpty_eq_false_iff,
    and_comm]

theorem codeOf_eq_success_iff : codeOf r isStrict = .success ↔ r.success = true := by
  rw [codeOf_eq]
  by_cases hsuccess : r.success = true
  · rw [if_pos hsuccess]
    exact iff_of_true rfl hsuccess
  · rw [if_neg hsuccess]
    refine iff_of_false (fun h => ?_) hsuccess
    repeat' split at h
    all_goals cases h

theorem number_eq_zero_iff {code : ExitCode} : code.number = 0 ↔ code = .success := by
  cases code <;> decide

variable (h : r.success = r.isComplete isStrict)

include h

theorem hasCause : HasCause r isStrict := by
  by_cases hsuccess : r.success = true
  · exact .inl hsuccess
  · rw [success_iff h] at hsuccess
    refine .inr ?_
    by_contra hnone
    simp only [not_or, ne_eq, Decidable.not_not] at hnone
    exact hsuccess hnone

/-- the fallback is never reached, for a report without errors is a success -/
theorem number_codeOf : (codeOf r isStrict).number = codeNumber r isStrict := by
  rw [codeOf_eq, codeNumber]
  have hsuccess := success_iff h
  by_cases hvalidation : isStrict = true ∧ r.validationErrors ≠ []
  · rw [if_neg fun hall => (hsuccess.1 hall).1 hvalidation, if_pos hvalidation, if_pos hvalidation]
    rfl
  · rw [if_neg hvalidation, if_neg hvalidation]
    by_cases hmaking : r.sdkErrors ≠ [] ∨ r.generationErrors ≠ []
    · have hfailed : ¬ r.success = true := fun hall =>
        hmaking.elim (fun hne => hne (hsuccess.1 hall).2.1) fun hne => hne (hsuccess.1 hall).2.2.1
      rw [if_neg hfailed, if_pos hmaking, if_pos hmaking]
      rfl
    · rw [if_neg hmaking, if_neg hmaking]
      by_cases hexport : r.exportErrors ≠ []
      · rw [if_neg fun hall => hexport (hsuccess.1 hall).2.2.2, if_pos hexport, if_pos hexport]
        rfl
      · rw [not_or, not_not, not_not] at hmaking
        rw [not_not] at hexport
        rw [if_pos (hsuccess.2 ⟨hvalidation, hmaking.1, hmaking.2, hexport⟩),
          if_neg (not_not.2 hexport)]
        rfl

end

end EndpointScaffold.CommandLine.ScaffoldCommand

namespace EndpointScaffold.CommandLine

open Files Scaffold

variable {clock : String} {w : World} {arguments : List String} {i : Invocation}
  {o : ScaffoldOptions} {ending : Ending} {s : Session}

/-! ### The code of the program -/

/-- what is left of a session when the program is over -/
structure IsEndingOf (s : Session) (ending : Ending) : Prop where
  code : ending.code = s.code.number
  commands : ending.commands = s.commands
  disk : ending.disk = s.disk

section
variable (hi : Invocation.ofArguments arguments = .ok i) (hcommand : i.command = .scaffold o)

include hi hcommand

theorem session_of_run (h : run clock w arguments = .ok ending) :
    ∃ s, ScaffoldCommand.run w i.config o = .ok s ∧ IsEndingOf s ending := by
  unfold run Invocation.run at h
  simp only [hi, hcommand] at h
  cases hs : ScaffoldCommand.run w i.config o with
  | error crash =>
    rw [hs] at h
    cases h
  | ok s =>
    rw [hs] at h
    obtain rfl := Except.ok.inj h
    exact ⟨s, rfl, rfl, rfl, rfl⟩

theorem run_of_session (clock : String) (hs : ScaffoldCommand.run w i.config o = .ok s) :
    ∃ ending, run clock w arguments = .ok ending ∧ IsEndingOf s ending := by
  unfold run Invocation.run
  simp only [hi, hcommand]
  rw [hs]
  exact ⟨_, rfl, rfl, rfl, rfl⟩

/-- the code is zero only if everything was achieved, and otherwise tells the first kind of error in
the report -/
theorem exitCode_scaffold (clock : String) (hw : w.disk.tree.IsProper) :
    (∀ ending, run clock w arguments = .ok ending → ending.code = 0 → o.dryRun = false →
      ∃ c es, ScaffoldCommand.settings w i.config o = .ok c ∧
        (Project.entities w.disk c (projectRoot w.disk o.folder)).value = .ok es ∧
        IsAchieved (ScaffoldCommand.options o) c w.disk (projectRoot w.disk o.folder) w.host [] es
          ending.commands ending.disk) ∧
      ∀ c done, ScaffoldCommand.settings w i.config o = .ok c →
        (ScaffoldCommand.outcome w o c).value = .ok done →
          ScaffoldCommand.HasCause done.report (!o.noStrict) ∧
            ∃ ending, run clock w arguments = .ok ending ∧
              ending.code = ScaffoldCommand.codeNumber done.report (!o.noStrict) := by
  refine ⟨fun ending h hcode hdry => ?_, fun c done hbuilt hdone => ?_⟩
  · obtain ⟨s, hs, hending⟩ := session_of_run hi hcommand h
    rw [hending.code, ScaffoldCommand.number_eq_zero_iff] at hcode
    rcases ScaffoldCommand.eq_refused_or_ran hs with hbad | ⟨c, done, hbuilt, hdone, hsession⟩
    · rw [hcode] at hbad
      cases hbad
    · rw [hsession.code, ScaffoldCommand.codeOf_eq_success_iff] at hcode
      obtain ⟨es, hread, hachieved⟩ :=
        isAchieved_of_success (o := ScaffoldCommand.options o) hw hdry hdone hcode
      refine ⟨c, es, hbuilt, hread, ?_⟩
      rw [hending.commands, hending.disk, hsession.commands, hsession.disk]
      exact hachieved
  · have hjudged := success_of_run (o := ScaffoldCommand.options o) hdone
    obtain ⟨s, hs, hsession⟩ := ScaffoldCommand.run_of_outcome hbuilt hdone
    obtain ⟨ending, hending, hends⟩ := run_of_session hi hcommand clock hs
    refine ⟨ScaffoldCommand.hasCause hjudged, ending, hending, ?_⟩
    rw [hends.code, hsession.code]
    exact ScaffoldCommand.number_codeOf hjudged

end

/-- options for the working folder as a project, without the SDK -/
def hereOptions : ScaffoldOptions := { folder := some ".", noSdk := true }

theorem settings_hereOptions (host : Sdk.Host) :
    ScaffoldCommand.settings ⟨halfExported, host, ""⟩ none hereOptions = .ok quietConfig := by
  have hroot : projectRoot halfExported hereOptions.folder = ⟨.here, []⟩ := by decide
  rw [ScaffoldCommand.settings, hroot, Config.build]
  rfl

/-- a project that has one of the two shared files already: the other one is written -/
theorem exitCode_halfExported :
    ∃ i ending c es,
      Invocation.ofArguments ["scaffold", ".", "--no-sdk"] = .ok i ∧
      i.command = .scaffold hereOptions ∧ halfExported.tree.IsProper ∧
      run "" ⟨halfExported, idleHost, ""⟩ ["scaffold", ".", "--no-sdk"] = .ok ending ∧
      ending.code = 0 ∧
      IsAchieved (ScaffoldCommand.options hereOptions) c halfExported
        (projectRoot halfExported hereOptions.folder) idleHost [] es ending.commands ending.disk := by
  let w : World := ⟨halfExported, idleHost, ""⟩
  have hproper : halfExported.tree.IsProper := ⟨by decide, by decide, by decide⟩
  have hroot : projectRoot halfExported hereOptions.folder = ⟨.here, []⟩ := by decide
  have hi : Invocation.ofArguments ["scaffold", ".", "--no-sdk"] =
      .ok { command := .scaffold hereOptions } := rfl
  -- the run without the SDK finds nothing wrong
  have hvalid : ({} : Options).isStrict = true → (Validation.ofProject [] quietConfig).value.isValid =
      true := fun _ => by decide
  have hquiet := (makingIfAsked_unasked quietConfig (plannedFeatures quietConfig []) rfl {}
    ⟨.here, []⟩ idleHost []).2
  obtain ⟨hwhole, hproblems, -⟩ := batch_halfExported
  obtain ⟨done, hdone, -, hexport, -⟩ := clean_run (o := {}) entities_halfExported hvalid hquiet hwhole
    hproblems
  obtain ⟨outcome, hreport⟩ := report_of_run entities_halfExported hvalid hquiet hdone
  have houtcome : (ScaffoldCommand.outcome w hereOptions quietConfig).value = .ok done := by
    rw [ScaffoldCommand.outcome, show projectRoot w.disk hereOptions.folder = ⟨.here, []⟩ from hroot]
    exact hdone
  obtain ⟨hzero, hcodes⟩ := exitCode_scaffold (w := w) hi rfl "" hproper
  obtain ⟨-, ending, hending, hcode⟩ := hcodes quietConfig done (settings_hereOptions idleHost) houtcome
  have hnone : ScaffoldCommand.codeNumber done.report true = 0 := by
    rw [ScaffoldCommand.codeNumber, hexport, hreport]
    rfl
  obtain ⟨c, es, -, -, hachieved⟩ := hzero ending hending (hcode.trans hnone) rfl
  exact ⟨_, ending, c, es, hi, rfl, hproper, hending, hcode.trans hnone, hachieved⟩

end EndpointScaffold.CommandLine
