import EndpointScaffold.Proofs.Scaffold.Commands

/-!
# Which features are tried

A run asks the SDK for the planned features one by one. A feature that fails leaves an error where its
output would stand; the features after it are tried all the same, unless the SDK itself is no longer
found.

* `reply`, `heard` what commands give one after the other;
* `Attempt.entry` what an attempt adds to a report;
* `Tried`, `tried_attempts` the features that are asked for, with their replies;
* `Tried.errors_eq_nil_iff` features without an error.
-/

namespace EndpointScaffold.Scaffold

open Log Sdk

/-! ### Replies -/

/-- what a command gives that follows others: all that it printed, or why it has no output -/
def reply (host : Host) (before : List Command) (command : Command) : Except Sdk.Failure String :=
  match host.runner before command with
  | .finished output _ => .ok output
  | .failed failure => .error failure

theorem value_run {command : Command} (h : command.arguments ≠ []) (host : Host)
    (before : List Command) : (Dialogue.run command host before).value = reply host before command := by
  show Dialogue.output command (host.runner before command) = _
  rw [reply]
  cases host.runner before command with
  | failed failure => rfl
  | finished output code => exact if_neg (by rw [List.isEmpty_iff]; exact h)

/-- what commands give, each following those before it -/
def heard (host : Host) : List Command → List Command → List (Except Sdk.Failure String)
  | _, [] => []
  | before, command :: commands =>
    reply host before command :: heard host (before ++ [command]) commands

theorem length_heard (host : Host) (before commands : List Command) :
    (heard host before commands).length = commands.length := by
  induction commands generalizing before with
  | nil => rfl
  | cons command commands ih => rw [heard, List.length_cons, List.length_cons, ih]

theorem heard_ne_nil {host : Host} {before commands : List Command} (h : commands ≠ []) :
    heard host before commands ≠ [] := by
  rw [← List.length_pos_iff, length_heard, List.length_pos_iff]
  exact h

variable {c : Config} {folder : String} {host : Host} {before : List Command}
  {f : Feature} {features tried fs : List Feature}

theorem heard_append (host : Host) (before xs ys : List Command) :
    heard host before (xs ++ ys) = heard host before xs ++ heard host (before ++ xs) ys := by
  induction xs generalizing before with
  | nil => simp [heard]
  | cons x xs ih => simp only [List.cons_append, heard, ih, List.append_assoc, List.nil_append]

theorem heard_mono {xs ys : List Command} (h : xs <+: ys) :
    heard host before xs <+: heard host before ys := by
  obtain ⟨rest, rfl⟩ := h
  rw [heard_append]
  exact List.prefix_append _ _

/-- whether the SDK was not found -/
def isLost : Except Sdk.Failure String → Bool
  | .error (.notFound _) => true
  | _ => false

theorem isLost_error (failure : Sdk.Failure) : isLost (.error failure) = failure.isNotFound := by
  cases failure <;> rfl

theorem isLost_eq_false_of_ok {r : Except Sdk.Failure String} (h : ∃ output, r = .ok output) :
    isLost r = false := by
  obtain ⟨output, rfl⟩ := h
  rfl

/-! ### Features -/

def Attempt.ofReply (f : Feature) : Except Sdk.Failure String → Attempt
  | .ok output => .made f output
  | .error failure => .failed f failure

theorem value_makeFeature (c : Config) (folder : String) (f : Feature) (host : Host)
    (before : List Command) :
    (makeFeature c.sdk f folder (c.timeout.map Seconds.float) host before).value =
      reply host before (asking c folder f) := by
  have hne : (asking c folder f).arguments ≠ [] := List.cons_ne_nil _ _
  exact value_run hne host before

/-- an SDK that is not found ends the attempts -/
theorem attempts_cons_of_lost (fs : List Feature)
    (h : isLost (reply host before (asking c folder f)) = true) :
    (attempts c folder (f :: fs) host before).commands = [asking c folder f] ∧
      (attempts c folder (f :: fs) host before).value =
        [Attempt.ofReply f (reply host before (asking c folder f))] := by
  cases hreply : reply host before (asking c folder f) with
  | ok output =>
    rw [hreply] at h
    cases h
  | error failure =>
    rw [hreply] at h
    have hvalue : (makeFeature c.sdk f folder (c.timeout.map Seconds.float) host
        (before ++ [])).value = .error failure := by
      rw [List.append_nil, value_makeFeature]
      exact hreply
    rw [isLost_error] at h
    rw [attempts]
    simp only [Dialogue.commands_bind, Dialogue.value_bind, hvalue, Dialogue.note, List.nil_append,
      h, if_true]
    exact ⟨rfl, rfl⟩

/-- any other reply leads to the next feature -/
theorem attempts_cons_of_found (fs : List Feature)
    (h : isLost (reply host before (asking c folder f)) = false) :
    (attempts c folder (f :: fs) host before).commands =
        asking c folder f :: (attempts c folder fs host (before ++ [asking c folder f])).commands ∧
      (attempts c folder (f :: fs) host before).value =
        Attempt.ofReply f (reply host before (asking c folder f)) ::
          (attempts c folder fs host (before ++ [asking c folder f])).value := by
  have hcommands : (makeFeature c.sdk f folder (c.timeout.map Seconds.float) host
      before).commands = [asking c folder f] := rfl
  rw [attempts]
  simp only [Dialogue.commands_bind, Dialogue.value_bind, Dialogue.note, List.nil_append,
    List.append_nil, hcommands]
  rw [value_makeFeature]
  cases hreply : reply host before (asking c folder f) with
  | ok output => exact ⟨by simp, rfl⟩
  | error failure =>
    rw [hreply, isLost_error] at h
    simp only [h]
    exact ⟨by simp, rfl⟩

/-- what an attempt adds to a report: an output under the namespace of its feature, or an error -/
def Attempt.entry (sdk : String) : Attempt → (String × String) ⊕ String
  | .made f output => .inl (f.namespaceName, output)
  | .failed f failure => .inr (failureText sdk f failure)

theorem outputs_eq (sdk : String) (as : List Attempt) :
    as.filterMap Attempt.output? = (as.map (Attempt.entry sdk)).filterMap Sum.getLeft? := by
  rw [List.filterMap_map]
  exact congrArg (List.filterMap · as) (funext fun a => by cases a <;> rfl)

theorem errors_eq (sdk : String) (as : List Attempt) :
    as.filterMap (Attempt.error? sdk) = (as.map (Attempt.entry sdk)).filterMap Sum.getRight? := by
  rw [List.filterMap_map]
  exact congrArg (List.filterMap · as) (funext fun a => by cases a <;> rfl)

/-- features that are tried, of all there are: one after the other, up to one at which the SDK is
lost -/
structure Tried (c : Config) (folder : String) (host : Host) (before : List Command)
    (features tried : List Feature) : Prop where
  planned : tried <+: features
  found : ∀ r ∈ (heard host before (tried.map (asking c folder))).dropLast, isLost r = false
  ended : tried ≠ features →
    ∃ r ∈ (heard host before (tried.map (asking c folder))).getLast?, isLost r = true

theorem Tried.nil : Tried c folder host before [] [] :=
  ⟨List.prefix_rfl, nofun, fun h => absurd rfl h⟩

theorem Tried.of_lost (h : isLost (reply host before (asking c folder f)) = true) :
    Tried c folder host before (f :: fs) [f] :=
  ⟨by simp, nofun, fun _ => ⟨_, rfl, h⟩⟩

theorem Tried.cons (h : isLost (reply host before (asking c folder f)) = false)
    (htried : Tried c folder host (before ++ [asking c folder f]) fs tried) :
    Tried c folder host before (f :: fs) (f :: tried) := by
  have hheard : heard host before ((f :: tried).map (asking c folder)) =
      reply host before (asking c folder f) ::
        heard host (before ++ [asking c folder f]) (tried.map (asking c folder)) := rfl
  refine ⟨List.cons_prefix_cons.2 ⟨rfl, htried.planned⟩, fun r hr => ?_, fun hne => ?_⟩
  · rw [hheard] at hr
    cases tried with
    | nil => cases hr
    | cons g tried =>
      rw [List.dropLast_cons_of_ne_nil (heard_ne_nil (by simp)), List.mem_cons] at hr
      rcases hr with rfl | hr
      · exact h
      · exact htried.found r hr
  · obtain ⟨r, hr, hlost⟩ := htried.ended fun hfs => hne (by rw [hfs])
    exact ⟨r, by rw [hheard, List.getLast?_cons, hr]; rfl, hlost⟩

/-- attempts at features that are tried, each with what its own command gives -/
def attemptsAt (c : Config) (folder : String) (host : Host) (before : List Command)
    (tried : List Feature) : List Attempt :=
  List.zipWith Attempt.ofReply tried (heard host before (tried.map (asking c folder)))

/-- the attempts are those at some of the features -/
theorem tried_attempts (c : Config) (folder : String) (host : Host) (before : List Command)
    (features : List Feature) :
    ∃ tried, Tried c folder host before features tried ∧
      (attempts c folder features host before).commands = tried.map (asking c folder) ∧
      (attempts c folder features host before).value =
        attemptsAt c folder host before tried := by
  induction features generalizing before with
  | nil => exact ⟨[], .nil, rfl, rfl⟩
  | cons f fs ih =>
    cases hlost : isLost (reply host before (asking c folder f)) with
    | true =>
      obtain ⟨hcommands, hvalue⟩ := attempts_cons_of_lost fs hlost
      exact ⟨[f], .of_lost hlost, hcommands, hvalue⟩
    | false =>
      obtain ⟨hcommands, hvalue⟩ := attempts_cons_of_found fs hlost
      obtain ⟨tried, htried, hrest, hattempts⟩ := ih (before ++ [asking c folder f])
      refine ⟨f :: tried, .cons hlost htried, ?_, ?_⟩
      · rw [hcommands, hrest, List.map_cons]
      · rw [hvalue, hattempts]
        rfl

/-! ### Features without an error -/

/-- attempts leave no error if and only if each of them is answered -/
theorem zipWith_errors_eq_nil_iff {sdk : String} {fs : List Feature}
    {rs : List (Except Sdk.Failure String)} (h : fs.length = rs.length) :
    (List.zipWith Attempt.ofReply fs rs).filterMap (Attempt.error? sdk) = [] ↔
      ∀ r ∈ rs, ∃ output, r = .ok output := by
  induction fs generalizing rs with
  | nil => simp [List.length_eq_zero_iff.1 h.symm]
  | cons f fs ih =>
    cases rs with
    | nil => cases h
    | cons r rs =>
      rw [List.zipWith_cons_cons, List.forall_mem_cons, ← ih (Nat.succ.inj h)]
      cases r with
      | ok output => simp [Attempt.ofReply, Attempt.error?]
      | error failure => simp [Attempt.ofReply, Attempt.error?]

/-- features that are all answered are tried up to the last of them -/
theorem Tried.eq_of_answered (h : Tried c folder host before features tried)
    (hall : ∀ r ∈ heard host before (tried.map (asking c folder)), ∃ output, r = .ok output) :
    tried = features := by
  refine Classical.byContradiction fun hne => ?_
  obtain ⟨r, hr, hlost⟩ := h.ended hne
  have hfound := isLost_eq_false_of_ok (hall r (List.mem_of_getLast? hr))
  rw [hlost] at hfound
  cases hfound

theorem Tried.errors_eq_nil_iff (h : Tried c folder host before features tried) :
    ((attemptsAt c folder host before tried).map (Attempt.entry c.sdk)).filterMap Sum.getRight? = [] ↔
      ∀ r ∈ heard host before (features.map (asking c folder)), ∃ output, r = .ok output := by
  rw [← errors_eq, attemptsAt, zipWith_errors_eq_nil_iff (by rw [length_heard, List.length_map])]
  constructor
  · intro hall
    rwa [h.eq_of_answered hall] at hall
  · exact fun hall r hr => hall r ((heard_mono (h.planned.map _)).subset hr)

end EndpointScaffold.Scaffold
