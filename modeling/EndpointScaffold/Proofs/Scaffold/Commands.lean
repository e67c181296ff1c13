import EndpointScaffold.Scaffold.Run

/-!
# Commands of a run

The SDK is only asked whether it and its pack are there, and to make planned features. What it is
asked does not depend on the disk; a dry run asks nothing.

* `questions`, `asking` the commands of a run, word by word;
* `Built` dialogues that are made of commands with a property, `built_makingIfAsked` those of a run;
* `Built.gives` every command has the property, `Built.value_eq` an SDK that does not remember what
  it was asked gives the same value each time;
* `question` a question about the SDK, as the two about it and its pack are;
* `makingIfAsked_unasked`, `makingIfAsked_dry` runs without commands.
-/

namespace EndpointScaffold.Scaffold

open Log Sdk

/-! ### Words -/

/-- the questions about the SDK and its packs; the second one, without a pack to uninstall, has the
SDK list them -/
def questions (sdk : String) : List Command :=
  [{ arguments := [sdk, "--version"] }, { arguments := [sdk, "new", "uninstall"] }]

/-- the command for a feature, in the folder of the project and with the time that the settings allow -/
def asking (c : Config) (folder : String) (f : Feature) : Command :=
  { arguments := [c.sdk, "new", "feat", "-n", f.namespaceName, "-m", f.verb, "-r", f.route, "-o",
      f.folder]
    folder := some folder
    timeout := c.timeout.map Seconds.float }

/-! ### Dialogues -/

/-- every command that a dialogue can give has a property -/
def Gives {α : Type} (P : Command → Prop) (x : Dialogue α) : Prop :=
  ∀ host before, ∀ command ∈ (x host before).commands, P command

inductive Built (P : Command → Prop) : {α : Type} → Dialogue α → Prop
  /-- a value and entries, without a command -/
  | silent {α : Type} (a : α) (entries : List Entry) : Built P fun _ _ => ⟨a, [], entries⟩
  | run {command : Command} (h : P command) : Built P (Dialogue.run command)
  | bind {α β : Type} {x : Dialogue α} {f : α → Dialogue β} (hx : Built P x)
      (hf : ∀ a, Built P (f a)) : Built P (x >>= f)

/-- a host that replies to a command in the same way whatever came before -/
def IsForgetful (host : Host) : Prop :=
  ∀ before before' command, host.runner before command = host.runner before' command

section
variable {α : Type} {P : Command → Prop} {x : Dialogue α}

theorem Built.pure (a : α) : Built P (Pure.pure a : Dialogue α) := .silent a []

theorem Built.note (level : Level) (channel : Channel) (message : String) :
    Built P (Dialogue.note level channel message) := .silent () [⟨level, channel, message⟩]

theorem Built.gives (h : Built P x) : Gives P x := by
  induction h with
  | silent => exact fun _ _ _ h => absurd h List.not_mem_nil
  | run h =>
    intro host before command hcommand
    rw [Dialogue.commands_run, List.mem_singleton] at hcommand
    rw [hcommand]
    exact h
  | bind _ _ hx hf =>
    intro host before command hcommand
    rw [Dialogue.commands_bind, List.mem_append] at hcommand
    exact hcommand.elim (hx host before command) (hf _ host _ command)

theorem Built.value_eq (h : Built P x) {host : Host} (hhost : IsForgetful host)
    (before before' : List Command) : (x host before).value = (x host before').value := by
  induction h generalizing before before' with
  | silent => rfl
  | @run command => exact congrArg (Dialogue.output command) (hhost before before' command)
  | bind _ _ hx hf =>
    rw [Dialogue.value_bind, Dialogue.value_bind, hx before before']
    exact hf _ _ _

end

/-! ### Questions -/

/-- a question about the SDK: the reply is turned into a value, and there is another value for a
system that refuses to run the SDK -/
def question {α : Type} (command : Command) (answer : String → α) (refused : α) (level : Level)
    (complaint : Failure → String) : Dialogue (Except Failure α) := do
  match ← Dialogue.run command with
  | .ok output => pure (.ok (answer output))
  | .error f =>
    if f.isSystem then
      Dialogue.note level .toolchain (complaint f)
      pure (.ok refused)
    else pure (.error f)

theorem isInstalled_eq_question (sdk : String) :
    isInstalled sdk = question (versionCommand sdk) (fun output => !Text.isBlankText output) false
      .debug fun f => sdk ++ " is not runnable: " ++ f.message := rfl

theorem packStatus_eq_question (sdk pack : String) :
    packStatus sdk pack = question (listCommand sdk)
      (fun listing => if listsPack pack listing then .installed else .notInstalled) .unavailable
      .warning fun f => "Could not list installed template packages: " ++ f.message := rfl

section
variable {α : Type} {command : Command} (answer : String → α) (refused : α) (level : Level)
  (complaint : Failure → String)

/-- a question is one command -/
theorem built_question {P : Command → Prop} (h : P command) :
    Built P (question command answer refused level complaint) := by
  refine (Built.run h).bind fun result => ?_
  cases result with
  | ok output => exact .pure _
  | error f =>
    by_cases hsystem : f.isSystem = true
    · simp only [hsystem, if_true]
      exact (Built.note _ _ _).bind fun _ => .pure _
    · simp only [hsystem]
      exact .pure _

end

/-! ### Making features -/

variable (c : Config) (folder : String) (features : List Feature)

/-- the commands of a run: about the SDK and its pack, and to make features -/
def IsAsked (command : Command) : Prop :=
  command ∈ questions c.sdk ∨ ∃ f ∈ features, command = asking c folder f

theorem built_attempts {fs : List Feature} (h : ∀ f ∈ fs, f ∈ features) :
    Built (IsAsked c folder features) (attempts c folder fs) := by
  induction fs with
  | nil => exact .pure _
  | cons f fs ih =>
    have hrest := ih fun g hg => h g (List.mem_cons_of_mem f hg)
    refine (Built.note _ _ _).bind fun _ =>
      (Built.run (.inr ⟨f, h f List.mem_cons_self, rfl⟩)).bind fun result => ?_
    cases result with
    | ok output => exact hrest.bind fun _ => .pure _
    | error failure =>
      by_cases hfound : failure.isNotFound = true
      · simp only [hfound, if_true]
        exact .pure _
      · simp only [hfound]
        exact hrest.bind fun _ => .pure _

theorem built_status (pack : String) :
    Built (IsAsked c folder features) (Sdk.status c.sdk pack) := by
  have hinstalled : Built (IsAsked c folder features) (isInstalled c.sdk) := by
    rw [isInstalled_eq_question]
    exact built_question _ _ _ _ (.inl List.mem_cons_self)
  have hpack : Built (IsAsked c folder features) (packStatus c.sdk pack) := by
    rw [packStatus_eq_question]
    exact built_question _ _ _ _ (.inl (List.mem_cons_of_mem _ List.mem_cons_self))
  refine hinstalled.bind fun result => ?_
  cases result with
  | ok isThere =>
    cases isThere with
    | true => exact hpack
    | false => exact .pure _
  | error f => exact .pure _

theorem built_makeAll : Built (IsAsked c folder features) (makeAll c folder features) := by
  refine (built_status c folder features _).bind fun status => ?_
  cases status with
  | error f => exact .pure _
  | ok status =>
    cases status with
    | unavailable | notInstalled => exact .pure _
    | installed => exact (built_attempts c folder features fun _ h => h).bind fun _ => .pure _

/-- a run asks for the SDK and its pack, and makes planned features -/
theorem built_makingIfAsked (o : Options) (root : Files.Path) :
    Built (IsAsked c root.text features) (makingIfAsked o c root features) := by
  rw [makingIfAsked]
  by_cases hasked : c.runsSdk = true
  · rw [if_pos hasked]
    have hmaking : Built (IsAsked c root.text features)
        (making o.isDryRun c root.text features) := by
      cases o.isDryRun with
      | true => exact .silent _ _
      | false => exact built_makeAll c root.text features
    refine hmaking.bind fun result => ?_
    cases result with
    | error f => exact .pure _
    | ok m => exact (Built.note _ _ _).bind fun _ => .pure _
  · rw [if_neg hasked]
    exact .pure _

/-! ### Runs without commands -/

/-- a host on which every command ends well and prints nothing -/
def idleHost : Host := ⟨fun _ _ => .finished "" 0, "/"⟩

/-- without the SDK's part, a run gives no command -/
theorem makingIfAsked_unasked (h : c.runsSdk = false) (o : Options) (root : Files.Path) (host : Host)
    (before : List Command) :
    (makingIfAsked o c root features host before).commands = [] ∧
      (makingIfAsked o c root features host before).value = .ok none := by
  rw [makingIfAsked, h, if_neg Bool.false_ne_true]
  exact ⟨rfl, rfl⟩

/-- a dry run gives no command, and always gets past the SDK -/
theorem makingIfAsked_dry {o : Options} (hdry : o.isDryRun = true) (root : Files.Path) (host : Host)
    (before : List Command) :
    (makingIfAsked o c root features host before).commands = [] ∧
      ∃ m, (makingIfAsked o c root features host before).value = .ok m := by
  rw [makingIfAsked]
  by_cases hasked : c.runsSdk = true
  · rw [if_pos hasked, hdry]
    exact ⟨rfl, _, rfl⟩
  · rw [if_neg hasked]
    exact ⟨rfl, none, rfl⟩

end EndpointScaffold.Scaffold
