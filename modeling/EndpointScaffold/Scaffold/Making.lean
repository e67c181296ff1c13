import EndpointScaffold.Sdk.Toolchain

/-!
# Making features

The SDK makes the features of a project one by one, once it is known to be there with its template
pack. A feature that fails does not keep the others from being made, unless the SDK itself has gone.

* `attempts` what becomes of each feature, up to the first at which the SDK is not found;
* `making` the whole stage, in a dry run without any command.
-/

namespace EndpointScaffold.Scaffold

open Log Sdk

/-- what becomes of a feature -/
inductive Attempt where
  | made (f : Feature) (output : String)
  | failed (f : Feature) (failure : Sdk.Failure)

def Attempt.output? : Attempt → Option (String × String)
  | .made f output => some (f.namespaceName, output)
  | .failed _ _ => none

def failureText (sdk : String) (f : Feature) (failure : Sdk.Failure) : String :=
  if failure.isNotFound then sdk ++ " not found: " ++ failure.message
  else f.namespaceName ++ ": " ++ failure.message

def Attempt.error? (sdk : String) : Attempt → Option String
  | .made _ _ => none
  | .failed f failure => some (failureText sdk f failure)

def attempts (c : Config) (folder : String) : List Feature → Dialogue (List Attempt)
  | [] => pure []
  | f :: fs => do
    Dialogue.note .info .generator
      ("Generating " ++ f.namespaceName ++ " (" ++ f.verb ++ " " ++ f.route ++ ").")
    match ← makeFeature c.sdk f folder (c.timeout.map Seconds.float) with
    | .ok output => do
      let rest ← attempts c folder fs
      pure (.made f output :: rest)
    | .error failure =>
      if failure.isNotFound then pure [.failed f failure]
      else do
        let rest ← attempts c folder fs
        pure (.failed f failure :: rest)

/-- what the SDK did for a project -/
structure Making where
  /-- namespaces of features with what was printed for them -/
  outputs : List (String × String) := []
  errors : List String := []
  /-- what is shown while features are made -/
  echoed : List String := []
  detail : String := ""

/-- attempts at `n` features taken together -/
def Making.ofAttempts (sdk : String) (n : Nat) (as : List Attempt) : Making :=
  let outputs := as.filterMap Attempt.output?
  { outputs := outputs
    errors := as.filterMap (Attempt.error? sdk)
    echoed := (outputs.map (·.2)).filter fun text => !text.isEmpty
    detail := toString outputs.length ++ "/" ++ toString n ++ " features" }

/-- a stage that ends before the first feature -/
def Making.ofError (n : Nat) (message : String) : Making :=
  { errors := [message], detail := "0/" ++ toString n ++ " features" }

def dryRunCommand (c : Config) (f : Feature) : String :=
  (featureCommand c.sdk f "" none).line

/-- what would be done for features -/
def Making.dry (c : Config) (features : List Feature) : Making :=
  { outputs := features.map fun f => (f.namespaceName, "[dry-run] " ++ dryRunCommand c f)
    detail := "dry run" }

def dryEntries (c : Config) (features : List Feature) : List Entry :=
  features.map fun f => ⟨.info, .generator, "[dry-run] Would run: " ++ dryRunCommand c f⟩

def makeAll (c : Config) (folder : String) (features : List Feature) :
    Dialogue (Except Sdk.Failure Making) := do
  match ← Sdk.status c.sdk c.templatePack with
  | .error f => pure (.error f)
  | .ok .unavailable =>
    pure (.ok (.ofError features.length (c.sdk ++ " is not installed or not in PATH.")))
  | .ok .notInstalled =>
    pure (.ok (.ofError features.length
      (c.templatePack ++ " is not installed; run 'fescaffold check' first.")))
  | .ok .installed =>
    let as ← attempts c folder features
    pure (.ok (.ofAttempts c.sdk features.length as))

/-- the whole stage -/
def making (isDryRun : Bool) (c : Config) (folder : String) (features : List Feature) :
    Dialogue (Except Sdk.Failure Making) :=
  if isDryRun then fun _ _ => ⟨.ok (.dry c features), [], dryEntries c features⟩
  else makeAll c folder features

end EndpointScaffold.Scaffold
