import EndpointScaffold.Feature.Basic
import EndpointScaffold.Sdk.Dialogue
import EndpointScaffold.Text.Character

/-!
# The toolchain

What the program asks of the SDK: whether it is there, whether the template pack is installed, to
install it, and to make a feature from its template. Exit codes are not looked at; only what a
command prints counts.

* `isInstalled` the SDK answers when asked for its version;
* `status` first the SDK, then the list of its template packs;
* `installPack`, `makeFeature` one command each.
-/

namespace EndpointScaffold.Sdk

open Log Text

inductive ToolStatus where
  | installed
  | notInstalled
  | unavailable
  deriving DecidableEq, Repr

def ToolStatus.name : ToolStatus → String
  | .installed => "installed"
  | .notInstalled => "not_installed"
  | .unavailable => "tool_unavailable"

/-! ### Commands -/

def versionCommand (sdk : String) : Command := { arguments := [sdk, "--version"] }

/-- without a name the command lists the packs that are installed -/
def listCommand (sdk : String) : Command := { arguments := [sdk, "new", "uninstall"] }

def installCommand (sdk pack : String) : Command := { arguments := [sdk, "new", "install", pack] }

def featureCommand (sdk : String) (f : Feature) (folder : String) (timeout : Option Seconds) :
    Command :=
  { arguments := sdk :: f.arguments, folder := some folder, timeout := timeout }

/-! ### Checks -/

/-- whether the SDK runs and prints something -/
def isInstalled (sdk : String) : Dialogue (Except Failure Bool) := do
  match ← Dialogue.run (versionCommand sdk) with
  | .ok output => pure (.ok (!isBlankText output))
  | .error f =>
    if f.isSystem then
      Dialogue.note .debug .toolchain (sdk ++ " is not runnable: " ++ f.message)
      pure (.ok false)
    else pure (.error f)

/-- whether a list of packs names a pack; case does not matter -/
def listsPack (pack listing : String) : Bool := mentions (lower listing) (lower pack)

/-- whether the template pack is installed, once the SDK is known to run -/
def packStatus (sdk pack : String) : Dialogue (Except Failure ToolStatus) := do
  match ← Dialogue.run (listCommand sdk) with
  | .ok listing => pure (.ok (if listsPack pack listing then .installed else .notInstalled))
  | .error f =>
    if f.isSystem then
      Dialogue.note .warning .toolchain
        ("Could not list installed template packages: " ++ f.message)
      pure (.ok .unavailable)
    else pure (.error f)

def status (sdk pack : String) : Dialogue (Except Failure ToolStatus) := do
  match ← isInstalled sdk with
  | .ok true => packStatus sdk pack
  | .ok false => pure (.ok .unavailable)
  | .error f => pure (.error f)

/-! ### Actions -/

def installPack (sdk pack : String) : Dialogue (Except Failure String) := do
  Dialogue.note .info .toolchain ("Installing template pack " ++ pack ++ ".")
  Dialogue.run (installCommand sdk pack)

def makeFeature (sdk : String) (f : Feature) (folder : String) (timeout : Option Seconds) :
    Dialogue (Except Failure String) :=
  Dialogue.run (featureCommand sdk f folder timeout)

end EndpointScaffold.Sdk
