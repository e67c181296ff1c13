import EndpointScaffold.Config.Schema
import EndpointScaffold.Encoding.Utf8
import EndpointScaffold.Files.Disk
import EndpointScaffold.Json.Reader
import EndpointScaffold.Log.Logged
import EndpointScaffold.Schema.Issue
import EndpointScaffold.Text.Trim
import EndpointScaffold.Yaml.Meaning

/-!
# Sources of settings

Settings come from a file and from what is asked for on top of it: every field that is asked for
replaces the one of the file, and every field that neither names has its standard value.

* `find?` the file of a project;
* `load` the entries of a file;
* `build` the settings, with an entry about the file that was read.
-/

namespace EndpointScaffold.Config

open Data Files Log Schema Text

/-- why there are no settings -/
inductive Problem where
  | absent (path : String)
  | noFile (path : String)
  | unreadable (failure : Failure)
  | undecodable (u : Encoding.Undecodable)
  | badJson (path : String) (problem : Json.Problem) (text : String)
  | badYaml (path : String) (trouble : Yaml.Trouble) (text : String)
  | noObject (type : String)
  | noMapping (type : String)
  /-- the entries do not fit the fields -/
  | unfit (issues : List Issue)

def Problem.message : Problem → String
  | .absent path => "Config file not found: " ++ path
  | .noFile path => "Config path is not a file: " ++ path
  | .unreadable f => f.message
  | .undecodable u => u.message
  | .badJson path p text =>
    match p.fault with
    | .longInteger n => n.message
    | _ => "Invalid JSON in " ++ path ++ ": " ++ p.message text
  | .badYaml path t text =>
    match t with
    | .unfit _ message => message
    | _ => "Invalid YAML in " ++ path ++ ": " ++ t.message text.toList
  | .noObject type => "Expected a JSON object at top level, got " ++ type ++ "."
  | .noMapping type => "Expected a YAML mapping at top level, got " ++ type ++ "."
  | .unfit issues => "Config validation failed: " ++ listing title issues

/-- whether the program can explain the problem to its user; scalars that do not fit a tag that was
written for them are beyond it -/
def Problem.isExpected : Problem → Bool
  | .badYaml _ (.unfit kind _) _ => kind == "ValueError"
  | .unreadable _ => false
  | _ => true

/-! ### Files -/

/-- names of files with settings; the first that is there counts -/
def fileNames : List String := ["fescaffold.yaml", "fescaffold.yml", "fescaffold.json"]

/-- the file with the settings of a project -/
def find? (d : Disk) (root : Path) : Except Failure (Option Path) :=
  (fileNames.map root.below).findM? d.isFile

def readJson (path text : String) : Except Problem Entries :=
  match Json.read text with
  | .error p => .error (.badJson path p text)
  | .ok (.object entries) => .ok entries
  | .ok v => .error (.noObject v.typeName)

/-- an empty file has no entries -/
def readYaml (path text : String) : Except Problem Entries :=
  match Yaml.read text with
  | .error t => .error (.badYaml path t text)
  | .ok .null => .ok []
  | .ok (.object entries) => .ok (Value.entriesOf entries)
  | .ok v => .error (.noMapping v.typeName)

def isJson (p : Path) : Bool := lower p.suffix == ".json"

/-- the text of a file with settings -/
def readText (d : Disk) (p : Path) : Except Problem String :=
  match d.read p with
  | .error f => .error (.unreadable f)
  | .ok bytes =>
    match Encoding.decode bytes with
    | .error u => .error (.undecodable u)
    | .ok text => .ok (String.ofList (unifyLineEnds text.toList))

/-- the entries of a file with settings -/
def load (d : Disk) (p : Path) : Except Problem Entries := do
  if !(← (d.holds p).mapError .unreadable) then .error (.absent p.text)
  else if !(← (d.isFile p).mapError .unreadable) then .error (.noFile p.text)
  else
    let text ← readText d p
    if isJson p then readJson p.text text else readYaml p.text text

/-! ### Settings -/

/-- entries with others on top of them; null asks for nothing -/
def override (entries overrides : Entries) : Entries :=
  overrides.foldl (fun out (key, v) =>
    match v with
    | .null => out
    | v => Value.insert key v out) entries

def ofOverridden (entries overrides : Entries) : Except Problem Config :=
  (ofValue (.object (override entries overrides))).mapError .unfit

/-- the settings of a project; a file that is asked for takes the place of the one found there -/
def build (d : Disk) (root : Path) (path : Option Path) (overrides : Entries) :
    Logged (Except Problem Config) := do
  match if path.isSome then .ok path else find? d root with
  | .error f => pure (.error (.unreadable f))
  | .ok none => pure (ofOverridden [] overrides)
  | .ok (some p) =>
    match load d p with
    | .error problem => pure (.error problem)
    | .ok entries =>
      Logged.note .info .generator
        ("Loaded config file " ++ p.text ++ " (" ++ toString entries.length ++ " keys).")
      pure (ofOverridden entries overrides)

end EndpointScaffold.Config
