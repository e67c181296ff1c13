import EndpointScaffold.Log.Logged
import EndpointScaffold.Support.Contracts
import EndpointScaffold.Support.Validator

/-!
# Support files

All files that are generated for a project, as far as the settings ask for them: contracts, mapper
and validators of every entity, and the paging types that they share.

An entity with a length that cannot be read has no files at all; the other entities keep theirs.
-/

namespace EndpointScaffold.Support

open Log Text

/-! ### Paging -/

def pagedRequestText (c : Config) : String :=
  ofLines (header [] (commonNamespace c) ++ [
    "public class PagedRequest",
    "\x7b",
    "    public int Page \x7b get; set; \x7d = 1;",
    "    public int PageSize \x7b get; set; \x7d = 20;",
    "",
    "    public int Skip => (Page < 1 ? 0 : Page - 1) * PageSize;",
    "\x7d",
    ""])

def pagedResponseText (c : Config) : String :=
  ofLines (header [] (commonNamespace c) ++ [
    "public class PagedResponse<T>",
    "\x7b",
    "    public IReadOnlyList<T> Items \x7b get; set; \x7d = new List<T>();",
    "    public int Page \x7b get; set; \x7d",
    "    public int PageSize \x7b get; set; \x7d",
    "    public int TotalCount \x7b get; set; \x7d",
    "",
    "    public int TotalPages => PageSize <= 0",
    "        ? 0",
    "        : (int)Math.Ceiling(TotalCount / (double)PageSize);",
    "\x7d",
    ""])

def sharedFiles (c : Config) : List SourceFile :=
  if c.makesPaging then
    [⟨commonFolder c ++ "/PagedRequest.cs", pagedRequestText c⟩,
      ⟨commonFolder c ++ "/PagedResponse.cs", pagedResponseText c⟩]
  else []

/-! ### Entities -/

def validatorFile (c : Config) (e : Entity) (request : Contract) :
    Except Decimal.LongNumber SourceFile :=
  (validatorText c e request).map fun text =>
    ⟨entityFolder c e ++ "/Validators/" ++ request.name ++ "Validator.cs", text⟩

def entityFiles (c : Config) (e : Entity) : Except Decimal.LongNumber (List SourceFile) := do
  let folder := entityFolder c e
  let validators ←
    if c.makesValidators then [createRequest e, updateRequest e].mapM (validatorFile c e)
    else .ok []
  .ok ((if c.makesContracts then [⟨folder ++ "/" ++ e.name ++ "Contracts.cs", contractsText c e⟩]
      else [])
    ++ (if c.makesMappers then [⟨folder ++ "/" ++ e.name ++ "Mapper.cs", mapperText c e⟩] else [])
    ++ validators)

/-! ### A whole project -/

/-- a later file at the path of an earlier one takes its place -/
def putFile (f : SourceFile) : List SourceFile → List SourceFile
  | [] => [f]
  | g :: gs => if g.path == f.path then f :: gs else g :: putFile f gs

/-- what is generated for a project -/
structure Rendering where
  files : List SourceFile
  /-- one message for each entity without files -/
  errors : List String
  deriving DecidableEq, Repr

def failureMessage (e : Entity) (problem : Decimal.LongNumber) : String :=
  e.name ++ ": ValueError: " ++ problem.message

def Rendering.add (c : Config) (r : Rendering) (e : Entity) : Rendering :=
  match entityFiles c e with
  | .ok files => { r with files := files.foldl (fun all f => putFile f all) r.files }
  | .error problem => { r with errors := r.errors ++ [failureMessage e problem] }

/-- everything generated for a project -/
def rendering (c : Config) (entities : List Entity) : Rendering :=
  entities.foldl (Rendering.add c) ⟨sharedFiles c, []⟩

def renderingEntry (c : Config) (e : Entity) : Entry :=
  match entityFiles c e with
  | .ok files => ⟨.debug, .templates, "Generated " ++ toString (files.map (·.path)).eraseDups.length
      ++ " file(s) for " ++ e.name ++ "."⟩
  | .error problem => ⟨.error, .generator, failureMessage e problem⟩

/-- entries of the generation for a project -/
def renderingEntries (c : Config) (entities : List Entity) : List Entry :=
  ⟨.debug, .templates, "TemplateGenerator initialised (namespace=" ++ c.baseNamespace ++ ")."⟩
    :: entities.map (renderingEntry c)

end EndpointScaffold.Support
