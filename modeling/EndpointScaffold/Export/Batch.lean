import EndpointScaffold.Digest.Sha256
import EndpointScaffold.Files.Disk
import EndpointScaffold.Log.Logged
import EndpointScaffold.Support.Source

/-!
# Exports

An export writes generated files below a root. A path that leads out of the root is refused, a file
that exists is left alone unless it may be replaced, and a failure concerns one file only.

* `Exporter.target` the place of a path, if it does not leave the root;
* `Exporter.place` what becomes of one file;
* `Outcome` what became of all files so far.
-/

namespace EndpointScaffold.Export

open Files Support

structure Exporter where
  root : Place
  /-- whether files that exist are replaced -/
  overwrites : Bool := false
  /-- whether files are left unwritten -/
  isDryRun : Bool := false

/-- why a file is not written -/
inductive Problem where
  | escapes (path : String)
  /-- the path holds a null character -/
  | unusable
  | failed (path : String) (failure : Files.Failure)
  deriving DecidableEq, Repr

def Problem.message : Problem → String
  | .escapes path => "Path escapes the project root: " ++ path
  | .unusable => "embedded null byte"
  | .failed path f =>
    "Failed to write " ++ path ++ ": " ++ f.cause.kind ++ ": " ++ f.message

/-- a file that was written -/
structure Record where
  path : String
  target : Place
  size : Nat
  lines : Nat
  digest : String
  deriving DecidableEq, Repr

structure Outcome where
  written : List Record := []
  skipped : List String := []
  problems : List Problem := []
  deriving DecidableEq, Repr

def Outcome.success (o : Outcome) : Bool := o.problems.isEmpty

def Outcome.totalBytes (o : Outcome) : Nat := o.written.foldr (fun r n => r.size + n) 0

def Outcome.errors (o : Outcome) : List String := o.problems.map Problem.message

def Exporter.target (x : Exporter) (path : String) : Except Problem Place :=
  if path.toList.contains (Char.ofNat 0) then .error .unusable
  else
    let place := ((Path.ofPlace x.root).below path).resolved []
    if isWithin x.root place then .ok place else .error (.escapes path)

def recordOf (f : SourceFile) (place : Place) : Record :=
  { path := f.path
    target := place
    size := (Encoding.Utf8.encode f.text).length
    lines := Text.lineCount f.text
    digest := Digest.sha256OfText f.text }

/-- what becomes of a file -/
inductive Placement where
  | written (r : Record)
  | skipped (path : String)
  | failed (p : Problem)
  deriving DecidableEq, Repr

/-- writes one file, if nothing stands against it; fails if it cannot be told whether the file
exists -/
def Exporter.place (x : Exporter) (d : Disk) (f : SourceFile) :
    Except Failure (Disk × Placement) :=
  match x.target f.path with
  | .error p => .ok (d, .failed p)
  | .ok place => do
    let target := Path.ofPlace place
    if (← d.holds target) && !x.overwrites then .ok (d, .skipped f.path)
    else if x.isDryRun then .ok (d, .written (recordOf f place))
    else
      match d.write target (Encoding.Utf8.encode f.text) with
      | (d, .ok ()) => .ok (d, .written (recordOf f place))
      | (d, .error failure) => .ok (d, .failed (.failed f.path failure))

def Outcome.add (o : Outcome) : Placement → Outcome
  | .written r => { o with written := o.written ++ [r] }
  | .skipped path => { o with skipped := o.skipped ++ [path] }
  | .failed p => { o with problems := o.problems ++ [p] }

end EndpointScaffold.Export

/-!
## Batches of files

A batch is exported in the order of the paths. Every file is placed on the disk that the files
before it leave, and what becomes of it is added to the outcome so far. A failure to place a file at
all interrupts the batch.
-/

namespace EndpointScaffold.Export

open Files Log Support

def inOrder (files : List SourceFile) : List SourceFile :=
  files.mergeSort fun f g => decide (f.path ≤ g.path)

/-- what becomes of a batch: the disk it leaves, the files that were placed, and the failure that
interrupted it -/
structure Placed where
  disk : Disk
  placements : List Placement := []
  interruption : Option Files.Failure := none

def Exporter.placeAll (x : Exporter) : Disk → List SourceFile → Placed
  | d, [] => { disk := d }
  | d, f :: fs =>
    match x.place d f with
    | .error failure => { disk := d, interruption := some failure }
    | .ok (d, p) =>
      let rest := x.placeAll d fs
      { rest with placements := p :: rest.placements }

def Exporter.placementEntries (x : Exporter) : Placement → List Entry
  | .written r =>
    if x.isDryRun then
      [⟨.info, .exporters, "[dry-run] Would write " ++ r.path ++ " (" ++ toString r.size
        ++ " bytes)."⟩]
    else
      [⟨.debug, .utils, "Wrote " ++ toString r.size ++ " bytes to "
        ++ Path.ofPlaceText r.target⟩]
  | .skipped path => [⟨.info, .exporters, "Skipping existing file: " ++ path⟩]
  | .failed p => [⟨.error, .exporters, p.message⟩]

def Exporter.outcomeEntry (x : Exporter) (o : Outcome) : Entry :=
  if o.success then
    ⟨.info, .exporters, "Export " ++ (if x.isDryRun then "simulated" else "completed") ++ ": "
      ++ toString o.written.length ++ " written, " ++ toString o.skipped.length ++ " skipped, "
      ++ noTime ++ "."⟩
  else
    ⟨.error, .exporters, "Export completed with " ++ toString o.problems.length
      ++ " error(s) in " ++ noTime ++ "."⟩

structure Exported where
  disk : Disk
  /-- what became of all files so far -/
  outcome : Outcome
  interruption : Option Files.Failure

/-- exports a batch after an outcome so far -/
def Exporter.run (x : Exporter) (d : Disk) (sofar : Outcome) (files : List SourceFile) :
    Logged Exported :=
  let placed := x.placeAll d (inOrder files)
  let outcome := placed.placements.foldl Outcome.add sofar
  ⟨⟨placed.disk, outcome, placed.interruption⟩,
    placed.placements.flatMap x.placementEntries ++ [Entry.timed "export", x.outcomeEntry outcome]⟩

end EndpointScaffold.Export
