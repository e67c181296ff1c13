import EndpointScaffold.CommandLine.Program

/-!
# The program on a real system

Reads the files that a command line is about into a disk, follows the command line, and writes what
has changed. Everything is decided by values; here files are read and written and texts are printed.

No other program is started, so the SDK is never found. Log entries carry the time since the program
started.
-/

namespace EndpointScaffold

open CommandLine Files

/-- the disk with a place and all folders above it, as far as they are there -/
def readPlace (d : Disk) (place : Place) : IO Disk := do
  let here ← IO.currentDir
  let mut tree := d.tree
  for k in [1:place.length + 1] do
    let upper := place.take k
    let name := here / Path.ofPlaceText upper
    if (tree.find? upper).isNone then
      if ← name.isDir then tree := tree.put upper .folder
      else if ← name.pathExists then
        tree := tree.put upper (.file (← IO.FS.readBinFile name).data.toList)
  pure { d with tree := tree }

/-- the disk with everything below a place -/
partial def readBelow (d : Disk) (place : Place) : IO Disk := do
  let d ← readPlace d place
  let name := (← IO.currentDir) / Path.ofPlaceText place
  if !(← name.isDir) then return d
  let mut d := d
  for entry in ← name.readDir do
    d ← readBelow d (place ++ [entry.fileName])
  pure d

/-- the disk with all that an invocation is about: first the files with settings, then the folders
that these name -/
def readFor (i : Invocation) (d : Disk) : IO Disk := do
  let mut d := d
  for p in i.root d :: i.configFiles d do
    d ← readPlace d (p.resolved d.here)
  for p in i.folders d do
    d ← readBelow d (p.resolved d.here)
  pure d

/-- writes the places that are new or have changed -/
def writeChanges (before after : Tree) : IO Unit := do
  for (place, node) in after.entries do
    if before.find? place != some node then
      match node with
      | .folder => IO.FS.createDirAll (Path.ofPlaceText place)
      | .file bytes =>
        IO.FS.writeBinFile (Path.ofPlaceText place) (ByteArray.mk bytes.toArray)

end EndpointScaffold

open EndpointScaffold CommandLine Files

/-- follows the command line -/
def main (arguments : List String) : IO UInt32 := do
  let place := (Path.ofText (← IO.currentDir).toString).resolved []
  let empty : Disk := ⟨.empty, place⟩
  let disk ← match Invocation.ofArguments arguments with
    | .ok i => readFor i (← readPlace empty place)
    | .error _ => pure empty
  let runner : Sdk.Runner := fun _ c => .failed (.notFound c.program)
  let world : World := { disk := disk, host := ⟨runner, Path.ofPlaceText place⟩ }
  match CommandLine.run "00:00:00" world arguments with
  | .error crash =>
    if let some left := crash.disk? then writeChanges disk.tree left.tree
    IO.eprintln crash.message
    pure 1
  | .ok ending =>
    writeChanges disk.tree ending.disk.tree
    IO.print ending.output
    IO.eprint ending.errorOutput
    pure ending.code.toUInt32
