import EndpointScaffold.Encoding.Utf8
import EndpointScaffold.Files.Tree

/-!
# Disks

A disk is a tree of files with a working folder. Paths are followed name by name, and a name can
only be looked up in a folder, so `a/..` leads somewhere only if `a` is a folder.

* `look` what a path leads to, `holds`, `isFolder`, `isFile`, `read`;
* `makeFolder` one folder, `ensureFolder` a folder with all folders above it;
* `makeTemporary`, `fill`, `move`, `discard` what becomes of a file that is made to be renamed;
* `write` puts a whole file in place by these, so that no half of it can ever be seen.
-/

namespace EndpointScaffold.Files

structure Disk where
  tree : Tree
  /-- working folder -/
  here : Place
  deriving DecidableEq, Repr

/-- most bytes of a name -/
def nameLimit : Nat := 255

/-- least number of bytes that is too much for a path -/
def pathLimit : Nat := 4096

def isTooLong (name : String) : Bool := nameLimit < name.utf8ByteSize

/-- follows names from a place; the last one need not exist -/
def Tree.walk (t : Tree) : Place → List String → Except Cause Place
  | place, [] => .ok place
  | place, part :: parts =>
    match t.find? place with
    | none => .error .missing
    | some (.file _) => .error .notFolder
    | some .folder =>
      if isTooLong part then .error .tooLong else walk t (Path.step place part) parts

/-- what keeps a path from being followed at all -/
def Path.fault? (p : Path) : Option Cause :=
  if p.text.toList.contains (Char.ofNat 0) then some .nullCharacter
  else if pathLimit ≤ p.text.utf8ByteSize then some .tooLong
  else none

namespace Disk

/-! ### Looking -/

def locate (d : Disk) (p : Path) : Except Cause Place :=
  match p.fault? with
  | some c => .error c
  | none => d.tree.walk (p.start d.here) p.parts

def look (d : Disk) (p : Path) : Except Cause Node := do
  let place ← d.locate p
  match d.tree.find? place with
  | some n => .ok n
  | none => .error .missing

/-- whether a path leads to something that passes a test; a name that is too long leaves that
open -/
def leadsTo (d : Disk) (p : Path) (test : Node → Bool) : Except Failure Bool :=
  match d.look p with
  | .ok n => .ok (test n)
  | .error .tooLong => .error { cause := .tooLong, path := p.text }
  | .error _ => .ok false

def holds (d : Disk) (p : Path) : Except Failure Bool := d.leadsTo p fun _ => true

def isFolder (d : Disk) (p : Path) : Except Failure Bool := d.leadsTo p (· == .folder)

def isFile (d : Disk) (p : Path) : Except Failure Bool := d.leadsTo p (· != .folder)

def read (d : Disk) (p : Path) : Except Failure (List UInt8) :=
  match d.look p with
  | .ok (.file bytes) => .ok bytes
  | .ok .folder => .error { cause := .isFolder, path := p.text }
  | .error c => .error { cause := c, path := p.text }

/-! ### Folders -/

/-- place of the last name of a path, whose other names lead to a folder; none if the path does not
end in a name -/
def slot (d : Disk) (p : Path) : Except Cause (Option Place) := do
  if let some c := p.fault? then .error c
  let above ← d.locate p.parent
  match d.tree.find? above with
  | none => .error .missing
  | some (.file _) => .error .notFolder
  | some .folder =>
    if isTooLong p.name then .error .tooLong
    else .ok (if p.name = "" ∨ p.name = ".." then none else some (above ++ [p.name]))

/-- makes a folder or a file, where nothing is yet -/
def make (d : Disk) (p : Path) (n : Node) : Except Cause Disk := do
  match ← d.slot p with
  | none => .error .present
  | some place =>
    match d.tree.find? place with
    | some _ => .error .present
    | none => .ok { d with tree := d.tree.put place n }

def makeFolder (d : Disk) (p : Path) : Except Cause Disk := d.make p .folder

/-- what remains of a refusal to make a folder: nothing, if the folder is there -/
def refusal (d : Disk) (p : Path) (c : Cause) : Except Failure Unit := do
  if c ≠ .missing ∧ (← d.isFolder p) then .ok () else .error { cause := c, path := p.text }

/-- makes a folder with all folders above it; its parts are given from the last one on -/
def ensureParts (d : Disk) (anchor : Anchor) : List String → Disk × Except Failure Unit
  | [] =>
    let p : Path := ⟨anchor, []⟩
    match d.makeFolder p with
    | .ok d => (d, .ok ())
    | .error c => (d, d.refusal p c)
  | part :: above =>
    let p : Path := ⟨anchor, (part :: above).reverse⟩
    match d.makeFolder p with
    | .ok d => (d, .ok ())
    | .error .missing =>
      match d.ensureParts anchor above with
      | (d, .error f) => (d, .error f)
      | (d, .ok ()) =>
        match d.makeFolder p with
        | .ok d => (d, .ok ())
        | .error c => (d, d.refusal p c)
    | .error c => (d, d.refusal p c)

def ensureFolder (d : Disk) (p : Path) : Disk × Except Failure Unit :=
  d.ensureParts p.anchor p.parts.reverse

/-! ### Files -/

/-- gives a file that is open other bytes -/
def fill (d : Disk) (p : Path) (bytes : List UInt8) : Disk :=
  match d.slot p with
  | .ok (some place) => { d with tree := d.tree.put place (.file bytes) }
  | _ => d

/-- puts a file at another path, where a file gives way to it, but a folder does not -/
def move (d : Disk) (old new : Path) : Except Cause Disk := do
  match ← d.slot old, ← d.slot new with
  | some source, some target =>
    match d.tree.find? source, d.tree.find? target with
    | none, _ => .error .missing
    | some .folder, _ => .error .isFolder
    | some (.file _), some .folder => .error .isFolder
    | some (.file bytes), _ =>
      .ok { d with tree := (d.tree.unlink source).put target (.file bytes) }
  | _, _ => .error .busy

/-- drops a file, if it is there -/
def discard (d : Disk) (p : Path) : Disk :=
  match d.look p, d.slot p with
  | .ok (.file _), .ok (some place) => { d with tree := d.tree.unlink place }
  | _, _ => d

/-! ### Writing -/

/-- stands in messages for the part of a temporary name that is never the same -/
def temporaryMark : String := "<tmp>"

/-- name of the file in which a file is written before it is put in place -/
def temporaryName (mark name : String) : String := "." ++ name ++ "." ++ mark ++ ".tmp"

/-- where that file is: in the same folder -/
def temporaryPath (d : Disk) (p : Path) (mark : String) : Path :=
  (p.parent.absolute d.here).extend [temporaryName mark p.name]

/-- makes an empty file beside a path; if its name is taken, the next mark is tried -/
def makeTemporary (d : Disk) (p : Path) (marks : Nat → String) : Nat → Except Cause (Disk × Path)
  | 0 => .error .present
  | left + 1 =>
    match d.make (d.temporaryPath p (marks left)) (.file []) with
    | .ok made => .ok (made, d.temporaryPath p (marks left))
    | .error .present => d.makeTemporary p marks left
    | .error c => .error c

/-- writes a file, and makes the folders above it; the bytes go to a temporary file, which is then
put in place, or dropped if it cannot be -/
def writeVia (marks : Nat → String) (d : Disk) (p : Path) (bytes : List UInt8) :
    Disk × Except Failure Unit :=
  match d.ensureFolder p.parent with
  | (d, .error f) => (d, .error f)
  | (d, .ok ()) =>
    let shown := (d.temporaryPath p temporaryMark).text
    -- one name more than there are entries, so that they cannot all be taken
    match d.makeTemporary p marks (d.tree.entries.length + 1) with
    | .error c => (d, .error { cause := c, path := shown })
    | .ok (d, temporary) =>
      let d := d.fill temporary bytes
      match d.move temporary p with
      | .ok d => (d, .ok ())
      | .error c =>
        (d.discard temporary, .error { cause := c, path := shown, target := some p.text })

/-- eight characters -/
def mark (n : Nat) : String := toString (10000000 + n)

def write : Disk → Path → List UInt8 → Disk × Except Failure Unit := writeVia mark

end Disk

end EndpointScaffold.Files
