import EndpointScaffold.Files.Disk

/-!
# Patterns of paths

A pattern is a path whose parts match names: `*` stands for any characters, `?` for one, and a set
in square brackets for one of its characters. The part `**` stands for any number of folders.

* `matchesName` one part against one name;
* `Disk.select` the paths that a pattern leads to;
* `Disk.search` the files below a folder that fit, in the order of their parts.
-/

namespace EndpointScaffold.Files

open Text

/-! ### Names -/

inductive Glyph where
  | any
  | one
  | char (c : Char)
  /-- a character between some bounds, or outside all of them -/
  | oneOf (negated : Bool) (ranges : List (Char × Char))
  deriving DecidableEq, Repr

/-- ranges of a set: `a-z` is a range, any other character stands for itself -/
def rangesOf : List Char → List (Char × Char)
  | a :: '-' :: b :: rest => (a, b) :: rangesOf rest
  | a :: rest => (a, a) :: rangesOf rest
  | [] => []

/-- the characters of a set and what follows it, if it is closed; a closing bracket that comes
first belongs to the set -/
def takeSet? (cs : List Char) : Option (Bool × List Char × List Char) :=
  let (negated, cs) := match cs with
    | '!' :: rest => (true, rest)
    | cs => (false, cs)
  let (first, rest) := match cs with
    | ']' :: rest => ([']'], rest)
    | cs => ([], cs)
  match rest.dropWhile (· != ']') with
  | [] => none
  | _ :: after => some (negated, first ++ rest.takeWhile (· != ']'), after)

/-- pieces of a pattern; `n` bounds their number -/
def glyphsOf : Nat → List Char → List Glyph
  | 0, _ => []
  | _, [] => []
  | n + 1, '*' :: rest => .any :: glyphsOf n rest
  | n + 1, '?' :: rest => .one :: glyphsOf n rest
  | n + 1, '[' :: rest =>
    match takeSet? rest with
    | some (negated, set, after) => .oneOf negated (rangesOf set) :: glyphsOf n after
    | none => .char '[' :: glyphsOf n rest
  | n + 1, c :: rest => .char c :: glyphsOf n rest

/-- whether a piece other than `any` matches a character -/
def Glyph.accepts (c : Char) : Glyph → Bool
  | .any => true
  | .one => true
  | .char d => c == d
  | .oneOf negated ranges => (ranges.any fun r => r.1 ≤ c && c ≤ r.2) != negated

def endings : List Char → List (List Char)
  | [] => [[]]
  | c :: cs => (c :: cs) :: endings cs

def matchesChars : List Glyph → List Char → Bool
  | [], cs => cs.isEmpty
  | .any :: gs, cs => (endings cs).any (matchesChars gs)
  | _ :: _, [] => false
  | g :: gs, c :: cs => g.accepts c && matchesChars gs cs

def matchesName (part name : String) : Bool :=
  matchesChars (glyphsOf part.length part.toList) name.toList

/-! ### Paths -/

abbrev Pattern := List String

/-- why nothing is searched -/
inductive SearchProblem where
  /-- two stars beside other characters -/
  | starsInName
  /-- a pattern that does not start where the search does -/
  | absolute
  | failed (f : Failure)
  deriving DecidableEq, Repr

def SearchProblem.message : SearchProblem → String
  | .starsInName => "Invalid pattern: '**' can only be an entire path component"
  | .absolute => "Non-relative patterns are unsupported"
  | .failed f => f.message

/-- reads a pattern; a slash at its end asks for a folder -/
def Pattern.ofText (s : String) : Except SearchProblem Pattern :=
  let parts := Path.partsOf s
  if Path.anchorOf s.toList != .here then .error .absolute
  else if parts.any fun p => p != "**" && mentions p "**" then .error .starsInName
  else .ok (parts ++ (if s.toList.getLast? == some '/' then [""] else []))

/-- whether a part stands for more than the name that it is -/
def isWild (part : String) : Bool := part.toList.any fun c => c == '*' || c == '?' || c == '['

/-- order of places: name by name, a shorter one first -/
def Place.le : Place → Place → Bool
  | [], _ => true
  | _ :: _, [] => false
  | p :: ps, q :: qs => if p == q then Place.le ps qs else decide (p < q)

/-! ### Searching -/

namespace Disk

/-- what is below the folder that a path leads to, with the names that lead there -/
def below (d : Disk) (p : Path) : List (List String × Node) :=
  match d.locate p with
  | .error _ => []
  | .ok place => (d.tree.entriesBelow place).map fun e => (e.1.drop place.length, e.2)

def foldersFrom (d : Disk) (p : Path) : List Path :=
  p :: (d.below p).filterMap fun e =>
    if e.2 == .folder then some ⟨p.anchor, p.parts ++ e.1⟩ else none

/-- names in a folder that fit a part; before further parts they must be names of folders -/
def namesFitting (d : Disk) (p : Path) (part : String) (onlyFolders : Bool) : List String :=
  (d.below p).filterMap fun e =>
    match e with
    | ([name], n) =>
      if (!onlyFolders || n == .folder) && matchesName part name then some name else none
    | _ => none

def select (d : Disk) : Pattern → Path → Except Failure (List Path)
  | [], p => .ok [p]
  | part :: parts, p =>
    if part == "" then .ok [p]
    else if part == "**" then do
      let found ← (d.foldersFrom p).mapM (d.select parts)
      .ok found.flatten.eraseDups
    else if isWild part then do
      let names := d.namesFitting p part (!parts.isEmpty)
      let found ← names.mapM fun name => d.select parts ⟨p.anchor, p.parts ++ [name]⟩
      .ok found.flatten
    else do
      let next : Path := ⟨p.anchor, p.parts ++ [part]⟩
      if ← (if parts.isEmpty then d.holds next else d.isFolder next) then d.select parts next
      else .ok []

/-- files that a pattern leads to from a folder or any folder below it, in the order of their
parts; a path that leads to no folder has none -/
def filesFitting (d : Disk) (folder : Path) (pattern : Pattern) : Except Failure (List Path) := do
  if ← d.isFolder folder then
    let found ← d.select ("**" :: pattern) folder
    let files ← found.filterM d.isFile
    .ok (files.mergeSort fun p q => Place.le p.parts q.parts)
  else .ok []

/-- files below a folder that fit a pattern, which is only read if there is a folder -/
def search (d : Disk) (folder : Path) (pattern : String) : Except SearchProblem (List Path) := do
  if ← (d.isFolder folder).mapError .failed then
    let parts ← Pattern.ofText pattern
    (d.filesFitting folder parts).mapError .failed
  else .ok []

end Disk

end EndpointScaffold.Files
