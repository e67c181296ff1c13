import EndpointScaffold.Text.Trim

/-!
# Paths

A path is an anchor and parts. Reading a path drops empty parts and single dots, and keeps double
dots, for what they mean depends on the files. A place is where a path leads to: the names from the
root of all files on down, without any dots.

* `Path.ofText`, `Path.text` reading and writing;
* `Path.join` a path taken from another one;
* `Path.resolved` the place of a path, decided by the names alone.
-/

namespace EndpointScaffold.Files

open Text

inductive Anchor where
  | here
  | root
  /-- two leading slashes, which are kept -/
  | doubleRoot
  deriving DecidableEq, Repr

def Anchor.text : Anchor → String
  | .here => ""
  | .root => "/"
  | .doubleRoot => "//"

structure Path where
  anchor : Anchor
  parts : List String
  deriving DecidableEq, Repr

/-- names from the root on down -/
abbrev Place := List String

namespace Path

/-! ### Reading and writing -/

def anchorOf : List Char → Anchor
  | '/' :: '/' :: '/' :: _ => .root
  | '/' :: '/' :: _ => .doubleRoot
  | '/' :: _ => .root
  | _ => .here

/-- parts of a path, empty ones and single dots dropped -/
def partsOf (s : String) : List String := (split '/' s).filter fun p => p != "" && p != "."

def ofText (s : String) : Path := ⟨anchorOf s.toList, partsOf s⟩

def text (p : Path) : String :=
  let s := p.anchor.text ++ join "/" p.parts
  if s.isEmpty then "." else s

/-- a path with an absolute anchor -/
def ofPlace (place : Place) : Path := ⟨.root, place⟩

/-! ### Parts -/

/-- the path `q` as seen from `p`; an absolute one does not depend on `p` -/
def join (p q : Path) : Path :=
  match q.anchor with
  | .here => ⟨p.anchor, p.parts ++ q.parts⟩
  | _ => q

def below (p : Path) (s : String) : Path := p.join (ofText s)

def extend (p : Path) (names : List String) : Path := ⟨p.anchor, p.parts ++ names⟩

def parent (p : Path) : Path := ⟨p.anchor, p.parts.dropLast⟩

/-- last part, empty if there is none -/
def name (p : Path) : String := p.parts.getLast?.getD ""

/-- the end of a name from its last dot on, unless the dot is its first or last character -/
def suffix (p : Path) : String :=
  let reversed := p.name.toList.reverse
  let ending := reversed.takeWhile (· != '.')
  let stem := (reversed.dropWhile (· != '.')).drop 1
  if ending.isEmpty || stem.isEmpty then "" else String.ofList ('.' :: ending.reverse)

/-! ### Places -/

/-- one step from a place; above the root there is nothing -/
def step (place : Place) (part : String) : Place :=
  if part = ".." then place.dropLast else place ++ [part]

def start (here : Place) (p : Path) : Place :=
  match p.anchor with
  | .here => here
  | _ => []

/-- the place of a path by its names alone -/
def resolved (here : Place) (p : Path) : Place := p.parts.foldl step (p.start here)

/-- the same path from the root on, by its names alone -/
def absolute (here : Place) (p : Path) : Path :=
  ⟨if p.anchor = .doubleRoot then .doubleRoot else .root, p.resolved here⟩

def ofPlaceText (place : Place) : String := (ofPlace place).text

end Path

/-- whether `place` is `root` or lies below it; whole names are compared -/
def isWithin (root place : Place) : Bool := root.isPrefixOf place

end EndpointScaffold.Files
