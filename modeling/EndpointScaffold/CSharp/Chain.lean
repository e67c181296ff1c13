import EndpointScaffold.CSharp.Tree

/-!
# Chains of calls

A chain is a run of accesses and calls that starts at a name, its root: in
`builder.Property(x => x.Name).HasMaxLength(50)` the root `builder` has the segments
`Property(x => x.Name)` and `HasMaxLength(50)`.

`chainsOf` reports the maximal chains of a root in source order, a chain before those inside its
arguments. Only accesses by `.` and calls continue a chain.
-/

namespace EndpointScaffold.CSharp

open Text

/-- one access of a chain; its text runs from the member to the end of its call -/
structure ChainSegment where
  name : String
  text : String
  /-- texts of the arguments; none if the member is not called -/
  arguments : Option (List String)
  deriving DecidableEq, Repr

abbrev Chain := List ChainSegment

/-! ### Segments -/

/-- the identifier that a text starts with, blanks aside; it starts with an ASCII letter or an
underscore -/
def leadingIdentifier (s : String) : String :=
  match s.toList.dropWhile isBlank with
  | '@' :: c :: cs =>
    if isAsciiLetter c || c == '_' then String.ofList ('@' :: c :: cs.takeWhile isWordChar) else ""
  | c :: cs => if isAsciiLetter c || c == '_' then String.ofList (c :: cs.takeWhile isWordChar) else ""
  | [] => ""

namespace Tree

def partsFrom (l : Label) (t : Tree) : List Tree := t.parts.dropWhile fun p => !p.hasLabel l

/-- the segment that an access adds; none if it has no member -/
def accessSegment? (access : Tree) : Option ChainSegment :=
  (access.part? .name).map fun member =>
    ⟨leadingIdentifier member.text, member.text, none⟩

def argumentTexts (call : Tree) : List String :=
  ((call.part? .arguments).map (textsOf .argument)).getD []

/-- the segment of a member that is called; none if it is not the member of an access -/
def callSegment? (call : Tree) : Option ChainSegment :=
  match call.part? .function with
  | some (.node l .memberAccess ps) =>
    let access : Tree := .node l .memberAccess ps
    (access.part? .name).map fun member =>
      ⟨leadingIdentifier member.text,
        textOfAll (access.partsFrom .name ++ (call.partsFrom .function).tail),
        some call.argumentTexts⟩
  | _ => none

mutual
/-- segments from the name `root` to the tree; none if it is no chain of that root -/
def chainTo? (root : String) : Tree → Option Chain
  | .node l .memberAccess ps =>
    (accessSegment? (.node l .memberAccess ps)).bind fun s =>
      (chainToPart? root .expression ps).map (· ++ [s])
  | .node l .invocation ps =>
    (callSegment? (.node l .invocation ps)).bind fun s =>
      (chainToPart? root .function ps).map (·.dropLast ++ [s])
  | t => if t.kind = .identifier && t.text = root then some [] else none

/-- segments to the first part with a label -/
def chainToPart? (root : String) (l : Label) : List Tree → Option Chain
  | [] => none
  | p :: ps => if p.hasLabel l then chainTo? root p else chainToPart? root l ps
end

/-! ### All chains -/

/-- the label of the part that a chain goes on from -/
def receiverLabel? : Kind → Option Label
  | .memberAccess => some .expression
  | .invocation => some .function
  | _ => none

mutual
/-- chains of `root` in a tree. Where `isReceiver` holds the tree is the receiver of a longer chain
and reports none itself. -/
def chainsIn (root : String) (isReceiver : Bool) : Tree → List Chain
  | .node l k ps =>
    let inner := chainsInAll root (receiverLabel? k) ps
    if isReceiver || (receiverLabel? k).isNone then inner
    else
      match chainTo? root (.node l k ps) with
      | some (s :: ss) => (s :: ss) :: inner
      | _ => inner
  | _ => []

/-- chains in parts; the first one labelled `receiver` is a receiver -/
def chainsInAll (root : String) (receiver : Option Label) : List Tree → List Chain
  | [] => []
  | p :: ps =>
    if receiver.any p.hasLabel then chainsIn root true p ++ chainsInAll root none ps
    else chainsIn root false p ++ chainsInAll root receiver ps
end

end Tree

def chainsOf (root : String) (t : Tree) : List Chain := Tree.chainsIn root false t

end EndpointScaffold.CSharp
