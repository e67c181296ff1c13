/-!
# Source texts

A source text for reading by position: its characters, and for each position the number of bytes and
of line ends before it.

* `Source.skip` passes over the characters of a class, and stops at the first other one;
* `Source.slice` cuts a piece out.
-/

namespace EndpointScaffold.Parsing

structure Source where
  chars : Array Char
  /-- bytes before each position, the end included -/
  bytes : Array Nat
  /-- line ends before each position, the end included -/
  lines : Array Nat
  deriving Inhabited

namespace Source

/-- the sums of `f` over the characters before each position -/
def sums (f : Char → Nat) (cs : Array Char) : Array Nat :=
  cs.foldl (fun found c => found.push (found.back?.getD 0 + f c)) #[0]

def ofString (s : String) : Source :=
  let cs := s.toList.toArray
  ⟨cs, sums Char.utf8Size cs, sums (fun c => if c = '\n' then 1 else 0) cs⟩

def size (s : Source) : Nat := s.chars.size

/-- the character at a position; none at the end -/
def at? (s : Source) (i : Nat) : Option Char := s.chars[i]?

def isAt (s : Source) (i : Nat) (c : Char) : Bool := s.at? i == some c

def holds (s : Source) (p : Char → Bool) (i : Nat) : Bool := (s.at? i).any p

/-- the first position from `i` on whose character does not belong to a class -/
def skip (s : Source) (p : Char → Bool) (i : Nat) : Nat :=
  if h : i < s.chars.size then if p s.chars[i] then s.skip p (i + 1) else i else i
  termination_by s.chars.size - i

/-- like `skip`, but passes over at most `n` characters -/
def skipAtMost (s : Source) (p : Char → Bool) : Nat → Nat → Nat
  | 0, i => i
  | n + 1, i => if s.holds p i then s.skipAtMost p n (i + 1) else i

/-- the position up to which a text stands at a position, in full or in part -/
def matchEnd (s : Source) : List Char → Nat → Nat
  | [], i => i
  | c :: cs, i => if s.isAt i c then s.matchEnd cs (i + 1) else i

def hasAt (s : Source) : List Char → Nat → Bool
  | [], _ => true
  | c :: cs, i => s.isAt i c && s.hasAt cs (i + 1)

def slice (s : Source) (i j : Nat) : String := String.ofList (s.chars.extract i j).toList

def bytesBetween (s : Source) (i j : Nat) : Nat := s.bytes.getD j 0 - s.bytes.getD i 0

def linesBetween (s : Source) (i j : Nat) : Nat := s.lines.getD j 0 - s.lines.getD i 0

end Source

end EndpointScaffold.Parsing
