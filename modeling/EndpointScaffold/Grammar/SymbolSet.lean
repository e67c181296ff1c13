/-!
# Sets of symbols

Symbols are numbers, and a set of them is a number with one bit for each member, so that unions and
comparisons of large sets take a few machine steps.
-/

namespace EndpointScaffold.Grammar

/-- a set of symbols; bit `n` tells whether the symbol `n` belongs to it -/
structure SymbolSet where
  bits : Nat
  deriving DecidableEq, Repr, Inhabited

namespace SymbolSet

def empty : SymbolSet := ⟨0⟩

def single (n : Nat) : SymbolSet := ⟨1 <<< n⟩

def contains (s : SymbolSet) (n : Nat) : Bool := s.bits.testBit n

def isEmpty (s : SymbolSet) : Bool := s.bits == 0

def union (s t : SymbolSet) : SymbolSet := ⟨s.bits ||| t.bits⟩

def inter (s t : SymbolSet) : SymbolSet := ⟨s.bits &&& t.bits⟩

def diff (s t : SymbolSet) : SymbolSet := ⟨s.bits ^^^ (s.bits &&& t.bits)⟩

def insert (s : SymbolSet) (n : Nat) : SymbolSet := s.union (single n)

def ofList (ns : List Nat) : SymbolSet := ns.foldl insert empty

/-- members below `bound`, in order -/
def toList (s : SymbolSet) (bound : Nat) : List Nat := (List.range bound).filter s.contains

/-- the remainder by a Mersenne prime mixes all bits -/
instance : Hashable SymbolSet where
  hash s := hash (s.bits % 2305843009213693951)

@[simp] theorem contains_empty (n : Nat) : empty.contains n = false := by
  simp [empty, contains]

@[simp] theorem contains_union (s t : SymbolSet) (n : Nat) :
    (s.union t).contains n = (s.contains n || t.contains n) := by
  simp [union, contains]

@[simp] theorem contains_inter (s t : SymbolSet) (n : Nat) :
    (s.inter t).contains n = (s.contains n && t.contains n) := by
  simp [inter, contains]

@[simp] theorem contains_diff (s t : SymbolSet) (n : Nat) :
    (s.diff t).contains n = (s.contains n && !t.contains n) := by
  cases h : s.bits.testBit n <;> cases h' : t.bits.testBit n <;> simp [diff, contains, h, h']

end SymbolSet

end EndpointScaffold.Grammar
