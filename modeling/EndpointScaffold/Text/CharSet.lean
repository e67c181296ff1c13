/-!
# Sets of characters

A set is given by the code points at which membership changes: the first one enters the set, the
next one leaves it, and so on. A character belongs to the set when an odd number of changes lie at
or below it.
-/

namespace EndpointScaffold.Text

/-- characters given by the sorted code points where membership changes -/
structure CharSet where
  turns : List Nat

/-- number of changes at or below `n` -/
def turnsUpTo (n : Nat) : List Nat → Nat
  | [] => 0
  | t :: ts => if t ≤ n then turnsUpTo n ts + 1 else 0

def CharSet.contains (s : CharSet) (c : Char) : Bool :=
  turnsUpTo c.toNat s.turns % 2 == 1

end EndpointScaffold.Text
