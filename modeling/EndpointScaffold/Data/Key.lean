import EndpointScaffold.Data.Calendar
import EndpointScaffold.Decimal.Notation

/-!
# Keys of objects

A key is a value that is no collection. Two keys are one if they are equal as numbers, where a flag
is zero or one, or equal as values of one type.

* `Value.sameKey` whether two keys are one;
* `Value.insert` sets the value of any key; a new key comes last and a known one keeps its place.
-/

namespace EndpointScaffold.Data.Value

/-- a number as a fraction -/
def fraction? : Value → Option (Int × Nat)
  | .bool b => some (if b then 1 else 0, 1)
  | .int n => some (n, 1)
  | .float x => (Decimal.Binary.ofFloat? x).map fun b =>
    let (num, den) := b.ratio
    (if b.negative then -(num : Int) else num, den)
  | _ => none

def sameKey (a b : Value) : Bool :=
  match a.fraction?, b.fraction? with
  | some (m, d), some (n, e) => m * e == n * d
  | none, none =>
    match a, b with
    | .null, .null => true
    | .text s, .text t => s == t
    | .float x, .float y => x == y || (x.isNaN && y.isNaN)
    | .date y m d, .date y' m' d' => y == y' && m == m' && d == d'
    | .moment m, .moment m' => m.same m'
    | .bytes bs, .bytes bs' => bs == bs'
    | _, _ => false
  | _, _ => false

def insert (key v : Value) : List (Value × Value) → List (Value × Value)
  | [] => [(key, v)]
  | (k, w) :: rest => if k.sameKey key then (k, v) :: rest else (k, w) :: insert key v rest

end EndpointScaffold.Data.Value
