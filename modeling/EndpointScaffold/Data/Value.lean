/-!
# Values of data files

The values that a JSON or YAML file can hold. Objects keep their keys in the order in which they
first appear; a key that appears again replaces the value and keeps its place.

A collection may hold itself, at any depth. The inner place then says how many collections further
out the value is found. `items` and `entries` give the parts of a collection as values that stand by
themselves.
-/

namespace EndpointScaffold.Data

/-- a point in time as it is written: date, time of day with microseconds, and offset from UTC in
seconds -/
structure Moment where
  year : Nat
  month : Nat
  day : Nat
  hour : Nat
  minute : Nat
  second : Nat
  micros : Nat
  offset : Option Int
  deriving DecidableEq, Repr

inductive Value where
  | null
  | bool (b : Bool)
  | int (n : Int)
  | float (x : Float)
  | text (s : String)
  | list (items : List Value)
  | object (entries : List (Value × Value))
  | date (year month day : Nat)
  | moment (m : Moment)
  | bytes (bs : List UInt8)
  | set (items : List Value)
  | pair (key value : Value)
  /-- the collection that lies `outward` collections around the innermost one -/
  | again (outward : Nat) (isObject : Bool)

namespace Value

/-- value of a text key in a list of entries -/
def find? (name : String) : List (Value × Value) → Option Value
  | [] => none
  | (.text s, v) :: rest => if s == name then some v else find? name rest
  | _ :: rest => find? name rest

/-- sets the value of a text key; a new key comes last -/
def put (name : String) (v : Value) : List (Value × Value) → List (Value × Value)
  | [] => [(.text name, v)]
  | (.text s, w) :: rest =>
    if s == name then (.text s, v) :: rest else (.text s, w) :: put name v rest
  | e :: rest => e :: put name v rest

def field? (name : String) : Value → Option Value
  | .object entries => find? name entries
  | _ => none

/-! ### Parts of collections -/

mutual
/-- replaces what refers to the collection around a part that is `depth` collections deep; `whole`
gives that collection by the depth at which it is put -/
def standingIn (whole : Nat → Value) (depth : Nat) : Value → Value
  | .list items => .list (standingInAll whole (depth + 1) items)
  | .object entries => .object (standingInEntries whole (depth + 1) entries)
  | .pair key v => .pair key (standingIn whole (depth + 1) v)
  | .again outward isObject =>
    if outward == depth then whole depth else .again outward isObject
  | v => v

def standingInAll (whole : Nat → Value) (depth : Nat) : List Value → List Value
  | [] => []
  | v :: vs => standingIn whole depth v :: standingInAll whole depth vs

def standingInEntries (whole : Nat → Value) (depth : Nat) :
    List (Value × Value) → List (Value × Value)
  | [] => []
  | (key, v) :: es => (key, standingIn whole depth v) :: standingInEntries whole depth es
end

def isObject : Value → Bool
  | .object _ => true
  | _ => false

/-- the items of a list, which lies around them no more -/
def itemsOf (vs : List Value) : List Value :=
  vs.zipIdx.map fun (v, i) =>
    standingIn (fun depth => .list (vs.set i (.again depth v.isObject))) 0 v

/-- the entries of an object, which lies around them no more -/
def entriesOf (es : List (Value × Value)) : List (Value × Value) :=
  es.zipIdx.map fun ((key, v), i) =>
    (key, standingIn (fun depth => .object (es.set i (key, .again depth v.isObject))) 0 v)

end Value

end EndpointScaffold.Data
