

/-!
# Binary fractions and their notation

A finite float is `± m · 2^q` with natural `m`. The functions on floats here work on these two
numbers, in exact arithmetic.

* `Binary.ofFloat?` takes a finite float apart;
* `floatOfDigits` is the float nearest to `± d · 10^e`;
* `floatOfInt?` is the float nearest to an integer, if it is finite.
-/

namespace EndpointScaffold.Decimal

/-- the number `m · 2^q`, negated if `negative` -/
structure Binary where
  negative : Bool
  mantissa : Nat
  exponent : Int
  deriving DecidableEq, Repr

def Binary.ofFloat? (x : Float) : Option Binary :=
  let bits := x.toBits.toNat
  let negative := bits / Nat.pow 2 63 == 1
  let field : Nat := bits / Nat.pow 2 52 % Nat.pow 2 11
  let fraction : Nat := bits % Nat.pow 2 52
  if field == 2047 then none
  else if field == 0 then some ⟨negative, fraction, -1074⟩
  else some ⟨negative, fraction + Nat.pow 2 52, (field : Int) - 1075⟩

/-- numerator and denominator of the absolute value -/
def Binary.ratio (b : Binary) : Nat × Nat :=
  if b.exponent < 0 then (b.mantissa, Nat.pow 2 b.exponent.natAbs)
  else (b.mantissa * Nat.pow 2 b.exponent.natAbs, 1)

/-- number of decimal digits; zero has one -/
def digitCount (n : Nat) : Nat := (Nat.toDigits 10 n).length

def infinity : Float := 1.0 / 0.0

def nan : Float := 0.0 / 0.0

/-- the float nearest to `± digits · 10^exponent`. Outside the range of floats the exponent alone
decides. -/
def floatOfDigits (negative : Bool) (digits : Nat) (exponent : Int) : Float :=
  let size : Int := digitCount digits + exponent
  let x :=
    if digits == 0 || size < -330 then 0.0
    else if 310 < size then infinity
    else if exponent < 0 then Float.ofScientific digits true exponent.natAbs
    else Float.ofScientific digits false exponent.natAbs
  if negative then -x else x

/-- the float nearest to an integer; none if it is too large -/
def floatOfInt? (n : Int) : Option Float :=
  let x := floatOfDigits (n < 0) n.natAbs 0
  if x.isFinite then some x else none

end EndpointScaffold.Decimal

/-!
## Writing numbers

* `shortest` the fewest digits that read back as the same float, with a point and at least one place;
  exponents are written from 10^16 up and below 10^-4;
* `fixed` a given number of places, a half going to the even neighbour;
* `grouped` an integer with a comma between groups of three digits.
-/

namespace EndpointScaffold.Decimal

/-! ### Integers -/

/-- digits in groups of three from the right, with commas between the groups -/
def groupDigits (digits : List Char) : List Char :=
  (digits.reverse.zipIdx.flatMap fun p =>
    if p.2 % 3 == 0 && p.2 != 0 then [',', p.1] else [p.1]).reverse

def grouped (n : Int) : String :=
  String.ofList ((if n < 0 then ['-'] else []) ++ groupDigits (Nat.toDigits 10 n.natAbs))

/-! ### Fixed places -/

def roundDiv (num den : Nat) : Nat :=
  let q := num / den
  let twice := 2 * (num % den)
  if twice < den then q
  else if den < twice then q + 1
  else if q % 2 == 0 then q else q + 1

/-- digits with `places` of them after the point -/
def pointed (places : Nat) (n : Nat) : List Char :=
  let digits := Nat.toDigits 10 n
  let digits := List.replicate (places + 1 - digits.length) '0' ++ digits
  let whole := digits.take (digits.length - places)
  if places == 0 then whole else whole ++ '.' :: digits.drop (digits.length - places)

def notFinite (x : Float) : String :=
  if x.isNaN then "nan" else if x < 0.0 then "-inf" else "inf"

def fixed (places : Nat) (x : Float) : String :=
  match Binary.ofFloat? x with
  | none => notFinite x
  | some b =>
    let (num, den) := b.ratio
    let n := roundDiv (num * Nat.pow 10 places) den
    String.ofList ((if b.negative then ['-'] else []) ++ pointed places n)

/-! ### Shortest text -/

/-- the interval of numbers that round to a float, as numerators over one denominator: its lower end,
the float, its upper end -/
structure Rounding where
  low : Nat
  mid : Nat
  high : Nat
  den : Nat
  /-- whether the ends belong to the interval -/
  closed : Bool

/-- the numbers that round to `m · 2^q`. Below a power of two the spacing halves. -/
def Rounding.of (m : Nat) (q : Int) : Rounding :=
  let up := if q < 0 then 1 else Nat.pow 2 q.natAbs
  let den := 4 * (if q < 0 then Nat.pow 2 q.natAbs else 1)
  let below := if m == Nat.pow 2 52 && q != -1074 then 1 else 2
  ⟨(4 * m - below) * up, 4 * m * up, (4 * m + 2) * up, den, m % 2 == 0⟩

/-- whether `n / scale` lies in the interval, where `scale` is a numerator and a denominator -/
def Rounding.holds (r : Rounding) (num den : Nat) : Bool :=
  let x := num * r.den
  if r.closed then decide (r.low * den ≤ x ∧ x ≤ r.high * den)
  else decide (r.low * den < x ∧ x < r.high * den)

/-- nearest number of the form `n · 10^e` to the middle of the interval, if it lies inside -/
def Rounding.onGrid? (r : Rounding) (e : Int) : Option Nat :=
  let up := if e < 0 then 1 else Nat.pow 10 e.natAbs
  let down := if e < 0 then Nat.pow 10 e.natAbs else 1
  let n := roundDiv (r.mid * down) (r.den * up)
  let inside := fun k => r.holds (k * up) down
  if inside n then some n
  else if inside (n + 1) then some (n + 1)
  else if inside (n - 1) then some (n - 1)
  else none

/-- the least `k` with `num / den < 10^k` -/
def magnitude (num den : Nat) : Int :=
  let guess : Int := (digitCount num : Int) - digitCount den
  let below := fun (k : Int) =>
    if k < 0 then decide (num * Nat.pow 10 k.natAbs < den) else decide (num < den * Nat.pow 10 k.natAbs)
  if below (guess - 1) then guess - 1 else if below guess then guess else guess + 1

/-- digits and exponent of the shortest decimal in the interval: the coarsest grid with a number
inside wins -/
def Rounding.shortest? (r : Rounding) : Option (Nat × Int) :=
  let k := magnitude r.mid r.den
  (List.range 17).findSome? fun i =>
    let e := k - (i + 1 : Nat)
    (r.onGrid? e).map fun n => (n, e)

/-- drops zeros at the end of a positive number and counts them -/
def dropZeros : Nat → Nat → Int → Nat × Int
  | 0, n, e => (n, e)
  | fuel + 1, n, e => if n != 0 && n % 10 == 0 then dropZeros fuel (n / 10) (e + 1) else (n, e)

/-- sign and two digits at least -/
def exponentText (e : Int) : List Char :=
  let digits := Nat.toDigits 10 e.natAbs
  (if e < 0 then '-' else '+') :: (if digits.length < 2 then '0' :: digits else digits)

/-- writes `digits · 10^e` -/
def scientific (digits : List Char) (e : Int) : List Char :=
  let point : Int := digits.length + e
  if -4 < point && point ≤ 16 then
    if point ≤ 0 then
      '0' :: '.' :: List.replicate point.natAbs '0' ++ digits
    else if 0 ≤ e then digits ++ List.replicate e.natAbs '0' ++ ['.', '0']
    else digits.take point.natAbs ++ '.' :: digits.drop point.natAbs
  else
    let tail := digits.drop 1
    digits.take 1 ++ (if tail.isEmpty then [] else '.' :: tail) ++ 'e' :: exponentText (point - 1)

/-- the shortest text that reads back as `x` -/
def shortest (x : Float) : String :=
  match Binary.ofFloat? x with
  | none => notFinite x
  | some b =>
    let sign := if b.negative then ['-'] else []
    if b.mantissa == 0 then String.ofList (sign ++ ['0', '.', '0'])
    else
      match (Rounding.of b.mantissa b.exponent).shortest? with
      | none => String.ofList sign
      | some (n, e) =>
        let (n, e) := dropZeros 20 n e
        String.ofList (sign ++ scientific (Nat.toDigits 10 n) e)

end EndpointScaffold.Decimal
