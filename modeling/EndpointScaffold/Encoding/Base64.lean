import EndpointScaffold.Text.Character

/-!
# Base 64

Reading of bytes that are written with six bits a character. Characters outside the alphabet are
skipped. Four characters give three bytes; fewer at the end are filled up with `=`, which ends the
data.
-/

namespace EndpointScaffold.Encoding.Base64

open Text

/-- why characters encode no bytes -/
inductive Fault where
  /-- `count` characters leave six bits over -/
  | loneCharacter (count : Nat)
  | incompletePadding
  deriving DecidableEq, Repr

def Fault.message : Fault → String
  | .loneCharacter count => "Invalid base64-encoded string: number of data characters ("
      ++ toString count ++ ") cannot be 1 more than a multiple of 4"
  | .incompletePadding => "Incorrect padding"

/-- the six bits of a character -/
def sextet? (c : Char) : Option Nat :=
  let n := c.toNat
  if isAsciiUpper c then some (n - 65)
  else if isAsciiLower c then some (n - 71)
  else if isAsciiDigit c then some (n + 4)
  else if c == '+' then some 62
  else if c == '/' then some 63
  else none

/-- the sextets up to the end of the data, and whether padding ends it; `pads` counts the signs of
padding since the last sextet -/
def sextets (count pads : Nat) : List Char → List Nat × Bool
  | [] => ([], false)
  | c :: cs =>
    if c == '=' then
      if 2 ≤ count % 4 then
        if 4 ≤ count % 4 + pads + 1 then ([], true) else sextets count (pads + 1) cs
      else sextets count pads cs
    else
      match sextet? c with
      | none => sextets count pads cs
      | some n =>
        let (ns, ended) := sextets (count + 1) 0 cs
        (n :: ns, ended)

/-- whole bytes of sextets -/
def bytesOf : List Nat → List UInt8
  | a :: b :: c :: d :: rest =>
    UInt8.ofNat (a * 4 + b / 16) :: UInt8.ofNat (b % 16 * 16 + c / 4)
      :: UInt8.ofNat (c % 4 * 64 + d) :: bytesOf rest
  | [a, b, c] => [UInt8.ofNat (a * 4 + b / 16), UInt8.ofNat (b % 16 * 16 + c / 4)]
  | [a, b] => [UInt8.ofNat (a * 4 + b / 16)]
  | _ => []

/-- bytes of a text -/
def decode (cs : List Char) : Except Fault (List UInt8) :=
  let (ns, ended) := sextets 0 0 cs
  if ended || ns.length % 4 == 0 then .ok (bytesOf ns)
  else if ns.length % 4 == 1 then .error (.loneCharacter ns.length)
  else .error .incompletePadding

end EndpointScaffold.Encoding.Base64
