import EndpointScaffold.Encoding.Piece

/-!
# UTF-16 and UTF-32

Cuts bytes into pieces, two or four bytes a unit. In UTF-16, a lead surrogate needs a trail surrogate
after it; data that ends inside a pair or inside a unit ends in one defective piece. In UTF-32, a rest
of fewer than four bytes is one defective piece.
-/

namespace EndpointScaffold.Encoding.Utf16

def isLead (u : Nat) : Bool := 0xD800 ≤ u && u < 0xDC00

def isTrail (u : Nat) : Bool := 0xDC00 ≤ u && u < 0xE000

def pieceAt (o : Order) (b0 : UInt8) : List UInt8 → Piece
  | [] => .bad 1 .truncated
  | b1 :: rest =>
    let u := o.value [b0, b1]
    if isTrail u then .bad 2 .strayTrailSurrogate
    else if isLead u then
      match rest with
      | b2 :: b3 :: _ =>
        let v := o.value [b2, b3]
        if isTrail v then .char 4 (Char.ofNat (0x10000 + (u - 0xD800) * 1024 + (v - 0xDC00)))
        else .bad 2 .loneLeadSurrogate
      | _ => .bad (2 + rest.length) .endOfData
    else .char 2 (Char.ofNat u)

/-- cuts bytes into pieces -/
def pieces (o : Order) : List UInt8 → List Piece
  | [] => []
  | b :: rest => pieceAt o b rest :: pieces o (rest.drop ((pieceAt o b rest).size - 1))
  termination_by bytes => bytes.length
  decreasing_by simp only [List.length_drop, List.length_cons]; omega

end EndpointScaffold.Encoding.Utf16

namespace EndpointScaffold.Encoding.Utf32

def pieceAt (o : Order) (b0 : UInt8) : List UInt8 → Piece
  | b1 :: b2 :: b3 :: _ =>
    let u := o.value [b0, b1, b2, b3]
    if 0x110000 ≤ u then .bad 4 .outOfRange
    else if 0xD800 ≤ u && u < 0xE000 then .bad 4 .surrogateCodePoint
    else .char 4 (Char.ofNat u)
  | rest => .bad (1 + rest.length) .truncated

/-- cuts bytes into pieces -/
def pieces (o : Order) : List UInt8 → List Piece
  | [] => []
  | b :: rest => pieceAt o b rest :: pieces o (rest.drop ((pieceAt o b rest).size - 1))
  termination_by bytes => bytes.length
  decreasing_by simp only [List.length_drop, List.length_cons]; omega

end EndpointScaffold.Encoding.Utf32
