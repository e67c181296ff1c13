/-!
# Pieces of encoded text

Decoding cuts a list of bytes into pieces. A piece is either a character, or a short run of bytes
that encodes nothing, with the reason. Each such run is read as one replacement character, so damage
never reaches past its own piece.
-/

namespace EndpointScaffold.Encoding

/-- why bytes encode no character -/
inductive Defect where
  | invalidStart
  | invalidContinuation
  | endOfData
  | truncated
  | strayTrailSurrogate
  | loneLeadSurrogate
  | outOfRange
  | surrogateCodePoint
  deriving DecidableEq, Repr

def Defect.message : Defect → String
  | .invalidStart => "invalid start byte"
  | .invalidContinuation => "invalid continuation byte"
  | .endOfData => "unexpected end of data"
  | .truncated => "truncated data"
  | .strayTrailSurrogate => "illegal encoding"
  | .loneLeadSurrogate => "illegal UTF-16 surrogate"
  | .outOfRange => "code point not in range(0x110000)"
  | .surrogateCodePoint => "code point in surrogate code point range(0xd800, 0xe000)"

/-- a character, or a run of bytes that is none; `size` counts its bytes -/
inductive Piece where
  | char (size : Nat) (c : Char)
  | bad (size : Nat) (defect : Defect)
  deriving DecidableEq, Repr

def Piece.size : Piece → Nat
  | .char n _ => n
  | .bad n _ => n

def replacement : Char := Char.ofNat 0xFFFD

def Piece.read : Piece → Char
  | .char _ c => c
  | .bad _ _ => replacement

/-- the text of pieces, defects replaced -/
def textOf (pieces : List Piece) : String := String.ofList (pieces.map Piece.read)

/-- first defect with the position and the number of its bytes, counting from `at` -/
def firstDefect? (start : Nat) : List Piece → Option (Nat × Nat × Defect)
  | [] => none
  | .char n _ :: ps => firstDefect? (start + n) ps
  | .bad n d :: _ => some (start, n, d)

/-- byte order of units wider than a byte -/
inductive Order where
  | little
  | big
  deriving DecidableEq, Repr

def Order.value (o : Order) (bytes : List UInt8) : Nat :=
  match o with
  | .little => bytes.foldr (fun b n => b.toNat + 256 * n) 0
  | .big => bytes.foldl (fun n b => 256 * n + b.toNat) 0

end EndpointScaffold.Encoding
