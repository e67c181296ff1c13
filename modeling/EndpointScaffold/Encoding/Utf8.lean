import EndpointScaffold.Encoding.Piece
import EndpointScaffold.Text.Quoted

/-!
# UTF-8

Cuts bytes into pieces. A defective piece is the longest run that could still have begun a
character, and never empty; bytes that end the data inside a character form one piece.
-/

namespace EndpointScaffold.Encoding.Utf8

/-- a continuation byte -/
def isTrail (b : UInt8) : Bool := 0x80 ≤ b && b < 0xC0

/-- six payload bits of a continuation byte -/
def payload (b : UInt8) : Nat := b.toNat % 64

/-- second bytes allowed after the first byte of a three-byte character -/
def secondOfThree (b0 b1 : UInt8) : Bool :=
  isTrail b1 && !(b0 == 0xE0 && b1 < 0xA0) && !(b0 == 0xED && 0xA0 ≤ b1)

/-- second bytes allowed after the first byte of a four-byte character -/
def secondOfFour (b0 b1 : UInt8) : Bool :=
  isTrail b1 && !(b0 == 0xF0 && b1 < 0x90) && !(b0 == 0xF4 && 0x90 ≤ b1)

def pieceAt (b0 : UInt8) (rest : List UInt8) : Piece :=
  if b0 < 0x80 then .char 1 (Char.ofNat b0.toNat)
  else if b0 < 0xC2 then .bad 1 .invalidStart
  else if b0 < 0xE0 then
    match rest with
    | [] => .bad 1 .endOfData
    | b1 :: _ =>
      if isTrail b1 then .char 2 (Char.ofNat (b0.toNat % 32 * 64 + payload b1))
      else .bad 1 .invalidContinuation
  else if b0 < 0xF0 then
    match rest with
    | [] => .bad 1 .endOfData
    | b1 :: rest =>
      if !secondOfThree b0 b1 then .bad 1 .invalidContinuation
      else
        match rest with
        | [] => .bad 2 .endOfData
        | b2 :: _ =>
          if isTrail b2 then
            .char 3 (Char.ofNat (b0.toNat % 16 * 4096 + payload b1 * 64 + payload b2))
          else .bad 2 .invalidContinuation
  else if b0 < 0xF5 then
    match rest with
    | [] => .bad 1 .endOfData
    | b1 :: rest =>
      if !secondOfFour b0 b1 then .bad 1 .invalidContinuation
      else
        match rest with
        | [] => .bad 2 .endOfData
        | b2 :: rest =>
          if !isTrail b2 then .bad 2 .invalidContinuation
          else
            match rest with
            | [] => .bad 3 .endOfData
            | b3 :: _ =>
              if isTrail b3 then
                .char 4 (Char.ofNat (b0.toNat % 8 * 262144 + payload b1 * 4096 + payload b2 * 64
                  + payload b3))
              else .bad 3 .invalidContinuation
  else .bad 1 .invalidStart

/-- cuts bytes into pieces -/
def pieces : List UInt8 → List Piece
  | [] => []
  | b :: rest => pieceAt b rest :: pieces (rest.drop ((pieceAt b rest).size - 1))
  termination_by bytes => bytes.length
  decreasing_by simp only [List.length_drop, List.length_cons]; omega

/-- bytes of a text -/
def encode (s : String) : List UInt8 := s.toUTF8.data.toList

end EndpointScaffold.Encoding.Utf8

/-!
## Strict decoding

Data files are UTF-8 without exceptions: bytes that encode nothing make the whole file unreadable.
-/

namespace EndpointScaffold.Encoding

open Text

/-- the first bytes of a file that encode nothing -/
structure Undecodable where
  /-- index of the first of them -/
  place : Nat
  bytes : List UInt8
  defect : Defect
  deriving DecidableEq, Repr

def Undecodable.message (u : Undecodable) : String :=
  let what := match u.bytes with
    | [b] => "byte 0x" ++ String.ofList (hexDigits 2 b.toNat) ++ " in position " ++ toString u.place
    | _ => "bytes in position " ++ toString u.place ++ "-"
        ++ toString (u.place + u.bytes.length - 1)
  "'utf-8' codec can't decode " ++ what ++ ": " ++ u.defect.message

/-- the text of bytes, if all of them encode characters -/
def decode (bytes : List UInt8) : Except Undecodable String :=
  let pieces := Utf8.pieces bytes
  match firstDefect? 0 pieces with
  | some (place, size, defect) => .error ⟨place, (bytes.drop place).take size, defect⟩
  | none => .ok (textOf pieces)

end EndpointScaffold.Encoding
