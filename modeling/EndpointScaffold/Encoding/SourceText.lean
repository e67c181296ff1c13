import EndpointScaffold.Encoding.Utf8
import EndpointScaffold.Encoding.Wide

/-!
# Text of source files

A source file names its encoding by a byte-order mark and is UTF-8 without one. Bytes that encode
nothing are replaced, so every list of bytes is the text of some source file.
-/

namespace EndpointScaffold.Encoding

/-- encodings of source files -/
inductive Charset where
  | utf8
  | markedUtf8
  | utf16
  | utf32
  deriving DecidableEq, Repr

def Charset.name : Charset → String
  | .utf8 => "utf-8"
  | .markedUtf8 => "utf-8-sig"
  | .utf16 => "utf-16"
  | .utf32 => "utf-32"

/-- the encoding and byte order that a mark names, and the bytes after the mark; the marks of
UTF-32 come first, since the little-endian one begins with that of UTF-16 -/
def readMark : List UInt8 → Charset × Order × List UInt8
  | 0xFF :: 0xFE :: 0x00 :: 0x00 :: rest => (.utf32, .little, rest)
  | 0x00 :: 0x00 :: 0xFE :: 0xFF :: rest => (.utf32, .big, rest)
  | 0xEF :: 0xBB :: 0xBF :: rest => (.markedUtf8, .big, rest)
  | 0xFF :: 0xFE :: rest => (.utf16, .little, rest)
  | 0xFE :: 0xFF :: rest => (.utf16, .big, rest)
  | bytes => (.utf8, .big, bytes)

/-- encoding named by the byte-order mark -/
def charsetOf (bytes : List UInt8) : Charset := (readMark bytes).1

/-- pieces of a source file, its mark left out -/
def sourcePieces (bytes : List UInt8) : List Piece :=
  match readMark bytes with
  | (.utf8, _, rest) => Utf8.pieces rest
  | (.markedUtf8, _, rest) => Utf8.pieces rest
  | (.utf16, o, rest) => Utf16.pieces o rest
  | (.utf32, o, rest) => Utf32.pieces o rest

/-- text of a source file, defects replaced -/
def sourceText (bytes : List UInt8) : String := textOf (sourcePieces bytes)

def sourceDefect? (bytes : List UInt8) : Option Defect :=
  (firstDefect? 0 (sourcePieces bytes)).map (·.2.2)

end EndpointScaffold.Encoding
