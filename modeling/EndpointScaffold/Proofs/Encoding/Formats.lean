import EndpointScaffold.Encoding.SourceText
import EndpointScaffold.Proofs.Encoding.Characters

/-!
# Reading undoes writing

A source file is written in one of six formats, each a mark followed by the encoded text. Reading
gives back the text that was written, except where the start of the text makes another mark of the
bytes: without a mark, a text must not start with the character that is the mark of UTF-8, and
behind the little-endian mark of UTF-16, a null character makes it the mark of UTF-32.

* `Format` the formats, `encode` their bytes, `Admits` which texts they can hold;
* `readMark_utf8`, `readMark_utf16_little` the mark is told from the text;
* `sourceText_encode_iff` what is read.
-/

namespace EndpointScaffold.Encoding

/-- how a text is written to a source file -/
inductive Format where
  | utf8
  | markedUtf8
  | utf16 (o : Order)
  | utf32 (o : Order)
  deriving DecidableEq, Repr

namespace Format

/-- bytes before the text -/
def mark : Format → List UInt8
  | .utf8 => []
  | .markedUtf8 => [0xEF, 0xBB, 0xBF]
  | .utf16 .big => [0xFE, 0xFF]
  | .utf16 .little => [0xFF, 0xFE]
  | .utf32 .big => [0x00, 0x00, 0xFE, 0xFF]
  | .utf32 .little => [0xFF, 0xFE, 0x00, 0x00]

/-- bytes of the text -/
def body (t : String) : Format → List UInt8
  | .utf8 => Utf8.encode t
  | .markedUtf8 => Utf8.encode t
  | .utf16 o => Utf16.encode o t
  | .utf32 o => Utf32.encode o t

def encode (f : Format) (t : String) : List UInt8 := f.mark ++ f.body t

/-- texts whose start does not look like a part of a mark -/
def Admits (t : String) : Format → Prop
  | .utf8 => t.toList.head? ≠ some '\uFEFF'
  | .utf16 .little => t.toList.head? ≠ some '\x00'
  | _ => True

def encodeChar : Format → Char → List UInt8
  | .utf8 => String.utf8EncodeChar
  | .markedUtf8 => String.utf8EncodeChar
  | .utf16 o => Utf16.encodeChar o
  | .utf32 o => Utf32.encodeChar o

end Format

variable {t : String} {f : Format} {bytes : List UInt8} {cs : List Char} {ps : List Piece}
  {encodeChar : Char → List UInt8}

/-! ### Marks -/

theorem bad_not_mem_ofChars {n : Nat} {d : Defect} : .bad n d ∉ ofChars encodeChar cs := by
  intro h
  obtain ⟨c, -, hc⟩ := List.mem_map.1 h
  cases hc

theorem head?_of_ofChars {n : Nat} {c : Char} (h : ofChars encodeChar cs = .char n c :: ps) :
    cs.head? = some c := by
  cases cs with
  | nil => cases h
  | cons d cs =>
    obtain ⟨-, rfl⟩ := Piece.char.inj (List.cons.inj h).1
    rfl

/-- without a defect, bytes of UTF-8 start with no mark but their own -/
theorem readMark_utf8 (h : Utf8.pieces bytes = ofChars String.utf8EncodeChar cs)
    (hhead : cs.head? ≠ some '\uFEFF') : readMark bytes = (.utf8, .big, bytes) := by
  have hbad : ∀ n d, .bad n d ∉ Utf8.pieces bytes := fun n d hmem =>
    bad_not_mem_ofChars (h ▸ hmem)
  rw [readMark.eq_def]
  split
  · rw [Utf8.isCutting.cons] at hbad
    exact absurd List.mem_cons_self (hbad 1 .invalidStart)
  · have hnull : ∀ bs, Utf8.pieces (0x00 :: bs) = .char 1 '\x00' :: Utf8.pieces bs :=
      Utf8.isCutting.cons 0x00
    rw [hnull, hnull, Utf8.isCutting.cons] at hbad
    exact absurd (List.mem_cons_of_mem _ (List.mem_cons_of_mem _ List.mem_cons_self))
      (hbad 1 .invalidStart)
  · rw [Utf8.isCutting.cons] at h
    exact absurd (head?_of_ofChars h.symm) hhead
  · rw [Utf8.isCutting.cons] at hbad
    exact absurd List.mem_cons_self (hbad 1 .invalidStart)
  · rw [Utf8.isCutting.cons] at hbad
    exact absurd List.mem_cons_self (hbad 1 .invalidStart)
  · rfl

/-- the mark of UTF-16 is told from that of UTF-32 by the text behind it -/
theorem readMark_utf16_little (h : Utf16.pieces .little bytes = ofChars encodeChar cs)
    (hhead : cs.head? ≠ some '\x00') :
    readMark (0xFF :: 0xFE :: bytes) = (.utf16, .little, bytes) := by
  rw [readMark]
  rintro rest rfl
  rw [(Utf16.isCutting .little).cons] at h
  exact hhead (head?_of_ofChars h.symm)

/-! ### Texts -/

theorem sourcePieces_encode (h : f.Admits t) :
    sourcePieces (f.encode t) = ofChars f.encodeChar t.toList := by
  cases f with
  | utf8 =>
    have hpieces := Utf8.pieces_encode t
    show sourcePieces (Utf8.encode t) = _
    rw [sourcePieces, readMark_utf8 hpieces h]
    exact hpieces
  | markedUtf8 => exact Utf8.pieces_encode t
  | utf16 o =>
    have hpieces := Utf16.pieces_encode o t
    cases o with
    | big => exact hpieces
    | little =>
      show sourcePieces (0xFF :: 0xFE :: Utf16.encode .little t) = _
      rw [sourcePieces, readMark_utf16_little hpieces h]
      exact hpieces
  | utf32 o =>
    have hpieces := Utf32.pieces_encode o t
    cases o with
    | big => exact hpieces
    | little => exact hpieces

/-- the character that is the mark of UTF-8 is taken for a mark -/
theorem sourceText_utf8_marked (cs : List Char) :
    sourceText (Utf8.encode (String.ofList ('\uFEFF' :: cs))) = String.ofList cs := by
  have hpieces := Utf8.pieces_encode (String.ofList cs)
  rw [Utf8.encode_eq, String.toList_ofList] at hpieces ⊢
  show textOf (Utf8.pieces (cs.flatMap String.utf8EncodeChar)) = _
  rw [hpieces, textOf_ofChars]

/-- a null character behind the mark of UTF-16 leaves too few bytes for the rest of the text -/
theorem sourceText_utf16_null_ne (cs : List Char) :
    sourceText (0xFF :: 0xFE :: Utf16.encode .little (String.ofList ('\x00' :: cs))) ≠
      String.ofList ('\x00' :: cs) := by
  intro h
  have hread : sourceText (0xFF :: 0xFE :: Utf16.encode .little (String.ofList ('\x00' :: cs))) =
      textOf (Utf32.pieces .little (cs.flatMap (Utf16.encodeChar .little))) := by
    rw [Utf16.encode, String.toList_ofList]
    rfl
  rw [hread] at h
  have hlength := congrArg (fun s : String => s.toList.length) h
  simp only [textOf, String.toList_ofList, List.length_map, List.length_cons] at hlength
  have hpieces := Utf32.length_pieces_le .little (cs.flatMap (Utf16.encodeChar .little))
  have hbytes := Utf16.length_flatMap_le .little cs
  omega

/-- a text is read back from each format that can hold it, and from no other -/
theorem sourceText_encode_iff (f : Format) (t : String) :
    sourceText (f.encode t) = t ↔ f.Admits t := by
  refine ⟨fun h => ?_, fun h => ?_⟩
  · match f with
    | .markedUtf8 | .utf16 .big | .utf32 _ => trivial
    | .utf8 =>
      intro hhead
      obtain ⟨cs, ht⟩ := List.head?_eq_some_iff.1 hhead
      have htext := sourceText_utf8_marked cs
      rw [← ht, String.ofList_toList] at htext
      have hlist := congrArg String.toList (h.symm.trans htext)
      rw [ht, String.toList_ofList] at hlist
      exact List.cons_ne_self _ _ hlist
    | .utf16 .little =>
      intro hhead
      obtain ⟨cs, ht⟩ := List.head?_eq_some_iff.1 hhead
      have htext := sourceText_utf16_null_ne cs
      rw [← ht, String.ofList_toList] at htext
      exact htext h
  · rw [sourceText, sourcePieces_encode h, textOf_ofChars, String.ofList_toList]

end EndpointScaffold.Encoding
