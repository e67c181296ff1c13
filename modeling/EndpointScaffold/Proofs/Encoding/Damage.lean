import EndpointScaffold.Proofs.Encoding.Formats

/-!
# Damage does not spread

A source file without a mark may have bytes in it that encode nothing. The text before them and the
text behind them are read as if the damage were not there, and the damage as if it stood alone: a
piece that is cut short by the start of the next character has as many bytes as one that is cut
short by the end of the data.

* `Piece.Alike` pieces that differ in the reason for a defect at most;
* `alike_pieceAt_append` a piece depends on what follows the data only if that continues a character;
* `read_pieces_append` the pieces of data are read on their own;
* `sourceText_damaged` what is read of a file.
-/

namespace EndpointScaffold.Encoding

/-- pieces of the same bytes that are read as the same character -/
def Piece.Alike (p q : Piece) : Prop := p.size = q.size ∧ p.read = q.read

theorem Piece.Alike.refl (p : Piece) : p.Alike p := ⟨rfl, rfl⟩

namespace Utf8

variable {b b1 : UInt8} {bytes rest : List UInt8} {c : Char}

/-- bytes that do not continue a character -/
def StartsAnew (bytes : List UInt8) : Prop := ∀ b ∈ bytes.head?, isTrail b = false

/-! ### One piece -/

theorem secondOfThree_eq_false (b0 : UInt8) (h : isTrail b1 = false) : secondOfThree b0 b1 = false := by
  rw [secondOfThree, h, Bool.false_and, Bool.false_and]

theorem secondOfFour_eq_false (b0 : UInt8) (h : isTrail b1 = false) : secondOfFour b0 b1 = false := by
  rw [secondOfFour, h, Bool.false_and, Bool.false_and]

theorem alike_pieceAt_append (b : UInt8) (bytes : List UInt8) (hrest : StartsAnew rest) :
    (pieceAt b (bytes ++ rest)).Alike (pieceAt b bytes) := by
  cases rest with
  | nil =>
    rw [List.append_nil]
    exact .refl _
  | cons r rest =>
    have hr : isTrail r = false := hrest r rfl
    have hthree := secondOfThree_eq_false b hr
    have hfour := secondOfFour_eq_false b hr
    -- a piece has three bytes behind its first one at most, so `r` is among them in three cases
    unfold pieceAt
    match bytes with
    | [] =>
      simp only [List.nil_append, hr, hthree, hfour, Bool.not_false, if_true, Bool.false_eq_true,
        if_false]
      split_ifs <;> exact ⟨rfl, rfl⟩
    | [b1] =>
      simp only [List.cons_append, List.nil_append, hr, Bool.not_false, if_true,
        Bool.false_eq_true, if_false]
      split_ifs <;> exact ⟨rfl, rfl⟩
    | [b1, b2] =>
      simp only [List.cons_append, List.nil_append, hr, Bool.false_eq_true, if_false]
      split_ifs <;> exact ⟨rfl, rfl⟩
    | b1 :: b2 :: b3 :: bytes => exact .refl _

theorem size_pieceAt_le (b : UInt8) (bytes : List UInt8) :
    (pieceAt b bytes).size ≤ bytes.length + 1 := by
  fun_cases pieceAt b bytes <;> simp only [Piece.size, List.length_nil, List.length_cons] <;> omega

/-! ### All pieces -/

theorem read_pieces_append (bytes : List UInt8) (hrest : StartsAnew rest) :
    (pieces (bytes ++ rest)).map Piece.read =
      (pieces bytes).map Piece.read ++ (pieces rest).map Piece.read := by
  fun_induction pieces bytes with
  | case1 => rfl
  | case2 b bytes ih =>
    obtain ⟨hsize, hread⟩ := alike_pieceAt_append b bytes hrest
    have hle : (pieceAt b bytes).size - 1 ≤ bytes.length := by
      have := size_pieceAt_le b bytes
      omega
    rw [List.cons_append, isCutting.cons, List.map_cons, hread, hsize,
      List.drop_append_of_le_length hle, ih]
    rfl

/-- the first byte of a character continues no other one -/
theorem isTrail_of_isPieceOf (h : IsPieceOf pieceAt c bytes) (hb : b ∈ bytes.head?) :
    isTrail b = false := by
  obtain ⟨b0, bs, rfl, hpiece⟩ := h
  obtain rfl : b0 = b := Option.some.inj hb
  rw [Bool.eq_false_iff]
  intro htrail
  rw [isTrail_iff] at htrail
  -- such a byte would be a defect of its own
  have hbad : pieceAt b0 (bs ++ []) = .bad 1 .invalidStart := by
    rw [pieceAt.eq_def, if_neg (not_lt_of_toNat 128 htrail.1),
      if_pos (lt_of_toNat 194 (Nat.lt_trans htrail.2 (by decide)))]
  rw [hpiece] at hbad
  cases hbad

theorem startsAnew_encode (s : String) : StartsAnew (encode s) := by
  intro b hb
  rw [encode_eq] at hb
  cases hchars : s.toList with
  | nil =>
    rw [hchars] at hb
    cases hb
  | cons c cs =>
    have hc := isPieceOf_encodeChar c
    obtain ⟨b0, bs, hbytes, -⟩ := id hc
    rw [hchars, List.flatMap_cons, hbytes] at hb
    rw [hbytes] at hc
    exact isTrail_of_isPieceOf hc hb

end Utf8

/-! ### Source files -/

theorem readMark_of_charsetOf {bytes : List UInt8} (h : charsetOf bytes = .utf8) :
    readMark bytes = (.utf8, .big, bytes) := by
  unfold charsetOf at h
  revert h
  unfold readMark
  split <;> intro h <;> first | rfl | cases h

/-- what stands around damage is read as it was written, and the damage as if it stood alone -/
theorem sourceText_damaged (p s : String) (j : List UInt8)
    (h : charsetOf (Utf8.encode p ++ j ++ Utf8.encode s) = .utf8) :
    sourceText (Utf8.encode p ++ j ++ Utf8.encode s) = p ++ textOf (Utf8.pieces j) ++ s := by
  have hbefore := Utf8.isCutting.pieces_flatMap_append Utf8.isPieceOf_encodeChar p.toList
    (j ++ Utf8.encode s)
  have hafter := Utf8.read_pieces_append j (Utf8.startsAnew_encode s)
  have hp := textOf_ofChars String.utf8EncodeChar p.toList
  have hs := textOf_ofChars String.utf8EncodeChar s.toList
  rw [String.ofList_toList] at hp hs
  rw [sourceText, sourcePieces, readMark_of_charsetOf h]
  show textOf (Utf8.pieces (Utf8.encode p ++ j ++ Utf8.encode s)) = _
  rw [List.append_assoc, Utf8.encode_eq p, hbefore, textOf, List.map_append, hafter,
    Utf8.pieces_encode, String.ofList_append, String.ofList_append, ← String.append_assoc]
  exact congr (congrArg _ (congrArg (· ++ _) hp)) hs

/-- a stray byte and a character that breaks off, between characters of two bytes -/
theorem sourceText_brokenOff :
    charsetOf (Utf8.encode "é" ++ [0x80, 0xE2, 0x82] ++ Utf8.encode "é;") = .utf8 ∧
      sourceText (Utf8.encode "é" ++ [0x80, 0xE2, 0x82] ++ Utf8.encode "é;") = "é\uFFFD\uFFFDé;" :=
  ⟨by decide, (sourceText_damaged "é" "é;" [0x80, 0xE2, 0x82] (by decide)).trans (by decide +kernel)⟩

end EndpointScaffold.Encoding
