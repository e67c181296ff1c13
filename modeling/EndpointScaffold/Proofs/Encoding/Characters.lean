import EndpointScaffold.Encoding.Utf8
import EndpointScaffold.Encoding.Wide
import Mathlib.Algebra.Group.Nat.Defs
import Mathlib.Data.List.Basic

/-!
# Cutting encoded text

All encodings cut bytes in the same way: the piece at their start, and then the rest. So if the
bytes of every character are one piece whatever follows them, encoded characters are read one by
one.

* `IsCutting` what cutting does, `IsPieceOf` the bytes of one character;
* `pieces_flatMap_append` the pieces of characters;
* `textOf_ofChars` the text of pieces without a defect.
-/

namespace EndpointScaffold.Encoding

/-- bytes are cut into the piece at their start, and the pieces of the rest -/
structure IsCutting (pieceAt : UInt8 → List UInt8 → Piece) (pieces : List UInt8 → List Piece) :
    Prop where
  nil : pieces [] = []
  cons : ∀ b rest, pieces (b :: rest) =
    pieceAt b rest :: pieces (rest.drop ((pieceAt b rest).size - 1))

/-- bytes that are one piece and read as `c`, whatever follows them -/
def IsPieceOf (pieceAt : UInt8 → List UInt8 → Piece) (c : Char) (bytes : List UInt8) : Prop :=
  ∃ b bs, bytes = b :: bs ∧ ∀ rest, pieceAt b (bs ++ rest) = .char (bs.length + 1) c

def ofChars (encodeChar : Char → List UInt8) (cs : List Char) : List Piece :=
  cs.map fun c => .char (encodeChar c).length c

section
variable {pieceAt : UInt8 → List UInt8 → Piece} {pieces : List UInt8 → List Piece}
  {encodeChar : Char → List UInt8}

theorem IsCutting.pieces_append (h : IsCutting pieceAt pieces) {c : Char} {bytes : List UInt8}
    (hc : IsPieceOf pieceAt c bytes) (rest : List UInt8) :
    pieces (bytes ++ rest) = .char bytes.length c :: pieces rest := by
  obtain ⟨b, bs, rfl, hpiece⟩ := hc
  rw [List.cons_append, h.cons, hpiece, Piece.size, Nat.add_sub_cancel, List.drop_left,
    List.length_cons]

/-- encoded characters are read one by one, and what follows them is read on its own -/
theorem IsCutting.pieces_flatMap_append (h : IsCutting pieceAt pieces)
    (hencode : ∀ c, IsPieceOf pieceAt c (encodeChar c)) (cs : List Char) (rest : List UInt8) :
    pieces (cs.flatMap encodeChar ++ rest) = ofChars encodeChar cs ++ pieces rest := by
  induction cs with
  | nil => rfl
  | cons c cs ih =>
    rw [List.flatMap_cons, List.append_assoc, h.pieces_append (hencode c), ih]
    rfl

theorem IsCutting.pieces_flatMap (h : IsCutting pieceAt pieces)
    (hencode : ∀ c, IsPieceOf pieceAt c (encodeChar c)) (cs : List Char) :
    pieces (cs.flatMap encodeChar) = ofChars encodeChar cs := by
  have happend := h.pieces_flatMap_append hencode cs []
  rwa [List.append_nil, h.nil, List.append_nil] at happend

end

theorem textOf_ofChars (encodeChar : Char → List UInt8) (cs : List Char) :
    textOf (ofChars encodeChar cs) = String.ofList cs := by
  rw [textOf, ofChars, List.map_map]
  exact congrArg String.ofList (List.map_id cs)

end EndpointScaffold.Encoding

/-!
## Reading of characters in UTF-8

The bytes of a character are one piece, whatever follows them. A byte is a tag above its payload, so
the payloads of a character are the digits of its code point.

* `toNat_tagged` the number of a byte by its tag and its payload;
* `pieceAt_two`, `pieceAt_three`, `pieceAt_four` pieces of several bytes;
* `isPieceOf_encodeChar` the bytes of a character, `pieces_encode` the pieces of a text.
-/

namespace EndpointScaffold.Encoding.Utf8

variable {b0 b1 b2 b3 : UInt8} {c : Char} {rest : List UInt8}

/-! ### Bytes -/

/-- the bits of a tag lie above those of the payload -/
theorem toNat_tagged {n : UInt32} {x : Nat} (hn : n.toNat = x) (mask tag : UInt8) (k m : Nat)
    (hk : k ≤ 8) (hmask : mask.toNat = 2 ^ k - 1) (htag : tag.toNat = 2 ^ k * m) :
    (n.toUInt8 &&& mask ||| tag).toNat = 2 ^ k * m + x % 2 ^ k := by
  rw [UInt8.toNat_or, UInt8.toNat_and, UInt32.toNat_toUInt8, hn, hmask, htag,
    Nat.and_two_pow_sub_one_eq_mod, Nat.mod_mod_of_dvd _ (Nat.pow_dvd_pow 2 hk), Nat.or_comm,
    Nat.two_pow_add_eq_or_of_lt (Nat.mod_lt _ (Nat.two_pow_pos k))]

theorem isTrail_iff {b : UInt8} : isTrail b = true ↔ 128 ≤ b.toNat ∧ b.toNat < 192 := by
  rw [isTrail, Bool.and_eq_true, decide_eq_true_eq, decide_eq_true_eq, UInt8.le_iff_toNat_le,
    UInt8.lt_iff_toNat_lt]
  rfl

/-- a byte behind the first one of a character -/
theorem trail_spec {n : UInt32} {x : Nat} (hn : n.toNat = x) :
    isTrail (n.toUInt8 &&& 63 ||| 128) = true ∧
      (n.toUInt8 &&& 63 ||| 128).toNat = 128 + x % 64 ∧
      payload (n.toUInt8 &&& 63 ||| 128) = x % 64 := by
  have hnat : (n.toUInt8 &&& 63 ||| 128).toNat = 128 + x % 64 :=
    toNat_tagged hn 63 128 6 2 (by decide) rfl rfl
  refine ⟨isTrail_iff.2 ?_, hnat, ?_⟩
  · omega
  · rw [payload, hnat]
    omega

/-- the second byte has a bound of its own behind the least and behind the greatest first byte -/
theorem second_iff (least greatest bound : UInt8) :
    (isTrail b1 && !(b0 == least && b1 < bound) && !(b0 == greatest && bound ≤ b1)) = true ↔
      isTrail b1 = true ∧ (b0.toNat = least.toNat → bound.toNat ≤ b1.toNat) ∧
        (b0.toNat = greatest.toNat → b1.toNat < bound.toNat) := by
  rw [Bool.and_eq_true, Bool.and_eq_true, and_assoc, Bool.not_eq_true', Bool.not_eq_true',
    Bool.and_eq_false_imp, Bool.and_eq_false_imp, beq_iff_eq, beq_iff_eq, decide_eq_false_iff_not,
    decide_eq_false_iff_not, UInt8.not_lt, UInt8.not_le, UInt8.le_iff_toNat_le,
    UInt8.lt_iff_toNat_lt, ← UInt8.toNat_inj, ← UInt8.toNat_inj]

theorem secondOfThree_iff : secondOfThree b0 b1 = true ↔ isTrail b1 = true ∧
    (b0.toNat = 224 → 160 ≤ b1.toNat) ∧ (b0.toNat = 237 → b1.toNat < 160) :=
  second_iff 224 237 160

theorem secondOfFour_iff : secondOfFour b0 b1 = true ↔ isTrail b1 = true ∧
    (b0.toNat = 240 → 144 ≤ b1.toNat) ∧ (b0.toNat = 244 → b1.toNat < 144) :=
  second_iff 240 244 144

/-! ### Pieces -/

theorem lt_of_toNat {b : UInt8} (k : UInt8) (h : b.toNat < k.toNat) : b < k :=
  UInt8.lt_iff_toNat_lt.2 h

theorem not_lt_of_toNat {b : UInt8} (k : UInt8) (h : k.toNat ≤ b.toNat) : ¬ b < k :=
  UInt8.not_lt.2 (UInt8.le_iff_toNat_le.2 h)

theorem pieceAt_one (h : b0.toNat < 128) (rest : List UInt8) :
    pieceAt b0 rest = .char 1 (Char.ofNat b0.toNat) := by
  rw [pieceAt.eq_def, if_pos (lt_of_toNat 128 h)]

theorem pieceAt_two (hlow : 194 ≤ b0.toNat) (hhigh : b0.toNat < 224) (h1 : isTrail b1 = true) :
    pieceAt b0 (b1 :: rest) = .char 2 (Char.ofNat (b0.toNat % 32 * 64 + payload b1)) := by
  rw [pieceAt.eq_def, if_neg (not_lt_of_toNat 128 (Nat.le_trans (by decide) hlow)),
    if_neg (not_lt_of_toNat 194 hlow), if_pos (lt_of_toNat 224 hhigh)]
  exact if_pos h1

theorem pieceAt_three (hlow : 224 ≤ b0.toNat) (hhigh : b0.toNat < 240)
    (h1 : secondOfThree b0 b1 = true) (h2 : isTrail b2 = true) :
    pieceAt b0 (b1 :: b2 :: rest) =
      .char 3 (Char.ofNat (b0.toNat % 16 * 4096 + payload b1 * 64 + payload b2)) := by
  rw [pieceAt.eq_def, if_neg (not_lt_of_toNat 128 (Nat.le_trans (by decide) hlow)),
    if_neg (not_lt_of_toNat 194 (Nat.le_trans (by decide) hlow)),
    if_neg (not_lt_of_toNat 224 hlow), if_pos (lt_of_toNat 240 hhigh)]
  simp only [h1, h2, Bool.not_true, Bool.false_eq_true, if_false, if_true]

theorem pieceAt_four (hlow : 240 ≤ b0.toNat) (hhigh : b0.toNat < 245)
    (h1 : secondOfFour b0 b1 = true) (h2 : isTrail b2 = true) (h3 : isTrail b3 = true) :
    pieceAt b0 (b1 :: b2 :: b3 :: rest) = .char 4 (Char.ofNat
      (b0.toNat % 8 * 262144 + payload b1 * 4096 + payload b2 * 64 + payload b3)) := by
  rw [pieceAt.eq_def, if_neg (not_lt_of_toNat 128 (Nat.le_trans (by decide) hlow)),
    if_neg (not_lt_of_toNat 194 (Nat.le_trans (by decide) hlow)),
    if_neg (not_lt_of_toNat 224 (Nat.le_trans (by decide) hlow)),
    if_neg (not_lt_of_toNat 240 hlow), if_pos (lt_of_toNat 245 hhigh)]
  simp only [h1, h2, h3, Bool.not_true, Bool.false_eq_true, if_false, if_true]

/-! ### Characters -/

theorem toNat_shift (c : Char) (k : UInt32) (n : Nat) (hk : k.toNat < 32) (hn : 2 ^ k.toNat = n) :
    (c.val >>> k).toNat = c.toNat / n := by
  rw [UInt32.toNat_shiftRight, Nat.mod_eq_of_lt hk, Nat.shiftRight_eq_div_pow, hn]
  rfl

theorem isPieceOf_one (h : c.utf8Size = 1) : IsPieceOf pieceAt c (String.utf8EncodeChar c) := by
  have hhigh : c.toNat ≤ 127 := UInt32.le_iff_toNat_le.1 (Char.utf8Size_eq_one_iff.1 h)
  have hb0 : c.val.toUInt8.toNat = c.toNat := by
    rw [UInt32.toNat_toUInt8]
    exact Nat.mod_eq_of_lt (show c.toNat < 2 ^ 8 by omega)
  rw [String.utf8EncodeChar_eq_singleton h]
  refine ⟨_, [], rfl, fun rest => ?_⟩
  rw [pieceAt_one (by omega), hb0, Char.ofNat_toNat]
  rfl

theorem isPieceOf_two (h : c.utf8Size = 2) : IsPieceOf pieceAt c (String.utf8EncodeChar c) := by
  obtain ⟨hlow, hhigh⟩ := Char.utf8Size_eq_two_iff.1 h
  replace hlow : 127 < c.toNat := UInt32.lt_iff_toNat_lt.1 hlow
  replace hhigh : c.toNat ≤ 2047 := UInt32.le_iff_toNat_le.1 hhigh
  have hsix := toNat_shift c 6 64 (by decide) rfl
  have hb0 : ((c.val >>> 6).toUInt8 &&& 31 ||| 192).toNat = 192 + c.toNat / 64 % 32 :=
    toNat_tagged hsix 31 192 5 6 (by decide) rfl rfl
  obtain ⟨h1, -, hb1⟩ := trail_spec (n := c.val) (x := c.toNat) rfl
  have hcode : (192 + c.toNat / 64 % 32) % 32 * 64 + c.toNat % 64 = c.toNat := by omega
  rw [String.utf8EncodeChar_eq_cons_cons h]
  refine ⟨_, [_], rfl, fun rest => ?_⟩
  rw [List.singleton_append, pieceAt_two (by omega) (by omega) h1, hb0, hb1, hcode,
    Char.ofNat_toNat]
  rfl

/-- surrogates and code points that have a shorter form are ruled out by the second byte -/
theorem isPieceOf_three (h : c.utf8Size = 3) : IsPieceOf pieceAt c (String.utf8EncodeChar c) := by
  have hrange : c.toNat < 0xD800 ∨ 0xDFFF < c.toNat ∧ c.toNat < 0x110000 := c.valid
  obtain ⟨hlow, hhigh⟩ := Char.utf8Size_eq_three_iff.1 h
  replace hlow : 2047 < c.toNat := UInt32.lt_iff_toNat_lt.1 hlow
  replace hhigh : c.toNat ≤ 65535 := UInt32.le_iff_toNat_le.1 hhigh
  have htwelve := toNat_shift c 12 4096 (by decide) rfl
  have hb0 : ((c.val >>> 12).toUInt8 &&& 15 ||| 224).toNat = 224 + c.toNat / 4096 % 16 :=
    toNat_tagged htwelve 15 224 4 14 (by decide) rfl rfl
  obtain ⟨h1, hnat1, hb1⟩ := trail_spec (toNat_shift c 6 64 (by decide) rfl)
  obtain ⟨h2, -, hb2⟩ := trail_spec (n := c.val) (x := c.toNat) rfl
  have hsecond : secondOfThree ((c.val >>> 12).toUInt8 &&& 15 ||| 224)
      ((c.val >>> 6).toUInt8 &&& 63 ||| 128) = true :=
    secondOfThree_iff.2 ⟨h1, fun heq => by omega, fun heq => by omega⟩
  have hcode : (224 + c.toNat / 4096 % 16) % 16 * 4096 + c.toNat / 64 % 64 * 64 + c.toNat % 64 =
      c.toNat := by omega
  rw [String.utf8EncodeChar_eq_cons_cons_cons h]
  refine ⟨_, [_, _], rfl, fun rest => ?_⟩
  rw [List.cons_append, List.singleton_append, pieceAt_three (by omega) (by omega) hsecond h2, hb0,
    hb1, hb2, hcode, Char.ofNat_toNat]
  rfl

theorem isPieceOf_four (h : c.utf8Size = 4) : IsPieceOf pieceAt c (String.utf8EncodeChar c) := by
  have hrange : c.toNat < 0xD800 ∨ 0xDFFF < c.toNat ∧ c.toNat < 0x110000 := c.valid
  have hlow : 65535 < c.toNat := UInt32.lt_iff_toNat_lt.1 (Char.utf8Size_eq_four_iff.1 h)
  have heighteen := toNat_shift c 18 262144 (by decide) rfl
  have hb0 : ((c.val >>> 18).toUInt8 &&& 7 ||| 240).toNat = 240 + c.toNat / 262144 % 8 :=
    toNat_tagged heighteen 7 240 3 30 (by decide) rfl rfl
  obtain ⟨h1, hnat1, hb1⟩ := trail_spec (toNat_shift c 12 4096 (by decide) rfl)
  obtain ⟨h2, -, hb2⟩ := trail_spec (toNat_shift c 6 64 (by decide) rfl)
  obtain ⟨h3, -, hb3⟩ := trail_spec (n := c.val) (x := c.toNat) rfl
  have hsecond : secondOfFour ((c.val >>> 18).toUInt8 &&& 7 ||| 240)
      ((c.val >>> 12).toUInt8 &&& 63 ||| 128) = true :=
    secondOfFour_iff.2 ⟨h1, fun heq => by omega, fun heq => by omega⟩
  have hcode : (240 + c.toNat / 262144 % 8) % 8 * 262144 + c.toNat / 4096 % 64 * 4096 +
      c.toNat / 64 % 64 * 64 + c.toNat % 64 = c.toNat := by omega
  rw [String.utf8EncodeChar_eq_cons_cons_cons_cons h]
  refine ⟨_, [_, _, _], rfl, fun rest => ?_⟩
  rw [List.cons_append, List.cons_append, List.singleton_append,
    pieceAt_four (by omega) (by omega) hsecond h2 h3, hb0, hb1, hb2, hb3, hcode, Char.ofNat_toNat]
  rfl

theorem isPieceOf_encodeChar (c : Char) : IsPieceOf pieceAt c (String.utf8EncodeChar c) := by
  rcases Char.utf8Size_eq c with h | h | h | h
  · exact isPieceOf_one h
  · exact isPieceOf_two h
  · exact isPieceOf_three h
  · exact isPieceOf_four h

/-! ### Texts -/

theorem isCutting : IsCutting pieceAt pieces where
  nil := by rw [pieces]
  cons b rest := by rw [pieces]

theorem encode_eq (s : String) : encode s = s.toList.flatMap String.utf8EncodeChar := by
  rw [encode, String.toUTF8, ← String.utf8Encode_toList, List.utf8Encode,
    List.toList_data_toByteArray]

theorem pieces_encode (s : String) :
    pieces (encode s) = ofChars String.utf8EncodeChar s.toList := by
  rw [encode_eq, isCutting.pieces_flatMap isPieceOf_encodeChar]

end EndpointScaffold.Encoding.Utf8

/-!
## Reading of characters in UTF-16 and UTF-32

The bytes of a unit are the digits of its number in either order. In UTF-16 a character is one unit,
or two units that are surrogates and stand for no character alone; in UTF-32 it is one unit.

* `Order.bytes` bytes of a number, `value_bytes` its value;
* `Utf16.encodeChar`, `Utf32.encodeChar` bytes of a character;
* `Utf16.isPieceOf_encodeChar`, `Utf32.isPieceOf_encodeChar` their pieces;
* `Utf32.length_pieces_le` how many pieces there can be.
-/

namespace EndpointScaffold.Encoding

/-! ### Units -/

/-- the `k` lowest digits of a number, from the lowest one up -/
def lowBytes : Nat → Nat → List UInt8
  | 0, _ => []
  | k + 1, n => UInt8.ofNat n :: lowBytes k (n / 256)

def Order.bytes (o : Order) (k n : Nat) : List UInt8 :=
  match o with
  | .little => lowBytes k n
  | .big => (lowBytes k n).reverse

theorem length_lowBytes (k n : Nat) : (lowBytes k n).length = k := by
  induction k generalizing n with
  | zero => rfl
  | succ k ih => rw [lowBytes, List.length_cons, ih]

theorem length_bytes (o : Order) (k n : Nat) : (o.bytes k n).length = k := by
  cases o with
  | little => exact length_lowBytes k n
  | big => rw [Order.bytes, List.length_reverse, length_lowBytes]

theorem foldr_lowBytes {k n : Nat} (h : n < 256 ^ k) :
    (lowBytes k n).foldr (fun b m => b.toNat + 256 * m) 0 = n := by
  induction k generalizing n with
  | zero => rw [Nat.pow_zero, Nat.lt_one_iff] at h; exact h.symm
  | succ k ih =>
    have hrest : n / 256 < 256 ^ k := Nat.div_lt_of_lt_mul (by rwa [Nat.pow_succ'] at h)
    rw [lowBytes, List.foldr_cons, ih hrest, UInt8.toNat_ofNat']
    omega

theorem value_bytes (o : Order) {k n : Nat} (h : n < 256 ^ k) : o.value (o.bytes k n) = n := by
  cases o with
  | little => exact foldr_lowBytes h
  | big =>
    rw [Order.bytes, Order.value, List.foldl_reverse]
    refine Eq.trans ?_ (foldr_lowBytes h)
    congr 1
    funext b m
    exact Nat.add_comm _ _

/-- the two bytes of a unit of UTF-16 -/
theorem exists_bytes_two (o : Order) {n : Nat} (h : n < 0x10000) :
    ∃ b0 b1, o.bytes 2 n = [b0, b1] ∧ o.value [b0, b1] = n := by
  obtain ⟨b0, b1, hbytes⟩ := List.length_eq_two.1 (length_bytes o 2 n)
  exact ⟨b0, b1, hbytes, hbytes ▸ value_bytes o h⟩

namespace Utf16

theorem isCutting (o : Order) : IsCutting (pieceAt o) (pieces o) where
  nil := by rw [pieces]
  cons b rest := by rw [pieces]

/-- a character beyond the first 65536 is split into two surrogates -/
def encodeChar (o : Order) (c : Char) : List UInt8 :=
  if c.toNat < 0x10000 then o.bytes 2 c.toNat
  else o.bytes 2 (0xD800 + (c.toNat - 0x10000) / 1024)
    ++ o.bytes 2 (0xDC00 + (c.toNat - 0x10000) % 1024)

def encode (o : Order) (s : String) : List UInt8 := s.toList.flatMap (encodeChar o)

theorem isLead_iff {u : Nat} : isLead u = true ↔ 0xD800 ≤ u ∧ u < 0xDC00 := by
  rw [isLead, Bool.and_eq_true, decide_eq_true_eq, decide_eq_true_eq]

theorem isTrail_iff {u : Nat} : isTrail u = true ↔ 0xDC00 ≤ u ∧ u < 0xE000 := by
  rw [isTrail, Bool.and_eq_true, decide_eq_true_eq, decide_eq_true_eq]

theorem isPieceOf_encodeChar (o : Order) (c : Char) :
    IsPieceOf (pieceAt o) c (encodeChar o c) := by
  have hrange : c.toNat < 0xD800 ∨ 0xDFFF < c.toNat ∧ c.toNat < 0x110000 := c.valid
  rw [encodeChar]
  by_cases hsmall : c.toNat < 0x10000
  · obtain ⟨b0, b1, hbytes, hvalue⟩ := exists_bytes_two o hsmall
    have hlead : ¬ isLead c.toNat = true := fun h => by rw [isLead_iff] at h; omega
    have htrail : ¬ isTrail c.toNat = true := fun h => by rw [isTrail_iff] at h; omega
    rw [if_pos hsmall, hbytes]
    refine ⟨b0, [b1], rfl, fun rest => ?_⟩
    unfold pieceAt
    simp only [List.singleton_append, hvalue]
    rw [if_neg htrail, if_neg hlead, Char.ofNat_toNat]
    rfl
  · have hunits : 0xD800 + (c.toNat - 0x10000) / 1024 < 0x10000 ∧
        0xDC00 + (c.toNat - 0x10000) % 1024 < 0x10000 := by omega
    obtain ⟨b0, b1, hlead, hleadValue⟩ := exists_bytes_two o hunits.1
    obtain ⟨b2, b3, htrail, htrailValue⟩ := exists_bytes_two o hunits.2
    have hfirst : isLead (0xD800 + (c.toNat - 0x10000) / 1024) = true := isLead_iff.2 (by omega)
    have hnot : ¬ isTrail (0xD800 + (c.toNat - 0x10000) / 1024) = true := fun h => by
      rw [isTrail_iff] at h; omega
    have hsecond : isTrail (0xDC00 + (c.toNat - 0x10000) % 1024) = true := isTrail_iff.2 (by omega)
    have hcode : 0x10000 + (0xD800 + (c.toNat - 0x10000) / 1024 - 0xD800) * 1024 +
        (0xDC00 + (c.toNat - 0x10000) % 1024 - 0xDC00) = c.toNat := by omega
    rw [if_neg hsmall, hlead, htrail]
    refine ⟨b0, [b1, b2, b3], rfl, fun rest => ?_⟩
    unfold pieceAt
    simp only [List.cons_append, List.nil_append, hleadValue, htrailValue]
    rw [if_neg hnot, if_pos hfirst, if_pos hsecond, hcode, Char.ofNat_toNat]
    rfl

theorem length_encodeChar_le (o : Order) (c : Char) : (encodeChar o c).length ≤ 4 := by
  rw [encodeChar]
  split
  · rw [length_bytes]
    decide
  · exact Nat.le_of_eq (by rw [List.length_append, length_bytes, length_bytes])

theorem length_flatMap_le (o : Order) (cs : List Char) :
    (cs.flatMap (encodeChar o)).length ≤ 4 * cs.length := by
  induction cs with
  | nil => exact Nat.le_refl 0
  | cons c cs ih =>
    have hc := length_encodeChar_le o c
    rw [List.flatMap_cons, List.length_append, List.length_cons]
    omega

theorem pieces_encode (o : Order) (s : String) :
    pieces o (encode o s) = ofChars (encodeChar o) s.toList :=
  (isCutting o).pieces_flatMap (isPieceOf_encodeChar o) s.toList

end Utf16

namespace Utf32

theorem isCutting (o : Order) : IsCutting (pieceAt o) (pieces o) where
  nil := by rw [pieces]
  cons b rest := by rw [pieces]

def encodeChar (o : Order) (c : Char) : List UInt8 := o.bytes 4 c.toNat

def encode (o : Order) (s : String) : List UInt8 := s.toList.flatMap (encodeChar o)

theorem isPieceOf_encodeChar (o : Order) (c : Char) :
    IsPieceOf (pieceAt o) c (encodeChar o c) := by
  have hrange : c.toNat < 0xD800 ∨ 0xDFFF < c.toNat ∧ c.toNat < 0x110000 := c.valid
  have hvalue : o.value (o.bytes 4 c.toNat) = c.toNat := value_bytes o (by omega)
  have hlength := length_bytes o 4 c.toNat
  rw [encodeChar]
  match o.bytes 4 c.toNat, hlength, hvalue with
  | [b0, b1, b2, b3], _, hvalue =>
    have hhigh : ¬ 0x110000 ≤ c.toNat := by omega
    have hsurrogate : ¬ (decide (0xD800 ≤ c.toNat) && decide (c.toNat < 0xE000)) = true := by
      rw [Bool.and_eq_true, decide_eq_true_eq, decide_eq_true_eq]
      omega
    refine ⟨b0, [b1, b2, b3], rfl, fun rest => ?_⟩
    unfold pieceAt
    simp only [List.cons_append, List.nil_append, hvalue]
    rw [if_neg hhigh, if_neg hsurrogate, Char.ofNat_toNat]
    rfl

theorem pieces_encode (o : Order) (s : String) :
    pieces o (encode o s) = ofChars (encodeChar o) s.toList :=
  (isCutting o).pieces_flatMap (isPieceOf_encodeChar o) s.toList

theorem size_pieceAt (o : Order) (b : UInt8) (rest : List UInt8) :
    (pieceAt o b rest).size = min 4 (rest.length + 1) := by
  match rest with
  | [] | [_] | [_, _] => rfl
  | b1 :: b2 :: b3 :: rest =>
    have hmin : min 4 ((b1 :: b2 :: b3 :: rest).length + 1) = 4 := by
      rw [List.length_cons, List.length_cons, List.length_cons]
      omega
    rw [hmin]
    simp only [pieceAt]
    split
    · rfl
    · split <;> rfl

/-- only the last piece can have fewer than four bytes -/
theorem length_pieces_le (o : Order) (bytes : List UInt8) :
    4 * (pieces o bytes).length ≤ bytes.length + 3 := by
  fun_induction pieces o bytes with
  | case1 => exact Nat.zero_le _
  | case2 b rest ih =>
    rw [size_pieceAt, List.length_drop] at ih
    rw [size_pieceAt, List.length_cons, List.length_cons]
    omega

end Utf32

end EndpointScaffold.Encoding
