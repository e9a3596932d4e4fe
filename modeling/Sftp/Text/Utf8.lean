import Sftp.Text

/-!
# Texts as UTF-8 with escaped bytes

`Text.decode` reads bytes as UTF-8 and turns every byte that is part of no valid sequence into its
surrogate, so it accepts every byte sequence. `Text.encode?` goes back, and fails only on a
surrogate that stands for no byte. `encode?_decode` says that nothing is lost: the bytes of a
decoded name are the bytes that were read. `decode_flatMap_utf8EncodeChar` is the other direction
for texts without lone surrogates.
-/

namespace Sftp

namespace Glyph

/-- The bytes of one code point: UTF-8 for a scalar value, the byte itself for an escaped byte,
nothing for any other surrogate. -/
def encode? : Glyph → Option Bytes
  | scalar c => some (String.utf8EncodeChar c)
  | surrogate i =>
    if 0x480 ≤ i.val ∧ i.val < 0x500 then some [UInt8.ofNat (i.val - 0x400)] else none

/-- Whether the code point has bytes. -/
def isEncodable (g : Glyph) : Bool :=
  g.encode?.isSome

end Glyph

namespace Text

/-- The bytes of a text, if all its code points have bytes. -/
def encode? (t : Text) : Option Bytes :=
  (t.glyphs.mapM Glyph.encode?).map List.flatten

/-- The position of the first code point that has no bytes. -/
def firstUnencodable? (t : Text) : Option Nat :=
  t.glyphs.findIdx? fun g => !g.isEncodable

/-- The character whose UTF-8 sequence the bytes begin with. -/
def leadingChar? (bytes : Bytes) : Option Char :=
  (bytes.take 4).toByteArray.utf8DecodeChar? 0

/-- The code points that the bytes stand for; a byte outside every valid sequence is escaped. -/
def decodeGlyphs : Bytes → List Glyph
  | [] => []
  | b :: rest =>
    match leadingChar? (b :: rest) with
    | some c => Glyph.scalar c :: decodeGlyphs (rest.drop (c.utf8Size - 1))
    | none => Glyph.escaped b :: decodeGlyphs rest
  termination_by bytes => bytes.length

/-- The text that the bytes stand for. -/
def decode (bytes : Bytes) : Text :=
  ⟨decodeGlyphs bytes⟩

/-! ## Reading back -/

theorem leadingChar?_eq_some {bytes : Bytes} {c : Char} (h : leadingChar? bytes = some c) :
    ∃ rest, bytes = String.utf8EncodeChar c ++ rest := by
  obtain ⟨l, hl⟩ := ByteArray.exists_of_utf8DecodeChar?_eq_some h
  refine ⟨l.data.toList ++ bytes.drop 4, ?_⟩
  have hdata : bytes.take 4 = String.utf8EncodeChar c ++ l.data.toList := by
    have := congrArg (fun b : ByteArray => b.data.toList) hl
    simpa using this
  conv => lhs; rw [← List.take_append_drop 4 bytes, hdata]
  simp

theorem leadingChar?_utf8EncodeChar (c : Char) (rest : Bytes) :
    leadingChar? (String.utf8EncodeChar c ++ rest) = some c := by
  have hlen : (String.utf8EncodeChar c).length ≤ 4 := by
    rw [String.length_utf8EncodeChar]; exact c.utf8Size_le_four
  unfold leadingChar?
  rw [List.take_append, List.take_of_length_le hlen]
  have : ((String.utf8EncodeChar c) ++ rest.take (4 - (String.utf8EncodeChar c).length)).toByteArray
      = (String.utf8EncodeChar c).toByteArray
        ++ (rest.take (4 - (String.utf8EncodeChar c).length)).toByteArray := by
    apply ByteArray.ext
    simp
  rw [this, ByteArray.utf8DecodeChar?_utf8EncodeChar_append]

/-- A byte that begins no valid sequence is at least 80, since every smaller byte is a character. -/
theorem le_of_leadingChar?_eq_none {b : UInt8} {rest : Bytes}
    (h : leadingChar? (b :: rest) = none) : 0x80 ≤ b.toNat := by
  apply Nat.le_of_not_lt
  intro hb
  have hsize : (Char.ofUInt8 b).utf8Size = 1 := by
    rw [Char.utf8Size_eq_one_iff, UInt32.le_iff_toNat_le]
    show b.toUInt32.toNat ≤ 127
    rw [UInt8.toNat_toUInt32]
    omega
  have hbytes : String.utf8EncodeChar (Char.ofUInt8 b) = [b] := by
    rw [String.utf8EncodeChar_eq_singleton hsize]
    congr 1
    apply UInt8.toNat_inj.1
    show b.toUInt32.toUInt8.toNat = b.toNat
    rw [UInt32.toNat_toUInt8, UInt8.toNat_toUInt32]
    omega
  have := leadingChar?_utf8EncodeChar (Char.ofUInt8 b) rest
  rw [hbytes, List.singleton_append, h] at this
  exact absurd this (by simp)

theorem encode?_escaped {b : UInt8} (h : 0x80 ≤ b.toNat) :
    (Glyph.escaped b).encode? = some [b] := by
  have hb := b.toNat_lt
  show (if 0x480 ≤ 0x400 + b.toNat ∧ 0x400 + b.toNat < 0x500
    then some [UInt8.ofNat (0x400 + b.toNat - 0x400)] else none) = some [b]
  rw [if_pos (by omega), Nat.add_sub_cancel_left, UInt8.ofNat_toNat]

theorem mapM_encode?_decodeGlyphs (bytes : Bytes) :
    ((decodeGlyphs bytes).mapM Glyph.encode?).map List.flatten = some bytes := by
  fun_induction decodeGlyphs bytes with
  | case1 => rfl
  | case2 b rest c hc ih =>
    obtain ⟨tail, htail⟩ := leadingChar?_eq_some hc
    have hpos := c.utf8Size_pos
    have hrest : rest.drop (c.utf8Size - 1) = tail := by
      have hdrop : (b :: rest).drop c.utf8Size = tail := by
        rw [htail, List.drop_append_of_le_length (by simp)]
        simp
      obtain ⟨k, hk⟩ : ∃ k, c.utf8Size = k + 1 := ⟨c.utf8Size - 1, by omega⟩
      rw [hk, List.drop_succ_cons] at hdrop
      simpa [hk] using hdrop
    rw [hrest] at ih
    rw [hrest]
    obtain ⟨parts, hparts, hflat⟩ := Option.map_eq_some_iff.1 ih
    rw [List.mapM_cons, hparts, htail, ← hflat]
    rfl
  | case3 b rest hc ih =>
    obtain ⟨parts, hparts, hflat⟩ := Option.map_eq_some_iff.1 ih
    rw [List.mapM_cons, hparts, encode?_escaped (le_of_leadingChar?_eq_none hc), ← hflat]
    rfl

/-- Nothing is lost: a decoded name has the bytes it was read from. -/
theorem encode?_decode (bytes : Bytes) : (decode bytes).encode? = some bytes :=
  mapM_encode?_decodeGlyphs bytes

theorem decodeGlyphs_utf8EncodeChar_append (c : Char) (rest : Bytes) :
    decodeGlyphs (String.utf8EncodeChar c ++ rest) = Glyph.scalar c :: decodeGlyphs rest := by
  have hlen := String.length_utf8EncodeChar c
  have hpos := c.utf8Size_pos
  obtain ⟨b, tail, hb⟩ : ∃ b tail, String.utf8EncodeChar c = b :: tail := by
    cases h : String.utf8EncodeChar c with
    | nil => rw [h] at hlen; simp at hlen; omega
    | cons b tail => exact ⟨b, tail, rfl⟩
  have hchar := leadingChar?_utf8EncodeChar c rest
  rw [hb] at hchar ⊢
  rw [List.cons_append] at hchar ⊢
  rw [decodeGlyphs, hchar]
  have : tail.length = c.utf8Size - 1 := by
    rw [hb, List.length_cons] at hlen; omega
  simp only
  rw [← this, List.drop_left]

/-- A text of scalar values is read back from its UTF-8 bytes. -/
theorem decode_flatMap_utf8EncodeChar (cs : List Char) :
    decodeGlyphs (cs.flatMap String.utf8EncodeChar) = cs.map Glyph.scalar := by
  induction cs with
  | nil => rw [List.flatMap_nil, decodeGlyphs]; rfl
  | cons c cs ih =>
    rw [List.flatMap_cons, decodeGlyphs_utf8EncodeChar_append, ih]
    rfl

end Text

end Sftp
