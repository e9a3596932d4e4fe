/-!
# Bytes and big-endian numbers

A body on the wire is a list of bytes. Numbers stand in it with a fixed number of bytes, the most
significant first. `ofBigEndian_bigEndian` says that a number which fits its width is read back,
`bigEndian_ofBigEndian` that bytes are the digits of the number read from them, `length_bigEndian`
that the width is kept.
-/

namespace Sftp

/-- A sequence of bytes, first byte first. -/
abbrev Bytes := List UInt8

/-- The last `k` base-256 digits of `n`, most significant first. -/
def bigEndian : Nat → Nat → Bytes
  | 0, _ => []
  | k + 1, n => bigEndian k (n / 256) ++ [UInt8.ofNat (n % 256)]

/-- The number of values that `k` bytes can have. -/
def byteValues : Nat → Nat
  | 0 => 1
  | k + 1 => 256 * byteValues k

/-- The number whose base-256 digits are the given bytes, most significant first. -/
def ofBigEndian (bytes : Bytes) : Nat :=
  bytes.foldl (fun n b => n * 256 + b.toNat) 0

@[simp] theorem length_bigEndian (k n : Nat) : (bigEndian k n).length = k := by
  induction k generalizing n with
  | zero => rfl
  | succ k ih => simp [bigEndian, ih]

@[simp] theorem ofBigEndian_append_singleton (bytes : Bytes) (b : UInt8) :
    ofBigEndian (bytes ++ [b]) = ofBigEndian bytes * 256 + b.toNat := by
  simp [ofBigEndian]

/-- Writing keeps the last `k` digits, so reading gives the number modulo `byteValues k`. -/
theorem ofBigEndian_bigEndian_mod (k n : Nat) :
    ofBigEndian (bigEndian k n) = n % byteValues k := by
  induction k generalizing n with
  | zero => simp [bigEndian, ofBigEndian, byteValues, Nat.mod_one]
  | succ k ih =>
    rw [bigEndian, ofBigEndian_append_singleton, ih]
    have h : (UInt8.ofNat (n % 256)).toNat = n % 256 := by
      simp [UInt8.toNat_ofNat']
    rw [h, byteValues, Nat.mod_mul]
    omega

/-- A number that fits in `k` bytes is read back from them. -/
theorem ofBigEndian_bigEndian {k n : Nat} (h : n < byteValues k) :
    ofBigEndian (bigEndian k n) = n := by
  rw [ofBigEndian_bigEndian_mod, Nat.mod_eq_of_lt h]

/-- Bytes are the digits of the number read from them. -/
theorem bigEndian_ofBigEndian {k : Nat} {bytes : Bytes} (h : bytes.length = k) :
    bigEndian k (ofBigEndian bytes) = bytes := by
  -- the last digit is the one that both functions split off
  induction k generalizing bytes with
  | zero => rw [List.length_eq_zero_iff.mp h]; rfl
  | succ k ih =>
    obtain ⟨front, b, rfl⟩ := List.eq_nil_or_concat bytes |>.resolve_left (by rintro rfl; cases h)
    have hfront : front.length = k := by simpa using h
    have hb : b.toNat < 256 := b.toNat_lt
    have hdiv : (ofBigEndian front * 256 + b.toNat) / 256 = ofBigEndian front := by omega
    have hmod : (ofBigEndian front * 256 + b.toNat) % 256 = b.toNat := by omega
    rw [List.concat_eq_append, ofBigEndian_append_singleton, bigEndian, hdiv, hmod, ih hfront,
      UInt8.ofNat_toNat]

/-- Widths allow at least one value. -/
theorem byteValues_pos (k : Nat) : 0 < byteValues k := by
  induction k with
  | zero => decide
  | succ k ih => exact Nat.mul_pos (by decide) ih

/-- The number read from bytes fits their width. -/
theorem ofBigEndian_lt (bytes : Bytes) : ofBigEndian bytes < byteValues bytes.length := by
  have hread := ofBigEndian_bigEndian_mod bytes.length (ofBigEndian bytes)
  rw [bigEndian_ofBigEndian rfl] at hread
  rw [hread]
  exact Nat.mod_lt _ (byteValues_pos _)

end Sftp
