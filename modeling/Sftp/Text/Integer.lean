import Sftp.Text.Blank

/-!
# Integers in texts

`Text.toInteger?` reads an integer the way configuration files and command lines write it: blanks
around it, a sign, decimal digits of any script, and single underscores between digits.
-/

namespace Sftp.Text

/-- The zeros of the scripts that have decimal digits; each is followed by its nine others. -/
def digitZeros : List Nat :=
  [
    0x30, 0x660, 0x6f0, 0x7c0, 0x966, 0x9e6, 0xa66, 0xae6, 0xb66, 0xbe6, 0xc66, 0xce6, 0xd66,
    0xde6, 0xe50, 0xed0, 0xf20, 0x1040, 0x1090, 0x17e0, 0x1810, 0x1946, 0x19d0, 0x1a80, 0x1a90,
    0x1b50, 0x1bb0, 0x1c40, 0x1c50, 0xa620, 0xa8d0, 0xa900, 0xa9d0, 0xa9f0, 0xaa50, 0xabf0,
    0xff10, 0x104a0, 0x10d30, 0x11066, 0x110f0, 0x11136, 0x111d0, 0x112f0, 0x11450, 0x114d0,
    0x11650, 0x116c0, 0x11730, 0x118e0, 0x11950, 0x11c50, 0x11d50, 0x11da0, 0x16a60, 0x16ac0,
    0x16b50, 0x1d7ce, 0x1d7d8, 0x1d7e2, 0x1d7ec, 0x1d7f6, 0x1e140, 0x1e2f0, 0x1e950, 0x1fbf0]

/-- The value of a decimal digit. -/
def digitValue? (c : Char) : Option Nat :=
  (digitZeros.find? fun z => z ≤ c.toNat && c.toNat < z + 10).map (c.toNat - ·)

/-- Whether a glyph may stand around a number: a blank that is no information separator. -/
def isNumberBlank (g : Glyph) : Bool :=
  g.isBlank && !(0x1c ≤ g.codePoint && g.codePoint ≤ 0x1f)

/-- The value of digits in which single underscores may stand between two digits. -/
def digitsValue? (value : Nat) : List Glyph → Option Nat
  | [] => some value
  | .scalar '_' :: .scalar c :: rest =>
    match digitValue? c with
    | some d => digitsValue? (value * 10 + d) rest
    | none => none
  | .scalar c :: rest =>
    match digitValue? c with
    | some d => digitsValue? (value * 10 + d) rest
    | none => none
  | .surrogate _ :: _ => none

/-- The value of an unsigned number, which begins with a digit. -/
def natural? : List Glyph → Option Nat
  | .scalar c :: rest => (digitValue? c).bind fun d => digitsValue? d rest
  | _ => none

/-- The most digits that a number may have. -/
def maxDigits : Nat := 4300

/-- The integer that a text writes. -/
def toInteger? (t : Text) : Option Int :=
  let inner := ((t.dropStartWhile isNumberBlank).dropEndWhile isNumberBlank).glyphs
  if maxDigits < (inner.filter fun g => !(g.is '_' || g.is '+' || g.is '-')).length then
    none
  else
    match inner with
    | .scalar '-' :: rest => (natural? rest).map fun n => -(n : Int)
    | .scalar '+' :: rest => (natural? rest).map Int.ofNat
    | rest => (natural? rest).map Int.ofNat

end Sftp.Text
