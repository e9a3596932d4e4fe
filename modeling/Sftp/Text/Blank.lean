import Sftp.Text

/-!
# Blank characters

The characters that separate words: the ASCII blanks and line ends, the four information
separators, and the spaces and line ends of Unicode.
-/

namespace Sftp

/-- Whether a character separates words. -/
def isBlank (c : Char) : Bool :=
  let n := c.toNat
  (0x9 ≤ n && n ≤ 0xd) || (0x1c ≤ n && n ≤ 0x20) || n = 0x85 || n = 0xa0 || n = 0x1680
    || (0x2000 ≤ n && n ≤ 0x200a) || n = 0x2028 || n = 0x2029 || n = 0x202f || n = 0x205f
    || n = 0x3000

/-- Whether a glyph separates words. -/
def Glyph.isBlank (g : Glyph) : Bool :=
  match g with
  | .scalar c => Sftp.isBlank c
  | .surrogate _ => false

namespace Text

/-- The text without blanks at its start. -/
def trimStart (t : Text) : Text :=
  t.dropStartWhile Glyph.isBlank

/-- The text without blanks at its end. -/
def trimEnd (t : Text) : Text :=
  t.dropEndWhile Glyph.isBlank

/-- The text without blanks at either end. -/
def trim (t : Text) : Text :=
  t.trimStart.trimEnd

/-- The words of a text. -/
def words (t : Text) : List Text :=
  (t.splitOn Glyph.isBlank).filter fun w => !w.isEmpty

end Text

end Sftp
