import Sftp.Text.Digits
import Sftp.Text.Printable

/-!
# Quoted texts

A text shown inside a message is quoted so that its ends and its odd characters can be seen. The
quote is the apostrophe, or the double quote for a text that holds apostrophes and no double
quote. The backslash and the quote are escaped, tab and line ends have short escapes, and every
other character that is not printable is written by its number.
-/

namespace Sftp.Text

/-- The escape of a code point by its number, as short as its size allows. -/
def escapeNumber (n : Nat) : List Char :=
  if n ≤ 0xff then
    '\\' :: 'x' :: lastDigits 16 2 n
  else if n ≤ 0xffff then
    '\\' :: 'u' :: lastDigits 16 4 n
  else
    '\\' :: 'U' :: lastDigits 16 8 n

/-- How a code point stands inside quotes. -/
def quoteGlyph (quote : Char) : Glyph → List Char
  | .surrogate i => escapeNumber (0xD800 + i.val)
  | .scalar c =>
    if c = quote || c = '\\' then ['\\', c]
    else if c = '\t' then ['\\', 't']
    else if c = '\n' then ['\\', 'n']
    else if c = '\r' then ['\\', 'r']
    else if isPrintable c then [c]
    else escapeNumber c.toNat

/-- The quote that a text gets. -/
def quoteMark (t : Text) : Char :=
  if t.glyphs.any (·.is '\'') && !t.glyphs.any (·.is '"') then '"' else '\''

/-- The text in quotes. -/
def quoted (t : Text) : Text :=
  let q := t.quoteMark
  ⟨(q :: t.glyphs.flatMap (quoteGlyph q) ++ [q]).map Glyph.scalar⟩

end Sftp.Text
