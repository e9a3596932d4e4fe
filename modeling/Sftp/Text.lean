import Sftp.Bytes

/-!
# Texts

File names travel as bytes that are nearly always UTF-8, though nothing promises it. A `Text` is a
sequence of code points in which the 2048 surrogates may stand alone: U+DC80 to U+DCFF stand for
the bytes 80 to FF of a name that is no UTF-8, so that such a name can be shown, compared and sent
back unchanged. The two directions are in `Sftp.Text.Utf8`.

Texts are compared by code point (`Text.le`), which places an undecodable byte between U+D7FF and
U+E000.
-/

namespace Sftp

/-- One code point of a text: a Unicode scalar value, or the surrogate U+D800 + `i`. -/
inductive Glyph
  /-- A Unicode scalar value. -/
  | scalar (c : Char)
  /-- The lone surrogate U+D800 + `i`. -/
  | surrogate (i : Fin 2048)
  deriving DecidableEq

namespace Glyph

/-- The number of the code point. -/
def codePoint : Glyph → Nat
  | scalar c => c.toNat
  | surrogate i => 0xD800 + i.val

/-- The surrogate U+DC00 + `b`, which stands for the undecodable byte `b`. -/
def escaped (b : UInt8) : Glyph :=
  surrogate ⟨0x400 + b.toNat, by have := b.toNat_lt; omega⟩

/-- Whether the glyph is the given character. -/
def is (g : Glyph) (c : Char) : Bool :=
  g = scalar c

/-- The character of a scalar value. -/
def char? : Glyph → Option Char
  | scalar c => some c
  | surrogate _ => none

/-- Whether the glyph is a lone surrogate. -/
def isSurrogate (g : Glyph) : Bool :=
  g.char?.isNone

end Glyph

/-- A sequence of code points. -/
structure Text where
  /-- The code points in order. -/
  glyphs : List Glyph
  deriving DecidableEq, Inhabited

namespace Text

/-- The text of a string. -/
def ofString (s : String) : Text :=
  ⟨s.toList.map Glyph.scalar⟩

instance : Coe String Text := ⟨ofString⟩

/-- The text without code points. -/
def empty : Text := ⟨[]⟩

instance : Append Text := ⟨fun a b => ⟨a.glyphs ++ b.glyphs⟩⟩

/-- Whether the text has no code point. -/
def isEmpty (t : Text) : Bool :=
  t.glyphs.isEmpty

/-- The number of code points. -/
def length (t : Text) : Nat :=
  t.glyphs.length

/-- The text, or another in place of the empty one. -/
def orElse (t other : Text) : Text :=
  if t.isEmpty then other else t

/-- The decimal digits of a natural number. -/
def ofNat (n : Nat) : Text :=
  ofString (toString n)

/-- The decimal digits of an integer, with a minus sign if it is negative. -/
def ofInt (n : Int) : Text :=
  ofString (toString n)

/-- The string of a text that holds no lone surrogate. -/
def toString? (t : Text) : Option String :=
  (t.glyphs.mapM Glyph.char?).map String.ofList

/-- The code points of a text as numbers. -/
def codePoints (t : Text) : List Nat :=
  t.glyphs.map Glyph.codePoint

/-- Lexicographic order of numbers; a list comes before its extensions. -/
def numbersLe : List Nat → List Nat → Bool
  | [], _ => true
  | _ :: _, [] => false
  | a :: as, b :: bs => a < b || (a = b && numbersLe as bs)

/-- Lexicographic order by code point; a text comes before its extensions. -/
def le (a b : Text) : Bool :=
  numbersLe a.codePoints b.codePoints

/-- The texts one after another, with a separator between neighbours. -/
def join (separator : Text) : List Text → Text
  | [] => empty
  | [t] => t
  | t :: rest => t ++ separator ++ join separator rest

/-- The maximal runs of glyphs that fail the test; every glyph that passes it ends a run. -/
def splitOn (t : Text) (isSeparator : Glyph → Bool) : List Text :=
  (t.glyphs.splitOnP isSeparator).map Text.mk

/-- The text without the glyphs at its end that pass the test. -/
def dropEndWhile (t : Text) (p : Glyph → Bool) : Text :=
  ⟨(t.glyphs.reverse.dropWhile p).reverse⟩

/-- The text without the glyphs at its start that pass the test. -/
def dropStartWhile (t : Text) (p : Glyph → Bool) : Text :=
  ⟨t.glyphs.dropWhile p⟩

/-- Whether the text ends with the given character. -/
def endsWith (t : Text) (c : Char) : Bool :=
  match t.glyphs.getLast? with
  | some g => g.is c
  | none => false

/-- Whether the text begins with the given character. -/
def startsWith (t : Text) (c : Char) : Bool :=
  match t.glyphs.head? with
  | some g => g.is c
  | none => false

/-- The text on the left of a field at least `width` wide, filled with blanks before it. -/
def padStart (t : Text) (width : Nat) : Text :=
  ⟨List.replicate (width - t.length) (Glyph.scalar ' ')⟩ ++ t

@[simp] theorem glyphs_append (a b : Text) : (a ++ b).glyphs = a.glyphs ++ b.glyphs := rfl

@[simp] theorem glyphs_empty : empty.glyphs = [] := rfl

@[ext] theorem ext {a b : Text} (h : a.glyphs = b.glyphs) : a = b := by
  cases a; cases b; simp_all

end Text

end Sftp
