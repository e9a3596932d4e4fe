import Sftp.Text

/-!
# Slash-separated paths

Remote paths are plain texts in which a slash separates names. Joining never inspects dots: a name
that begins with a slash replaces what stands before it.
-/

namespace Sftp.Text

/-- Whether a glyph is the path separator. -/
def isSlash (g : Glyph) : Bool :=
  g.is '/'

/-- A path below another. -/
def joinPath (parent name : Text) : Text :=
  if name.startsWith '/' then
    name
  else if parent.isEmpty || parent.endsWith '/' then
    parent ++ name
  else
    parent ++ "/" ++ name

/-- The part of a path after its last slash. -/
def basename (path : Text) : Text :=
  ⟨(path.glyphs.reverse.takeWhile fun g => !isSlash g).reverse⟩

/-- The part of a path after its last slash, slashes at its end left out; the path itself if
nothing is left. -/
def leafName (path : Text) : Text :=
  (path.dropEndWhile isSlash).basename.orElse path

end Sftp.Text
