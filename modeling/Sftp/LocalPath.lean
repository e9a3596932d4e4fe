import Sftp.Text.Path

/-!
# Local paths

A local path as it is shown: the slashes at its start, and the names in it. Empty names and names
that are a single dot say nothing and are dropped; two dots are kept, since what they lead to is for
the file system to say. `LocalPath.normalForm` resolves them without asking it.
-/

namespace Sftp

/-- The name of a directory in itself. -/
def selfName : Text := "."

/-- The name of its parent in a directory. -/
def parentName : Text := ".."

/-- A local path. -/
structure LocalPath where
  /-- The slashes at its start: none, one, or exactly two. -/
  root : Text
  /-- The names in order. -/
  names : List Text
  deriving DecidableEq, Inhabited

namespace LocalPath

/-- The path that a text writes. -/
def ofText (t : Text) : LocalPath where
  root :=
    match (t.glyphs.takeWhile Text.isSlash).length with
    | 0 => Text.empty
    | 2 => "//"
    | _ => "/"
  names := (t.splitOn Text.isSlash).filter fun n => !n.isEmpty && n ≠ selfName

/-- The text of a path. -/
def toText (p : LocalPath) : Text :=
  (p.root ++ Text.join "/" p.names).orElse selfName

/-- The directory that a path is in, as far as its names tell. -/
def parent (p : LocalPath) : LocalPath :=
  { p with names := p.names.dropLast }

/-- The names in which two dots have cancelled the name before them; `before` are the names that
stand already, last first. Two dots with no name before them stay, unless the names start at the
root, which is its own parent. -/
def cancelled (isRooted : Bool) (before : List Text) : List Text → List Text
  | [] => before.reverse
  | n :: rest =>
    if n ≠ parentName then
      cancelled isRooted (n :: before) rest
    else
      match before with
      | [] => cancelled isRooted (if isRooted then [] else [n]) rest
      | last :: others =>
        if last = parentName then cancelled isRooted (n :: before) rest
        else cancelled isRooted others rest

/-- The path with no two dots in it but at its start. -/
def normalForm (p : LocalPath) : LocalPath :=
  { p with names := cancelled (!p.root.isEmpty) [] p.names }

/-- The path for a user with the given home: a tilde alone as the first name stands for it. -/
def expandHome (home path : Text) : Text :=
  match path.glyphs with
  | .scalar '~' :: rest =>
    if (rest.head?.all Text.isSlash) then
      (home.dropEndWhile Text.isSlash ++ ⟨rest⟩).orElse "/"
    else
      path
  | _ => path

end LocalPath

end Sftp
