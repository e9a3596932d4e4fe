import Sftp.LocalPath
import Sftp.Step

/-!
# Local files

The files below the working directory, as far as a run can tell: which paths lead to a file and with
what bytes, and which to a directory. A path is followed name by name; every name but the last must
be that of a directory. Nothing is known beyond the working directory, except that the directories
above it exist. Every directory may be searched, and a path may be of any length if its names are not too long.
-/

namespace Sftp

/-- What a path can lead to. -/
inductive LocalNode
  /-- A file. -/
  | file (bytes : Bytes)
  /-- A directory. -/
  | directory
  deriving DecidableEq, Inhabited

/-- Where a path leads, whether or not something is there. -/
inductive Place
  /-- Below the working directory, or to it. -/
  | within (names : List Text)
  /-- To a directory above it. -/
  | above
  /-- To nothing that is known. -/
  | nowhere
  deriving DecidableEq

/-- The files below the working directory, by their names from there. -/
structure LocalFiles where
  /-- The files and directories. -/
  nodes : List (List Text × LocalNode)
  deriving DecidableEq, Inhabited

namespace LocalFiles

/-! ## Following a path -/

/-- What is at a place. -/
def at? (files : LocalFiles) : Place → Option LocalNode
  | .within [] => some .directory
  | .within names => (files.nodes.find? fun e => e.1 = names).map (·.2)
  | .above => some .directory
  | .nowhere => none

/-- The most bytes that a name may have. -/
def maxNameLength : Nat := 255

/-- Follows one name from a place, which must be a directory. -/
def step (files : LocalFiles) (place : Place) (name : Text) : Except FileProblem Place :=
  match files.at? place with
  | none => .error .missing
  | some (.file _) => .error .notDirectory
  | some .directory =>
    if name = selfName then
      .ok place
    else if name = parentName then
      match place with
      | .within (n :: names) => .ok (.within (n :: names).dropLast)
      | _ => .ok .above
    else if maxNameLength < (name.encode?.getD []).length then
      .error .nameTooLong
    else
      match place with
      | .within names => .ok (.within (names ++ [name]))
      | _ => .ok .nowhere

/-- Follows names from a place. -/
def follow (files : LocalFiles) (place : Place) : List Text → Except FileProblem Place
  | [] => .ok place
  | name :: rest => do
    let next ← files.step place name
    files.follow next rest

/-- Where a path leads. -/
def locate (files : LocalFiles) (path : Text) : Except Fault Place :=
  if path.glyphs.any (·.is '\x00') then
    .error .nullInPath
  else if path.isEmpty then
    .error (.localFile .missing path)
  else
    let start := if path.startsWith '/' then Place.above else Place.within []
    let names := (path.splitOn Text.isSlash).filter fun n => !n.isEmpty
    (files.follow start names).mapError (.localFile · path)

/-- What a path leads to. A path with a slash at its end leads to a directory only. -/
def find (files : LocalFiles) (path : Text) : Except Fault LocalNode := do
  let place ← files.locate path
  match files.at? place with
  | none => .error (.localFile .missing path)
  | some .directory => .ok .directory
  | some (.file bytes) =>
    if path.endsWith '/' then .error (.localFile .notDirectory path) else .ok (.file bytes)

/-- Whether a path leads to something. A path that cannot be followed leads to nothing, unless a name
in it is too long to ask. A system also refuses to follow a path that is too long as a whole, and one through a
directory that may not be searched; no such path is known here, and the answer is that of any other path. -/
def contains (files : LocalFiles) (path : Text) : Except Fault Bool :=
  match files.find path with
  | .ok _ => .ok true
  | .error (.localFile .nameTooLong p) => .error (.localFile .nameTooLong p)
  | .error _ => .ok false

/-! ## Files -/

/-- The bytes of a file. -/
def read (files : LocalFiles) (path : Text) : Except Fault Bytes := do
  match ← files.find path with
  | .file bytes => .ok bytes
  | .directory => .error (.localFile .isDirectory path)

/-- Puts something at a place below the working directory. -/
def put (files : LocalFiles) (names : List Text) (node : LocalNode) : LocalFiles :=
  ⟨files.nodes.filter (fun e => e.1 ≠ names) ++ [(names, node)]⟩

/-- The place of a file that is to be written and the bytes that it has. -/
def writable (files : LocalFiles) (path : Text) : Except Fault (List Text × Bytes) := do
  let place ← files.locate path
  match place, files.at? place with
  | _, some .directory => .error (.localFile .isDirectory path)
  | .within names, node =>
    if path.endsWith '/' then
      .error (.localFile .isDirectory path)
    else
      match node with
      | some (.file bytes) => .ok (names, bytes)
      | _ => .ok (names, [])
  | _, _ => .error (.localFile .missing path)

/-- Makes a file empty, creating it if need be. -/
def create (files : LocalFiles) (path : Text) : Except Fault LocalFiles := do
  let (names, _) ← files.writable path
  return files.put names (.file [])

/-- Adds bytes at the end of a file, creating it if need be. -/
def append (files : LocalFiles) (path : Text) (bytes : Bytes) : Except Fault LocalFiles := do
  let (names, old) ← files.writable path
  return files.put names (.file (old ++ bytes))

/-- Puts something at a path below the working directory, and directories above it where there is
nothing. -/
def install (files : LocalFiles) (path : Text) (node : LocalNode) : LocalFiles :=
  let names := (LocalPath.ofText path).names
  let above := (List.range (names.length - 1)).map fun k => names.take (k + 1)
  let files := above.foldl (fun files n =>
    if (files.at? (.within n)).isSome then files else files.put n .directory) files
  files.put names node

/-! ## Directories -/

/-- Makes a directory. -/
def makeDirectory (files : LocalFiles) (path : Text) : Except Fault LocalFiles := do
  let place ← files.locate path
  match files.at? place, place with
  | some _, _ => .error (.localFile .taken path)
  | none, .within names => .ok (files.put names .directory)
  | none, _ => .error (.localFile .missing path)

/-- Whether a path leads to a directory. -/
def isDirectory (files : LocalFiles) (path : Text) : Bool :=
  match files.find path with
  | .ok .directory => true
  | _ => false

/-- Makes a directory; nothing is wrong if it is there. -/
def ensureDirectory (path : Text) : Step LocalFiles Unit := do
  let files ← get
  match files.makeDirectory path with
  | .ok made => set made
  | .error f => if f.isSystem && files.isDirectory path then return else throw f

/-- Makes a directory and those above it, unless they are there. `names` are the names of the path,
last first. -/
def ensureDirectories (root : Text) : (names : List Text) → Step LocalFiles Unit
  | [] => ensureDirectory (LocalPath.mk root []).toText
  | name :: above => do
    let path := (LocalPath.mk root (name :: above).reverse).toText
    match ← (ensureDirectory path).attempt with
    | .ok () => return
    | .error (.localFile .missing _) =>
      ensureDirectories root above
      ensureDirectory path
    | .error f => throw f

/-- Makes the directory that a path is in, and those above it. -/
def ensureParents (path : LocalPath) : Step LocalFiles Unit :=
  ensureDirectories path.root path.names.dropLast.reverse

end LocalFiles

end Sftp
