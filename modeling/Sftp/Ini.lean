import Sftp.Ini.Problem
import Sftp.Text.Blank
import Sftp.Text.LetterCase

/-!
# Configuration files

A configuration file has sections, and a section has options with values: a section begins with a
line `[name]`, an option with a line `name = value` or `name: value`. Lines that begin with `#` or
`;` are comments. A line that is indented deeper than the option before it continues its value, and
so does an empty line. No section and no option may be given twice, except that the section
`DEFAULT`, whose options every section inherits, may be begun again.

A value may refer to others: `%(name)s` stands for the value of that option, and `%%` for one
percent sign (`Ini.get?`).
-/

namespace Sftp

/-- A configuration file. -/
structure Ini where
  /-- The sections with their options; a value is as it was written. -/
  sections : List (Text × List (Text × Text))
  deriving DecidableEq, Inhabited

namespace Ini

/-! ## Lines -/

/-- The lines of a text, each with the line feed that ends it; a last line may have none. -/
def linesOf (line : List Glyph) : List Glyph → List Text
  | [] => if line.isEmpty then [] else [⟨line.reverse⟩]
  | g :: rest =>
    if g.is '\n' then ⟨(g :: line).reverse⟩ :: linesOf [] rest else linesOf (g :: line) rest

/-- The glyphs with every line end, be it a carriage return, a line feed or both, as a line feed. -/
def uniformEnds : List Glyph → List Glyph
  | [] => []
  | .scalar '\r' :: .scalar '\n' :: rest => .scalar '\n' :: uniformEnds rest
  | .scalar '\r' :: rest => .scalar '\n' :: uniformEnds rest
  | g :: rest => g :: uniformEnds rest

/-- The lines of a file and the defect that ends them. A line in front of a defect counts only if
it is known to be complete. -/
def readLines (bytes : Bytes) : List Text × Option Utf8Defect :=
  let (text, defect) := decodeBlocks [] bytes
  match defect with
  | none => (linesOf [] (uniformEnds text.glyphs), none)
  | some d =>
    let known := if text.endsWith '\r' then text.glyphs.dropLast else text.glyphs
    ((linesOf [] (uniformEnds known)).filter (·.endsWith '\n'), some d)

/-! ## Parts of a line -/

/-- The name in a section line: what stands between the first bracket and the last. -/
def sectionName? (content : Text) : Option Text :=
  match content.glyphs with
  | .scalar '[' :: rest =>
    let name := ((rest.reverse.dropWhile fun g => !g.is ']').drop 1).reverse
    if name.isEmpty then none else some ⟨name⟩
  | _ => none

/-- Whether a glyph divides an option from its value. -/
def isDivider (g : Glyph) : Bool :=
  g.is '=' || g.is ':'

/-- The name and the value in an option line. -/
def option? (content : Text) : Option (Text × Text) :=
  match content.glyphs.dropWhile fun g => !isDivider g with
  | [] => none
  | _ :: value =>
    let name : Text := ⟨content.glyphs.takeWhile fun g => !isDivider g⟩
    some (name.trimEnd.lower, Text.trim ⟨value⟩)

/-- Whether a line is a comment. -/
def isComment (content : Text) : Bool :=
  content.startsWith '#' || content.startsWith ';'

/-! ## Reading -/

/-- The section whose options the others inherit. -/
def sharedSection : Text := "DEFAULT"

/-- An option while it is read: its name and the lines of its value, last first. -/
abbrev OpenOption : Type := Text × List Text

/-- What has been read of a file. -/
structure Reading where
  /-- The sections with their options. -/
  sections : List (Text × List OpenOption) := []
  /-- The section that was begun last. -/
  current : Option Text := none
  /-- The option that was given last, if it can be continued. -/
  option : Option Text := none
  /-- The indentation of the line that began it. -/
  indent : Nat := 0
  /-- The lines that are neither sections nor options. -/
  stray : List (Nat × Text) := []

namespace Reading

/-- The options of a section, if it was begun. -/
def options? (r : Reading) (name : Text) : Option (List OpenOption) :=
  (r.sections.find? fun s => s.1 = name).map (·.2)

/-- Changes the options of the current section. -/
def update (r : Reading) (f : List OpenOption → List OpenOption) : Reading :=
  { r with sections := r.sections.map fun s => if r.current = some s.1 then (s.1, f s.2) else s }

/-- Adds a line to the value of the current option, if there is one. -/
def extend (r : Reading) (line : Text) : Reading :=
  match r.option with
  | none => r
  | some name => r.update fun options =>
      options.map fun o => if o.1 = name then (o.1, line :: o.2) else o

/-- Begins a section. -/
def begin (r : Reading) (number : Nat) (name : Text) : Except IniProblem Reading :=
  if (r.options? name).isSome then
    if name = sharedSection then
      .ok { r with current := some name, option := none }
    else
      .error (.repeatedSection number name)
  else
    .ok { r with sections := r.sections ++ [(name, [])], current := some name, option := none }

/-- Begins an option of a section. An option without a name is kept as a stray line too. -/
def give (r : Reading) (number : Nat) (line : Text) (group name value : Text) :
    Except IniProblem Reading :=
  if ((r.options? group).getD []).any fun o => o.1 = name then
    .error (.repeatedOption number group name)
  else
    let r := r.update fun options => options ++ [(name, [value])]
    if name.isEmpty then
      .ok { r with option := none, stray := r.stray ++ [(number, line)] }
    else
      .ok { r with option := some name }

/-- Reads one line. -/
def line (r : Reading) (number : Nat) (line : Text) : Except IniProblem Reading :=
  let content := line.trim
  let indent := (line.glyphs.takeWhile Glyph.isBlank).length
  if isComment content then
    .ok r
  else if content.isEmpty then
    .ok (r.extend Text.empty)
  else if r.option.isSome && r.indent < indent then
    .ok (r.extend content)
  else
    let r := { r with indent }
    match sectionName? content, r.current, option? content with
    | some name, _, _ => r.begin number name
    | none, none, _ => .error (.noSection number line)
    | none, some group, some (name, value) => r.give number line group name value
    | none, some _, none => .ok { r with stray := r.stray ++ [(number, line)] }

/-- Reads lines up to the first that is refused; `number` is that of the first. -/
def lines (r : Reading) (number : Nat) : List Text → Except IniProblem Reading
  | [] => .ok r
  | text :: rest => do
    let r ← r.line number text
    r.lines (number + 1) rest

/-- The value of an option that has been read. -/
def valueOf (o : OpenOption) : Text × Text :=
  (o.1, (Text.join "\n" o.2.reverse).trimEnd)

/-- The file that has been read. -/
def finish (r : Reading) : Except IniProblem Ini :=
  match r.stray with
  | [] => .ok ⟨r.sections.map fun s => (s.1, s.2.map valueOf)⟩
  | first :: more => .error (.strayLines first more)

end Reading

/-- The configuration that bytes write. -/
def parse (bytes : Bytes) : Except IniProblem Ini := do
  let (lines, defect) := readLines bytes
  let reading ← ({} : Reading).lines 1 lines
  match defect with
  | some d => .error (.notText d)
  | none => reading.finish

/-! ## Values -/

/-- The options of a section, if there is one. -/
def options? (ini : Ini) (name : Text) : Option (List (Text × Text)) :=
  (ini.sections.find? fun s => s.1 = name).map (·.2)

/-- Whether there is a section, the shared one not counted. -/
def hasSection (ini : Ini) (name : Text) : Bool :=
  name ≠ sharedSection && (ini.options? name).isSome

/-- The value of an option as it was written, in its section or the shared one. -/
def raw? (ini : Ini) (group option : Text) : Option Text :=
  let own := (ini.options? group).getD []
  let shared := (ini.options? sharedSection).getD []
  ((own ++ shared).find? fun o => o.1 = option).map (·.2)

/-- A part of a value. -/
inductive Piece
  /-- Text that stands for itself. -/
  | literal (text : Text)
  /-- The value of another option. -/
  | reference (name : Text)
  /-- What can be no part of a value. -/
  | wrong (problem : IniProblem)
  deriving DecidableEq

/-- The name in a reference, after its opening parenthesis, and what follows the reference. -/
def reference? (glyphs : List Glyph) : Option (Text × List Glyph) :=
  let name := glyphs.takeWhile fun g => !g.is ')'
  match name, glyphs.dropWhile fun g => !g.is ')' with
  | _ :: _, .scalar ')' :: .scalar 's' :: rest => some (Text.lower ⟨name⟩, rest)
  | _, _ => none

/-- The parts of a value, up to the first that can be none. Every part takes a glyph, so as many
rounds as there are glyphs are enough. -/
def pieces : Nat → List Glyph → List Piece
  | 0, _ => []
  | _ + 1, [] => []
  | rounds + 1, .scalar '%' :: rest =>
    match rest with
    | .scalar '%' :: rest => .literal "%" :: pieces rounds rest
    | .scalar '(' :: inner =>
      match reference? inner with
      | some (name, rest) => .reference name :: pieces rounds rest
      | none => [.wrong (.openReference ⟨.scalar '%' :: rest⟩)]
    | _ => [.wrong (.strayPercent ⟨.scalar '%' :: rest⟩)]
  | rounds + 1, g :: rest => .literal ⟨[g]⟩ :: pieces rounds rest

/-- The parts of a value. -/
def piecesOf (value : Text) : List Piece :=
  pieces value.length value.glyphs

/-- Puts the values of other options into the parts of one, at most `depth` steps deep. -/
def expand (ini : Ini) (group option : Text) : (depth : Nat) → List Piece →
    Except IniProblem Text
  | 0, _ =>
    .error (.endlessReference group option ((ini.raw? group option).getD Text.empty))
  | depth + 1, parts =>
    parts.foldlM (fun text part =>
      match part with
      | .literal t => .ok (text ++ t)
      | .wrong problem => .error problem
      | .reference name =>
        match ini.raw? group name with
        | none => .error (.unknownReference group option name
            ((ini.raw? group option).getD Text.empty))
        | some value =>
          if value.glyphs.any (·.is '%') then do
            let inner ← expand ini group option depth (piecesOf value)
            .ok (text ++ inner)
          else
            .ok (text ++ value)) Text.empty

/-- The value of an option, if it is given. -/
def get? (ini : Ini) (group option : Text) : Except IniProblem (Option Text) :=
  match ini.raw? group option with
  | none => .ok none
  | some value => do
    let text ← ini.expand group option IniProblem.maxDepth (piecesOf value)
    return some text

end Ini

end Sftp
