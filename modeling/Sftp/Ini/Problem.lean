import Sftp.Text.Quoted
import Sftp.Text.Utf8.Defect

/-!
# What can be wrong with a configuration file

A file is refused for its bytes, for a line that fits nowhere, or for a name that is given twice; a
value is refused, when it is asked for, for what it refers to.
-/

namespace Sftp

/-- What is wrong with a configuration file. Lines are counted from 1 and shown with their end. -/
inductive IniProblem
  /-- The bytes are not UTF-8. -/
  | notText (defect : Utf8Defect)
  /-- A line before the first section. -/
  | noSection (number : Nat) (line : Text)
  /-- A section that begins a second time. -/
  | repeatedSection (number : Nat) (name : Text)
  /-- An option that is given a second time. -/
  | repeatedOption (number : Nat) (group option : Text)
  /-- Lines that are neither sections nor options. -/
  | strayLines (first : Nat × Text) (more : List (Nat × Text))
  /-- A value that refers to no option. -/
  | unknownReference (group option reference raw : Text)
  /-- A reference that is not closed. -/
  | openReference (rest : Text)
  /-- A percent sign that begins nothing. -/
  | strayPercent (rest : Text)
  /-- A value that refers to others without end. -/
  | endlessReference (group option raw : Text)
  deriving DecidableEq

namespace IniProblem

/-- The most steps from a value to what it refers to. -/
def maxDepth : Nat := 10

/-- A line number in a column of two. -/
def lineColumn (number : Nat) : Text :=
  (Text.ofNat number).padStart 2

/-- A line that is neither a section nor an option, in words. -/
def strayLine (entry : Nat × Text) : Text :=
  "\n\t[line " ++ lineColumn entry.1 ++ "]: " ++ entry.2.quoted

/-- The problem in words, for a file of the given name. -/
def message (file : Text) : IniProblem → Text
  | notText defect => defect.message
  | noSection number line =>
    "File contains no section headers.\nfile: " ++ file.quoted ++ ", line: " ++ Text.ofNat number
      ++ "\n" ++ line.quoted
  | repeatedSection number name =>
    "While reading from " ++ file.quoted ++ " [line " ++ lineColumn number ++ "]: section "
      ++ name.quoted ++ " already exists"
  | repeatedOption number group option =>
    "While reading from " ++ file.quoted ++ " [line " ++ lineColumn number ++ "]: option "
      ++ option.quoted ++ " in section " ++ group.quoted ++ " already exists"
  | strayLines first more =>
    (first :: more).foldl (fun text entry => text ++ strayLine entry)
      ("Source contains parsing errors: " ++ file.quoted)
  | unknownReference group option reference raw =>
    "Bad value substitution: option " ++ option.quoted ++ " in section " ++ group.quoted
      ++ " contains an interpolation key " ++ reference.quoted
      ++ " which is not a valid option name. Raw value: " ++ raw.quoted
  | openReference rest => "bad interpolation variable reference " ++ rest.quoted
  | strayPercent rest => "'%' must be followed by '%' or '(', found: " ++ rest.quoted
  | endlessReference group option raw =>
    "Recursion limit exceeded in value substitution: option " ++ option.quoted ++ " in section "
      ++ group.quoted ++ " contains an interpolation key which cannot be substituted in "
      ++ Text.ofNat maxDepth ++ " steps. Raw value: " ++ raw.quoted

end IniProblem

end Sftp
