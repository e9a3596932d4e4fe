import Sftp.Text

/-!
# The journal

What a run reports about itself beside its results: records with a level and a text, in order.
-/

namespace Sftp

/-- The levels of the records that are kept. -/
inductive Level
  | info | warning | error
  deriving DecidableEq, Inhabited

/-- The name of a level. -/
def Level.label : Level → String
  | info => "INFO"
  | warning => "WARNING"
  | error => "ERROR"

/-- One record. -/
structure JournalRecord where
  /-- How serious it is. -/
  level : Level
  /-- What it says. -/
  message : Text
  deriving DecidableEq, Inhabited

/-- Records in the order in which they were made. -/
abbrev Journal : Type := Array JournalRecord

namespace Journal

/-- Adds a record of the given level. -/
def add (j : Journal) (level : Level) (message : Text) : Journal :=
  j.push ⟨level, message⟩

end Journal

end Sftp
