import Sftp.Text.Integer
import Sftp.Text.Quoted

/-!
# Arguments of a command line

What a command line may hold is laid down by a `Grammar`: options, which begin with a dash and may
stand anywhere, and operands, which are told apart by their order. What it does hold is a list of
`Bindings`, a value for every option and operand. `Grammar.parse`, in `Sftp.Arguments.Parser`, goes
from the one to the other, and `UsageProblem.message` says what is wrong with a line that has no
bindings.
-/

namespace Sftp

/-! ## What may be given -/

/-- How an option is used. -/
inductive OptionUse
  /-- It asks for help and ends the reading. -/
  | help
  /-- It stands alone. -/
  | switch
  /-- A text follows it. -/
  | text
  /-- An integer follows it. -/
  | integer
  deriving DecidableEq, Inhabited

/-- An option. -/
structure OptionRule where
  /-- Its names, dashes included. -/
  names : List String
  /-- The name of its binding. -/
  key : String
  /-- How it is used. -/
  use : OptionUse
  deriving DecidableEq, Inhabited

/-- The name of an option in a complaint. -/
def OptionRule.label (r : OptionRule) : String :=
  "/".intercalate r.names

/-- Whether a value belongs to an option. -/
def OptionRule.takesValue (r : OptionRule) : Bool :=
  r.use = .text || r.use = .integer

/-- An operand. -/
inductive Operand
  /-- One word. -/
  | one (key : String)
  /-- One word, or the default if there is none. -/
  | optional (key : String) (default : String)
  /-- A word and everything that follows it, options included. -/
  | command (key : String)
  deriving DecidableEq, Inhabited

/-- What may be given to a program. -/
structure Grammar where
  /-- The name of the program. -/
  program : String
  /-- Its options. -/
  options : List OptionRule
  /-- Its operands. -/
  operands : List Operand
  deriving DecidableEq, Inhabited

/-! ## What is given -/

/-- The value of an option or an operand. -/
inductive ArgumentValue
  /-- It was not given. -/
  | missing
  /-- Whether a switch was given. -/
  | switch (isOn : Bool)
  /-- An integer. -/
  | number (n : Int)
  /-- A text. -/
  | text (t : Text)
  /-- Nothing is left of the words of an operand. -/
  | nothing
  deriving DecidableEq, Inhabited

/-- Values by the names of options and operands. -/
abbrev Bindings : Type := List (String × ArgumentValue)

namespace Bindings

/-- Gives a name a value, in place of the one it had. -/
def set (b : Bindings) (key : String) (v : ArgumentValue) : Bindings :=
  (b.filter fun e => e.1 ≠ key) ++ [(key, v)]

/-- The value of a name. -/
def get (b : Bindings) (key : String) : ArgumentValue :=
  ((b.find? fun e => e.1 = key).map (·.2)).getD .missing

/-- The text that a name is bound to. -/
def text? (b : Bindings) (key : String) : Option Text :=
  match b.get key with
  | .text t => some t
  | _ => none

/-- The integer that a name is bound to. -/
def number? (b : Bindings) (key : String) : Option Int :=
  match b.get key with
  | .number n => some n
  | _ => none

/-- Whether a name is bound to a switch that was given. -/
def isOn (b : Bindings) (key : String) : Bool :=
  b.get key = .switch true

end Bindings

/-- What holds when nothing is given. -/
def Grammar.defaults (g : Grammar) : Bindings :=
  (g.options.filterMap fun r =>
    match r.use with
    | .help => none
    | .switch => some (r.key, .switch false)
    | .text | .integer => some (r.key, .missing)) ++
  g.operands.map fun o =>
    match o with
    | .one key | .command key => (key, .missing)
    | .optional key default => (key, .text default)

/-! ## What is wrong -/

/-- What is wrong with a command line. -/
inductive UsageProblem
  /-- The beginning of more than one option. -/
  | ambiguous (given : Text) (names : List String)
  /-- An option without its value. -/
  | missingValue (option : String)
  /-- A value for an option that takes none. -/
  | unwantedValue (option : String) (value : Text)
  /-- A value that should be an integer. -/
  | notInteger (option : String) (value : Text)
  /-- A command that does not exist. -/
  | unknownCommand (key : String) (given : Text) (known : List String)
  /-- Operands without their words. -/
  | missingOperands (keys : List String)
  /-- Words that belong to nothing. -/
  | unrecognized (words : List Text)
  deriving DecidableEq

/-- What is wrong, in words. -/
def UsageProblem.message : UsageProblem → Text
  | ambiguous given names =>
    "ambiguous option: " ++ given ++ " could match " ++ ", ".intercalate names
  | missingValue option => s!"argument {option}: expected one argument"
  | unwantedValue option value =>
    s!"argument {option}: ignored explicit argument " ++ value.quoted
  | notInteger option value => s!"argument {option}: invalid int value: " ++ value.quoted
  | unknownCommand key given known =>
    s!"argument {key}: invalid choice: " ++ given.quoted ++ " (choose from "
      ++ Text.join ", " (known.map fun k => (Text.ofString k).quoted) ++ ")"
  | missingOperands keys => "the following arguments are required: " ++ ", ".intercalate keys
  | unrecognized words => "unrecognized arguments: " ++ Text.join " " words

/-- Why a command line is not carried out. -/
inductive UsageStop
  /-- Help was asked for. -/
  | help
  /-- Something is wrong with what was given to a program. -/
  | problem (program : String) (problem : UsageProblem)
  deriving DecidableEq

/-- The exit code of a run that is not carried out. -/
def UsageStop.exitCode : UsageStop → Nat
  | help => 0
  | problem _ _ => 2

/-- What is said about a command line that is not carried out, beside the help. -/
def UsageStop.message : UsageStop → Text
  | help => Text.empty
  | problem program p => program ++ ": error: " ++ p.message

end Sftp
