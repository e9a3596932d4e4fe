import Sftp.Journal
import Sftp.LocalFiles
import Sftp.Settings
import Sftp.Step
import Sftp.Text.LetterCase

/-!
# Where records are written

Records go to a file, to the console, to both or to nothing, one line each behind the time, the level
and the thread. Every record has a level, a number; those below the level of the journal are left
out. The SSH layer reports a record for every packet, so it is held to warnings at least.

`Outputs.configure` replaces the outputs that were there. If a file cannot be opened, none are left.
-/

namespace Sftp

/-! ## Levels -/

/-- The levels that have a name, by name. -/
def levelNumbers : List (String × Int) :=
  [("NOTSET", 0), ("DEBUG", 10), ("INFO", 20), ("WARNING", 30), ("ERROR", 40), ("CRITICAL", 50),
    ("WARN", 30), ("FATAL", 50)]

/-- The number of a level in the journal. -/
def Level.number : Level → Int
  | info => 20
  | warning => 30
  | error => 40

/-- How a level is shown. -/
def showLevel (n : Int) : Text :=
  match levelNumbers.find? fun e => e.2 = n with
  | some e => e.1
  | none => "Level " ++ Text.ofInt n

/-- The layout of a short line, whose name is not free for a level. -/
def shortLayout : Text := "%(levelname)s:%(name)s:%(message)s"

/-- The layouts by their marks, whose name is not free for a level either. -/
def layoutTable : Text :=
  "\x7b'%': (<class 'logging.PercentStyle'>, '%(levelname)s:%(name)s:%(message)s'), '\x7b': "
    ++ "(<class 'logging.StrFormatStyle'>, '\x7blevelname\x7d:\x7bname\x7d:\x7bmessage\x7d'), '$': "
    ++ "(<class 'logging.StringTemplateStyle'>, "
    ++ "'$\x7blevelname\x7d:$\x7bname\x7d:$\x7bmessage\x7d')\x7d"

/-- The number of the level that a text names, in letters of either case. A text that names nothing
stands for `INFO`. -/
def levelOf (name : Text) : Except Fault Int :=
  let word := name.capitalsAscii
  match levelNumbers.find? fun e => Text.ofString e.1 = word with
  | some e => .ok e.2
  | none =>
    if word = Text.ofString "BASIC_FORMAT" then .error (.unknownLevel shortLayout)
    else if word = Text.ofString "_STYLES" then .error (.notALevel layoutTable)
    else .ok Level.info.number

/-! ## Outputs -/

/-- What records are written to. -/
inductive Sink
  /-- The file at a path. -/
  | file (path : Text)
  /-- The console. -/
  | console
  deriving DecidableEq, Inhabited

/-- A sink and the least level that it takes. -/
structure Output where
  /-- The sink. -/
  sink : Sink
  /-- The level. -/
  level : Int
  deriving DecidableEq, Inhabited

/-- A record as it is written. -/
structure LogLine where
  /-- When it was made. -/
  time : Text
  /-- Who made it: names from general to particular, with dots between them. -/
  source : Text
  /-- Its level. -/
  level : Int
  /-- The thread that made it. -/
  thread : Text
  /-- What it says. -/
  message : Text
  deriving DecidableEq, Inhabited

/-- The record in one line, or more if the message has more. -/
def LogLine.render (r : LogLine) : Text :=
  r.time ++ " - " ++ showLevel r.level ++ " - " ++ r.thread ++ " - " ++ r.message ++ "\n"

/-- The outputs of a run and what they have written to. -/
structure Outputs where
  /-- The least level that is kept. -/
  level : Int := Level.warning.number
  /-- The least level that is kept of the SSH layer; 0 if it has none of its own. -/
  sshLevel : Int := 0
  /-- The outputs. -/
  outputs : List Output := []
  /-- The local files. -/
  files : LocalFiles
  /-- What the console shows. -/
  shown : Text := Text.empty
  deriving DecidableEq, Inhabited

namespace Outputs

/-- The name under which the SSH layer reports. -/
def sshSource : Text := "paramiko"

/-- Whether a source is the SSH layer or a part of it. -/
def isSshSource (source : Text) : Bool :=
  source = sshSource || (sshSource ++ ".").glyphs.isPrefixOf source.glyphs

/-- Opens the file of the journal, making the directories above it, and gives the path at which it
is kept. -/
def openFile (path : Text) : Step Outputs Text := do
  let given := LocalPath.ofText path
  let kept := given.normalForm.toText
  (LocalFiles.ensureParents given).within (·.files) fun s files => { s with files }
  let s ← get
  let files ← Step.ofExcept (s.files.append kept [])
  set { s with files }
  return kept

/-- Replaces the outputs by those of the settings. -/
def configure (settings : JournalSettings) : Step Outputs Unit := do
  let level ← Step.ofExcept (levelOf settings.level)
  modify fun s => { s with level, outputs := [] }
  let file ←
    if settings.file.isEmpty then
      pure []
    else do
      let path ← openFile settings.file
      pure [⟨.file path, level⟩]
  let console := if settings.console then [⟨.console, level⟩] else []
  modify fun s =>
    { s with outputs := file ++ console, sshLevel := max level Level.warning.number }

/-- The least level that is kept of a source. -/
def levelFor (s : Outputs) (source : Text) : Int :=
  if isSshSource source && s.sshLevel ≠ 0 then s.sshLevel else s.level

/-- Writes a text to a sink. A file that cannot be written any more is passed over. -/
def emit (s : Outputs) (text : Text) : Sink → Outputs
  | .console => { s with shown := s.shown ++ text }
  | .file path =>
    match s.files.append path (text.encode?.getD []) with
    | .ok files => { s with files }
    | .error _ => s

/-- Writes a record to every output that takes it. -/
def write (s : Outputs) (r : LogLine) : Outputs :=
  if 0 < r.level ∧ s.levelFor r.source ≤ r.level then
    (s.outputs.filter fun o => o.level ≤ r.level).foldl (fun s o => s.emit r.render o.sink) s
  else
    s

end Outputs

end Sftp
