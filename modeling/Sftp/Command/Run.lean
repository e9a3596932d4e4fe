import Sftp.Command
import Sftp.OpenFile
import Sftp.Walk

/-!
# Carrying commands out

A run loads its settings, sets the journal up, opens a stream, opens a session on it, carries out its
command and closes the session. What it shows goes to two texts, and its exit code is 0 if all went well
and 1 if not.
Faults of the system or the server, and values that make no sense, are shown and end the run with 1;
any other fault leaves it (`explanation`). Whatever becomes of the command, the session is closed
afterwards, and the stream with it.
-/

namespace Sftp

/-! ## What a command works on -/

/-- The client of a run, the local files, and what has been shown. -/
structure Terminal (σ : Type) where
  /-- The client. -/
  client : Client σ
  /-- The local files. -/
  files : LocalFiles
  /-- What was shown as output. -/
  out : Text := Text.empty
  /-- What was shown as errors. -/
  err : Text := Text.empty

namespace Terminal

variable {σ α : Type}

/-- A step of a command. -/
abbrev Action (σ α : Type) : Type := Step (Terminal σ) α

/-- Takes a step on the client. -/
def onClient (a : Step (Client σ) α) : Action σ α :=
  a.within (·.client) fun t client => { t with client }

/-- Shows a line of output. -/
def say (line : Text) : Action σ Unit :=
  modify fun t => { t with out := t.out ++ line ++ "\n" }

/-- Shows a line among the errors. -/
def complain (line : Text) : Action σ Unit :=
  modify fun t => { t with err := t.err ++ line ++ "\n" }

/-- Adds a record to the journal. -/
def record (level : Level) (message : Text) : Action σ Unit :=
  onClient (Client.onLink (modify fun l => l.record level message))

/-- Shows lines of output, one after another. -/
def sayAll : List Text → Action σ Unit
  | [] => return
  | line :: rest => do
    say line
    sayAll rest

end Terminal

/-! ## Copying -/

/-- An open remote file and the local files. -/
structure Copying (σ : Type) where
  /-- The remote file and its client. -/
  held : Held OpenFile σ
  /-- The local files. -/
  files : LocalFiles

namespace Copying

variable {σ α : Type}

/-- A step of copying. -/
abbrev Action (σ α : Type) : Type := Step (Copying σ) α

/-- Takes a step on the remote file. -/
def onRemote (a : OpenFile.Action σ α) : Action σ α :=
  a.within (·.held) fun c held => { c with held }

/-- Changes the local files, if they can be changed. -/
def onLocal (f : LocalFiles → Except Fault LocalFiles) : Action σ Unit := do
  let c ← get
  let files ← Step.ofExcept (f c.files)
  set { c with files }

/-- Copies from the remote file, chunk by chunk, until a chunk has no bytes, and gives the number of
bytes. -/
def receive (localPath : Text) (chunk : Nat) : Nat → Nat → Action σ Nat
  | 0, _ => throw .outOfPatience
  | rounds + 1, total => do
    let data ← onRemote (OpenFile.read (some chunk))
    if data.isEmpty then
      return total
    else
      onLocal fun files => files.append localPath data
      receive localPath chunk rounds (total + data.length)

/-- Copies to the remote file, chunk by chunk, and gives the number of bytes. -/
def transmit (chunk : Nat) (data : Bytes) (total : Nat) : Action σ Nat := do
  if _h : data = [] ∨ chunk = 0 then
    return total
  else
    let count ← onRemote (OpenFile.write (data.take chunk))
    transmit chunk (data.drop chunk) (total + count)
  termination_by data.length
  decreasing_by
    have hdata : data ≠ [] := fun h => _h (Or.inl h)
    have hchunk : chunk ≠ 0 := fun h => _h (Or.inr h)
    have := List.length_pos_iff.2 hdata
    rw [List.length_drop]
    omega

/-- Copies with an open remote file and closes it afterwards. -/
def during (file : OpenFile) (a : Action σ α) : Terminal.Action σ α :=
  Step.within
    (fun t => { held := { object := file, client := t.client }, files := t.files })
    (fun t c => { t with client := c.held.client, files := c.files })
    (a.andFinally (onRemote Held.close))

end Copying

/-! ## Commands -/

namespace Command

variable {σ : Type}

open Terminal

/-- The most bytes that are copied at once. -/
def chunkSize : Nat := 256 * 1024

/-- Shows the entries of a directory in the order of their names. -/
def runList (path : Text) : Action σ Nat := do
  let listing ← onClient (Client.list path)
  let entries ← Step.ofExcept listing.complete
  sayAll ((entries.mergeSort fun a b => a.name.le b.name).map FileStats.listing)
  return 0

/-- Shows what a path leads to. -/
def runStat (path : Text) : Action σ Nat := do
  let stats ← onClient (Client.stat path)
  say stats.listing
  return 0

/-- The line that is shown when a file has been copied. -/
def copiedLine (source target : Text) (total : Nat) : Text :=
  "[OK] " ++ source ++ " -> " ++ target ++ " (" ++ Text.ofNat total ++ " bytes)"

/-- Copies a file from the server. The remote file is opened first; what has been copied stays when a
fault ends the copying. -/
def runDownload (chunk : Nat) (remotePath localPath : Text) : Action σ Nat := do
  let file ← onClient (Client.openToRead remotePath)
  let t ← get
  let total ← Copying.during file do
    Copying.onLocal fun files => files.create localPath
    Copying.receive localPath chunk t.client.patience 0
  record .info ("Downloaded " ++ Text.ofNat total ++ " bytes from " ++ remotePath)
  say (copiedLine remotePath localPath total)
  return 0

/-- Copies a file to the server. The local file is opened first. -/
def runUpload (chunk : Nat) (localPath remotePath : Text) : Action σ Nat := do
  let t ← get
  let data ← Step.ofExcept (t.files.read localPath)
  let file ← onClient (Client.create remotePath)
  let total ← Copying.during file (Copying.transmit chunk data 0)
  record .info ("Uploaded " ++ Text.ofNat total ++ " bytes to " ++ remotePath)
  say (copiedLine localPath remotePath total)
  return 0

/-- Shows what a walk has seen, one entry after another. -/
def showVisits : List WalkEntry → Action σ Unit
  | [] => return
  | e :: rest => do
    match e.fault with
    | some f => complain ("[ERROR] " ++ e.path ++ ": " ++ f.message)
    | none => say e.path
    showVisits rest

/-- Shows the paths of a tree. -/
def runWalk (path : Text) (stopOnFault : Bool) : Action σ Nat := do
  let t ← get
  let (seen, walker, client) :=
    Walk.visit Client.tree [] t.client.patience { root := path, stopOnFault } t.client
  set { t with client }
  showVisits seen.entries
  match seen.fault with
  | some f => throw f
  | none =>
    if seen.stopped then
      throw .outOfPatience
    else
      return if walker.faults.isEmpty then 0 else 1

/-- Does something that shows nothing. -/
def runQuietly (a : Step (Client σ) Unit) : Action σ Nat := do
  onClient a
  return 0

/-- Carries a command out, copying at most `chunk` bytes at once. -/
def run (chunk : Nat) : Command → Action σ Nat
  | list path => runList path
  | stat path => runStat path
  | download remotePath localPath => runDownload chunk remotePath localPath
  | upload localPath remotePath => runUpload chunk localPath remotePath
  | remove path => runQuietly (Client.remove path)
  | rename oldPath newPath => runQuietly (Client.rename oldPath newPath)
  | makeDirectory path => runQuietly (Client.makeDirectory path none)
  | removeDirectory path => runQuietly (Client.removeDirectory path)
  | walk path stopOnFault => runWalk path stopOnFault

end Command

/-! ## Runs -/

/-- What is shown for a fault that ends a run. A fault without an explanation leaves it. -/
def explanation (f : Fault) : Option Text :=
  if f.isInvalid then some ("[ERROR] Configuration error: " ++ f.message)
  else if f.isSystem then some ("[ERROR] " ++ f.message)
  else none

/-- What is shown for a fault of opening the stream. -/
def openingExplanation (f : Fault) : Option Text :=
  if f.category = .denied then some ("[ERROR] Authentication failed: " ++ f.message)
  else if f.category = .timeout then some ("[ERROR] Connection timed out: " ++ f.message)
  else if f.category.isConnection then some ("[ERROR] Could not connect: " ++ f.message)
  else explanation f

/-- What a run leaves behind. -/
structure RunReport (σ : Type) where
  /-- The exit code, or the fault that left the run. -/
  outcome : Except Fault Nat
  /-- What was shown as output. -/
  out : Text := Text.empty
  /-- What was shown as errors. -/
  err : Text := Text.empty
  /-- The settings, if they could be loaded. -/
  settings : Option Settings := none
  /-- The local files. -/
  files : LocalFiles
  /-- The records that were made. -/
  journal : Journal := #[]
  /-- The stream, if it was opened. -/
  line : Option (Line σ) := none

namespace RunReport

variable {σ : Type}

/-- The report of a run that ended with a fault, shown if there is an explanation. -/
def ofFault (files : LocalFiles) (f : Fault) (explanation : Option Text) : RunReport σ :=
  match explanation with
  | some line => { outcome := .ok 1, out := line ++ "\n", files }
  | none => { outcome := .error f, files }

end RunReport

namespace Command

variable {σ : Type}

open Terminal

/-- The exit code of a run; a fault with an explanation is shown. -/
def conclude (result : Except Fault Nat) : Action σ Nat :=
  match result with
  | .ok code => return code
  | .error f =>
    match explanation f with
    | some line => do
      say line
      return 1
    | none => throw f

/-- Closes the session. If that fails with a status, it is only reported. -/
def hangUp : Action σ Unit := do
  match ← (onClient Client.disconnect : Action σ Unit).attempt with
  | .ok () => return
  | .error f =>
    if f.status?.isSome then
      record .warning ("Error disconnecting: " ++ f.message)
    else
      throw f

/-- Opens the session, carries the command out and closes the session. -/
def runSession (chunk : Nat) (c : Command) : Action σ Nat := do
  match ← (onClient Client.openSession : Action σ Session).attempt with
  | .error f => conclude (.error f)
  | .ok _ => Step.andFinally (do conclude (← (c.run chunk).attempt)) hangUp

end Command

namespace Invocation

variable {σ : Type}

/-- What is shown when there is no command. -/
def usage : Text :=
  "Usage: sftpwire [options] <command> [args]\n\nCommands:\n"
    ++ Text.join Text.empty (commandGrammars.map fun c => "  " ++ Text.ofString c.1 ++ "\n")
    ++ "\nRun 'sftpwire --help' for more information.\n"

/-- The record of the beginning of a run. -/
def startRecord : Text := "Starting sftpwire v" ++ Text.ofString programVersion

/-- Carries a command out with settings that were loaded. `prepare` sets the journal up, and `connect`
opens the stream. -/
def runWith (files : LocalFiles) (prepare : JournalSettings → Step LocalFiles Unit)
    (connect : Settings → Except Fault (Line σ)) (patience chunk : Nat) (c : Command)
    (settings : Settings) : RunReport σ :=
  match (prepare settings.journal).run files with
  | (.error f, files) => { RunReport.ofFault files f (explanation f) with settings := some settings }
  | (.ok (), files) =>
    let journal := Journal.add #[] .info startRecord
    match connect settings with
    | .error f =>
      { RunReport.ofFault files f (openingExplanation f) with settings := some settings, journal }
    | .ok line =>
      let client := Client.make settings.session line patience
      let (outcome, t) := (c.runSession chunk).run
        { client := { client with link := { client.link with journal } }, files }
      { outcome
        out := t.out
        err := t.err
        settings := some settings
        files := t.files
        journal := t.client.link.journal
        line := some t.client.link.line }

/-- Does what a command line asks for, with a journal that is set up by `prepare`. -/
def runJournalled (files : LocalFiles) (prepare : JournalSettings → Step LocalFiles Unit)
    (connect : Settings → Except Fault (Line σ)) (patience chunk : Nat) (i : Invocation) : RunReport σ :=
  match i.command with
  | none => { outcome := .ok 1, out := usage, files }
  | some c =>
    match Settings.load files i.configuration i.overrides with
    | .error f => RunReport.ofFault files f (explanation f)
    | .ok settings => runWith files prepare connect patience chunk c settings

/-- Does what a command line asks for, with no journal but the records of the report. -/
def run (files : LocalFiles) (connect : Settings → Except Fault (Line σ)) (patience chunk : Nat)
    (i : Invocation) : RunReport σ :=
  i.runJournalled files (fun _ => pure ()) connect patience chunk

end Invocation

end Sftp
