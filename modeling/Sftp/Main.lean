import Sftp.Command.Run
import Sftp.Journal.Output
import Sftp.Stream.Script

/-!
# The program

Reads its command line, does what it asks for, shows what there is to show and ends with an exit code.
Of the local files it knows those that the command line names, below the working directory. How to
start a process or to dial a server is for a host of this library to say (`Invocation.run` is told by
its argument `connect`); this program knows neither, and says so.
-/

namespace Sftp

/-- What becomes of connecting without a host: there is no connection. -/
def noCarrier (settings : Settings) : Except Fault (Line Script) :=
  .error <|
    match settings.carrier with
    | .ssh => .connectFailed "no SSH layer"
    | .subprocess =>
      .notStarted ((settings.session.serverCommand.getD []).headD Text.empty) "no processes"

/-- The local paths that a command line names. -/
def Invocation.localPaths (i : Invocation) : List Text :=
  i.configuration.toList ++
    match i.command with
    | some (.upload localPath _) => [localPath]
    | _ => []

/-- The local files that can be read at the given paths. -/
def readFiles : List Text → IO LocalFiles
  | [] => return ⟨[]⟩
  | path :: rest => do
    let files ← readFiles rest
    match path.toString? with
    | none => return files
    | some name =>
      try
        let bytes ← IO.FS.readBinFile name
        return files.install path (.file bytes.toList)
      catch _ => return files

/-- The bytes of a text as they are shown. -/
def shownBytes (t : Text) : ByteArray :=
  ⟨(t.encode?.getD []).toArray⟩

/-- Writes a text to a stream. -/
def showOn (stream : IO.FS.Stream) (t : Text) : IO Unit := do
  stream.write (shownBytes t)
  stream.flush

/-- Does what a command line asks for and gives the exit code. -/
def runProgram (args : List String) : IO Nat := do
  let out ← IO.getStdout
  let err ← IO.getStderr
  match Invocation.ofArgs (args.map Text.ofString) with
  | .error stop =>
    match stop with
    | .help => showOn out Invocation.usage
    | .problem _ _ => showOn err (stop.message ++ "\n")
    return stop.exitCode
  | .ok i =>
    let files ← readFiles i.localPaths
    let report := i.run files noCarrier 0 Command.chunkSize
    showOn out report.out
    showOn err report.err
    match report.outcome with
    | .ok code => return code
    | .error f =>
      showOn err (f.message ++ "\n")
      return 1

end Sftp

/-- The entry point. -/
def main (args : List String) : IO UInt32 := do
  return (← Sftp.runProgram args).toUInt32
