import Sftp.Arguments.Parser
import Sftp.Settings.Load

/-!
# Commands

The command line names a server and one thing to do there: list a directory, show a path, copy a file
in either direction, remove, rename, make or remove a directory, or walk a tree. `Invocation.ofArgs`
reads it.
-/

namespace Sftp

/-- What can be done on a server. -/
inductive Command
  /-- List a directory. -/
  | list (path : Text)
  /-- Show what a path leads to. -/
  | stat (path : Text)
  /-- Copy a file from the server. -/
  | download (remotePath localPath : Text)
  /-- Copy a file to the server. -/
  | upload (localPath remotePath : Text)
  /-- Remove a file. -/
  | remove (path : Text)
  /-- Rename a file or directory. -/
  | rename (oldPath newPath : Text)
  /-- Make a directory. -/
  | makeDirectory (path : Text)
  /-- Remove an empty directory. -/
  | removeDirectory (path : Text)
  /-- Show the paths of a tree. -/
  | walk (path : Text) (stopOnFault : Bool)
  deriving DecidableEq, Inhabited

/-- What a command line asks for. -/
structure Invocation where
  /-- The configuration file, if one is named. -/
  configuration : Option Text := none
  /-- The settings that the command line gives. -/
  overrides : Overrides := {}
  /-- The command, if there is one. -/
  command : Option Command := none
  deriving DecidableEq, Inhabited

/-! ## The grammar -/

/-- The name of the program. -/
def programName : String := "sftpwire"

/-- Its version. -/
def programVersion : String := "0.1.0"

/-- The option that asks for help. -/
def helpRule : OptionRule where
  names := ["-h", "--help"]
  key := "help"
  use := .help

/-- The grammar of the words before the command. -/
def mainGrammar : Grammar where
  program := programName
  options := [
    helpRule,
    ⟨["--config"], "config", .text⟩,
    ⟨["--host"], "host", .text⟩,
    ⟨["--port"], "port", .integer⟩,
    ⟨["--user"], "user", .text⟩,
    ⟨["--password"], "password", .text⟩,
    ⟨["--key-file"], "key_file", .text⟩,
    ⟨["--key-passphrase"], "key_passphrase", .text⟩,
    ⟨["--server-command"], "server_command", .text⟩,
    ⟨["--max-packet-size"], "max_packet_size", .integer⟩,
    ⟨["--verbose"], "verbose", .switch⟩]
  operands := [.command "command"]

/-- The grammar of the words after a command. -/
def commandGrammar (name : String) (options : List OptionRule) (operands : List Operand) :
    String × Grammar :=
  (name, { program := programName ++ " " ++ name, options := helpRule :: options, operands })

/-- The commands, each with the grammar of the words after it. -/
def commandGrammars : List (String × Grammar) := [
  commandGrammar "ls" [] [.optional "path" "."],
  commandGrammar "stat" [] [.one "path"],
  commandGrammar "get" [] [.one "remote", .one "local"],
  commandGrammar "put" [] [.one "local", .one "remote"],
  commandGrammar "rm" [] [.one "path"],
  commandGrammar "mv" [] [.one "old", .one "new"],
  commandGrammar "mkdir" [] [.one "path"],
  commandGrammar "rmdir" [] [.one "path"],
  commandGrammar "walk" [⟨["--stop-on-error"], "stop_on_error", .switch⟩] [.one "path"]]

/-- What a command line binds. -/
def bindingsOfArgs (args : List Text) : Except UsageStop Bindings :=
  mainGrammar.parseWithCommands commandGrammars args

/-! ## Reading bindings -/

/-- The command of the given name, with its operands among the bindings. -/
def Command.ofBindings? (name : String) (b : Bindings) : Option Command :=
  let text := fun key => (b.text? key).getD Text.empty
  match name with
  | "ls" => some (.list (text "path"))
  | "stat" => some (.stat (text "path"))
  | "get" => some (.download (text "remote") (text "local"))
  | "put" => some (.upload (text "local") (text "remote"))
  | "rm" => some (.remove (text "path"))
  | "mv" => some (.rename (text "old") (text "new"))
  | "mkdir" => some (.makeDirectory (text "path"))
  | "rmdir" => some (.removeDirectory (text "path"))
  | "walk" => some (.walk (text "path") (b.isOn "stop_on_error"))
  | _ => none

/-- What some bindings ask for. -/
def Invocation.ofBindings (b : Bindings) : Invocation where
  configuration := b.text? "config"
  overrides := {
    serverCommand := (b.text? "server_command").bind commandWords
    host := b.text? "host"
    port := (b.number? "port").map Numeral.number
    username := b.text? "user"
    password := b.text? "password"
    keyFile := b.text? "key_file"
    keyPassphrase := b.text? "key_passphrase"
    packetSize := (b.number? "max_packet_size").map Numeral.number
    debug := b.isOn "verbose" }
  command := ((b.text? "command").bind Text.toString?).bind (Command.ofBindings? · b)

/-- What a command line asks for. -/
def Invocation.ofArgs (args : List Text) : Except UsageStop Invocation :=
  (bindingsOfArgs args).map ofBindings

end Sftp
