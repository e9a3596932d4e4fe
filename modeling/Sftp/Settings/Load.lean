import Sftp.Ini
import Sftp.LocalFiles
import Sftp.Settings
import Sftp.Text.Integer

/-!
# Loading settings

Settings come from three places: the defaults, a configuration file and the command line, each
before the next. An option of the file that is empty counts as not given; an option of the command
line counts unless it is missing. `Settings.load` puts them together and refuses settings with which
no server can be reached.
-/

namespace Sftp

/-- A number that the command line gives. -/
inductive Numeral
  /-- The number itself. -/
  | number (n : Int)
  /-- A text that writes it. -/
  | text (t : Text)
  deriving DecidableEq, Inhabited

/-- The number, if it is one. -/
def Numeral.value : Numeral → Except Fault Int
  | number n => .ok n
  | text t =>
    match t.toInteger? with
    | some n => .ok n
    | none => .error (.notInteger t)

/-- The number that is given, or else another. -/
def Numeral.valueOr (given : Option Numeral) (own : Int) : Except Fault Int :=
  match given with
  | some n => n.value
  | none => .ok own

/-- The words of a command line; an empty one counts as missing. -/
def commandWords (t : Text) : Option (List Text) :=
  if t.isEmpty then none else some t.words

/-- What the command line gives, as far as it gives it. -/
structure Overrides where
  /-- The command line of a local server. -/
  serverCommand : Option (List Text) := none
  /-- How the server is reached. -/
  carrier : Option Text := none
  /-- The SSH server. -/
  host : Option Text := none
  /-- Its port. -/
  port : Option Numeral := none
  /-- The user; empty for the local one. -/
  username : Option Text := none
  /-- The password; empty for none. -/
  password : Option Text := none
  /-- A file with a private key. -/
  keyFile : Option Text := none
  /-- The passphrase of the private key. -/
  keyPassphrase : Option Text := none
  /-- The most data bytes of one request. -/
  packetSize : Option Numeral := none
  /-- Whether everything is reported. -/
  debug : Bool := false
  deriving DecidableEq, Inhabited

/-- Settings that have not been checked. -/
structure Draft where
  /-- The SSH server; its host may be empty. -/
  ssh : SshSettings := { host := Text.empty }
  /-- The connection. -/
  connection : ConnectionSettings := {}
  /-- The most data bytes of one request. -/
  packetSize : Int := defaultPacketSize
  /-- The longest body of a frame that is accepted. -/
  frameSize : Int := defaultFrameSize
  /-- The command line of a local server. -/
  serverCommand : Option (List Text) := none
  /-- The journal. -/
  journal : JournalSettings := {}
  /-- The name of the way to reach the server. -/
  carrier : Text := Carrier.ssh.label
  deriving DecidableEq, Inhabited

/-! ## The configuration file -/

/-- Whether a text says yes. -/
def saysYes (t : Text) : Bool :=
  let word := t.lower
  word = Text.ofString "true" || word = Text.ofString "1" || word = Text.ofString "yes"

/-- The integer that an option of a file writes. -/
def integerOption (group key value : Text) : Except Fault Int :=
  match value.toInteger? with
  | some n => .ok n
  | none => .error (.badNumber group key value)

/-- One section of a configuration file. -/
structure IniSection where
  /-- The file. -/
  ini : Ini
  /-- The name of the file. -/
  file : Text
  /-- The section. -/
  group : Text

namespace IniSection

/-- The value of an option, if it is given and not empty. -/
def text? (s : IniSection) (key : Text) : Except Fault (Option Text) :=
  match s.ini.get? s.group key with
  | .ok value => .ok (value.filter fun v => !v.isEmpty)
  | .error problem => .error (.ini problem s.file)

/-- The integer of an option, if it is given and not empty. -/
def integer? (s : IniSection) (key : Text) : Except Fault (Option Int) := do
  match ← s.text? key with
  | none => return none
  | some value => return some (← integerOption s.group key value)

/-- Whether an option says yes, if it is given and not empty. -/
def yes? (s : IniSection) (key : Text) : Except Fault (Option Bool) :=
  return (← s.text? key).map saysYes

end IniSection

namespace Draft

/-- Takes over the section `[ssh]`. -/
def readSsh (d : Draft) (s : IniSection) : Except Fault Draft := do
  let host ← s.text? "host"
  let username ← s.text? "username"
  let password ← s.text? "password"
  let keyFile ← s.text? "key_file"
  let keyPassphrase ← s.text? "key_passphrase"
  let port ← s.integer? "port"
  let useAgent ← s.yes? "use_agent"
  return { d with ssh := {
    host := host.getD d.ssh.host
    username := username.or d.ssh.username
    password := password.or d.ssh.password
    keyFile := keyFile.or d.ssh.keyFile
    keyPassphrase := keyPassphrase.or d.ssh.keyPassphrase
    port := port.getD d.ssh.port
    useAgent := useAgent.getD d.ssh.useAgent } }

/-- Takes over the section `[connection]`. -/
def readConnection (d : Draft) (s : IniSection) : Except Fault Draft := do
  let timeout ← s.integer? "timeout_seconds"
  let keepalive ← s.integer? "keepalive_interval_seconds"
  return { d with connection := {
    timeoutSeconds := timeout.getD d.connection.timeoutSeconds
    keepaliveSeconds := keepalive.getD d.connection.keepaliveSeconds } }

/-- Takes over the section `[session]`. -/
def readSession (d : Draft) (s : IniSection) : Except Fault Draft := do
  let packetSize ← s.integer? "max_packet_size"
  let frameSize ← s.integer? "max_frame_size"
  let serverCommand ← s.text? "server_command"
  return { d with
    packetSize := packetSize.getD d.packetSize
    frameSize := frameSize.getD d.frameSize
    serverCommand := (serverCommand.map Text.words).or d.serverCommand }

/-- Takes over the section `[logging]`. -/
def readJournal (d : Draft) (s : IniSection) : Except Fault Draft := do
  let level ← s.text? "level"
  let file ← s.text? "file"
  let console ← s.yes? "console"
  return { d with journal := {
    level := level.getD d.journal.level
    file := file.getD d.journal.file
    console := console.getD d.journal.console } }

/-- Takes over the section `[general]`. -/
def readGeneral (d : Draft) (s : IniSection) : Except Fault Draft := do
  let carrier ← s.text? "transport"
  return { d with carrier := (carrier.map Text.lower).getD d.carrier }

/-- Takes over the sections that a file has, one after another. -/
def readSections (ini : Ini) (file : Text) (d : Draft) :
    List (Text × (Draft → IniSection → Except Fault Draft)) → Except Fault Draft
  | [] => .ok d
  | (group, read) :: rest => do
    let d ← if ini.hasSection group then read d ⟨ini, file, group⟩ else .ok d
    readSections ini file d rest

/-- Takes over a configuration file. -/
def readIni (d : Draft) (ini : Ini) (file : Text) : Except Fault Draft :=
  readSections ini file d
    [("ssh", readSsh), ("connection", readConnection), ("session", readSession),
      ("logging", readJournal), ("general", readGeneral)]

/-- Takes over the file at a path. What is there and is no file counts as an empty one. -/
def readFile (d : Draft) (files : LocalFiles) (path : Text) : Except Fault Draft := do
  let name := (LocalPath.ofText path).toText
  if !(← files.contains name) then
    throw (.noConfiguration path)
  match files.read name with
  | .error _ => return d
  | .ok bytes =>
    let ini ← (Ini.parse bytes).mapError (Fault.ini · name)
    d.readIni ini name

/-! ## The command line -/

/-- A name or password that is given, none if it is empty, or else another. -/
def chosen (given own : Option Text) : Option Text :=
  match given with
  | some t => if t.isEmpty then none else some t
  | none => own

/-- Settings with what the command line gives, the two numbers apart. A command line of a local server
also chooses it. -/
def overrideBy (d : Draft) (o : Overrides) (port packetSize : Int) : Draft :=
  { d with
    ssh := { d.ssh with
      host := o.host.getD d.ssh.host
      port
      username := chosen o.username d.ssh.username
      password := chosen o.password d.ssh.password
      keyFile := o.keyFile.or d.ssh.keyFile
      keyPassphrase := o.keyPassphrase.or d.ssh.keyPassphrase }
    packetSize
    serverCommand := o.serverCommand.or d.serverCommand
    journal :=
      if o.debug then { d.journal with level := "DEBUG", console := true } else d.journal
    carrier := (o.carrier.map Text.lower).getD
      (if o.serverCommand.isSome then Carrier.subprocess.label else d.carrier) }

/-- Takes over what the command line gives. -/
def override (d : Draft) (o : Overrides) : Except Fault Draft := do
  let port ← Numeral.valueOr o.port d.ssh.port
  let packetSize ← Numeral.valueOr o.packetSize d.packetSize
  return d.overrideBy o port packetSize

/-! ## Checking -/

/-- The way to reach the server, if there is one of that name. -/
def carrier? (d : Draft) : Except Fault Carrier :=
  if d.carrier = Text.ofString Carrier.ssh.label then .ok .ssh
  else if d.carrier = Text.ofString Carrier.subprocess.label then .ok .subprocess
  else .error (.unknownCarrier d.carrier)

/-- The setting that is missing to reach the server in a given way. -/
def missing? (d : Draft) : Carrier → Option Text
  | .ssh => if d.ssh.host.isEmpty then some "host" else none
  | .subprocess => if d.serverCommand.getD [] = [] then some "server_command" else none

/-- The settings, if a server can be reached with them. -/
def check (d : Draft) : Except Fault Settings := do
  let carrier ← d.carrier?
  match d.missing? carrier with
  | some name => throw (.missingSetting name)
  | none =>
    let session ← SessionSettings.make d.packetSize d.frameSize d.serverCommand
    return {
      session
      connection := d.connection
      journal := d.journal
      carrier
      ssh := if d.ssh.host.isEmpty then none else some d.ssh }

end Draft

/-- The settings of a run. -/
def Settings.load (files : LocalFiles) (path : Option Text) (o : Overrides) :
    Except Fault Settings := do
  let d ← match path with
    | some p => ({} : Draft).readFile files p
    | none => .ok {}
  let d ← d.override o
  d.check

end Sftp
