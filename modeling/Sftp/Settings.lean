import Sftp.Fault

/-!
# Settings

What can be configured: how to reach the server, how much goes into one request, and where the
journal goes. `SessionSettings` hold only sizes for which a request's data fit in a frame.
-/

namespace Sftp

/-- How to log in to an SSH server. -/
structure SshSettings where
  /-- The server. -/
  host : Text
  /-- Its port. -/
  port : Int := 22
  /-- The user, if not the local one. -/
  username : Option Text := none
  /-- The password. -/
  password : Option Text := none
  /-- A file with a private key. -/
  keyFile : Option Text := none
  /-- The passphrase of the private key. -/
  keyPassphrase : Option Text := none
  /-- Whether an agent is asked for keys. -/
  useAgent : Bool := true
  deriving DecidableEq, Inhabited

/-- How patient a connection is. -/
structure ConnectionSettings where
  /-- How long connecting may take, in seconds. -/
  timeoutSeconds : Int := 30
  /-- The seconds between signs of life; none are sent if it is zero. -/
  keepaliveSeconds : Int := 60
  deriving DecidableEq, Inhabited

/-- The data bytes of one request, unless set otherwise. -/
def defaultPacketSize : Int := 32 * 1024

/-- The longest body of a frame that is accepted, unless set otherwise. -/
def defaultFrameSize : Int := 256 * 1024 + 1024

/-- How a session divides its data. -/
structure SessionSettings where
  /-- The most data bytes of one request. -/
  packetSize : Int := defaultPacketSize
  /-- The longest body of a frame that is accepted. -/
  frameSize : Int := defaultFrameSize
  /-- The command line of a local server. -/
  serverCommand : Option (List Text) := none
  /-- A request has data, and they are no longer than a frame. -/
  bounds : 0 < packetSize ∧ packetSize ≤ frameSize := by decide
  deriving DecidableEq

instance : Inhabited SessionSettings := ⟨{}⟩

/-- Session settings of the given sizes, if they go together. -/
def SessionSettings.make (packetSize frameSize : Int) (serverCommand : Option (List Text)) :
    Except Fault SessionSettings :=
  if h : 0 < packetSize ∧ packetSize ≤ frameSize then
    .ok { packetSize, frameSize, serverCommand, bounds := h }
  else
    .error (.packetSize frameSize packetSize)

/-- Where the journal goes. -/
structure JournalSettings where
  /-- The name of the least level that is kept. -/
  level : Text := "INFO"
  /-- A file, or nothing for none. -/
  file : Text := Text.empty
  /-- Whether it is shown. -/
  console : Bool := true
  deriving DecidableEq, Inhabited

/-- The ways to reach a server. -/
inductive Carrier
  | ssh | subprocess
  deriving DecidableEq, Inhabited

/-- The name of a way to reach a server. -/
def Carrier.label : Carrier → String
  | ssh => "ssh"
  | subprocess => "subprocess"

/-- All settings of a run. -/
structure Settings where
  /-- The session. -/
  session : SessionSettings
  /-- The connection. -/
  connection : ConnectionSettings
  /-- The journal. -/
  journal : JournalSettings
  /-- How the server is reached. -/
  carrier : Carrier := .ssh
  /-- The SSH server, if one is named. -/
  ssh : Option SshSettings := none
  deriving DecidableEq, Inhabited

end Sftp
