import Sftp.Journal
import Sftp.Step

/-!
# What is asked of the outside

Sockets, processes and SSH connections are not part of this library. What it does with them is: an
`Act` is one thing asked of the outside, and `Surroundings` are an outside that answers, together
with the acts so far and the journal. Every act may fail, and counts as done all the same.
-/

namespace Sftp

/-- A time in seconds, written with a number of decimal places. -/
structure Seconds where
  /-- The digits. -/
  digits : Int
  /-- How many of them are places. -/
  places : Nat := 0
  deriving DecidableEq, Inhabited

/-- The side of a stream. -/
inductive Side
  | reader | writer
  deriving DecidableEq, Inhabited

/-- How to log in to an SSH server, as it is told to the SSH layer. -/
structure SshLogin where
  /-- The server. -/
  host : Text
  /-- Its port. -/
  port : Int
  /-- How long connecting may take, in seconds. -/
  timeout : Int
  /-- Whether an agent is asked for keys. -/
  useAgent : Bool
  /-- Whether the user's own key files are tried. -/
  lookForKeys : Bool
  /-- The user, if not the local one. -/
  username : Option Text := none
  /-- A file with a private key. -/
  keyFile : Option Text := none
  /-- The passphrase of the private key. -/
  passphrase : Option Text := none
  /-- The password. -/
  password : Option Text := none
  deriving DecidableEq, Inhabited

/-- One thing that is asked of the outside. -/
inductive Act
  /-- Read at most so many bytes. -/
  | read (size : Int)
  /-- Write bytes. -/
  | write (bytes : Bytes)
  /-- Pass on what was written. -/
  | flush
  /-- Close one side of a stream. -/
  | close (side : Side)
  /-- Make one side of a stream over a socket. -/
  | openSocketSide (side : Side)
  /-- End both directions of a socket. -/
  | shutDownSocket
  /-- Close a socket. -/
  | closeSocket
  /-- Wait for a process to end, for a time or for as long as it takes. -/
  | awaitExit (limit : Option Seconds)
  /-- Kill a process. -/
  | killProcess
  /-- Start a process with pipes to its input and output. -/
  | startProcess (command : List Text)
  /-- Make one side of a stream over a channel. -/
  | openChannelSide (side : Side)
  /-- Close a channel. -/
  | closeChannel
  /-- Start a subsystem on a channel. -/
  | startSubsystem (name : Text)
  /-- Read the host keys of the system. -/
  | loadSystemKeys
  /-- Read the host keys of the user. -/
  | loadUserKeys
  /-- Trust host keys at first use. -/
  | trustOnFirstUse
  /-- Connect to an SSH server and log in. -/
  | connect (login : SshLogin)
  /-- Take hold of the connection. -/
  | getConnection
  /-- Send signs of life every so many seconds. -/
  | keepAlive (seconds : Int)
  /-- Open a channel, within so many seconds. -/
  | openChannel (timeout : Int)
  /-- Close an SSH connection. -/
  | closeConnection
  /-- Add a host key to those that are known. -/
  | addKey (host keyType key : Text)
  /-- Write the known host keys to a file. -/
  | saveKeys (path : Text)
  deriving DecidableEq

/-- The name of an act: what it is done to, and what is done. -/
def Act.label : Act → String
  | read _ => "reader.read"
  | write _ => "writer.write"
  | flush => "writer.flush"
  | close .reader => "reader.close"
  | close .writer => "writer.close"
  | openSocketSide _ => "socket.makefile"
  | shutDownSocket => "socket.shutdown"
  | closeSocket => "socket.close"
  | awaitExit _ => "process.wait"
  | killProcess => "process.kill"
  | startProcess _ => "popen"
  | openChannelSide _ => "channel.makefile"
  | closeChannel => "channel.close"
  | startSubsystem _ => "channel.invoke_subsystem"
  | loadSystemKeys => "ssh.load_system_host_keys"
  | loadUserKeys => "ssh.load_host_keys"
  | trustOnFirstUse => "ssh.set_missing_host_key_policy"
  | connect _ => "ssh.connect"
  | getConnection => "ssh.get_transport"
  | keepAlive _ => "transport.set_keepalive"
  | openChannel _ => "transport.open_session"
  | closeConnection => "ssh.close"
  | addKey _ _ _ => "add"
  | saveKeys _ => "save"

/-- An outside, what was asked of it, and what was reported. -/
structure Surroundings (σ : Type) where
  /-- What becomes of an act; reading gives bytes. -/
  answer : Act → σ → Except Fault Bytes × σ
  /-- The state of the outside. -/
  state : σ
  /-- The acts, in order. -/
  acts : Array Act := #[]
  /-- The records made so far. -/
  journal : Journal := #[]

namespace Surroundings

variable {σ : Type}

/-- Asks for something that gives bytes. -/
def fetch (a : Act) : Step (Surroundings σ) Bytes :=
  Step.ofFunction fun s =>
    let (result, state) := s.answer a s.state
    (result, { s with state, acts := s.acts.push a })

/-- Asks for something. -/
def perform (a : Act) : Step (Surroundings σ) Unit := do
  let _ ← fetch a

/-- What is asked for is answered, and counts as asked for whatever the answer is. -/
theorem run_perform (a : Act) (s : Surroundings σ) :
    (perform a).run s =
      ((s.answer a s.state).1.map fun _ => (),
        { s with state := (s.answer a s.state).2, acts := s.acts.push a }) := by
  unfold perform
  rw [Step.run_bind]
  unfold fetch
  rw [Step.run_ofFunction]
  rcases s.answer a s.state with ⟨f | bytes, state⟩ <;> rfl

/-- Adds a record to the journal. -/
def record (level : Level) (message : Text) : Step (Surroundings σ) Unit :=
  modify fun s => { s with journal := s.journal.add level message }

end Surroundings

end Sftp
