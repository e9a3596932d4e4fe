import Sftp.Surroundings

/-!
# Endpoints

An endpoint is a byte stream on something of the outside: a pair of files, a socket, a process or a
channel. Closing one takes four steps: the write side is closed, so that the peer sees the end of
its input; whatever may still be blocked in a read is set free; the read side is closed; and what
carried the stream is let go. Only the first call of `Endpoint.close` does anything.

A failure of the system while the write side is closed is passed over. A failure to set the reader
free is raised after the last two steps, a failure to close the read side instead of the last.
-/

namespace Sftp

/-- What carries a stream. -/
inductive Backing
  /-- Two files. -/
  | files
  /-- A socket. -/
  | socket
  /-- A process with the given number, which gets some time to end. -/
  | process (number : Nat) (patience : Seconds)
  /-- A channel, which may own its SSH connection. -/
  | channel (ownsConnection : Bool)
  deriving DecidableEq, Inhabited

/-- A byte stream on something of the outside. -/
structure Endpoint where
  /-- What carries it. -/
  backing : Backing
  /-- Whether it was closed. -/
  closed : Bool := false
  deriving DecidableEq, Inhabited

/-- An endpoint and its surroundings. -/
structure Attached (σ : Type) where
  /-- The endpoint. -/
  endpoint : Endpoint
  /-- The surroundings. -/
  surroundings : Surroundings σ

namespace Backing

variable {σ : Type}

/-- Makes the two sides of a stream, where they are not there already. -/
def openSides : Backing → Step (Surroundings σ) Unit
  | files | process _ _ => return
  | socket => do
    Surroundings.perform (.openSocketSide .reader)
    Surroundings.perform (.openSocketSide .writer)
  | channel _ => do
    Surroundings.perform (.openChannelSide .reader)
    Surroundings.perform (.openChannelSide .writer)

/-- Waits for a process to end and kills it if it does not. -/
def stopProcess (number : Nat) (patience : Seconds) : Step (Surroundings σ) Unit := do
  match ← (Surroundings.perform (.awaitExit (some patience)) : Step (Surroundings σ) Unit).attempt
  with
  | .ok () => return
  | .error f =>
    if f.category = .unfinished then
      Surroundings.record .warning
        s!"Server process {number} did not exit, killing it"
      Surroundings.perform .killProcess
      Surroundings.perform (.awaitExit none)
    else
      throw f

/-- Sets free whatever is blocked in a read. -/
def unblock : Backing → Step (Surroundings σ) Unit
  | files => return
  | socket => do
    match ← (Surroundings.perform .shutDownSocket : Step (Surroundings σ) Unit).attempt with
    | .ok () => return
    | .error f => if f.isSystem then return else throw f
  | process number patience => stopProcess number patience
  | channel _ => Surroundings.perform .closeChannel

/-- Lets go of what carried the stream. -/
def release : Backing → Step (Surroundings σ) Unit
  | socket => Surroundings.perform .closeSocket
  | channel true => Surroundings.perform .closeConnection
  | files | process _ _ | channel false => return

end Backing

namespace Endpoint

variable {σ α : Type}

/-- A step on an endpoint. -/
abbrev Action (σ α : Type) : Type := Step (Attached σ) α

/-- Takes a step on the surroundings. -/
def outside (a : Step (Surroundings σ) α) : Action σ α :=
  a.within (·.surroundings) fun e surroundings => { e with surroundings }

/-- Reads at most so many bytes. -/
def read (size : Int) : Action σ Bytes :=
  outside (Surroundings.fetch (.read size))

/-- Writes bytes and passes them on. -/
def write (bytes : Bytes) : Action σ Unit := do
  outside (Surroundings.perform (.write bytes))
  outside (Surroundings.perform .flush)

/-- The four steps of closing. -/
def shutDown (backing : Backing) : Step (Surroundings σ) Unit := do
  match ← (Surroundings.perform (.close .writer) : Step (Surroundings σ) Unit).attempt with
  | .ok () => pure ()
  | .error f => if f.isSystem then pure () else throw f
  backing.unblock.andFinally do
    Surroundings.perform (.close .reader)
    backing.release

/-- Closes the endpoint, unless it was closed. It counts as closed whatever fails. -/
def close : Action σ Unit := do
  let e ← get
  if !e.endpoint.closed then
    set { e with endpoint := { e.endpoint with closed := true } }
    outside (shutDown e.endpoint.backing)

end Endpoint

end Sftp
