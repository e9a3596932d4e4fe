import Sftp.Endpoint
import Sftp.LocalPath
import Sftp.Settings

/-!
# Opening endpoints

A server is reached as a local process, or over SSH on a channel with the subsystem for file
transfer. Whatever the system or the SSH layer reports on the way is told as one of three things:
the credentials were refused, it took too long, or there is no connection. An SSH connection that
does not lead to an endpoint is closed.
-/

namespace Sftp

/-! ## Processes -/

/-- How long a server process gets to end when its input is over. -/
def exitPatience : Seconds := { digits := 5 }

namespace Endpoint

variable {σ : Type}

/-- Starts a server process and gives the endpoint on its pipes; `number` is that of the process. -/
def spawn (command : List Text) (number : Nat) : Step (Surroundings σ) Endpoint := do
  match ← (Surroundings.perform (.startProcess command) : Step (Surroundings σ) Unit).attempt with
  | .ok () => return { backing := .process number exitPatience }
  | .error f =>
    if f.isSystem then
      let failed := Fault.notStarted (command.headD Text.empty) f.message
      Surroundings.record .error failed.message
      throw failed
    else
      throw f

end Endpoint

/-! ## SSH -/

/-- How to log in with given settings, for a user with the given home. A key file goes before a
password; with a password alone, no other keys are tried. -/
def SshLogin.ofSettings (home : Text) (ssh : SshSettings) (connection : ConnectionSettings) :
    SshLogin :=
  let given := fun (t : Option Text) => t.filter fun t => !t.isEmpty
  let base : SshLogin := {
    host := ssh.host
    port := ssh.port
    timeout := connection.timeoutSeconds
    useAgent := ssh.useAgent
    lookForKeys := true
    username := given ssh.username }
  match given ssh.keyFile, given ssh.password with
  | some file, _ =>
    { base with
      keyFile := some (LocalPath.expandHome home file)
      passphrase := given ssh.keyPassphrase }
  | none, some password => { base with password := some password, lookForKeys := false }
  | none, none => base

/-- The subsystem for file transfer. -/
def subsystem : Text := "sftp"

/-- What a fault on the way to a channel is told as, if it is one of the system or the SSH layer. -/
def connectFault? (f : Fault) : Option Fault :=
  if f.category = .authentication then some (.authenticationFailed f.message)
  else if f.category = .timeout then some (.connectTimedOut f.message)
  else if f.isSystem || f.category.isSsh then some (.connectFailed f.message)
  else none

namespace Endpoint

variable {σ : Type}

/-- Reads the host keys of the user, if there are any. -/
def loadUserKeys : Step (Surroundings σ) Unit := do
  match ← (Surroundings.perform .loadUserKeys : Step (Surroundings σ) Unit).attempt with
  | .ok () => return
  | .error f => if f.category = .notFound then return else throw f

/-- Has signs of life sent every so many seconds, unless it is zero. -/
def keepAlive (seconds : Int) : Step (Surroundings σ) Unit :=
  if seconds = 0 then pure () else Surroundings.perform (.keepAlive seconds)

/-- Connects to an SSH server and opens the endpoint on a channel that owns the connection. -/
def dial (home : Text) (ssh : SshSettings) (connection : ConnectionSettings) :
    Step (Surroundings σ) Endpoint := do
  Surroundings.perform .loadSystemKeys
  loadUserKeys
  Surroundings.perform .trustOnFirstUse
  Surroundings.perform (.connect (.ofSettings home ssh connection))
  Surroundings.perform .getConnection
  keepAlive connection.keepaliveSeconds
  Surroundings.perform (.openChannel connection.timeoutSeconds)
  Surroundings.perform (.startSubsystem subsystem)
  Surroundings.record .info
    ("Connected to SSH server " ++ ssh.host ++ ":" ++ Text.ofInt ssh.port)
  let backing := Backing.channel true
  backing.openSides
  return { backing }

/-- Opens an endpoint over SSH. -/
def openSsh (home : Text) (ssh : SshSettings) (connection : ConnectionSettings) :
    Step (Surroundings σ) Endpoint := do
  match ← (dial home ssh connection : Step (Surroundings σ) Endpoint).attempt with
  | .ok endpoint => return endpoint
  | .error f =>
    match connectFault? f with
    | none => throw f
    | some told =>
      Surroundings.perform .closeConnection
      Surroundings.record .error told.message
      throw told

end Endpoint

end Sftp
