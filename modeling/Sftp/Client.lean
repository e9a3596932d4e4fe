import Sftp.Session
import Sftp.Stats
import Sftp.Text.Path

/-!
# The client

One request, one reply, one result. Each operation of a `Client` sends a single message and turns
the reply into its result or a fault; `Reply` says which replies are results. The client owns its
stream from the first connection attempt on and closes it once.

Calls that read on until the server says that there is no more are bounded by the client's
`patience`, the number of round trips that one call may take.
-/

namespace Sftp

/-- A client of one connection. -/
structure Client (σ : Type) where
  /-- How the session divides its data. -/
  settings : SessionSettings
  /-- The stream and the exchange on it. -/
  link : Link σ
  /-- The session, once there is one. -/
  session : Option Session := none
  /-- The round trips that one call may take. -/
  patience : Nat

/-! ## Reading replies -/

namespace Reply

/-- The fault of a status, unless it says that all went well. An end of file is a failure with a
status where no end was to be expected. -/
def statusFault (endIsFailure : Bool) (code : Int) (message lang : Text) : Option Fault :=
  match Fault.ofStatus code message lang with
  | some (.endOfFile m) =>
    some (if endIsFailure then .status (.unexpectedEnd message lang) else .endOfFile m)
  | other => other

/-- The fault of a reply that is of another kind than the one that was wanted. -/
def unexpected (wanted : PacketKind) (got : String) : Fault :=
  .badMessage s!"expected {wanted.label}, got {got}"

/-- What the wanted kind of reply holds. A status is a failure, also when it says that all went
well. -/
def payload {α : Type} (wanted : PacketKind) (endIsFailure : Bool) (pick : Message → Option α)
    (reply : Packet) : Except Fault α :=
  match reply with
  | .message _ m =>
    match pick m, m with
    | some a, _ => .ok a
    | none, .status code message lang =>
      match statusFault endIsFailure code message lang with
      | some f => .error f
      | none => .error (unexpected wanted "OK status")
    | none, m => .error (unexpected wanted m.kind.label)
  | p => .error (unexpected wanted p.kind.label)

/-- Nothing, if the reply is a status that says that all went well. -/
def ok (reply : Packet) : Except Fault Unit :=
  match reply with
  | .message _ (.status code message lang) =>
    match statusFault true code message lang with
    | some f => .error f
    | none => .ok ()
  | p => .error (unexpected .status p.kind.label)

/-- The handle of a reply. -/
def handle : Packet → Except Fault Bytes :=
  payload .handle true fun
    | .handle h => some h
    | _ => none

/-- The attributes of a reply. -/
def attributes : Packet → Except Fault Attributes :=
  payload .attrs true fun
    | .attrs a => some a
    | _ => none

/-- The entries of a reply; an end of file is passed on if it is no failure. -/
def names (endIsFailure : Bool) : Packet → Except Fault (List NameEntry) :=
  payload .name endIsFailure fun
    | .name entries => some entries
    | _ => none

/-- The bytes of a reply, none at the end of the file, and never more than were asked for. -/
def data (wanted : Int) (reply : Packet) : Except Fault Bytes :=
  match payload .data false (fun | .data d => some d | _ => none) reply with
  | .ok d =>
    if (d.length : Int) > wanted then
      .error (.badMessage s!"asked for {wanted} bytes, server sent {d.length}")
    else
      .ok d
  | .error (.endOfFile _) => .ok []
  | .error f => .error f

/-- The one name of a reply. -/
def oneName (asked : PacketKind) (reply : Packet) : Except Fault Text :=
  match names true reply with
  | .ok [entry] => .ok entry.filename
  | .ok entries =>
    .error (.badMessage s!"{asked.label} returned {entries.length} names, expected 1")
  | .error f => .error f

end Reply

/-! ## The connection -/

namespace Client

variable {σ : Type} {α : Type}

/-- A client on a fresh stream. -/
def make (settings : SessionSettings) (line : Line σ) (patience : Nat) : Client σ where
  settings
  link := { line, exchange := { limit := settings.frameSize } }
  patience

/-- Takes a step on the client's link. -/
def onLink (a : Step (Link σ) α) : Step (Client σ) α :=
  a.within (·.link) fun c link => { c with link }

/-- Opens the session, unless there is one. -/
def connect : Step (Client σ) Unit := do
  let c ← get
  if c.session.isNone then
    let session ← onLink (Link.openSession c.settings.frameSize)
    modify fun c => { c with session := some session }

/-- Closes the session, if there is one and it is open. -/
def disconnect : Step (Client σ) Unit := do
  let c ← get
  match c.session with
  | none => return
  | some session =>
    if !session.closed then
      set { c with session := some { session with closed := true } }
      onLink Link.closeSession

/-- The session; a client that was never connected has none. -/
def currentSession : Step (Client σ) Session := do
  let c ← get
  match c.session with
  | some session => return session
  | none => throw (.status .notConnected)

/-- Opens the session, unless there is one, and gives it. -/
def openSession : Step (Client σ) Session := do
  connect
  currentSession

/-- Sends a message and waits for the reply. -/
def request (m : Message) : Step (Client σ) Packet := do
  let _ ← currentSession
  onLink (Link.send (.ofMessage m))

/-- Sends a message and reads its reply. -/
def ask (m : Message) (read : Packet → Except Fault α) : Step (Client σ) α := do
  let reply ← request m
  Step.ofExcept (read reply)

@[simp] theorem run_onLink (a : Step (Link σ) α) (c : Client σ) :
    (onLink a).run c = ((a.run c.link).1, { c with link := (a.run c.link).2 }) := rfl

/-- To ask for the session changes nothing. -/
theorem run_currentSession (c : Client σ) :
    currentSession.run c =
      (match c.session with
        | some session => .ok session
        | none => .error (.status .notConnected), c) := by
  unfold currentSession
  rw [Step.run_bind, Step.run_get]
  simp only
  cases c.session with
  | none => rfl
  | some session => rfl

/-- Where there is a session, a request goes out over the link. -/
theorem run_request {c : Client σ} {session : Session} (h : c.session = some session)
    (m : Message) : (request m).run c = (onLink (Link.send (.ofMessage m))).run c := by
  unfold request
  rw [Step.run_bind, run_currentSession, h]

/-- Asking is sending a request and reading its reply. -/
theorem run_ask (m : Message) (read : Packet → Except Fault α) (c : Client σ) :
    (ask m read).run c =
      match (request m).run c with
      | (.ok reply, c') => (read reply, c')
      | (.error f, c') => (.error f, c') := by
  unfold ask
  rw [Step.run_bind]
  rcases (request m).run c with ⟨f | reply, c'⟩
  · rfl
  · rfl

/-! ## Requests on handles -/

/-- Releases a handle. -/
def closeHandle (handle : Bytes) : Step (Client σ) Unit :=
  ask (.close handle) Reply.ok

/-- Some bytes of an open file, none at its end. -/
def readChunk (handle : Bytes) (offset length : Int) : Step (Client σ) Bytes :=
  ask (.read handle offset length) (Reply.data length)

/-- Writes bytes into an open file. -/
def writeChunk (handle : Bytes) (offset : Int) (data : Bytes) : Step (Client σ) Unit :=
  ask (.write handle offset data) Reply.ok

/-- The attributes of an open file. -/
def handleAttributes (handle : Bytes) : Step (Client σ) Attributes :=
  ask (.fstat handle) Reply.attributes

/-- Changes the attributes of an open file. -/
def setHandleAttributes (handle : Bytes) (attrs : Attributes) : Step (Client σ) Unit :=
  ask (.fsetstat handle attrs) Reply.ok

/-- The next entries of an open directory; at its end, the end-of-file fault. -/
def readDirectory (handle : Bytes) : Step (Client σ) (List NameEntry) :=
  ask (.readdir handle) (Reply.names false)

/-! ## Requests on paths -/

/-- Removes a file. -/
def remove (path : Text) : Step (Client σ) Unit :=
  ask (.remove path) Reply.ok

/-- Renames a file. -/
def rename (oldPath newPath : Text) : Step (Client σ) Unit :=
  ask (.rename oldPath newPath) Reply.ok

/-- Makes a directory, with permission bits if they are given. -/
def makeDirectory (path : Text) (mode : Option Int) : Step (Client σ) Unit :=
  ask (.mkdir path { permissions := mode }) Reply.ok

/-- Removes an empty directory. -/
def removeDirectory (path : Text) : Step (Client σ) Unit :=
  ask (.rmdir path) Reply.ok

/-- What a path leads to. -/
def stat (path : Text) : Step (Client σ) FileStats := do
  let attrs ← ask (.stat path) Reply.attributes
  return .ofAttributes path.leafName attrs

/-- What a path is, links not followed. -/
def lstat (path : Text) : Step (Client σ) FileStats := do
  let attrs ← ask (.lstat path) Reply.attributes
  return .ofAttributes path.leafName attrs

/-- Changes the attributes of a path. -/
def setAttributes (path : Text) (attrs : Attributes) : Step (Client σ) Unit :=
  ask (.setstat path attrs) Reply.ok

/-- Changes the permission bits of a path. -/
def changeMode (path : Text) (mode : Int) : Step (Client σ) Unit :=
  setAttributes path { permissions := some mode }

/-- Changes owner and group of a path. -/
def changeOwner (path : Text) (uid gid : Int) : Step (Client σ) Unit :=
  setAttributes path { uid := some uid, gid := some gid }

/-- Changes the times of a path. -/
def changeTimes (path : Text) (atime mtime : Int) : Step (Client σ) Unit :=
  setAttributes path { atime := some atime, mtime := some mtime }

/-- Changes the length of a path. -/
def truncate (path : Text) (size : Int) : Step (Client σ) Unit :=
  setAttributes path { size := some size }

/-- The target of a symbolic link. -/
def readLink (path : Text) : Step (Client σ) Text :=
  ask (.readlink path) (Reply.oneName .readlink)

/-- Makes a symbolic link. -/
def makeLink (target link : Text) : Step (Client σ) Unit :=
  ask (.symlink target link) Reply.ok

/-- The canonical form of a path. -/
def realPath (path : Text) : Step (Client σ) Text :=
  ask (.realpath path) (Reply.oneName .realpath)

end Client

end Sftp
