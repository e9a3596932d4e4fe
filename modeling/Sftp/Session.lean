import Sftp.Link
import Sftp.Settings

/-!
# Sessions

A session begins with a handshake: the client sends its version, the server answers with its own.
Nothing else may be sent before, and only the bytes of the answer are taken, so that what follows
it is left for the exchange. A handshake that fails closes the stream, once.
-/

namespace Sftp

/-- The protocol version that is spoken. -/
def protocolVersion : Int := 3

/-- What a handshake agreed on, and whether the session is over. -/
structure Session where
  /-- The version. -/
  version : Int
  /-- The extensions that the server offers. -/
  extensions : Extensions
  /-- Whether the session was closed. -/
  closed : Bool := false
  deriving DecidableEq

namespace Link

variable {σ : Type}

/-- The body of the next frame. If it does not come, the stream is taken to be over. -/
def awaitFrame (limit : Int) : Step (Link σ) Bytes := do
  modify fun l =>
    match l.line.inbox.readFrame limit with
    | (.blocked, _) => l.receive [.ending .closed]
    | _ => l
  let l ← get
  let (outcome, inbox) := l.line.inbox.readFrame limit
  set { l with line := { l.line with inbox } }
  match outcome with
  | .got body => return body
  | .blocked => throw .timedOut
  | .failed f => throw f

/-- The version and extensions in the server's first packet. -/
def acceptVersion : Packet → Except Fault (Int × Extensions)
  | .version v extensions =>
    if v = protocolVersion then
      .ok (v, extensions)
    else
      .error (.badMessage
        s!"server speaks SFTP version {v}, need {protocolVersion}")
  | p => .error (.badMessage s!"expected VERSION, got {p.kind.label}")

/-- The client's first packet. -/
def greeting : Packet :=
  .init protocolVersion .empty

/-- Agrees with the server on the version. -/
def handshake (limit : Int) : Step (Link σ) (Int × Extensions) := do
  let bytes ← greeting.encode.mapError Fault.unencodable
  transmit bytes
  let body ←
    try
      awaitFrame limit
    catch f =>
      if f.isEnd then
        throw (.badMessage ("no version reply from server: " ++ f.message))
      else
        throw f
  let reply ← (Packet.ofBody body).mapError Fault.malformed
  acceptVersion reply

/-- Opens a session on a fresh stream. -/
def openSession (limit : Int) : Step (Link σ) Session := do
  let (version, extensions) ←
    try
      handshake limit
    catch f =>
      closeLine
      throw f
  modify fun l =>
    ({ l with exchange := { limit } }.start).record .info
      s!"SFTP session established (version {version})"
  return { version, extensions }

/-- Ends the exchange and closes the stream. -/
def closeSession : Step (Link σ) Unit := do
  modify close
  closeLine
  modify fun l => l.record .info "SFTP session closed"

end Link

end Sftp
