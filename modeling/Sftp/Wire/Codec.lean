import Sftp.Wire.Reader

/-!
# Packets as bytes

`Packet.fields` lays a packet out as the fields of its body, tag first; `Reader.packet` reads a
body back. A frame is a body with its length before it.

Reading is tolerant in four places only: bytes after the last field are passed over, a status may
end after its code or after its message, the handshake packets hold as many extensions as there
are bytes for, and the data of a vendor packet is whatever is left.
-/

namespace Sftp

/-! ## Layout -/

/-- The fields of name and data pairs. -/
def pairFields (pairs : List (Text × Bytes)) : List Field :=
  pairs.flatMap fun p => [.text p.1, .string p.2]

/-- The fields of a directory entry. -/
def NameEntry.fields (e : NameEntry) : List Field :=
  [.text e.filename, .text e.longname, .attributes e.attrs]

/-- The fields of a message after its request id. -/
def Message.fields : Message → List Field
  | openFile path flags a => [.text path, .openFlags flags, .attributes a]
  | close h => [.string h]
  | read h offset length => [.string h, .number .long offset, .number .word length]
  | write h offset d => [.string h, .number .long offset, .string d]
  | lstat path => [.text path]
  | fstat h => [.string h]
  | setstat path a => [.text path, .attributes a]
  | fsetstat h a => [.string h, .attributes a]
  | opendir path => [.text path]
  | readdir h => [.string h]
  | remove path => [.text path]
  | mkdir path a => [.text path, .attributes a]
  | rmdir path => [.text path]
  | realpath path => [.text path]
  | stat path => [.text path]
  | rename old new => [.text old, .text new]
  | readlink path => [.text path]
  | symlink target link => [.text target, .text link]
  | extended request d => [.text request, .raw d]
  | status code message lang => [.number .word code, .text message, .text lang]
  | handle h => [.string h]
  | data d => [.string d]
  | name entries => .number .word entries.length :: entries.flatMap NameEntry.fields
  | attrs a => [.attributes a]
  | extendedReply d => [.raw d]

/-- The fields of a packet's body. -/
def Packet.fields (p : Packet) : List Field :=
  .number .byte p.kind.tag ::
    match p with
    | init v x => .number .word v :: pairFields x.entries
    | version v x => .number .word v :: pairFields x.entries
    | message id m => .number .word id :: m.fields

/-- The body of a packet. -/
def Packet.body (p : Packet) : Except EncodeFault Bytes :=
  (writeFields p.fields).result

/-- A body with its length before it. -/
def frame (body : Bytes) : Except EncodeFault Bytes :=
  writeString body

/-- The frame of a packet. -/
def Packet.encode (p : Packet) : Except EncodeFault Bytes :=
  p.body.bind frame

/-! ## Reading back -/

namespace Reader

/-- Name and data pairs up to the end of the body; `fuel` bounds their number. -/
def pairsToEnd : Nat → Extensions → Reader Extensions
  | 0, x => return x
  | fuel + 1, x => do
    if ← hasMore then
      let n ← name
      let d ← string
      pairsToEnd fuel (x.insert n d)
    else
      return x

/-- The extensions that end a handshake packet. A pair takes eight bytes at least, so as many
rounds as there are bytes are enough. -/
def extensions : Reader Extensions := do
  let left ← get
  pairsToEnd left.length .empty

/-- A directory entry. -/
def nameEntry : Reader NameEntry := do
  let filename ← name
  let longname ← name
  let attrs ← attributes
  return { filename, longname, attrs }

/-- A text that may be missing at the end of a body. -/
def optionalName : Reader Text := do
  if ← hasMore then
    name
  else
    return Text.empty

/-- A handshake packet or a message whose tag has been read. -/
def packetOfKind (kind : PacketKind) : Reader Packet := do
  let head ← number .word
  match kind with
  | .init =>
    let x ← extensions
    return .init head x
  | .version =>
    let x ← extensions
    return .version head x
  | .openFile =>
    let path ← name
    let flags ← number .word
    let attrs ← attributes
    return .message head (.openFile path ⟨flags⟩ attrs)
  | .close =>
    let h ← string
    return .message head (.close h)
  | .read =>
    let h ← string
    let offset ← number .long
    let length ← number .word
    return .message head (.read h offset length)
  | .write =>
    let h ← string
    let offset ← number .long
    let data ← string
    return .message head (.write h offset data)
  | .lstat =>
    let path ← name
    return .message head (.lstat path)
  | .fstat =>
    let h ← string
    return .message head (.fstat h)
  | .setstat =>
    let path ← name
    let attrs ← attributes
    return .message head (.setstat path attrs)
  | .fsetstat =>
    let h ← string
    let attrs ← attributes
    return .message head (.fsetstat h attrs)
  | .opendir =>
    let path ← name
    return .message head (.opendir path)
  | .readdir =>
    let h ← string
    return .message head (.readdir h)
  | .remove =>
    let path ← name
    return .message head (.remove path)
  | .mkdir =>
    let path ← name
    let attrs ← attributes
    return .message head (.mkdir path attrs)
  | .rmdir =>
    let path ← name
    return .message head (.rmdir path)
  | .realpath =>
    let path ← name
    return .message head (.realpath path)
  | .stat =>
    let path ← name
    return .message head (.stat path)
  | .rename =>
    let old ← name
    let new ← name
    return .message head (.rename old new)
  | .readlink =>
    let path ← name
    return .message head (.readlink path)
  | .symlink =>
    let target ← name
    let link ← name
    return .message head (.symlink target link)
  | .extended =>
    let request ← name
    let data ← rest
    return .message head (.extended request data)
  | .status =>
    let code ← number .word
    let message ← optionalName
    let lang ← optionalName
    return .message head (.status code message lang)
  | .handle =>
    let h ← string
    return .message head (.handle h)
  | .data =>
    let d ← string
    return .message head (.data d)
  | .name =>
    let count ← number .word
    let entries ← times nameEntry count
    return .message head (.name entries)
  | .attrs =>
    let a ← attributes
    return .message head (.attrs a)
  | .extendedReply =>
    let d ← rest
    return .message head (.extendedReply d)

/-- The packet that a body begins with. -/
def packet : Reader Packet := do
  let tag ← number .byte
  match PacketKind.ofTag? tag with
  | none => throw (.unknownTag tag)
  | some kind => packetOfKind kind

end Reader

/-- The packet of a body. -/
def Packet.ofBody (body : Bytes) : Except Malformed Packet :=
  (Reader.packet.run body).1

/-- The body of a complete frame. -/
def unframe (bytes : Bytes) : Except Malformed Bytes :=
  if bytes.length < 4 then
    .error (.shortFrame bytes.length)
  else
    let stated := ofBigEndian (bytes.take 4)
    let body := bytes.drop 4
    if stated = body.length then .ok body else .error (.lengthMismatch stated body.length)

/-- The packet of a complete frame. -/
def Packet.decode (bytes : Bytes) : Except Malformed Packet :=
  (unframe bytes).bind Packet.ofBody

end Sftp
