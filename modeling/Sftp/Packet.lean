import Sftp.Text

/-!
# Packets

What client and server say to each other. A packet is one of the two handshake packets or a
message, and a message carries the id of the request that it is or that it answers.

Integers are unbounded here: a caller can ask for anything, and writing a packet refuses what does
not fit its width. Extension lists of the handshake keep one entry per name (`Extensions`).
-/

namespace Sftp

/-- What is known about a file. A field that is `none` is unknown and not sent. -/
structure Attributes where
  /-- Length in bytes. -/
  size : Option Int := none
  /-- Owner. -/
  uid : Option Int := none
  /-- Group. -/
  gid : Option Int := none
  /-- File type and permission bits. -/
  permissions : Option Int := none
  /-- Time of the last access, in seconds. -/
  atime : Option Int := none
  /-- Time of the last change, in seconds. -/
  mtime : Option Int := none
  /-- Vendor attributes by name. -/
  extended : List (Text × Bytes) := []
  deriving DecidableEq, Inhabited

/-- One entry of a directory listing. -/
structure NameEntry where
  /-- The name within its directory. -/
  filename : Text
  /-- A line for display, in a format of the server's own. -/
  longname : Text := Text.empty
  /-- What the server tells about the file. -/
  attrs : Attributes := {}
  deriving DecidableEq, Inhabited

/-! ## Extensions -/

/-- The extensions offered in a handshake, at most one entry per name, in order of first mention. -/
structure Extensions where
  /-- Name and data of each extension. -/
  entries : List (Text × Bytes) := []
  /-- No name occurs twice. -/
  nodup : (entries.map Prod.fst).Nodup := by exact List.nodup_nil
  deriving DecidableEq

namespace Extensions

/-- No extensions. -/
def empty : Extensions := {}

instance : Inhabited Extensions := ⟨empty⟩

/-- The entries after one is set: a known name keeps its place and gets the new data, a new one
goes to the end. -/
def setEntry (entries : List (Text × Bytes)) (name : Text) (data : Bytes) : List (Text × Bytes) :=
  if name ∈ entries.map Prod.fst then
    entries.map fun e => if e.1 = name then (name, data) else e
  else
    entries ++ [(name, data)]

theorem map_fst_replace (entries : List (Text × Bytes)) (name : Text) (data : Bytes) :
    (entries.map fun e => if e.1 = name then (name, data) else e).map Prod.fst
      = entries.map Prod.fst := by
  rw [List.map_map]
  apply List.map_congr_left
  intro e _
  by_cases h : e.1 = name <;> simp [h]

theorem nodup_setEntry {entries : List (Text × Bytes)} (h : (entries.map Prod.fst).Nodup)
    (name : Text) (data : Bytes) : ((setEntry entries name data).map Prod.fst).Nodup := by
  unfold setEntry
  split
  · rw [map_fst_replace]; exact h
  · rename_i hmem
    rw [List.map_append, List.map_singleton]
    refine List.nodup_append.2 ⟨h, by simp, ?_⟩
    intro a ha b hb
    rw [List.mem_singleton] at hb
    subst hb
    exact fun heq => hmem (heq ▸ ha)

/-- Sets the data of a name. -/
def insert (x : Extensions) (name : Text) (data : Bytes) : Extensions :=
  ⟨setEntry x.entries name data, nodup_setEntry x.nodup name data⟩

/-- Sets the names of a list one after another. -/
def ofList (entries : List (Text × Bytes)) : Extensions :=
  entries.foldl (fun x e => x.insert e.1 e.2) empty

end Extensions

/-! ## Messages -/

/-- Flags of an OPEN request. -/
structure OpenFlags where
  /-- The bits as they are sent. -/
  bits : Nat
  deriving DecidableEq, Inhabited

namespace OpenFlags

/-- The bits that have a name. -/
def names : List (Nat × String) :=
  [(0x01, "READ"), (0x02, "WRITE"), (0x04, "APPEND"), (0x08, "CREAT"), (0x10, "TRUNC"),
    (0x20, "EXCL")]

/-- The number of combinations of the bits that have a name. -/
def combinations : Int := 0x40

/-- The flags of a number. A negative number stands for the bits that it would have with a sign:
it is completed to the least power of two above its size, and at least to `combinations`. -/
def ofInt (n : Int) : OpenFlags :=
  if 0 ≤ n then
    ⟨n.toNat⟩
  else if -combinations ≤ n then
    ⟨(combinations + n).toNat⟩
  else
    ⟨(1 <<< (n.natAbs.log2 + 1)) - n.natAbs⟩

/-- Open for reading. -/
def read : OpenFlags := ⟨0x01⟩

/-- Open for reading and writing, creating the file or emptying it. -/
def createEmpty : OpenFlags := ⟨0x01 + 0x02 + 0x08 + 0x10⟩

/-- Whether the file may be read. -/
def canRead (f : OpenFlags) : Bool :=
  f.bits % 2 = 1

/-- Whether the file may be written. -/
def canWrite (f : OpenFlags) : Bool :=
  f.bits / 2 % 2 = 1

/-- The flags in words: the names that they have, the bits without a name, and all bits. -/
def describe (f : OpenFlags) : String :=
  let known := names.filter fun e => f.bits / e.1 % 2 = 1
  let unnamed := known.foldl (fun rest e => rest - e.1) f.bits
  let parts := known.map (·.2) ++ if unnamed = 0 then [] else [toString unnamed]
  if known.isEmpty then
    s!"<OpenFlag: {f.bits}>"
  else
    s!"<OpenFlag." ++ String.intercalate "|" parts ++ s!": {f.bits}>"

end OpenFlags

/-- A request or a reply, without its request id. -/
inductive Message
  /-- Open a file. -/
  | openFile (path : Text) (flags : OpenFlags) (attrs : Attributes)
  /-- Release a handle. -/
  | close (handle : Bytes)
  /-- Read a range of an open file. -/
  | read (handle : Bytes) (offset length : Int)
  /-- Write a range of an open file. -/
  | write (handle : Bytes) (offset : Int) (data : Bytes)
  /-- Attributes of a path itself. -/
  | lstat (path : Text)
  /-- Attributes of an open file. -/
  | fstat (handle : Bytes)
  /-- Change the attributes of a path. -/
  | setstat (path : Text) (attrs : Attributes)
  /-- Change the attributes of an open file. -/
  | fsetstat (handle : Bytes) (attrs : Attributes)
  /-- Open a directory. -/
  | opendir (path : Text)
  /-- Next entries of an open directory. -/
  | readdir (handle : Bytes)
  /-- Remove a file. -/
  | remove (path : Text)
  /-- Make a directory. -/
  | mkdir (path : Text) (attrs : Attributes)
  /-- Remove an empty directory. -/
  | rmdir (path : Text)
  /-- Canonical form of a path. -/
  | realpath (path : Text)
  /-- Attributes of what a path leads to. -/
  | stat (path : Text)
  /-- Rename a file. -/
  | rename (oldPath newPath : Text)
  /-- Target of a symbolic link. -/
  | readlink (path : Text)
  /-- Make a symbolic link. The target is sent first, as deployed servers read it. -/
  | symlink (target link : Text)
  /-- A vendor request. -/
  | extended (request : Text) (data : Bytes)
  /-- Outcome of a request. -/
  | status (code : Int) (message lang : Text)
  /-- A handle for an opened file or directory. -/
  | handle (handle : Bytes)
  /-- Bytes of a file. -/
  | data (data : Bytes)
  /-- Names with their attributes. -/
  | name (entries : List NameEntry)
  /-- Attributes of a file. -/
  | attrs (attrs : Attributes)
  /-- Answer to a vendor request. -/
  | extendedReply (data : Bytes)
  deriving DecidableEq, Inhabited

/-- What stands in one frame. -/
inductive Packet
  /-- The client's first packet. -/
  | init (version : Int) (extensions : Extensions)
  /-- The server's answer to it. -/
  | version (version : Int) (extensions : Extensions)
  /-- A request or a reply with its request id. -/
  | message (id : Int) (message : Message)
  deriving DecidableEq, Inhabited

/-! ## Kinds -/

/-- The kinds of packets. -/
inductive PacketKind
  | init | version | openFile | close | read | write | lstat | fstat | setstat | fsetstat
  | opendir | readdir | remove | mkdir | rmdir | realpath | stat | rename | readlink | symlink
  | status | handle | data | name | attrs | extended | extendedReply
  deriving DecidableEq, Inhabited

namespace PacketKind

/-- The byte that a body of this kind begins with. -/
def tag : PacketKind → Nat
  | init => 1
  | version => 2
  | openFile => 3
  | close => 4
  | read => 5
  | write => 6
  | lstat => 7
  | fstat => 8
  | setstat => 9
  | fsetstat => 10
  | opendir => 11
  | readdir => 12
  | remove => 13
  | mkdir => 14
  | rmdir => 15
  | realpath => 16
  | stat => 17
  | rename => 18
  | readlink => 19
  | symlink => 20
  | status => 101
  | handle => 102
  | data => 103
  | name => 104
  | attrs => 105
  | extended => 200
  | extendedReply => 201

/-- The name of the kind in the protocol. -/
def label : PacketKind → String
  | init => "INIT"
  | version => "VERSION"
  | openFile => "OPEN"
  | close => "CLOSE"
  | read => "READ"
  | write => "WRITE"
  | lstat => "LSTAT"
  | fstat => "FSTAT"
  | setstat => "SETSTAT"
  | fsetstat => "FSETSTAT"
  | opendir => "OPENDIR"
  | readdir => "READDIR"
  | remove => "REMOVE"
  | mkdir => "MKDIR"
  | rmdir => "RMDIR"
  | realpath => "REALPATH"
  | stat => "STAT"
  | rename => "RENAME"
  | readlink => "READLINK"
  | symlink => "SYMLINK"
  | status => "STATUS"
  | handle => "HANDLE"
  | data => "DATA"
  | name => "NAME"
  | attrs => "ATTRS"
  | extended => "EXTENDED"
  | extendedReply => "EXTENDED_REPLY"

/-- All kinds, in the order of their tags. -/
def all : List PacketKind :=
  [init, version, openFile, close, read, write, lstat, fstat, setstat, fsetstat, opendir, readdir,
    remove, mkdir, rmdir, realpath, stat, rename, readlink, symlink, status, handle, data, name,
    attrs, extended, extendedReply]

/-- The kind with the given tag. -/
def ofTag? (n : Nat) : Option PacketKind :=
  all.find? fun k => k.tag = n

@[simp] theorem ofTag?_tag (k : PacketKind) : ofTag? k.tag = some k := by
  cases k <;> decide

theorem tag_lt (k : PacketKind) : k.tag < 256 := by
  cases k <;> decide

end PacketKind

/-- The kind of a message. -/
def Message.kind : Message → PacketKind
  | openFile .. => .openFile
  | close .. => .close
  | read .. => .read
  | write .. => .write
  | lstat .. => .lstat
  | fstat .. => .fstat
  | setstat .. => .setstat
  | fsetstat .. => .fsetstat
  | opendir .. => .opendir
  | readdir .. => .readdir
  | remove .. => .remove
  | mkdir .. => .mkdir
  | rmdir .. => .rmdir
  | realpath .. => .realpath
  | stat .. => .stat
  | rename .. => .rename
  | readlink .. => .readlink
  | symlink .. => .symlink
  | extended .. => .extended
  | status .. => .status
  | handle .. => .handle
  | data .. => .data
  | name .. => .name
  | attrs .. => .attrs
  | extendedReply .. => .extendedReply

/-- The kind of a packet. -/
def Packet.kind : Packet → PacketKind
  | init .. => .init
  | version .. => .version
  | message _ m => m.kind

/-- The request id of a packet; the handshake packets have none. -/
def Packet.id? : Packet → Option Int
  | message id _ => some id
  | _ => none

end Sftp
