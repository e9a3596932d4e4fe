import Sftp.Packet
import Sftp.Text.Digits
import Sftp.Text.Utf8

/-!
# Fields of a body

A body is a sequence of fields: big-endian numbers of one, four or eight bytes, strings with a
four-byte length before them, raw bytes, and attribute blocks. `Field.write` says which bytes a
field has, and refuses a value that does not fit instead of cutting it down.

An attribute block is itself a sequence of plain fields, headed by flags that tell which of them
are present. Owner and group travel together, and so do the two times; half a pair is refused
before anything of the block is written.
-/

namespace Sftp

/-! ## Numbers -/

/-- The widths of numbers on the wire. -/
inductive Width
  | byte | word | long
  deriving DecidableEq, Inhabited

namespace Width

/-- The number of bytes. -/
def size : Width → Nat
  | byte => 1
  | word => 4
  | long => 8

/-- The name of the number type. -/
def label : Width → String
  | byte => "uint8"
  | word => "uint32"
  | long => "uint64"

/-- The least number that does not fit. -/
def limit (w : Width) : Nat :=
  byteValues w.size

/-- Whether an integer fits. -/
def Fits (w : Width) (n : Int) : Prop :=
  0 ≤ n ∧ n < w.limit

instance (w : Width) (n : Int) : Decidable (w.Fits n) :=
  inferInstanceAs (Decidable (_ ∧ _))

end Width

/-! ## What cannot be written -/

/-- The attributes that are sent in pairs. -/
inductive PairedAttribute
  | uid | gid | atime | mtime
  deriving DecidableEq, Inhabited

/-- The name of a paired attribute. -/
def PairedAttribute.label : PairedAttribute → String
  | uid => "uid"
  | gid => "gid"
  | atime => "atime"
  | mtime => "mtime"

/-- Why something has no encoding. -/
inductive EncodeFault
  /-- An integer that does not fit its width. -/
  | outOfRange (width : Width) (value : Int)
  /-- Open flags that do not fit in four bytes. -/
  | flagsOutOfRange (flags : OpenFlags)
  /-- Half a pair of attributes. -/
  | halfPair (present missing : PairedAttribute)
  /-- A text with a surrogate that stands for no byte, at the given position. -/
  | loneSurrogate (text : Text) (position : Nat)
  /-- A string or body whose length does not fit in four bytes. -/
  | tooLong (length : Nat)
  deriving DecidableEq

/-- The wording of an encoding fault. -/
def EncodeFault.message : EncodeFault → Text
  | outOfRange w v => s!"{w.label} out of range: {v}"
  | flagsOutOfRange flags => s!"{Width.word.label} out of range: " ++ flags.describe
  | halfPair present missing => s!"{present.label} given without {missing.label}"
  | loneSurrogate text position =>
    let run := (text.glyphs.drop position).takeWhile Glyph.isSurrogate
    let first := (run.head?.map Glyph.codePoint).getD 0
    if run.length ≤ 1 then
      s!"'utf-8' codec can't encode character '\\u" ++ String.ofList (Text.lastDigits 16 4 first)
        ++ s!"' in position {position}: surrogates not allowed"
    else
      s!"'utf-8' codec can't encode characters in position {position}-"
        ++ s!"{position + run.length - 1}: surrogates not allowed"
  | tooLong _ => "'I' format requires 0 <= number <= 4294967295"

/-! ## Plain fields -/

/-- A number of the given width. -/
def writeNumber (w : Width) (n : Int) : Except EncodeFault Bytes :=
  if w.Fits n then .ok (bigEndian w.size n.toNat) else .error (.outOfRange w n)

/-- Open flags, as a number. -/
def writeOpenFlags (flags : OpenFlags) : Except EncodeFault Bytes :=
  if flags.bits < Width.word.limit then
    .ok (bigEndian 4 flags.bits)
  else
    .error (.flagsOutOfRange flags)

/-- Bytes with their length before them. -/
def writeString (bytes : Bytes) : Except EncodeFault Bytes :=
  if bytes.length < Width.word.limit then
    .ok (bigEndian 4 bytes.length ++ bytes)
  else
    .error (.tooLong bytes.length)

/-- The bytes of a text. -/
def writeName (t : Text) : Except EncodeFault Bytes :=
  match t.encode? with
  | some bytes => writeString bytes
  | none => .error (.loneSurrogate t (t.firstUnencodable?.getD 0))

/-- A field that is written as a whole or not at all. -/
inductive PlainField
  /-- A number. -/
  | number (width : Width) (value : Int)
  /-- Open flags. -/
  | openFlags (flags : OpenFlags)
  /-- Bytes with their length before them. -/
  | string (bytes : Bytes)
  /-- The bytes of a text with their length before them. -/
  | text (text : Text)
  /-- Bytes without a length. -/
  | raw (bytes : Bytes)
  deriving DecidableEq

/-- The bytes of a plain field. -/
def PlainField.write : PlainField → Except EncodeFault Bytes
  | number w n => writeNumber w n
  | openFlags flags => writeOpenFlags flags
  | string bytes => writeString bytes
  | text t => writeName t
  | raw bytes => .ok bytes

/-- What was written before a fault, if there was one, stopped the writing. -/
structure Written where
  /-- The bytes written. -/
  bytes : Bytes
  /-- The fault that ended the writing. -/
  fault : Option EncodeFault
  deriving DecidableEq

namespace Written

/-- Bytes written without a fault. -/
def whole (bytes : Bytes) : Written := ⟨bytes, none⟩

/-- The outcome of a step that writes everything or nothing. -/
def ofExcept : Except EncodeFault Bytes → Written
  | .ok bytes => ⟨bytes, none⟩
  | .error e => ⟨[], some e⟩

/-- Goes on after what was written, unless a fault stopped it. -/
def andThen (w : Written) (next : Unit → Written) : Written :=
  match w.fault with
  | some _ => w
  | none => let n := next (); ⟨w.bytes ++ n.bytes, n.fault⟩

/-- The bytes, or the fault that ended the writing. -/
def result (w : Written) : Except EncodeFault Bytes :=
  match w.fault with
  | some e => .error e
  | none => .ok w.bytes

end Written

/-- Plain fields one after another, up to the first that cannot be written. -/
def writePlain : List PlainField → Written
  | [] => .whole []
  | f :: rest => (Written.ofExcept f.write).andThen fun _ => writePlain rest

/-! ## Attribute blocks -/

/-- Which fields an attribute block holds. -/
structure AttributeFlags where
  /-- The length. -/
  size : Bool
  /-- Owner and group. -/
  owners : Bool
  /-- Type and permission bits. -/
  permissions : Bool
  /-- The two times. -/
  times : Bool
  /-- Vendor attributes. -/
  extended : Bool
  deriving DecidableEq, Inhabited

namespace AttributeFlags

/-- The number that stands for the flags. -/
def bits (f : AttributeFlags) : Nat :=
  f.size.toNat * 0x1 + f.owners.toNat * 0x2 + f.permissions.toNat * 0x4 + f.times.toNat * 0x8
    + f.extended.toNat * 0x80000000

/-- The flags in a number; unknown bits are passed over. -/
def ofBits (n : Nat) : AttributeFlags where
  size := n.testBit 0
  owners := n.testBit 1
  permissions := n.testBit 2
  times := n.testBit 3
  extended := n.testBit 31

end AttributeFlags

/-- Whether both halves of a pair are known; one alone is a fault. -/
def pairPresent (first : PairedAttribute) (a : Option Int) (second : PairedAttribute)
    (b : Option Int) : Except EncodeFault Bool :=
  match a, b with
  | some _, some _ => .ok true
  | none, none => .ok false
  | some _, none => .error (.halfPair first second)
  | none, some _ => .error (.halfPair second first)

namespace Attributes

/-- The flags that head the block of these attributes. -/
def flags (a : Attributes) : Except EncodeFault AttributeFlags := do
  let owners ← pairPresent .uid a.uid .gid a.gid
  let times ← pairPresent .atime a.atime .mtime a.mtime
  return {
    size := a.size.isSome
    owners
    permissions := a.permissions.isSome
    times
    extended := !a.extended.isEmpty }

/-- A number that is present if it is known. -/
def numberField (w : Width) (n : Option Int) : List PlainField :=
  (n.map (PlainField.number w)).toList

/-- The vendor attributes, counted, if there are any. -/
def extendedFields (pairs : List (Text × Bytes)) : List PlainField :=
  if pairs.isEmpty then
    []
  else
    .number .word pairs.length :: pairs.flatMap fun p => [.text p.1, .string p.2]

/-- The plain fields of a block with the given flags. -/
def plainFields (a : Attributes) (flags : AttributeFlags) : List PlainField :=
  .number .word flags.bits
    :: numberField .long a.size
    ++ numberField .word a.uid ++ numberField .word a.gid
    ++ numberField .word a.permissions
    ++ numberField .word a.atime ++ numberField .word a.mtime
    ++ extendedFields a.extended

/-- The block of these attributes. -/
def write (a : Attributes) : Written :=
  match a.flags with
  | .error e => ⟨[], some e⟩
  | .ok flags => writePlain (a.plainFields flags)

end Attributes

/-! ## Fields -/

/-- A field of a body. -/
inductive Field
  /-- A field written as a whole or not at all. -/
  | plain (field : PlainField)
  /-- An attribute block. -/
  | attributes (attrs : Attributes)
  deriving DecidableEq

namespace Field

/-- A number. -/
abbrev number (w : Width) (n : Int) : Field := plain (.number w n)

/-- Open flags. -/
abbrev openFlags (flags : OpenFlags) : Field := plain (.openFlags flags)

/-- Bytes with their length before them. -/
abbrev string (bytes : Bytes) : Field := plain (.string bytes)

/-- A text with its length before it. -/
abbrev text (t : Text) : Field := plain (.text t)

/-- Bytes without a length. -/
abbrev raw (bytes : Bytes) : Field := plain (.raw bytes)

/-- The bytes of a field. -/
def write : Field → Written
  | plain f => .ofExcept f.write
  | attributes a => a.write

end Field

/-- Fields one after another, up to the first that cannot be written. -/
def writeFields : List Field → Written
  | [] => .whole []
  | f :: rest => f.write.andThen fun _ => writeFields rest

end Sftp
