import Sftp.Text.Utf8

/-!
# Where bytes stop being UTF-8

A file of text must be UTF-8 throughout. `Utf8Lead.ofBytes` says what bytes begin with: a whole
character, the first bytes of one, or bytes that can begin none. Files are read in blocks
(`decodeBlocks`), so a defect is found when its block is read, after the text of the blocks before
it; its position counts from the start of what was being decoded, the bytes carried over from the
block before included.
-/

namespace Sftp

/-- What is wrong with bytes that are not UTF-8. -/
inductive Utf8Problem
  /-- A byte that begins no character. -/
  | start
  /-- A character is begun and not continued. -/
  | continuation
  /-- The bytes end within a character. -/
  | truncated
  deriving DecidableEq, Inhabited

/-- The words for a problem. -/
def Utf8Problem.label : Utf8Problem → String
  | start => "invalid start byte"
  | continuation => "invalid continuation byte"
  | truncated => "unexpected end of data"

/-- Bytes that are not UTF-8. -/
structure Utf8Defect where
  /-- What is wrong. -/
  problem : Utf8Problem
  /-- The first of the bytes. -/
  byte : UInt8
  /-- Its position. -/
  position : Nat
  /-- The number of bytes. -/
  length : Nat
  deriving DecidableEq, Inhabited

/-- The defect in words. -/
def Utf8Defect.message (d : Utf8Defect) : Text :=
  let place :=
    if d.length = 1 then
      let n := d.byte.toNat
      let digits := String.ofList [Nat.digitChar (n / 16), Nat.digitChar (n % 16)]
      s!"byte 0x{digits} in position {d.position}"
    else
      s!"bytes in position {d.position}-{d.position + d.length - 1}"
  "'utf-8' codec can't decode " ++ place ++ ": " ++ d.problem.label

/-- What bytes begin with. -/
inductive Utf8Lead
  /-- A character of so many bytes. -/
  | character (size : Nat)
  /-- The first bytes of a character, and no more. -/
  | unfinished
  /-- So many bytes that begin no character. -/
  | wrong (problem : Utf8Problem) (size : Nat)
  deriving DecidableEq

namespace Utf8Lead

/-- The number of bytes that continue a character with the given first byte, and the least and the
greatest value of the first of them. -/
def continuations? (first : UInt8) : Option (Nat × Nat × Nat) :=
  let b := first.toNat
  if b < 0x80 then some (0, 0x80, 0xbf)
  else if b < 0xc2 then none
  else if b < 0xe0 then some (1, 0x80, 0xbf)
  else if b = 0xe0 then some (2, 0xa0, 0xbf)
  else if b = 0xed then some (2, 0x80, 0x9f)
  else if b < 0xf0 then some (2, 0x80, 0xbf)
  else if b = 0xf0 then some (3, 0x90, 0xbf)
  else if b < 0xf4 then some (3, 0x80, 0xbf)
  else if b = 0xf4 then some (3, 0x80, 0x8f)
  else none

/-- Takes the bytes that continue a character; `taken` bytes of it stand before them. -/
def continued (taken : Nat) : (missing low high : Nat) → Bytes → Utf8Lead
  | 0, _, _, _ => .character taken
  | _ + 1, _, _, [] => .unfinished
  | missing + 1, low, high, b :: rest =>
    if low ≤ b.toNat ∧ b.toNat ≤ high then
      continued (taken + 1) missing 0x80 0xbf rest
    else
      .wrong .continuation taken

/-- What the bytes begin with, the first of them given apart. -/
def ofBytes (first : UInt8) (rest : Bytes) : Utf8Lead :=
  match continuations? first with
  | none => .wrong .start 1
  | some (missing, low, high) => continued 1 missing low high rest

end Utf8Lead

/-- Whether bytes at the end of a block are kept for the next one: they are the first bytes of a
character, or of one that would be a surrogate. -/
def isKept (first : UInt8) (rest : Bytes) : Bool :=
  match Utf8Lead.ofBytes first rest with
  | .character _ => false
  | .unfinished => true
  | .wrong _ _ =>
    match rest with
    | [second] => first.toNat = 0xed && 0xa0 ≤ second.toNat && second.toNat ≤ 0xbf
    | _ => false

/-- The number of bytes that are whole characters, counted from `position`, and the defect after
them, if there is one. -/
def scanUtf8 (position : Nat) : Bytes → Nat × Option Utf8Defect
  | [] => (position, none)
  | first :: rest =>
    if isKept first rest then
      (position, none)
    else
      match Utf8Lead.ofBytes first rest with
      | .character size => scanUtf8 (position + size) (rest.drop (size - 1))
      | .unfinished => (position, none)
      | .wrong problem size => (position, some ⟨problem, first, position, size⟩)
  termination_by bytes => bytes.length

/-- The defect of bytes that were kept and are followed by nothing. -/
def keptDefect? : Bytes → Option Utf8Defect
  | [] => none
  | first :: rest =>
    match Utf8Lead.ofBytes first rest with
    | .wrong problem size => some ⟨problem, first, 0, size⟩
    | _ => some ⟨.truncated, first, 0, rest.length + 1⟩

/-- The number of bytes that are read at a time. -/
def blockSize : Nat := 8192

theorem blockSize_pos : 0 < blockSize := by decide

/-- The text of the blocks before the first defect, and the defect. `kept` are the bytes carried
over from the block before. -/
def decodeBlocks (kept : Bytes) (bytes : Bytes) : Text × Option Utf8Defect :=
  if _ : bytes = [] then
    (Text.empty, keptDefect? kept)
  else
    let input := kept ++ bytes.take blockSize
    match scanUtf8 0 input with
    | (_, some defect) => (Text.empty, some defect)
    | (n, none) =>
      let rest := decodeBlocks (input.drop n) (bytes.drop blockSize)
      (Text.decode (input.take n) ++ rest.1, rest.2)
  termination_by bytes.length
  decreasing_by
    rw [List.length_drop]
    exact Nat.sub_lt (List.length_pos_iff.2 (by assumption)) blockSize_pos

end Sftp
