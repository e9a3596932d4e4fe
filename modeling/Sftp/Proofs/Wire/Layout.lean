import Sftp.Wire.Codec

/-!
# The bytes of a body

Writing may stop at a fault, so `writeFields` gives bytes only together with the question whether
anything was refused. This file separates the two:

* `PlainField.bytes`, `Attributes.bytes`, `Field.bytes`, `Packet.layout` — the bytes that a field, a
  block or a body has, as plain functions.
* `PlainField.Fits`, `Attributes.Fits`, `Field.Fits` — what is required for nothing to be refused.
* `Packet.numbers`, `Packet.blocks`, `Packet.texts` — the integers of a packet with their widths, its
  attribute blocks, and its texts, wherever in the packet they stand.
* **`Packet.encode_of_contents`**: a packet whose integers fit, whose pairs of attributes are
  complete, whose texts have bytes and whose body is shorter than `2 ^ 32` bytes is written, and its
  frame is the length of `layout` followed by `layout`. Lengths and counts need no condition of
  their own: each string is part of the body, and each counted item takes at least one byte of it.
-/

namespace Sftp

/-! ## Lengths of concatenations -/

section lengths

variable {α β : Type} {f : α → List β}

/-- A part is no longer than the whole. -/
theorem length_le_length_flatMap {x : α} {xs : List α} (h : x ∈ xs) :
    (f x).length ≤ (xs.flatMap f).length := by
  obtain ⟨before, after, rfl⟩ := List.append_of_mem h
  simp only [List.flatMap_append, List.flatMap_cons, List.length_append]
  omega

/-- Parts that are not empty are at most as many as the whole is long. -/
theorem card_le_length_flatMap {xs : List α} (h : ∀ x ∈ xs, f x ≠ []) :
    xs.length ≤ (xs.flatMap f).length := by
  induction xs with
  | nil => simp
  | cons x xs ih =>
    have hx := List.length_pos_iff.mpr (h x List.mem_cons_self)
    have := ih fun y hy => h y (List.mem_cons_of_mem x hy)
    simp only [List.flatMap_cons, List.length_append, List.length_cons]
    omega

end lengths

/-! ## Plain fields -/

/-- Whether all code points of a text have bytes. -/
def Text.IsEncodable (t : Text) : Prop := t.encode?.isSome

/-- The bytes of a text, no bytes if it has none. -/
def Text.bytes (t : Text) : Bytes := t.encode?.getD []

/-- An encodable text has its bytes. -/
theorem Text.IsEncodable.encode?_eq {t : Text} (h : t.IsEncodable) : t.encode? = some t.bytes := by
  obtain ⟨b, hb⟩ := Option.isSome_iff_exists.mp h
  rw [Text.bytes, hb]
  rfl

/-- A natural number fits a width if it is below its limit. -/
@[simp] theorem Width.fits_natCast (w : Width) (n : Nat) : w.Fits (n : Int) ↔ n < w.limit := by
  unfold Width.Fits
  omega

namespace PlainField

/-- The bytes of a plain field. -/
def bytes : PlainField → Bytes
  | number w n => bigEndian w.size n.toNat
  | openFlags flags => bigEndian 4 flags.bits
  | string b => bigEndian 4 b.length ++ b
  | text t => bigEndian 4 t.bytes.length ++ t.bytes
  | raw b => b

/-- Whether a plain field is written. -/
def Fits : PlainField → Prop
  | number w n => w.Fits n
  | openFlags flags => flags.bits < Width.word.limit
  | string b => b.length < Width.word.limit
  | text t => t.IsEncodable ∧ t.bytes.length < Width.word.limit
  | raw _ => True

/-- Whether a plain field is written if it is not too long. -/
def Proper : PlainField → Prop
  | number w n => w.Fits n
  | openFlags flags => flags.bits < Width.word.limit
  | string _ => True
  | text t => t.IsEncodable
  | raw _ => True

/-- Strings and texts are part of what is written, so a bound on the whole bounds them. -/
theorem Proper.fits {f : PlainField} (h : f.Proper) (hlength : f.bytes.length < Width.word.limit) :
    f.Fits := by
  cases f with
  | number w n => exact h
  | openFlags flags => exact h
  | string b =>
    simp only [bytes, List.length_append] at hlength
    exact Nat.lt_of_le_of_lt (Nat.le_add_left _ _) hlength
  | text t =>
    simp only [bytes, List.length_append] at hlength
    exact ⟨h, Nat.lt_of_le_of_lt (Nat.le_add_left _ _) hlength⟩
  | raw b => trivial

/-- A plain field that fits is written as its bytes. -/
theorem write_of_fits {f : PlainField} (h : f.Fits) : f.write = .ok f.bytes := by
  cases f with
  | number w n => exact if_pos h
  | openFlags flags => exact if_pos h
  | string b => exact if_pos h
  | text t =>
    show writeName t = _
    unfold writeName
    rw [h.1.encode?_eq]
    exact if_pos h.2
  | raw b => rfl

end PlainField

/-- Plain fields that fit are written one after another. -/
theorem writePlain_of_fits {fs : List PlainField} (h : ∀ f ∈ fs, f.Fits) :
    writePlain fs = .whole (fs.flatMap PlainField.bytes) := by
  induction fs with
  | nil => rfl
  | cons f fs ih =>
    rw [writePlain, PlainField.write_of_fits (h f List.mem_cons_self),
      ih fun g hg => h g (List.mem_cons_of_mem f hg)]
    rfl

/-! ## Attribute blocks -/

/-- Flags take four bytes at most. -/
theorem AttributeFlags.bits_lt (f : AttributeFlags) : f.bits < Width.word.limit := by
  have h1 := Bool.toNat_le f.size
  have h2 := Bool.toNat_le f.owners
  have h3 := Bool.toNat_le f.permissions
  have h4 := Bool.toNat_le f.times
  have h5 := Bool.toNat_le f.extended
  have hlimit : Width.word.limit = 0x100000000 := by decide
  unfold AttributeFlags.bits
  omega

namespace Attributes

/-- Whether each attribute that travels in a pair is known together with the other of its pair. -/
def PairsComplete (a : Attributes) : Prop :=
  a.uid.isSome = a.gid.isSome ∧ a.atime.isSome = a.mtime.isSome

/-- The flags of the attributes that are known, a pair counting as known if both halves are. -/
def known (a : Attributes) : AttributeFlags where
  size := a.size.isSome
  owners := a.uid.isSome && a.gid.isSome
  permissions := a.permissions.isSome
  times := a.atime.isSome && a.mtime.isSome
  extended := !a.extended.isEmpty

/-- The bytes of a block. -/
def bytes (a : Attributes) : Bytes :=
  (a.plainFields a.known).flatMap PlainField.bytes

/-- Whether a block is written. -/
def Fits (a : Attributes) : Prop :=
  a.PairsComplete ∧ ∀ f ∈ a.plainFields a.known, f.Fits

/-- The integers of a block, each with its width. -/
def numbers (a : Attributes) : List (Width × Int) :=
  (a.size.map (Width.long, ·)).toList
    ++ [a.uid, a.gid, a.permissions, a.atime, a.mtime].flatMap fun n =>
      (n.map (Width.word, ·)).toList

/-- The names of the vendor attributes of a block. -/
def texts (a : Attributes) : List Text :=
  a.extended.map Prod.fst

/-- With complete pairs the flags are those of the known attributes. -/
theorem flags_of_pairsComplete {a : Attributes} (h : a.PairsComplete) : a.flags = .ok a.known := by
  obtain ⟨size, uid, gid, permissions, atime, mtime, extended⟩ := a
  obtain ⟨howners, htimes⟩ := h
  cases uid <;> cases gid <;> simp at howners <;> cases atime <;> cases mtime <;>
    simp at htimes <;> rfl

/-- A block that fits is written as its bytes. -/
theorem write_of_fits {a : Attributes} (h : a.Fits) : a.write = .whole a.bytes := by
  unfold write
  rw [flags_of_pairsComplete h.1]
  exact writePlain_of_fits h.2

/-- A number of a block that is known fits its field. -/
theorem proper_of_mem_numberField {w : Width} {n : Option Int} {f : PlainField}
    (hf : f ∈ numberField w n) (h : ∀ k ∈ n, w.Fits k) : f.Proper := by
  cases n with
  | none => simp [numberField] at hf
  | some k =>
    obtain rfl : f = .number w k := by simpa [numberField] using hf
    exact h k rfl

/-- The bytes of name and data pairs, pair by pair. -/
theorem flatMap_bytes_pairs (pairs : List (Text × Bytes)) :
    (pairs.flatMap fun p => [PlainField.text p.1, .string p.2]).flatMap PlainField.bytes
      = pairs.flatMap fun p => PlainField.bytes (.text p.1) ++ PlainField.bytes (.string p.2) := by
  rw [List.flatMap_assoc]
  simp

/-- Pairs are at most as many as their bytes. -/
theorem length_pairs_le (pairs : List (Text × Bytes)) :
    pairs.length ≤ (pairs.flatMap fun p =>
      PlainField.bytes (.text p.1) ++ PlainField.bytes (.string p.2)).length := by
  apply card_le_length_flatMap
  intro p _
  simp [PlainField.bytes, bigEndian]

/-- The vendor attributes are proper if their names have bytes and they are not too long. -/
theorem proper_of_mem_extendedFields {pairs : List (Text × Bytes)} {f : PlainField}
    (hf : f ∈ extendedFields pairs) (htexts : ∀ e ∈ pairs, e.1.IsEncodable)
    (hsize : ((extendedFields pairs).flatMap PlainField.bytes).length < Width.word.limit) :
    f.Proper := by
  unfold extendedFields at hf hsize
  split at hf
  · simp at hf
  · rename_i hne
    rw [if_neg hne, List.flatMap_cons, List.length_append, flatMap_bytes_pairs] at hsize
    rcases List.mem_cons.mp hf with rfl | hf
    · have hcard := length_pairs_le pairs
      show Width.word.Fits (pairs.length : Int)
      rw [Width.fits_natCast]
      omega
    · obtain ⟨e, he, hfe⟩ := List.mem_flatMap.mp hf
      simp only [List.mem_cons, List.not_mem_nil, or_false] at hfe
      rcases hfe with rfl | rfl
      · exact htexts e he
      · trivial

/-- A block is written if its integers fit, its pairs are complete, its texts have bytes, and it is
not too long. -/
theorem fits_of_contents {a : Attributes} (hnumbers : ∀ e ∈ a.numbers, e.1.Fits e.2)
    (hpairs : a.PairsComplete) (htexts : ∀ t ∈ a.texts, t.IsEncodable)
    (hsize : a.bytes.length < Width.word.limit) : a.Fits := by
  refine ⟨hpairs, fun f hf => ?_⟩
  have hlength := length_le_length_flatMap (f := PlainField.bytes) hf
  refine PlainField.Proper.fits ?_ (Nat.lt_of_le_of_lt hlength hsize)
  have hextended : ((extendedFields a.extended).flatMap PlainField.bytes).length
      < Width.word.limit := by
    refine Nat.lt_of_le_of_lt ?_ hsize
    unfold bytes plainFields
    simp only [List.flatMap_append, List.length_append]
    omega
  simp only [plainFields, List.mem_append, List.mem_cons] at hf
  rcases hf with (((((((rfl | hf) | hf) | hf) | hf) | hf) | hf)) | hf
  · show Width.word.Fits (a.known.bits : Int)
    rw [Width.fits_natCast]
    exact a.known.bits_lt
  · exact proper_of_mem_numberField hf fun k hk => hnumbers (.long, k) (by simp_all [numbers])
  · exact proper_of_mem_numberField hf fun k hk => hnumbers (.word, k) (by simp_all [numbers])
  · exact proper_of_mem_numberField hf fun k hk => hnumbers (.word, k) (by simp_all [numbers])
  · exact proper_of_mem_numberField hf fun k hk => hnumbers (.word, k) (by simp_all [numbers])
  · exact proper_of_mem_numberField hf fun k hk => hnumbers (.word, k) (by simp_all [numbers])
  · exact proper_of_mem_numberField hf fun k hk => hnumbers (.word, k) (by simp_all [numbers])
  · exact proper_of_mem_extendedFields hf (fun e he => htexts e.1 (List.mem_map_of_mem he))
      hextended

end Attributes

/-! ## Fields -/

namespace Field

/-- The bytes of a field. -/
def bytes : Field → Bytes
  | plain f => f.bytes
  | attributes a => a.bytes

/-- Whether a field is written. -/
def Fits : Field → Prop
  | plain f => f.Fits
  | attributes a => a.Fits

/-- Whether a field is written if it is not too long. -/
def Proper : Field → Prop
  | plain f => f.Proper
  | attributes a =>
    (∀ e ∈ a.numbers, e.1.Fits e.2) ∧ a.PairsComplete ∧ ∀ t ∈ a.texts, t.IsEncodable

/-- A proper field that is not too long fits. -/
theorem Proper.fits {f : Field} (h : f.Proper) (hlength : f.bytes.length < Width.word.limit) :
    f.Fits := by
  cases f with
  | plain f => exact PlainField.Proper.fits h hlength
  | attributes a => exact Attributes.fits_of_contents h.1 h.2.1 h.2.2 hlength

/-- A field that fits is written as its bytes. -/
theorem write_of_fits {f : Field} (h : f.Fits) : f.write = .whole f.bytes := by
  cases f with
  | plain f =>
    show Written.ofExcept f.write = _
    rw [PlainField.write_of_fits h]
    rfl
  | attributes a => exact Attributes.write_of_fits h

end Field

/-- Fields that fit are written one after another. -/
theorem writeFields_of_fits {fs : List Field} (h : ∀ f ∈ fs, f.Fits) :
    writeFields fs = .whole (fs.flatMap Field.bytes) := by
  induction fs with
  | nil => rfl
  | cons f fs ih =>
    rw [writeFields, Field.write_of_fits (h f List.mem_cons_self),
      ih fun g hg => h g (List.mem_cons_of_mem f hg)]
    rfl

/-! ## Packets -/

namespace Message

/-- The integers of a message, each with its width. -/
def numbers : Message → List (Width × Int)
  | openFile _ flags a => (.word, flags.bits) :: a.numbers
  | read _ offset length => [(.long, offset), (.word, length)]
  | write _ offset _ => [(.long, offset)]
  | setstat _ a | fsetstat _ a | mkdir _ a | attrs a => a.numbers
  | status code _ _ => [(.word, code)]
  | name entries => entries.flatMap fun e => e.attrs.numbers
  | _ => []

/-- The attribute blocks of a message. -/
def blocks : Message → List Attributes
  | openFile _ _ a | setstat _ a | fsetstat _ a | mkdir _ a | attrs a => [a]
  | name entries => entries.map NameEntry.attrs
  | _ => []

/-- The texts of a message, those of its attribute blocks included. -/
def texts : Message → List Text
  | openFile path _ a | setstat path a | mkdir path a => path :: a.texts
  | fsetstat _ a | attrs a => a.texts
  | lstat path | opendir path | remove path | rmdir path | realpath path | stat path
  | readlink path => [path]
  | rename old new => [old, new]
  | symlink target link => [target, link]
  | extended request _ => [request]
  | status _ message lang => [message, lang]
  | name entries => entries.flatMap fun e => e.filename :: e.longname :: e.attrs.texts
  | _ => []

/-- The bytes of a message after its request id. -/
def bytes (m : Message) : Bytes :=
  m.fields.flatMap Field.bytes

/-- Entries are at most as many as their bytes. -/
theorem length_entries_le (entries : List NameEntry) :
    entries.length ≤ ((entries.flatMap NameEntry.fields).flatMap Field.bytes).length := by
  rw [List.flatMap_assoc]
  apply card_le_length_flatMap
  intro e _
  simp [NameEntry.fields, Field.bytes, PlainField.bytes, bigEndian]

/-- The fields of a message are proper if what the message holds can be written. -/
theorem proper_of_mem_fields {m : Message} (hnumbers : ∀ e ∈ m.numbers, e.1.Fits e.2)
    (hblocks : ∀ a ∈ m.blocks, a.PairsComplete) (htexts : ∀ t ∈ m.texts, t.IsEncodable)
    (hsize : m.bytes.length < Width.word.limit) : ∀ f ∈ m.fields, f.Proper := by
  cases m with
  | name entries =>
    have hcard := length_entries_le entries
    have hcount : entries.length < Width.word.limit := by
      simp only [bytes, fields, List.flatMap_cons, List.length_append] at hsize
      omega
    simp only [numbers, blocks, texts] at hnumbers hblocks htexts
    intro f hf
    rcases List.mem_cons.mp hf with rfl | hf
    · exact (Width.fits_natCast _ _).mpr hcount
    · obtain ⟨e, he, hfe⟩ := List.mem_flatMap.mp hf
      have htexts := fun t ht => htexts t (List.mem_flatMap.mpr ⟨e, he, ht⟩)
      simp only [NameEntry.fields, List.mem_cons, List.not_mem_nil, or_false] at hfe
      rcases hfe with rfl | rfl | rfl
      · exact htexts _ (by simp)
      · exact htexts _ (by simp)
      · exact ⟨fun n hn => hnumbers n (List.mem_flatMap.mpr ⟨e, he, hn⟩),
          hblocks _ (List.mem_map_of_mem he), fun t ht => htexts t (by simp [ht])⟩
  | _ => simp_all [fields, numbers, blocks, texts, Field.Proper, PlainField.Proper]

end Message

namespace Packet

/-- The integers of a packet, each with its width. -/
def numbers : Packet → List (Width × Int)
  | init v _ | version v _ => [(.word, v)]
  | message id m => (.word, id) :: m.numbers

/-- The attribute blocks of a packet. -/
def blocks : Packet → List Attributes
  | message _ m => m.blocks
  | _ => []

/-- The texts of a packet, wherever they stand in it. -/
def texts : Packet → List Text
  | init _ x | version _ x => x.entries.map Prod.fst
  | message _ m => m.texts

/-- The bytes of a packet's body. -/
def layout (p : Packet) : Bytes :=
  p.fields.flatMap Field.bytes

/-- The layout of a message: its tag, its request id, its fields. -/
theorem layout_message (id : Int) (m : Message) :
    (message id m).layout
      = bigEndian 1 m.kind.tag ++ (bigEndian 4 id.toNat ++ m.bytes) := rfl

/-- The fields of a packet are proper if what the packet holds can be written. -/
theorem proper_of_mem_fields {p : Packet} (hnumbers : ∀ e ∈ p.numbers, e.1.Fits e.2)
    (hblocks : ∀ a ∈ p.blocks, a.PairsComplete) (htexts : ∀ t ∈ p.texts, t.IsEncodable)
    (hsize : p.layout.length < Width.word.limit) : ∀ f ∈ p.fields, f.Proper := by
  have htag : Field.Proper (.number .byte p.kind.tag) :=
    (Width.fits_natCast _ _).mpr (PacketKind.tag_lt p.kind)
  intro f hf
  rcases List.mem_cons.mp hf with rfl | hf
  · exact htag
  cases p with
  | init v x | version v x =>
    rcases List.mem_cons.mp hf with rfl | hf
    · exact hnumbers _ List.mem_cons_self
    · obtain ⟨e, he, hfe⟩ := List.mem_flatMap.mp hf
      simp only [List.mem_cons, List.not_mem_nil, or_false] at hfe
      rcases hfe with rfl | rfl
      · exact htexts _ (List.mem_map_of_mem he)
      · trivial
  | message id m =>
    rcases List.mem_cons.mp hf with rfl | hf
    · exact hnumbers _ List.mem_cons_self
    · refine Message.proper_of_mem_fields (fun e he => hnumbers e (List.mem_cons_of_mem _ he))
        hblocks htexts ?_ f hf
      rw [layout_message] at hsize
      simp only [List.length_append] at hsize
      omega

/-- The body of a packet of which nothing is refused is its layout. -/
theorem body_of_proper {p : Packet} (h : ∀ f ∈ p.fields, f.Proper)
    (hsize : p.layout.length < Width.word.limit) : p.body = .ok p.layout := by
  have hfits : ∀ f ∈ p.fields, f.Fits := fun f hf =>
    (h f hf).fits (Nat.lt_of_le_of_lt (length_le_length_flatMap hf) hsize)
  unfold body
  rw [writeFields_of_fits hfits]
  rfl

/-- **A packet is written** if its integers fit, its pairs of attributes are complete, its texts
have bytes and its body is not too long: its frame is its layout with the length before it. -/
theorem encode_of_contents {p : Packet} (hnumbers : ∀ e ∈ p.numbers, e.1.Fits e.2)
    (hblocks : ∀ a ∈ p.blocks, a.PairsComplete) (htexts : ∀ t ∈ p.texts, t.IsEncodable)
    (hsize : p.layout.length < Width.word.limit) :
    p.encode = .ok (bigEndian 4 p.layout.length ++ p.layout) := by
  have hbody := body_of_proper (proper_of_mem_fields hnumbers hblocks htexts hsize) hsize
  unfold encode
  rw [hbody]
  exact if_pos hsize

end Packet

/-! ## What was written -/

/-- What is written in full is the first field, written in full, and then the others. -/
theorem result_writeFields_cons {f : Field} {fs : List Field} {bytes : Bytes}
    (h : (writeFields (f :: fs)).result = .ok bytes) :
    ∃ first rest, f.write = .whole first ∧ (writeFields fs).result = .ok rest ∧
      bytes = first ++ rest := by
  rw [writeFields] at h
  rcases hfirst : f.write with ⟨first, _ | e⟩
  · rw [hfirst] at h
    rcases hrest : writeFields fs with ⟨rest, _ | e⟩
    · simp only [hrest, Written.andThen, Written.result] at h
      exact ⟨first, rest, rfl, rfl, (Except.ok.inj h).symm⟩
    · simp only [hrest, Written.andThen, Written.result] at h
      cases h
  · rw [hfirst] at h
    cases h

/-- A number that is written fits its width, and its bytes are its digits. -/
theorem Field.fits_of_write_number {w : Width} {n : Int} {bytes : Bytes}
    (h : (number w n).write = .whole bytes) : w.Fits n ∧ bytes = bigEndian w.size n.toNat := by
  unfold write PlainField.write writeNumber at h
  by_cases hfits : w.Fits n
  · simp only [if_pos hfits] at h
    exact ⟨hfits, (congrArg Written.bytes h).symm⟩
  · simp only [if_neg hfits] at h
    cases congrArg Written.fault h

/-- A written packet has its tag after the length of its body, and then its other fields. -/
theorem Packet.frame_of_encode {p : Packet} {frame : Bytes} (h : p.encode = .ok frame) :
    ∃ length others, frame = bigEndian 4 length ++ (bigEndian 1 p.kind.tag ++ others) ∧
      (writeFields p.fields.tail).result = .ok others := by
  unfold encode at h
  cases hbody : p.body with
  | error e =>
    rw [hbody] at h
    cases h
  | ok bytes =>
    rw [hbody] at h
    obtain ⟨tag, others, htag, hothers, rfl⟩ := result_writeFields_cons hbody
    obtain ⟨-, rfl⟩ := Field.fits_of_write_number htag
    simp only [Except.bind, Sftp.frame, writeString] at h
    split at h
    · exact ⟨_, others, (Except.ok.inj h).symm, hothers⟩
    · cases h

/-- A written message has its id after the length of its body and its tag. -/
theorem Packet.frame_of_encode_message {id : Int} {m : Message} {frame : Bytes}
    (h : (message id m).encode = .ok frame) :
    Width.word.Fits id ∧ ∃ length rest,
      frame = bigEndian 4 length ++ (bigEndian 1 m.kind.tag ++ (bigEndian 4 id.toNat ++ rest)) := by
  obtain ⟨length, others, rfl, hothers⟩ := frame_of_encode h
  obtain ⟨number, rest, hnumber, -, rfl⟩ := result_writeFields_cons hothers
  obtain ⟨hfits, rfl⟩ := Field.fits_of_write_number hnumber
  exact ⟨hfits, length, rest, rfl⟩

end Sftp
