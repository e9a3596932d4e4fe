import Sftp.Proofs.Wire.RoundTrip

/-!
# What can be written

A packet that was written met every condition for it. So the conditions of `Sftp.Proofs.Wire.Layout` say
exactly which packets have a frame, and a far end that decodes frames gets back what was written.

* `PlainField.fits_of_write`, `Attributes.fits_of_write`, `Field.fits_of_write` — what was written fits.
* **`Packet.encode_eq_ok_iff`** — the packets that have a frame, and their frame.
* `Packet.ofBody_layout`, `Packet.decode_frame` — bodies and frames are read back.
* `Packet.length_layout_read` and its kin — how long the bodies of the requests and replies on open files
  are, and `Packet.isEncodable_read_iff` and its kin — when they can be written.
* **`Packet.tooLong_of_encode`** — a message of numbers that fit and texts that have bytes is refused only
  because it is too long.
-/

namespace Sftp

/-! ## Fields -/

/-- A plain field that was written fits. -/
theorem PlainField.fits_of_write {f : PlainField} {bytes : Bytes} (h : f.write = .ok bytes) :
    f.Fits := by
  cases f with
  | number w n =>
    by_cases hfits : w.Fits n
    · exact hfits
    · cases (if_neg hfits).symm.trans h
  | openFlags flags =>
    by_cases hfits : flags.bits < Width.word.limit
    · exact hfits
    · cases (if_neg hfits).symm.trans h
  | string b =>
    by_cases hfits : b.length < Width.word.limit
    · exact hfits
    · cases (if_neg hfits).symm.trans h
  | text t =>
    simp only [write, writeName] at h
    cases hencode : t.encode? with
    | none =>
      rw [hencode] at h
      cases h
    | some b =>
      rw [hencode] at h
      have hencodable : t.IsEncodable := by
        unfold Text.IsEncodable
        rw [hencode]
        rfl
      have hbytes : t.bytes = b := by
        unfold Text.bytes
        rw [hencode]
        rfl
      refine ⟨hencodable, ?_⟩
      rw [hbytes]
      by_cases hfits : b.length < Width.word.limit
      · exact hfits
      · cases (if_neg hfits).symm.trans h
  | raw b => trivial

/-- Plain fields that were written fit. -/
theorem fits_of_writePlain {fs : List PlainField} {bytes : Bytes}
    (h : writePlain fs = .whole bytes) : ∀ f ∈ fs, f.Fits := by
  induction fs generalizing bytes with
  | nil => exact fun _ hf => absurd hf List.not_mem_nil
  | cons f fs ih =>
    rw [writePlain] at h
    cases hfirst : f.write with
    | error e =>
      rw [hfirst] at h
      cases congrArg Written.fault h
    | ok first =>
      rw [hfirst] at h
      have hrest : writePlain fs = .whole (writePlain fs).bytes := by
        have hfault : (writePlain fs).fault = none := congrArg Written.fault h
        rcases hwritten : writePlain fs with ⟨rest, fault⟩
        rw [hwritten] at hfault
        obtain rfl : fault = none := hfault
        rfl
      exact List.forall_mem_cons.mpr ⟨PlainField.fits_of_write hfirst, ih hrest⟩

/-- Flags are written for complete pairs only. -/
theorem Attributes.flags_eq_ok {a : Attributes} {flags : AttributeFlags} (h : a.flags = .ok flags) :
    a.PairsComplete ∧ flags = a.known := by
  obtain ⟨size, uid, gid, permissions, atime, mtime, extended⟩ := a
  unfold Attributes.flags at h
  cases uid with
  | none =>
    cases gid with
    | none =>
      cases atime with
      | none =>
        cases mtime with
        | none =>
          cases h
          exact ⟨⟨rfl, rfl⟩, rfl⟩
        | some t => cases h
      | some t =>
        cases mtime with
        | none => cases h
        | some t' =>
          cases h
          exact ⟨⟨rfl, rfl⟩, rfl⟩
    | some g => cases h
  | some u =>
    cases gid with
    | none => cases h
    | some g =>
      cases atime with
      | none =>
        cases mtime with
        | none =>
          cases h
          exact ⟨⟨rfl, rfl⟩, rfl⟩
        | some t => cases h
      | some t =>
        cases mtime with
        | none => cases h
        | some t' =>
          cases h
          exact ⟨⟨rfl, rfl⟩, rfl⟩

/-- A block that was written fits. -/
theorem Attributes.fits_of_write {a : Attributes} {bytes : Bytes} (h : a.write = .whole bytes) :
    a.Fits := by
  unfold Attributes.write at h
  cases hflags : a.flags with
  | error e =>
    rw [hflags] at h
    cases congrArg Written.fault h
  | ok flags =>
    rw [hflags] at h
    obtain ⟨hpairs, rfl⟩ := flags_eq_ok hflags
    exact ⟨hpairs, fits_of_writePlain h⟩

/-- A field that was written fits. -/
theorem Field.fits_of_write {f : Field} {bytes : Bytes} (h : f.write = .whole bytes) : f.Fits := by
  cases f with
  | plain f =>
    have hwrite : Written.ofExcept f.write = .whole bytes := h
    cases hf : f.write with
    | error e =>
      rw [hf] at hwrite
      cases congrArg Written.fault hwrite
    | ok b => exact PlainField.fits_of_write hf
  | attributes a => exact Attributes.fits_of_write h

/-- Fields that were written fit. -/
theorem fits_of_writeFields {fs : List Field} {bytes : Bytes}
    (h : (writeFields fs).result = .ok bytes) : ∀ f ∈ fs, f.Fits := by
  induction fs generalizing bytes with
  | nil => exact fun _ hf => absurd hf List.not_mem_nil
  | cons f fs ih =>
    obtain ⟨first, rest, hfirst, hrest, -⟩ := result_writeFields_cons h
    exact List.forall_mem_cons.mpr ⟨Field.fits_of_write hfirst, ih hrest⟩

/-! ## Packets -/

namespace Packet

/-- **The packets that have a frame** are those whose fields fit and whose body is not too long. -/
theorem encode_eq_ok_iff {p : Packet} {frame : Bytes} :
    p.encode = .ok frame ↔ (∀ f ∈ p.fields, f.Fits) ∧ p.layout.length < Width.word.limit ∧
      frame = bigEndian 4 p.layout.length ++ p.layout := by
  constructor
  · intro h
    unfold encode at h
    cases hbody : p.body with
    | error e =>
      rw [hbody] at h
      cases h
    | ok bytes =>
      have hfits := fits_of_writeFields hbody
      obtain rfl : p.layout = bytes := by
        unfold body at hbody
        rw [writeFields_of_fits hfits] at hbody
        exact Except.ok.inj hbody
      rw [hbody] at h
      have hframe : writeString p.layout = .ok frame := h
      unfold writeString at hframe
      split at hframe
      · rename_i hsize
        exact ⟨hfits, hsize, (Except.ok.inj hframe).symm⟩
      · cases hframe
  · rintro ⟨hfits, hsize, rfl⟩
    have hbody : p.body = .ok p.layout := by
      unfold body
      rw [writeFields_of_fits hfits]
      rfl
    unfold encode
    rw [hbody]
    exact if_pos hsize

/-- A body is read back. -/
theorem ofBody_layout {p : Packet} (hfits : ∀ f ∈ p.fields, f.Fits)
    (ht : ∀ t ∈ p.texts, t.ReadsBack) : ofBody p.layout = .ok p :=
  congrArg Prod.fst (Reader.readsAll_packet hfits ht)

/-- A frame is read back. -/
theorem decode_frame {p : Packet} {frame : Bytes} (h : p.encode = .ok frame)
    (ht : ∀ t ∈ p.texts, t.ReadsBack) : decode frame = .ok p := by
  obtain ⟨hfits, hsize, rfl⟩ := encode_eq_ok_iff.mp h
  unfold decode
  rw [unframe_frame hsize]
  exact ofBody_layout hfits ht

/-- Whether a packet has a frame. -/
def IsEncodable (p : Packet) : Prop :=
  ∃ frame, p.encode = .ok frame

/-- A message has a frame if its id and its fields fit and its body is not too long. -/
theorem isEncodable_message_iff {id : Int} {m : Message} :
    (message id m).IsEncodable ↔
      Width.word.Fits id ∧ (∀ f ∈ m.fields, f.Fits) ∧
        (message id m).layout.length < Width.word.limit := by
  have htag : Field.Fits (.number .byte m.kind.tag) :=
    (Width.fits_natCast _ _).mpr (PacketKind.tag_lt m.kind)
  constructor
  · rintro ⟨frame, hframe⟩
    obtain ⟨hfits, hsize, -⟩ := encode_eq_ok_iff.mp hframe
    refine ⟨hfits (.number .word id) (by simp [fields]), fun f hf => hfits f ?_, hsize⟩
    exact List.mem_cons_of_mem _ (List.mem_cons_of_mem _ hf)
  · rintro ⟨hid, hfits, hsize⟩
    refine ⟨_, encode_eq_ok_iff.mpr ⟨?_, hsize, rfl⟩⟩
    exact List.forall_mem_cons.mpr ⟨htag, List.forall_mem_cons.mpr ⟨hid, hfits⟩⟩

/-! ## Requests and replies on open files -/

/-- Attributes that are a size alone have two fields. -/
theorem plainFields_size (size : Int) (flags : AttributeFlags) :
    Attributes.plainFields { size := some size } flags =
      [.number .word flags.bits, .number .long size] :=
  rfl

/-- Attributes that are a size alone fit if it does. -/
theorem fits_size_iff (size : Int) :
    Attributes.Fits { size := some size } ↔ Width.long.Fits size := by
  have hflags := AttributeFlags.bits_lt (Attributes.known { size := some size })
  constructor
  · rintro ⟨-, hfits⟩
    rw [plainFields_size] at hfits
    exact hfits _ (List.mem_cons_of_mem _ (List.mem_singleton_self _))
  · intro hlong
    refine ⟨⟨rfl, rfl⟩, ?_⟩
    rw [plainFields_size]
    exact List.forall_mem_cons.mpr ⟨(Width.fits_natCast .word _).mpr hflags,
      List.forall_mem_cons.mpr ⟨hlong, List.forall_mem_nil _⟩⟩

section files

variable (id : Int) (handle data : Bytes) (offset length size : Int)

/-- The length of a body is that of its tag, its request id and its fields. -/
theorem length_layout_message (id : Int) (m : Message) :
    (message id m).layout.length = 5 + m.bytes.length := by
  rw [layout_message, List.length_append, List.length_append, length_bigEndian, length_bigEndian]
  omega

theorem length_layout_read :
    (message id (.read handle offset length)).layout.length = 21 + handle.length := by
  rw [length_layout_message]
  simp only [Message.bytes, Message.fields, List.flatMap_cons, List.flatMap_nil, Field.bytes,
    PlainField.bytes, List.length_append, length_bigEndian, List.length_nil, Width.size]
  omega

theorem length_layout_write :
    (message id (.write handle offset data)).layout.length = 21 + handle.length + data.length := by
  rw [length_layout_message]
  simp only [Message.bytes, Message.fields, List.flatMap_cons, List.flatMap_nil, Field.bytes,
    PlainField.bytes, List.length_append, length_bigEndian, List.length_nil, Width.size]
  omega

theorem length_layout_fstat : (message id (.fstat handle)).layout.length = 9 + handle.length := by
  rw [length_layout_message]
  simp only [Message.bytes, Message.fields, List.flatMap_cons, List.flatMap_nil, Field.bytes,
    PlainField.bytes, List.length_append, length_bigEndian, List.length_nil]
  omega

theorem length_layout_fsetstat_size :
    (message id (.fsetstat handle { size := some size })).layout.length =
      21 + handle.length := by
  rw [length_layout_message]
  simp only [Message.bytes, Message.fields, List.flatMap_cons, List.flatMap_nil, Field.bytes,
    PlainField.bytes, Attributes.bytes, plainFields_size, List.length_append, length_bigEndian,
    List.length_nil, Width.size]
  omega

theorem length_layout_attrs_size :
    (message id (.attrs { size := some size })).layout.length = 17 := by
  rw [length_layout_message]
  simp only [Message.bytes, Message.fields, List.flatMap_cons, List.flatMap_nil, Field.bytes,
    PlainField.bytes, Attributes.bytes, plainFields_size, List.length_append, length_bigEndian,
    List.length_nil, Width.size]

/-- In a reply with data nine bytes stand before them. -/
theorem length_layout_data : (message id (.data data)).layout.length = 9 + data.length := by
  rw [length_layout_message]
  simp only [Message.bytes, Message.fields, List.flatMap_cons, List.flatMap_nil, Field.bytes,
    PlainField.bytes, List.length_append, length_bigEndian, List.length_nil]
  omega

/-- A request to read has a frame if its numbers fit and the handle is not too long. -/
theorem isEncodable_read_iff :
    (message id (.read handle offset length)).IsEncodable ↔
      Width.word.Fits id ∧ Width.long.Fits offset ∧ Width.word.Fits length ∧
        21 + handle.length < Width.word.limit := by
  rw [isEncodable_message_iff, length_layout_read]
  simp only [Message.fields, List.forall_mem_cons, List.not_mem_nil, false_implies, implies_true,
    and_true, Field.Fits, PlainField.Fits]
  constructor
  · rintro ⟨hid, ⟨-, hoffset, hlength⟩, hsize⟩
    exact ⟨hid, hoffset, hlength, hsize⟩
  · rintro ⟨hid, hoffset, hlength, hsize⟩
    exact ⟨hid, ⟨by omega, hoffset, hlength⟩, hsize⟩

/-- A request to write has a frame if its offset fits and its handle and data are not too long. -/
theorem isEncodable_write_iff :
    (message id (.write handle offset data)).IsEncodable ↔
      Width.word.Fits id ∧ Width.long.Fits offset ∧
        21 + handle.length + data.length < Width.word.limit := by
  rw [isEncodable_message_iff, length_layout_write]
  simp only [Message.fields, List.forall_mem_cons, List.not_mem_nil, false_implies, implies_true,
    and_true, Field.Fits, PlainField.Fits]
  constructor
  · rintro ⟨hid, ⟨-, hoffset, -⟩, hsize⟩
    exact ⟨hid, hoffset, hsize⟩
  · rintro ⟨hid, hoffset, hsize⟩
    exact ⟨hid, ⟨by omega, hoffset, by omega⟩, hsize⟩

/-- A request for attributes has a frame if the handle is not too long. -/
theorem isEncodable_fstat_iff :
    (message id (.fstat handle)).IsEncodable ↔
      Width.word.Fits id ∧ 9 + handle.length < Width.word.limit := by
  rw [isEncodable_message_iff, length_layout_fstat]
  simp only [Message.fields, List.forall_mem_cons, List.not_mem_nil, false_implies, implies_true,
    and_true, Field.Fits, PlainField.Fits]
  constructor
  · rintro ⟨hid, -, hsize⟩
    exact ⟨hid, hsize⟩
  · rintro ⟨hid, hsize⟩
    exact ⟨hid, by omega, hsize⟩

/-- A request for another length of a file has a frame if that fits and the handle is not too long. -/
theorem isEncodable_fsetstat_size_iff :
    (message id (.fsetstat handle { size := some size })).IsEncodable ↔
      Width.word.Fits id ∧ Width.long.Fits size ∧ 21 + handle.length < Width.word.limit := by
  rw [isEncodable_message_iff, length_layout_fsetstat_size]
  simp only [Message.fields, List.forall_mem_cons, List.not_mem_nil, false_implies, implies_true,
    and_true, Field.Fits, PlainField.Fits]
  constructor
  · rintro ⟨hid, ⟨-, hattrs⟩, hsize⟩
    exact ⟨hid, (fits_size_iff size).mp hattrs, hsize⟩
  · rintro ⟨hid, hlong, hsize⟩
    exact ⟨hid, ⟨by omega, (fits_size_iff size).mpr hlong⟩, hsize⟩

/-- A reply with data has a frame if they are not too long. -/
theorem isEncodable_data_iff :
    (message id (.data data)).IsEncodable ↔
      Width.word.Fits id ∧ 9 + data.length < Width.word.limit := by
  rw [isEncodable_message_iff, length_layout_data]
  simp only [Message.fields, List.forall_mem_cons, List.not_mem_nil, false_implies, implies_true,
    and_true, Field.Fits, PlainField.Fits]
  constructor
  · rintro ⟨hid, -, hsize⟩
    exact ⟨hid, hsize⟩
  · rintro ⟨hid, hsize⟩
    exact ⟨hid, by omega, hsize⟩

end files

end Packet

/-! ## What is too long -/

/-- A plain field that is proper is refused only because it is too long. -/
theorem PlainField.tooLong_of_write {f : PlainField} {cause : EncodeFault} (h : f.Proper)
    (hwrite : f.write = .error cause) : ∃ length, cause = .tooLong length := by
  have hstring : ∀ bytes : Bytes, writeString bytes = .error cause → ∃ length, cause = .tooLong length := by
    intro bytes hbytes
    unfold writeString at hbytes
    split at hbytes
    · cases hbytes
    · exact ⟨_, (Except.error.inj hbytes).symm⟩
  cases f with
  | number w n =>
    rw [write_of_fits (f := .number w n) h] at hwrite
    cases hwrite
  | openFlags flags =>
    rw [write_of_fits (f := .openFlags flags) h] at hwrite
    cases hwrite
  | string bytes => exact hstring bytes hwrite
  | text t =>
    have hname : writeName t = .error cause := hwrite
    unfold writeName at hname
    rw [Text.IsEncodable.encode?_eq h] at hname
    exact hstring t.bytes hname
  | raw bytes => cases hwrite

/-- So are plain fields one after another. -/
theorem tooLong_of_writeFields {fs : List PlainField} {cause : EncodeFault} (h : ∀ f ∈ fs, f.Proper)
    (hwrite : (writeFields (fs.map Field.plain)).result = .error cause) :
    ∃ length, cause = .tooLong length := by
  induction fs with
  | nil => cases hwrite
  | cons f fs ih =>
    rw [List.map_cons, writeFields, Field.write] at hwrite
    cases hf : f.write with
    | error e =>
      rw [hf] at hwrite
      obtain rfl := Except.error.inj hwrite
      exact PlainField.tooLong_of_write (h f List.mem_cons_self) hf
    | ok bytes =>
      rw [hf] at hwrite
      refine ih (fun g hg => h g (List.mem_cons_of_mem f hg)) ?_
      unfold Written.andThen Written.result at hwrite
      unfold Written.result
      cases hrest : (writeFields (fs.map Field.plain)).fault with
      | none =>
        simp only [Written.ofExcept, hrest] at hwrite
        cases hwrite
      | some e =>
        simp only [Written.ofExcept, hrest] at hwrite
        exact hwrite

/-- **A message without attributes has a frame unless it is too long**, if its fields are proper. -/
theorem Packet.tooLong_of_encode {id : Int} {m : Message} {fs : List PlainField} {cause : EncodeFault}
    (hid : Width.word.Fits id) (hfields : m.fields = fs.map Field.plain) (h : ∀ f ∈ fs, f.Proper)
    (hencode : (message id m).encode = .error cause) : ∃ length, cause = .tooLong length := by
  have hall : (message id m).fields =
      (PlainField.number .byte m.kind.tag :: .number .word id :: fs).map Field.plain := by
    rw [List.map_cons, List.map_cons, ← hfields]
    rfl
  have hproper : ∀ f ∈ PlainField.number .byte m.kind.tag :: .number .word id :: fs, f.Proper :=
    List.forall_mem_cons.mpr ⟨(Width.fits_natCast _ _).mpr (PacketKind.tag_lt m.kind),
      List.forall_mem_cons.mpr ⟨hid, h⟩⟩
  unfold encode body at hencode
  rw [hall] at hencode
  cases hwrite : (writeFields
      ((PlainField.number .byte m.kind.tag :: .number .word id :: fs).map Field.plain)).result with
  | error e =>
    rw [hwrite] at hencode
    obtain rfl := Except.error.inj hencode
    exact tooLong_of_writeFields hproper hwrite
  | ok bytes =>
    rw [hwrite] at hencode
    have hframe : writeString bytes = .error cause := hencode
    unfold writeString at hframe
    split at hframe
    · cases hframe
    · exact ⟨_, (Except.error.inj hframe).symm⟩

end Sftp
