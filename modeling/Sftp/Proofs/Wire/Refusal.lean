import Sftp.Fault
import Sftp.Proofs.Wire.Accepted

/-!
# What is refused

A number that does not fit is never cut down, and half a pair of attributes is never dropped: the packet
has no frame, and the fault tells which integer or which pair it was. Tags and counts always fit, since each
thing that is counted takes a byte of a body that is not too long.

* `Field.numbers`, `Field.blocks` — what may be wrong with a field; `Packet.mem_numbers_iff`,
  `Packet.flatMap_blocks` — the integers and blocks of a packet, field by field.
* `EncodeFault.IsAbout` — a fault is about one of some integers or one of some blocks;
  `Field.isAbout_of_write` — what a field was refused for.
* **`Packet.isEncodable_iff_contents`** — the packets that have a frame, and why the others have none.
-/

namespace Sftp

/-! ## What a fault is about -/

/-- The attribute that travels with another. -/
def PairedAttribute.other : PairedAttribute → PairedAttribute
  | uid => gid
  | gid => uid
  | atime => mtime
  | mtime => atime

/-- An attribute that travels in a pair. -/
def Attributes.paired (a : Attributes) : PairedAttribute → Option Int
  | .uid => a.uid
  | .gid => a.gid
  | .atime => a.atime
  | .mtime => a.mtime

/-- A fault is about one of these integers, which does not fit, or about one of these blocks, of which
an attribute is known without the other of its pair. -/
inductive EncodeFault.IsAbout (numbers : List (Width × Int)) (blocks : List Attributes) :
    EncodeFault → Prop
  /-- An integer. -/
  | number {w : Width} {n : Int} (hmem : (w, n) ∈ numbers) (h : ¬ w.Fits n) :
    IsAbout numbers blocks (outOfRange w n)
  /-- Open flags. -/
  | openFlags {flags : OpenFlags} (hmem : (Width.word, (flags.bits : Int)) ∈ numbers)
    (h : ¬ Width.word.Fits flags.bits) : IsAbout numbers blocks (flagsOutOfRange flags)
  /-- Half a pair. -/
  | halfPair {a : Attributes} {present : PairedAttribute} (hmem : a ∈ blocks)
    (hpresent : (a.paired present).isSome) (hmissing : a.paired present.other = none) :
    IsAbout numbers blocks (halfPair present present.other)

namespace EncodeFault

variable {numbers numbers' : List (Width × Int)} {blocks blocks' : List Attributes} {cause : EncodeFault}

/-- Integers that fit may be left out. -/
theorem IsAbout.mono (h : cause.IsAbout numbers blocks)
    (hnumbers : ∀ e ∈ numbers, e ∈ numbers' ∨ e.1.Fits e.2) (hblocks : ∀ a ∈ blocks, a ∈ blocks') :
    cause.IsAbout numbers' blocks' := by
  cases h with
  | number hmem h => exact .number ((hnumbers _ hmem).resolve_right h) h
  | openFlags hmem h => exact .openFlags ((hnumbers _ hmem).resolve_right h) h
  | halfPair hmem hpresent hmissing => exact .halfPair (hblocks _ hmem) hpresent hmissing

/-- Such a fault is about a value. -/
theorem IsAbout.category (h : cause.IsAbout numbers blocks) :
    (Fault.unencodable cause).category = .invalid := by
  cases h <;> rfl

end EncodeFault

/-! ## Plain fields -/

/-- A number is refused for itself. -/
theorem PlainField.cause_of_write_number {w : Width} {n : Int} {cause : EncodeFault}
    (h : (number w n).write = .error cause) : ¬ w.Fits n ∧ cause = .outOfRange w n := by
  have hwrite : writeNumber w n = .error cause := h
  unfold writeNumber at hwrite
  split at hwrite
  · cases hwrite
  · rename_i hn
    exact ⟨hn, (Except.error.inj hwrite).symm⟩

/-- Open flags are refused for themselves. -/
theorem PlainField.cause_of_write_openFlags {flags : OpenFlags} {cause : EncodeFault}
    (h : (openFlags flags).write = .error cause) :
    ¬ Width.word.Fits flags.bits ∧ cause = .flagsOutOfRange flags := by
  have hwrite : writeOpenFlags flags = .error cause := h
  unfold writeOpenFlags at hwrite
  split at hwrite
  · cases hwrite
  · rename_i hflags
    exact ⟨mt (Width.fits_natCast _ _).mp hflags, (Except.error.inj hwrite).symm⟩

/-- A plain field that is proper and not too long is not refused. -/
theorem PlainField.Proper.write_ne {f : PlainField} (h : f.Proper)
    (hlength : f.bytes.length < Width.word.limit) (cause : EncodeFault) : f.write ≠ .error cause := by
  intro hwrite
  rw [write_of_fits (h.fits hlength)] at hwrite
  cases hwrite

/-- Plain fields are refused for one of them. -/
theorem exists_of_writePlain {fs : List PlainField} {cause : EncodeFault}
    (h : (writePlain fs).fault = some cause) : ∃ f ∈ fs, f.write = .error cause := by
  induction fs with
  | nil => cases h
  | cons f fs ih =>
    rw [writePlain] at h
    cases hfirst : f.write with
    | error e =>
      rw [hfirst] at h
      obtain rfl := Option.some.inj h
      exact ⟨f, List.mem_cons_self, hfirst⟩
    | ok first =>
      rw [hfirst] at h
      obtain ⟨g, hg, hwrite⟩ := ih h
      exact ⟨g, List.mem_cons_of_mem f hg, hwrite⟩

/-! ## Attribute blocks -/

/-- A pair is refused if one half is known and the other is not. -/
theorem halfPair_of_pairPresent {first second : PairedAttribute} {m n : Option Int}
    {cause : EncodeFault} (h : pairPresent first m second n = .error cause) :
    (cause = .halfPair first second ∧ m.isSome ∧ n = none) ∨
      (cause = .halfPair second first ∧ n.isSome ∧ m = none) := by
  cases m with
  | none =>
    cases n with
    | none => cases h
    | some k => exact .inr ⟨(Except.error.inj h).symm, rfl, rfl⟩
  | some j =>
    cases n with
    | none => exact .inl ⟨(Except.error.inj h).symm, rfl, rfl⟩
    | some k => cases h

namespace Attributes

variable {a : Attributes} {cause : EncodeFault}

/-- A block has no flags if it has half a pair. -/
theorem halfPair_of_flags (h : a.flags = .error cause) :
    ∃ present : PairedAttribute, cause = .halfPair present present.other ∧
      (a.paired present).isSome ∧ a.paired present.other = none := by
  unfold flags at h
  cases howners : pairPresent .uid a.uid .gid a.gid with
  | error e =>
    rw [howners] at h
    obtain rfl := Except.error.inj h
    rcases halfPair_of_pairPresent howners with h | h
    · exact ⟨.uid, h⟩
    · exact ⟨.gid, h⟩
  | ok owners =>
    cases htimes : pairPresent .atime a.atime .mtime a.mtime with
    | error e =>
      rw [howners, htimes] at h
      obtain rfl := Except.error.inj h
      rcases halfPair_of_pairPresent htimes with h | h
      · exact ⟨.atime, h⟩
      · exact ⟨.mtime, h⟩
    | ok times =>
      rw [howners, htimes] at h
      cases h

/-- A number that is present if it is known. -/
theorem mem_numberField {w : Width} {n : Option Int} {f : PlainField} (hf : f ∈ numberField w n) :
    ∃ k, n = some k ∧ f = .number w k := by
  cases n with
  | none => cases hf
  | some k => exact ⟨k, rfl, List.mem_singleton.mp hf⟩

/-- The vendor attributes are their count, their names and their data. -/
theorem mem_extendedFields {pairs : List (Text × Bytes)} {f : PlainField} (hf : f ∈ extendedFields pairs) :
    (f = .number .word pairs.length ∧ pairs ≠ []) ∨ ∃ p ∈ pairs, f = .text p.1 ∨ f = .string p.2 := by
  unfold extendedFields at hf
  split at hf
  · cases hf
  · rename_i hne
    rcases List.mem_cons.mp hf with rfl | hf
    · exact .inl ⟨rfl, by simpa using hne⟩
    · obtain ⟨p, hp, hf⟩ := List.mem_flatMap.mp hf
      exact .inr ⟨p, hp, by simpa using hf⟩

/-- The vendor attributes are at most as many as the bytes of their block. -/
theorem length_extended_le (h : a.extended ≠ []) : a.extended.length ≤ a.bytes.length := by
  have hne : ¬ a.extended.isEmpty := by simpa using h
  have hcard := length_pairs_le a.extended
  rw [← flatMap_bytes_pairs] at hcard
  unfold bytes plainFields extendedFields
  rw [if_neg hne]
  simp only [List.flatMap_append, List.flatMap_cons, List.length_append]
  omega

/-- A field of a block that is not too long is one of its integers, or it is proper. -/
theorem mem_numbers_or_proper {f : PlainField} (hlength : a.bytes.length < Width.word.limit)
    (htexts : ∀ t ∈ a.texts, t.IsEncodable) (hf : f ∈ a.plainFields a.known) :
    (∃ e ∈ a.numbers, f = .number e.1 e.2) ∨ f.Proper := by
  simp only [plainFields, List.mem_append, List.mem_cons] at hf
  rcases hf with (((((((rfl | hf) | hf) | hf) | hf) | hf) | hf)) | hf
  · exact .inr ((Width.fits_natCast _ _).mpr a.known.bits_lt)
  · obtain ⟨k, hk, rfl⟩ := mem_numberField hf
    exact .inl ⟨(.long, k), by simp [numbers, hk], rfl⟩
  iterate 5
    · obtain ⟨k, hk, rfl⟩ := mem_numberField hf
      exact .inl ⟨(.word, k), by simp [numbers, hk], rfl⟩
  · rcases mem_extendedFields hf with ⟨rfl, hne⟩ | ⟨p, hp, rfl | rfl⟩
    · exact .inr ((Width.fits_natCast _ _).mpr (Nat.lt_of_le_of_lt (length_extended_le hne) hlength))
    · exact .inr (htexts p.1 (List.mem_map_of_mem hp))
    · exact .inr trivial

/-- A block that is not too long, and whose texts have bytes, is refused for one of its integers or for
half a pair. -/
theorem isAbout_of_write (hlength : a.bytes.length < Width.word.limit)
    (htexts : ∀ t ∈ a.texts, t.IsEncodable) (h : a.write.fault = some cause) :
    cause.IsAbout a.numbers [a] := by
  unfold write at h
  cases hflags : a.flags with
  | error e =>
    rw [hflags] at h
    obtain rfl := Option.some.inj h
    obtain ⟨present, rfl, hpresent, hmissing⟩ := halfPair_of_flags hflags
    exact .halfPair List.mem_cons_self hpresent hmissing
  | ok flags =>
    rw [hflags] at h
    obtain ⟨-, rfl⟩ := flags_eq_ok hflags
    obtain ⟨f, hf, hwrite⟩ := exists_of_writePlain h
    have hshort := Nat.lt_of_le_of_lt (length_le_length_flatMap hf) hlength
    rcases mem_numbers_or_proper hlength htexts hf with ⟨e, he, rfl⟩ | hproper
    · obtain ⟨hn, rfl⟩ := PlainField.cause_of_write_number hwrite
      exact .number he hn
    · exact absurd hwrite (hproper.write_ne hshort cause)

end Attributes

/-! ## Fields -/

namespace Field

/-- The integers of a field, each with its width. -/
def numbers : Field → List (Width × Int)
  | plain (.number w n) => [(w, n)]
  | plain (.openFlags flags) => [(.word, flags.bits)]
  | attributes a => a.numbers
  | _ => []

/-- The attribute blocks of a field. -/
def blocks : Field → List Attributes
  | attributes a => [a]
  | _ => []

variable {f : Field} {cause : EncodeFault}

/-- What was written had integers that fit. -/
theorem Fits.numbers (h : f.Fits) : ∀ e ∈ f.numbers, e.1.Fits e.2 := by
  cases f with
  | plain f =>
    cases f with
    | number w n => exact List.forall_mem_singleton.mpr h
    | openFlags flags => exact List.forall_mem_singleton.mpr ((Width.fits_natCast _ _).mpr h)
    | _ => exact List.forall_mem_nil _
  | attributes a =>
    intro e he
    obtain ⟨g, hg, hge⟩ := List.mem_map.mp (WasRead.mem_of_mem_numbers he)
    obtain rfl := Field.plain.inj hge
    exact h.2 _ hg

/-- What was written had complete pairs. -/
theorem Fits.blocks (h : f.Fits) : ∀ a ∈ f.blocks, a.PairsComplete := by
  cases f with
  | plain f => exact List.forall_mem_nil _
  | attributes a => exact List.forall_mem_singleton.mpr h.1

/-- **A field that is not too long, and whose texts have bytes, is refused for one of its integers or for
half a pair.** -/
theorem isAbout_of_write (hlength : f.bytes.length < Width.word.limit)
    (htexts : ∀ t ∈ f.texts, t.IsEncodable) (h : f.write.fault = some cause) :
    cause.IsAbout f.numbers f.blocks := by
  cases f with
  | attributes a => exact Attributes.isAbout_of_write hlength htexts h
  | plain f =>
    have hwrite : f.write = .error cause := by
      cases hf : f.write with
      | ok b =>
        simp only [write, hf] at h
        cases h
      | error e =>
        simp only [write, hf] at h
        obtain rfl := Option.some.inj h
        rfl
    cases f with
    | number w n =>
      obtain ⟨hn, rfl⟩ := PlainField.cause_of_write_number hwrite
      exact .number List.mem_cons_self hn
    | openFlags flags =>
      obtain ⟨hn, rfl⟩ := PlainField.cause_of_write_openFlags hwrite
      exact .openFlags List.mem_cons_self hn
    | string b =>
      exact absurd hwrite (PlainField.Proper.write_ne (f := .string b) trivial hlength cause)
    | text t =>
      have hproper : PlainField.Proper (.text t) := htexts t List.mem_cons_self
      exact absurd hwrite (hproper.write_ne hlength cause)
    | raw b => cases hwrite

end Field

/-- Fields are refused for one of them. -/
theorem exists_of_writeFields {fs : List Field} {cause : EncodeFault}
    (h : (writeFields fs).result = .error cause) : ∃ f ∈ fs, f.write.fault = some cause := by
  induction fs with
  | nil => cases h
  | cons f fs ih =>
    rw [writeFields] at h
    rcases hfirst : f.write with ⟨first, _ | e⟩
    · rcases hrest : writeFields fs with ⟨rest, _ | e⟩
      · simp only [hfirst, hrest, Written.andThen, Written.result] at h
        cases h
      · simp only [hfirst, hrest, Written.andThen, Written.result] at h
        obtain ⟨g, hg, hwrite⟩ := ih (by rw [hrest]; exact h)
        exact ⟨g, List.mem_cons_of_mem f hg, hwrite⟩
    · rw [hfirst] at h
      obtain rfl := Except.error.inj h
      exact ⟨f, List.mem_cons_self, congrArg Written.fault hfirst⟩

/-! ## Packets -/

/-- The counts in a message. -/
def Message.counts : Message → List (Width × Int)
  | name entries => [(.word, entries.length)]
  | _ => []

namespace Message

/-- The integers of a message stand in its fields, and the counts besides. -/
theorem flatMap_numbers (m : Message) : m.fields.flatMap Field.numbers = m.counts ++ m.numbers := by
  cases m with
  | name entries =>
    simp only [fields, numbers, counts, List.flatMap_cons, List.flatMap_assoc]
    simp [NameEntry.fields, Field.numbers]
  | _ => simp [fields, numbers, counts, Field.numbers]

/-- The blocks of a message stand in its fields. -/
theorem flatMap_blocks (m : Message) : m.fields.flatMap Field.blocks = m.blocks := by
  cases m with
  | name entries =>
    simp only [fields, blocks, List.flatMap_cons, List.flatMap_assoc, List.map_eq_flatMap]
    rfl
  | _ => simp [fields, blocks, Field.blocks]

/-- Counts fit if the bytes of a message are not too many. -/
theorem fits_of_mem_counts {m : Message} {e : Width × Int} (he : e ∈ m.counts)
    (hsize : m.bytes.length < Width.word.limit) : e.1.Fits e.2 := by
  cases m with
  | name entries =>
    obtain rfl := List.mem_singleton.mp he
    have hcard := length_entries_le entries
    simp only [bytes, fields, List.flatMap_cons, List.length_append] at hsize
    have hcount : entries.length < Width.word.limit := by omega
    exact (Width.fits_natCast _ _).mpr hcount
  | _ => cases he

end Message

namespace Packet

/-- The numbers of a packet that are not its own: its tag and what it counts. -/
def counts (p : Packet) : List (Width × Int) :=
  (.byte, p.kind.tag) :: match p with
    | message _ m => m.counts
    | _ => []

/-- An integer stands in a field of a packet if it is one of its integers, its tag or one of its counts. -/
theorem mem_numbers_iff {p : Packet} {e : Width × Int} :
    (∃ f ∈ p.fields, e ∈ f.numbers) ↔ e ∈ p.numbers ∨ e ∈ p.counts := by
  rw [← List.mem_flatMap]
  cases p with
  | init v x | version v x =>
    simp [fields, numbers, counts, flatMap_pairFields, Field.numbers, or_comm]
  | message id m =>
    simp only [fields, numbers, counts, List.flatMap_cons, Message.flatMap_numbers, List.mem_append,
      List.mem_cons, Field.numbers, List.not_mem_nil, or_false]
    simp only [or_assoc, or_left_comm, or_comm]

/-- A block stands in a field of a packet if it is one of its blocks. -/
theorem flatMap_blocks (p : Packet) : p.fields.flatMap Field.blocks = p.blocks := by
  cases p with
  | init v x | version v x => simp [fields, blocks, flatMap_pairFields, Field.blocks]
  | message id m => exact m.flatMap_blocks

/-- Tags and counts fit if the body of a packet is not too long. -/
theorem fits_of_mem_counts {p : Packet} {e : Width × Int} (he : e ∈ p.counts)
    (hsize : p.layout.length < Width.word.limit) : e.1.Fits e.2 := by
  rcases List.mem_cons.mp he with rfl | he
  · exact (Width.fits_natCast _ _).mpr (PacketKind.tag_lt p.kind)
  · cases p with
    | init v x | version v x => cases he
    | message id m =>
      refine Message.fits_of_mem_counts he (Nat.lt_of_le_of_lt ?_ hsize)
      rw [length_layout_message]
      exact Nat.le_add_left _ _

/-- **A packet that is not too long, and whose texts have bytes, has a frame or a fault**, and the fault is
about one of its integers or one of its blocks. -/
theorem isAbout_of_encode {p : Packet} {cause : EncodeFault} (htexts : ∀ t ∈ p.texts, t.IsEncodable)
    (hsize : p.layout.length < Width.word.limit) (h : p.encode = .error cause) :
    cause.IsAbout p.numbers p.blocks := by
  have hbody : p.body = .error cause := by
    cases hbody : p.body with
    | error e =>
      unfold encode at h
      rw [hbody] at h
      exact h
    | ok bytes =>
      have hfits := fits_of_writeFields hbody
      rw [encode_eq_ok_iff.mpr ⟨hfits, hsize, rfl⟩] at h
      cases h
  obtain ⟨f, hf, hwrite⟩ := exists_of_writeFields hbody
  have htexts : ∀ t ∈ f.texts, t.IsEncodable := by
    intro t ht
    refine htexts t ?_
    rw [← flatMap_texts]
    exact List.mem_flatMap.mpr ⟨f, hf, ht⟩
  have hlength := Nat.lt_of_le_of_lt (length_le_length_flatMap hf) hsize
  refine (Field.isAbout_of_write hlength htexts hwrite).mono ?_ ?_
  · intro e he
    exact (mem_numbers_iff.mp ⟨f, hf, he⟩).imp_right fun hcount => fits_of_mem_counts hcount hsize
  · intro a ha
    rw [← flatMap_blocks]
    exact List.mem_flatMap.mpr ⟨f, hf, ha⟩

/-- **A packet has a frame if its integers fit and its pairs are complete, and only then.** -/
theorem isEncodable_iff_contents {p : Packet} (htexts : ∀ t ∈ p.texts, t.IsEncodable)
    (hsize : p.layout.length < 0x100000000) :
    ((∃ frame, p.encode = .ok frame) ↔
        (∀ e ∈ p.numbers, e.1.Fits e.2) ∧ ∀ a ∈ p.blocks, a.PairsComplete) ∧
      (∀ frame, p.encode = .ok frame → frame = bigEndian 4 p.layout.length ++ p.layout) ∧
      ∀ cause, p.encode = .error cause →
        cause.IsAbout p.numbers p.blocks ∧ (Fault.unencodable cause).category = .invalid := by
  refine ⟨⟨?_, ?_⟩, ?_, ?_⟩
  · rintro ⟨frame, hframe⟩
    obtain ⟨hfits, -, -⟩ := encode_eq_ok_iff.mp hframe
    constructor
    · intro e he
      obtain ⟨f, hf, hfe⟩ := mem_numbers_iff.mpr (.inl he)
      exact (hfits f hf).numbers e hfe
    · intro a ha
      rw [← flatMap_blocks] at ha
      obtain ⟨f, hf, hfa⟩ := List.mem_flatMap.mp ha
      exact (hfits f hf).blocks a hfa
  · rintro ⟨hnumbers, hblocks⟩
    exact ⟨_, encode_of_contents hnumbers hblocks htexts hsize⟩
  · intro frame hframe
    exact (encode_eq_ok_iff.mp hframe).2.2
  · intro cause hcause
    have habout := isAbout_of_encode htexts hsize hcause
    exact ⟨habout, habout.category⟩

/-- A listing of two files, of which the second has an owner one above the greatest. -/
def sampleOwners : Packet :=
  .message 1 (.name [
    { filename := "a", longname := "-", attrs := { uid := some 0, gid := some 0 } },
    { filename := "b", longname := "-", attrs := { uid := some 0x100000000, gid := some 0 } }])

/-- The listing has no frame: what is said of the owner is not the remainder that four bytes would hold. -/
theorem isEncodable_iff_contents_sampleOwners :
    (∀ t ∈ sampleOwners.texts, t.IsEncodable) ∧ sampleOwners.layout.length < 0x100000000 ∧
      (¬ ∃ frame, sampleOwners.encode = .ok frame) ∧
      ∃ cause, sampleOwners.encode = .error cause ∧ (Fault.unencodable cause).category = .invalid := by
  have htexts : ∀ t ∈ sampleOwners.texts, t.IsEncodable := by
    intro t ht
    have hreads : t.ReadsBack := by
      revert t
      simp [sampleOwners, texts, Message.texts, Attributes.texts, Text.readsBack_ofString]
    exact hreads.1
  have hsize : sampleOwners.layout.length < 0x100000000 := by decide +kernel
  have hcontents := isEncodable_iff_contents htexts hsize
  have hnone : ¬ ∃ frame, sampleOwners.encode = .ok frame := by
    rw [hcontents.1]
    rintro ⟨hnumbers, -⟩
    have howner := hnumbers (.word, 0x100000000) (by decide +kernel)
    exact absurd howner (by decide +kernel)
  refine ⟨htexts, hsize, hnone, ?_⟩
  cases hencode : sampleOwners.encode with
  | ok frame => exact absurd ⟨frame, hencode⟩ hnone
  | error cause => exact ⟨cause, rfl, (hcontents.2.2 cause hencode).2⟩

end Packet

end Sftp
