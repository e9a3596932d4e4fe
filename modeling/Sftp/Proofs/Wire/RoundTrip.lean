import Sftp.Proofs.Wire.ReadBack

/-!
# Packets are read back from their frames

The layout of each kind of packet and the reader of that kind are written apart. Here they are put
side by side, kind by kind:

* `Reader.readsAll_message`, `Reader.readsAll_packet` — the reader of a packet's kind takes the
  bytes of that packet.
* `Text.readsBack_ofString`, `Text.readsBack_decode` — which texts their bytes stand for.
* **`Packet.decode_of_encode`** — a packet that can be written is read back from its frame.
-/

namespace Sftp

namespace Reader

/-- The reader of a message's kind takes the request id and the fields of the message. -/
theorem readsAll_message {m : Message} {n : Nat} (hn : n < Width.word.limit)
    (hfits : ∀ f ∈ m.fields, f.Fits) (ht : ∀ t ∈ m.texts, t.ReadsBack) :
    ReadsAll (packetOfKind m.kind) (bigEndian 4 n ++ m.bytes) (.message n m) := by
  refine (reads_natNumber (w := .word) hn).bindAll ?_
  cases m with
  | lstat path | opendir path | remove path | rmdir path | realpath path | stat path
  | readlink path =>
    have h1 : Field.Fits (.text path) := hfits _ (by simp [Message.fields])
    have ht1 : path.ReadsBack := ht _ (by simp [Message.texts])
    refine Reads.all ?_
    refine (reads_name ht1 h1.2).bind ?_
    exact reads_pure _
  | close b | fstat b | readdir b | handle b | data b =>
    have h1 : Field.Fits (.string b) := hfits _ (by simp [Message.fields])
    refine Reads.all ?_
    refine (reads_string h1).bind ?_
    exact reads_pure _
  | setstat path a | mkdir path a =>
    have h1 : Field.Fits (.text path) := hfits _ (by simp [Message.fields])
    have h2 : Field.Fits (.attributes a) := hfits _ (by simp [Message.fields])
    have ht1 : path.ReadsBack := ht _ (by simp [Message.texts])
    have ht2 : ∀ t ∈ a.texts, t.ReadsBack := fun t hmem => ht t (by simp [Message.texts, hmem])
    refine Reads.all ?_
    refine (reads_name ht1 h1.2).bind ?_
    refine (reads_attributes h2 ht2).bind ?_
    exact reads_pure _
  | rename old new | symlink old new =>
    have h1 : Field.Fits (.text old) := hfits _ (by simp [Message.fields])
    have h2 : Field.Fits (.text new) := hfits _ (by simp [Message.fields])
    have ht1 : old.ReadsBack := ht _ (by simp [Message.texts])
    have ht2 : new.ReadsBack := ht _ (by simp [Message.texts])
    refine Reads.all ?_
    refine (reads_name ht1 h1.2).bind ?_
    refine (reads_name ht2 h2.2).bind ?_
    exact reads_pure _
  | openFile path flags a =>
    have h1 : Field.Fits (.text path) := hfits _ (by simp [Message.fields])
    have h2 : Field.Fits (.openFlags flags) := hfits _ (by simp [Message.fields])
    have h3 : Field.Fits (.attributes a) := hfits _ (by simp [Message.fields])
    have ht1 : path.ReadsBack := ht _ (by simp [Message.texts])
    have ht2 : ∀ t ∈ a.texts, t.ReadsBack := fun t hmem => ht t (by simp [Message.texts, hmem])
    refine Reads.all ?_
    refine (reads_name ht1 h1.2).bind ?_
    refine (reads_openFlags h2).bind ?_
    refine (reads_attributes h3 ht2).bind ?_
    exact reads_pure _
  | read b offset length =>
    have h1 : Field.Fits (.string b) := hfits _ (by simp [Message.fields])
    have h2 : Field.Fits (.number .long offset) := hfits _ (by simp [Message.fields])
    have h3 : Field.Fits (.number .word length) := hfits _ (by simp [Message.fields])
    obtain ⟨offset, rfl⟩ := Int.eq_ofNat_of_zero_le h2.1
    obtain ⟨length, rfl⟩ := Int.eq_ofNat_of_zero_le h3.1
    refine Reads.all ?_
    refine (reads_string h1).bind ?_
    refine (reads_number h2).bind ?_
    refine (reads_number h3).bind ?_
    exact reads_pure _
  | write b offset d =>
    have h1 : Field.Fits (.string b) := hfits _ (by simp [Message.fields])
    have h2 : Field.Fits (.number .long offset) := hfits _ (by simp [Message.fields])
    have h3 : Field.Fits (.string d) := hfits _ (by simp [Message.fields])
    obtain ⟨offset, rfl⟩ := Int.eq_ofNat_of_zero_le h2.1
    refine Reads.all ?_
    refine (reads_string h1).bind ?_
    refine (reads_number h2).bind ?_
    refine (reads_string h3).bind ?_
    exact reads_pure _
  | fsetstat b a =>
    have h1 : Field.Fits (.string b) := hfits _ (by simp [Message.fields])
    have h2 : Field.Fits (.attributes a) := hfits _ (by simp [Message.fields])
    refine Reads.all ?_
    refine (reads_string h1).bind ?_
    refine (reads_attributes h2 ht).bind ?_
    exact reads_pure _
  | extended request d =>
    have h1 : Field.Fits (.text request) := hfits _ (by simp [Message.fields])
    have ht1 : request.ReadsBack := ht _ (by simp [Message.texts])
    refine (reads_name ht1 h1.2).bindAll ?_
    have hlast := (readsAll_rest d).bindPure fun data =>
      Packet.message n (.extended request data)
    rwa [← List.append_nil (PlainField.bytes _)] at hlast
  | status code message lang =>
    have h1 : Field.Fits (.number .word code) := hfits _ (by simp [Message.fields])
    have h2 : Field.Fits (.text message) := hfits _ (by simp [Message.fields])
    have h3 : Field.Fits (.text lang) := hfits _ (by simp [Message.fields])
    have ht1 : message.ReadsBack := ht _ (by simp [Message.texts])
    have ht2 : lang.ReadsBack := ht _ (by simp [Message.texts])
    obtain ⟨code, rfl⟩ := Int.eq_ofNat_of_zero_le h1.1
    refine Reads.all ?_
    refine (reads_number h1).bind ?_
    refine (reads_optionalName ht1 h2.2).bind ?_
    refine (reads_optionalName ht2 h3.2).bind ?_
    exact reads_pure _
  | name entries =>
    have hcount : Field.Fits (.number .word entries.length) :=
      hfits _ (by simp [Message.fields])
    have hentry : ∀ e ∈ entries, Reads nameEntry (e.fields.flatMap Field.bytes) e := by
      intro e he
      have hmem : ∀ t ∈ e.filename :: e.longname :: e.attrs.texts, t.ReadsBack := fun t hmem =>
        ht t (List.mem_flatMap.mpr ⟨e, he, hmem⟩)
      refine reads_nameEntry (fun f hf => hfits f ?_) (hmem _ (by simp)) (hmem _ (by simp))
        fun t ht => hmem t (by simp [ht])
      exact List.mem_cons_of_mem _ (List.mem_flatMap.mpr ⟨e, he, hf⟩)
    refine Reads.all ?_
    have hread := (reads_times hentry).bindPure fun entries => Packet.message n (.name entries)
    rw [← List.flatMap_assoc] at hread
    exact (reads_natNumber (w := .word) ((Width.fits_natCast _ _).mp hcount)).bind hread
  | attrs a =>
    have h1 : Field.Fits (.attributes a) := hfits _ (by simp [Message.fields])
    refine Reads.all ?_
    refine (reads_attributes h1 ht).bind ?_
    exact reads_pure _
  | extendedReply d =>
    have hlast := (readsAll_rest d).bindPure fun data => Packet.message n (.extendedReply data)
    rwa [← List.append_nil (PlainField.bytes _)] at hlast

/-- **The reader of packets takes the body of a packet** of which nothing is refused. -/
theorem readsAll_packet {p : Packet} (hfits : ∀ f ∈ p.fields, f.Fits)
    (ht : ∀ t ∈ p.texts, t.ReadsBack) : ReadsAll packet p.layout p := by
  refine (reads_natNumber (w := .byte) (PacketKind.tag_lt p.kind)).bindAll ?_
  rw [PacketKind.ofTag?_tag]
  cases p with
  | init v x | version v x =>
    have hhead : Field.Fits (.number .word v) := hfits _ (by simp [Packet.fields])
    obtain ⟨v, rfl⟩ := Int.eq_ofNat_of_zero_le hhead.1
    have hpairs : ∀ f ∈ pairFields x.entries, f.Fits := fun f hf =>
      hfits f (List.mem_cons_of_mem _ (List.mem_cons_of_mem _ hf))
    have htexts : ∀ e ∈ x.entries, e.1.ReadsBack := fun e he => ht e.1 (List.mem_map_of_mem he)
    refine (reads_number hhead).bindAll ?_
    exact (readsAll_extensions hpairs htexts).bindPure _
  | message id m =>
    have hhead : Field.Fits (.number .word id) := hfits _ (by simp [Packet.fields])
    obtain ⟨n, rfl⟩ := Int.eq_ofNat_of_zero_le hhead.1
    refine readsAll_message ((Width.fits_natCast _ _).mp hhead) (fun f hf => ?_) ht
    exact hfits f (List.mem_cons_of_mem _ (List.mem_cons_of_mem _ hf))

end Reader

/-! ## Texts that read back -/

namespace Text

/-- Every byte sequence stands for a text that reads back. -/
theorem readsBack_decode (b : Bytes) : (decode b).ReadsBack := by
  have hencode := encode?_decode b
  refine ⟨?_, ?_⟩
  · unfold IsEncodable
    rw [hencode]
    rfl
  · unfold bytes
    rw [hencode]
    rfl

/-- Scalar values are encoded one by one. -/
theorem mapM_encode?_scalar (cs : List Char) :
    (cs.map Glyph.scalar).mapM Glyph.encode? = some (cs.map String.utf8EncodeChar) := by
  induction cs with
  | nil => rfl
  | cons c cs ih =>
    rw [List.map_cons, List.mapM_cons, ih]
    rfl

/-- Every text of scalar values reads back. -/
theorem readsBack_ofString (s : String) : (ofString s).ReadsBack := by
  have hencode : (ofString s).encode? = some (s.toList.flatMap String.utf8EncodeChar) := by
    show ((s.toList.map Glyph.scalar).mapM Glyph.encode?).map List.flatten = _
    rw [mapM_encode?_scalar]
    rfl
  refine ⟨?_, ?_⟩
  · unfold IsEncodable
    rw [hencode]
    rfl
  · unfold bytes
    rw [hencode]
    exact congrArg Text.mk (decode_flatMap_utf8EncodeChar s.toList)

end Text

/-! ## Frames -/

/-- A body is taken out of its frame. -/
theorem unframe_frame {body : Bytes} (h : body.length < Width.word.limit) :
    unframe (bigEndian 4 body.length ++ body) = .ok body := by
  have hlength : ¬ (bigEndian 4 body.length ++ body).length < 4 := by simp
  have hstated : ofBigEndian (bigEndian 4 body.length) = body.length := ofBigEndian_bigEndian h
  have htake : (bigEndian 4 body.length ++ body).take 4 = bigEndian 4 body.length :=
    List.take_left' (length_bigEndian _ _)
  have hdrop : (bigEndian 4 body.length ++ body).drop 4 = body :=
    List.drop_left' (length_bigEndian _ _)
  unfold unframe
  rw [if_neg hlength, htake, hdrop, hstated]
  exact if_pos rfl

namespace Packet

/-- **Packets are read back from their frames.** Texts of scalar values and texts that came from
bytes are the ones their bytes stand for. Any packet all of whose texts are such, whose integers fit
their widths, whose pairs of attributes are complete and whose body is shorter than `2 ^ 32` bytes
has a frame, and decoding the frame gives the packet. -/
theorem decode_of_encode :
    (∀ s : String, (Text.ofString s).ReadsBack) ∧ (∀ b : Bytes, (Text.decode b).ReadsBack) ∧
      ∀ p : Packet, (∀ e ∈ p.numbers, e.1.Fits e.2) → (∀ a ∈ p.blocks, a.PairsComplete) →
        (∀ t ∈ p.texts, t.ReadsBack) → p.layout.length < 0x100000000 →
        p.body = .ok p.layout ∧ ∃ frame, p.encode = .ok frame ∧ decode frame = .ok p := by
  refine ⟨Text.readsBack_ofString, Text.readsBack_decode, ?_⟩
  intro p hnumbers hblocks htexts hsize
  have hencodable : ∀ t ∈ p.texts, t.IsEncodable := fun t ht => (htexts t ht).1
  have hproper := proper_of_mem_fields hnumbers hblocks hencodable hsize
  have hfits : ∀ f ∈ p.fields, f.Fits := fun f hf =>
    (hproper f hf).fits (Nat.lt_of_le_of_lt (length_le_length_flatMap hf) hsize)
  refine ⟨body_of_proper hproper hsize, _, encode_of_contents hnumbers hblocks hencodable hsize, ?_⟩
  have hread : ofBody p.layout = .ok p := congrArg Prod.fst (Reader.readsAll_packet hfits htexts)
  unfold decode
  rw [unframe_frame hsize]
  exact hread

/-- A listing of one file: its name is no UTF-8, it has the greatest length, an owner and a group,
and a vendor attribute. -/
def sampleListing : Packet :=
  .message 0xFFFFFFFF (.name [{
    filename := Text.decode [0x61, 0xFF]
    longname := "x"
    attrs := {
      size := some 0xFFFFFFFFFFFFFFFF
      uid := some 0
      gid := some 1
      extended := [("e", [1, 2])] } }])

/-- The listing meets every condition of `decode_of_encode`, and is read back. -/
theorem decode_of_encode_sampleListing :
    (∀ e ∈ sampleListing.numbers, e.1.Fits e.2) ∧ (∀ a ∈ sampleListing.blocks, a.PairsComplete) ∧
      (∀ t ∈ sampleListing.texts, t.ReadsBack) ∧ sampleListing.layout.length < 0x100000000 ∧
      ∃ frame, sampleListing.encode = .ok frame ∧ decode frame = .ok sampleListing := by
  have hnumbers : ∀ e ∈ sampleListing.numbers, e.1.Fits e.2 := by decide
  have hblocks : ∀ a ∈ sampleListing.blocks, a.PairsComplete := by
    simp [sampleListing, blocks, Message.blocks, Attributes.PairsComplete]
  have htexts : ∀ t ∈ sampleListing.texts, t.ReadsBack := by
    simp [sampleListing, texts, Message.texts, Attributes.texts, Text.readsBack_decode,
      Text.readsBack_ofString]
  have hsize : sampleListing.layout.length < 0x100000000 := by decide +kernel
  exact ⟨hnumbers, hblocks, htexts, hsize,
    (decode_of_encode.2.2 sampleListing hnumbers hblocks htexts hsize).2⟩

end Packet

end Sftp
