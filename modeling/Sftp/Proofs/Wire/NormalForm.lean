import Mathlib.Control.Monad.Basic
import Sftp.Fault
import Sftp.Proofs.Wire.Accepted

/-!
# Decoded packets have a normal form

Bytes from outside can spell a packet in many ways. Writing the packet that they are read as gives one of
them, the same for all, and it is no longer, but for the texts of a status, which are written also where
they were left out.

* `PacketKind.missing` — how many bytes a kind of packet may leave out.
* **`Reader.yields_packet`** — a packet that was read can be written.
* **`Packet.ofBody_normalForm`** — bytes are malformed or have a normal form.
-/

namespace Sftp

/-- The most bytes that a packet of a kind may leave out: the lengths of the texts of a status. -/
def PacketKind.missing : PacketKind → Nat
  | status => 8
  | _ => 0

/-- The number of a tag is that of its kind. -/
theorem PacketKind.tag_of_ofTag? {n : Nat} {kind : PacketKind} (h : ofTag? n = some kind) :
    kind.tag = n := by
  simpa using List.find?_some h

namespace Reader

/-- A packet whose tag was read: the fields after its tag were read from what was taken. -/
theorem yields_packetOfKind (kind : PacketKind) : Yields (packetOfKind kind) fun taken p =>
    p.kind = kind ∧ WasRead p.fields.tail kind.missing taken := by
  refine (yields_number .word).bind ?_
  rintro first head ⟨hhead, hfirst⟩
  have hnumber := WasRead.number hhead hfirst
  cases kind with
  | init | version =>
    refine yields_extensions.bindPure ?_
    intro second x hx
    exact ⟨rfl, hnumber.cons hx⟩
  | lstat | opendir | remove | rmdir | realpath | stat | readlink =>
    refine yields_name.bindPure ?_
    intro second path hpath
    exact ⟨rfl, hnumber.cons hpath⟩
  | close | fstat | readdir | handle | data =>
    refine yields_string.bindPure ?_
    intro second bytes hbytes
    exact ⟨rfl, hnumber.cons hbytes⟩
  | setstat | mkdir =>
    refine yields_name.bind ?_
    intro second path hpath
    refine yields_attributes.bindPure ?_
    intro third attrs hattrs
    exact ⟨rfl, hnumber.cons (hpath.cons hattrs)⟩
  | rename | symlink =>
    refine yields_name.bind ?_
    intro second path hpath
    refine yields_name.bindPure ?_
    intro third other hother
    exact ⟨rfl, hnumber.cons (hpath.cons hother)⟩
  | fsetstat =>
    refine yields_string.bind ?_
    intro second handle hhandle
    refine yields_attributes.bindPure ?_
    intro third attrs hattrs
    exact ⟨rfl, hnumber.cons (hhandle.cons hattrs)⟩
  | openFile =>
    refine yields_name.bind ?_
    intro second path hpath
    refine (yields_number .word).bind ?_
    rintro third flags ⟨hflags, hthird⟩
    refine yields_attributes.bindPure ?_
    intro fourth attrs hattrs
    exact ⟨rfl, hnumber.cons (hpath.cons ((WasRead.openFlags hflags hthird).cons hattrs))⟩
  | read =>
    refine yields_string.bind ?_
    intro second handle hhandle
    refine (yields_number .long).bind ?_
    rintro third offset ⟨hoffset, hthird⟩
    refine (yields_number .word).bindPure ?_
    rintro fourth length ⟨hlength, hfourth⟩
    exact ⟨rfl, hnumber.cons (hhandle.cons
      ((WasRead.number hoffset hthird).cons (.number hlength hfourth)))⟩
  | write =>
    refine yields_string.bind ?_
    intro second handle hhandle
    refine (yields_number .long).bind ?_
    rintro third offset ⟨hoffset, hthird⟩
    refine yields_string.bindPure ?_
    intro fourth data hdata
    exact ⟨rfl, hnumber.cons (hhandle.cons ((WasRead.number hoffset hthird).cons hdata))⟩
  | extended =>
    refine yields_name.bind ?_
    intro second request hrequest
    refine yields_rest.bindPure ?_
    intro third data hdata
    exact ⟨rfl, hnumber.cons (hrequest.cons hdata)⟩
  | status =>
    refine (yields_number .word).bind ?_
    rintro second code ⟨hcode, hsecond⟩
    refine yields_optionalName.bind ?_
    intro third message hmessage
    refine yields_optionalName.bindPure ?_
    intro fourth lang hlang
    exact ⟨rfl, hnumber.cons ((WasRead.number hcode hsecond).cons (hmessage.append hlang))⟩
  | name =>
    refine (yields_number .word).bind ?_
    rintro second count ⟨hcount, hsecond⟩
    refine (yields_times yields_nameEntry count).bindPure ?_
    rintro third entries ⟨rfl, hentries⟩
    exact ⟨rfl, hnumber.cons ((WasRead.number hcount hsecond).cons hentries)⟩
  | attrs =>
    refine yields_attributes.bindPure ?_
    intro second attrs hattrs
    exact ⟨rfl, hnumber.cons hattrs⟩
  | extendedReply =>
    refine yields_rest.bindPure ?_
    intro second data hdata
    exact ⟨rfl, hnumber.cons hdata⟩

/-- **A packet that was read can be written.** -/
theorem yields_packet : Yields packet fun taken p => WasRead p.fields p.kind.missing taken := by
  refine (yields_number .byte).bind ?_
  rintro first tag ⟨htag, hfirst⟩
  split
  · exact yields_throw _
  · rename_i kind hkind
    refine (yields_packetOfKind kind).imp ?_
    rintro taken p ⟨rfl, hp⟩
    obtain rfl := PacketKind.tag_of_ofTag? hkind
    exact (WasRead.number htag hfirst).cons hp

end Reader

namespace Packet

/-- Every text of a packet stands in a field. -/
theorem exists_field_of_mem_texts {p : Packet} {t : Text} (ht : t ∈ p.texts) :
    ∃ f ∈ p.fields, t ∈ f.texts := by
  rw [← flatMap_texts] at ht
  exact List.mem_flatMap.mp ht

/-- **Bytes are malformed or have a normal form.** Bytes that are short enough are malformed, which is a
bad message, or they are read as a packet that can be written, in no more bytes unless it is a status,
and in eight more at most if it is. What is written is read as the same packet. The texts of the packet
are written as the bytes that they were read from, whether these are UTF-8 or not. -/
theorem ofBody_normalForm {bytes : Bytes} (h : bytes.length < 0x100000000 - 8) :
    (∃ text, (ofBody bytes).mapError Fault.malformed = .error (.badMessage text)) ∨
      ∃ p body frame, ofBody bytes = .ok p ∧ p.body = .ok body ∧ body.length ≤ bytes.length + 8 ∧
        (p.kind ≠ .status → body.length ≤ bytes.length) ∧ p.encode = .ok frame ∧
        decode frame = .ok p ∧
        ∀ t ∈ p.texts, ∃ part, part <:+: bytes ∧ t = Text.decode part ∧ t.encode? = some part := by
  cases hread : ofBody bytes with
  | error m => exact .inl ⟨m.message, rfl⟩
  | ok p =>
    obtain ⟨taken, hbytes, hp⟩ :=
      Reader.yields_packet bytes (Reader.packet.run bytes).2 p (Prod.ext hread rfl)
    have htaken : taken.length ≤ bytes.length := by
      rw [hbytes, List.length_append]
      exact Nat.le_add_right _ _
    have hlength : p.layout.length ≤ taken.length + p.kind.missing := hp.length
    have hmissing : p.kind.missing ≤ 8 := by
      cases p.kind with
      | _ => decide
    have hword : p.layout.length < Width.word.limit := by
      show p.layout.length < 0x100000000
      omega
    have hstands : ∀ t ∈ p.texts, t.StandsIn bytes := by
      intro t ht
      obtain ⟨f, hf, ht⟩ := exists_field_of_mem_texts ht
      rw [hbytes]
      exact (hp.texts f hf t ht).left _
    have hfits : ∀ f ∈ p.fields, f.Fits := fun f hf =>
      (hp.proper f hf).fits (Nat.lt_of_le_of_lt (length_le_length_flatMap hf) hword)
    have hencode := encode_eq_ok_iff.mpr ⟨hfits, hword, rfl⟩
    refine .inr ⟨p, p.layout, _, rfl, body_of_proper hp.proper hword, by omega, ?_, hencode, ?_, ?_⟩
    · intro hkind
      have hnone : p.kind.missing = 0 := by
        cases hk : p.kind with
        | status => exact absurd hk hkind
        | _ => rfl
      omega
    · exact decode_frame hencode fun t ht => (hstands t ht).readsBack
    · exact fun t ht => (hstands t ht).encode?_eq

/-- A request to change nothing, as it is never written: the path is no UTF-8, the flags of the attributes
are vendor attributes, of which there are none, and two bits that nobody knows, and bytes follow. -/
def looseRequest : Bytes :=
  [9, 0, 0, 0, 1, 0, 0, 0, 2, 97, 255, 128, 0, 0, 80, 0, 0, 0, 0, 1, 2, 3]

/-- The same request as it is written. -/
def strictRequest : Bytes :=
  [9, 0, 0, 0, 1, 0, 0, 0, 2, 97, 255, 0, 0, 0, 0]

/-- The loose request has the strict one as its normal form. -/
theorem ofBody_normalForm_looseRequest :
    looseRequest.length < 0x100000000 - 8 ∧
      ∃ p frame, ofBody looseRequest = .ok p ∧ p.body = .ok strictRequest ∧ p.encode = .ok frame ∧
        decode frame = .ok p := by
  have hlength : looseRequest.length < 0x100000000 - 8 := by decide
  have hread : ofBody looseRequest = .ok (.message 1 (.setstat (Text.decode [97, 255]) {})) := by
    decide +kernel
  have hstrict : (message 1 (.setstat (Text.decode [97, 255]) {})).body = .ok strictRequest := by
    decide +kernel
  refine ⟨hlength, ?_⟩
  rcases ofBody_normalForm hlength with ⟨text, hbad⟩ | ⟨p, body, frame, hp, -, -, -, hencode, hdecode, -⟩
  · rw [hread] at hbad
    cases hbad
  · obtain rfl := Except.ok.inj (hread.symm.trans hp)
    exact ⟨_, frame, hread, hstrict, hencode, hdecode⟩

end Packet

end Sftp
