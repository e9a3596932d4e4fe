import Mathlib.Data.List.Forall2
import Sftp.Proofs.Wire.Accepted
import Sftp.Wire.Writer

/-!
# Readers undo writers

Fields can be written one after another in any order, and each takes as many bytes as it needs. A reader that
knows nothing but their shapes finds where each of them ends, so it can be followed by anything: packets,
attribute blocks and counted entries are read back because their fields are.

* `Field.HasShape` — the call of a reader that matches one of a writer; `Reader.fields` — matching calls.
* `Reader.reads_fields` — fields are read back if their texts are the ones that their bytes stand for.
* `Text.asRead`, `Field.asRead` — what is read of a text or a field: the bytes are the same, and so is the
  field, unless a text in it is not the one that its bytes stand for (`Field.asRead_eq_iff`).
* `Writer.fits_of_run`, `Writer.body_of_error` — what a writer leaves after fields that were all written, and
  after one that was refused.
* **`Writer.read_as_written`** — readers take what writers wrote.
-/

namespace Sftp

/-! ## Matching calls -/

/-- What a reader has to know of a field. -/
inductive FieldShape
  /-- A number. -/
  | number (width : Width)
  /-- Bytes with their length before them. -/
  | string
  /-- A text with its length before it. -/
  | text
  /-- An attribute block. -/
  | attributes
  deriving DecidableEq

/-- The shape of a field. Raw bytes have none, as nothing tells where they end, nor have flags, which are
read as a number. -/
inductive Field.HasShape : Field → FieldShape → Prop
  /-- A number of a width. -/
  | number (w : Width) (n : Int) : HasShape (.number w n) (.number w)
  /-- Bytes. -/
  | string (b : Bytes) : HasShape (.string b) .string
  /-- A text. -/
  | text (t : Text) : HasShape (.text t) .text
  /-- An attribute block. -/
  | attributes (a : Attributes) : HasShape (.attributes a) .attributes

namespace Reader

/-- A field of the given shape. -/
def field : FieldShape → Reader Field
  | .number w => do
    let n ← number w
    return .number w n
  | .string => do
    let b ← string
    return .string b
  | .text => do
    let t ← name
    return .text t
  | .attributes => do
    let a ← attributes
    return .attributes a

/-- Fields of the given shapes, one after another. -/
def fields : List FieldShape → Reader (List Field)
  | [] => return []
  | s :: shapes => do
    let f ← field s
    let fs ← fields shapes
    return f :: fs

variable {f : Field} {fs : List Field} {s : FieldShape} {shapes : List FieldShape}

/-- A field is read back if its texts are the ones that their bytes stand for. -/
theorem reads_field (hshape : f.HasShape s) (hfits : f.Fits) (htexts : ∀ t ∈ f.texts, t.ReadsBack) :
    Reads (field s) f.bytes f := by
  cases hshape with
  | number w n =>
    obtain ⟨n, rfl⟩ := Int.eq_ofNat_of_zero_le hfits.1
    exact (reads_number hfits).bindPure fun k => Field.number w k
  | string b => exact (reads_string hfits).bindPure Field.string
  | text t => exact (reads_name (htexts t List.mem_cons_self) hfits.2).bindPure Field.text
  | attributes a => exact (reads_attributes hfits htexts).bindPure Field.attributes

/-- Fields are read back one after another. -/
theorem reads_fields (hshapes : List.Forall₂ Field.HasShape fs shapes) (hfits : ∀ f ∈ fs, f.Fits)
    (htexts : ∀ f ∈ fs, ∀ t ∈ f.texts, t.ReadsBack) :
    Reads (fields shapes) (fs.flatMap Field.bytes) fs := by
  induction hshapes with
  | nil => exact reads_pure []
  | cons hshape _ ih =>
    obtain ⟨hfit, hfits⟩ := List.forall_mem_cons.mp hfits
    obtain ⟨htext, htexts⟩ := List.forall_mem_cons.mp htexts
    exact (reads_field hshape hfit htext).bind ((ih hfits htexts).bindPure _)

end Reader

/-! ## What is read of texts -/

/-- The text that the bytes of a text stand for. -/
def Text.asRead (t : Text) : Text :=
  Text.decode t.bytes

/-- A plain field with the text that is read of it. -/
def PlainField.asRead : PlainField → PlainField
  | text t => text t.asRead
  | f => f

/-- A block with the names that are read of it. -/
def Attributes.asRead (a : Attributes) : Attributes :=
  { a with extended := a.extended.map fun p => (p.1.asRead, p.2) }

/-- A field with the texts that are read of it. -/
def Field.asRead : Field → Field
  | plain f => plain f.asRead
  | attributes a => attributes a.asRead

namespace Text

/-- It has the same bytes. -/
@[simp] theorem bytes_asRead (t : Text) : t.asRead.bytes = t.bytes := by
  show (encode? (decode t.bytes)).getD [] = t.bytes
  rw [encode?_decode]
  rfl

/-- It reads back. -/
theorem readsBack_asRead (t : Text) : t.asRead.ReadsBack :=
  readsBack_decode t.bytes

/-- Two escaped bytes that are a character together are read as that character. -/
example : asRead ⟨[.escaped 0xC3, .escaped 0xA9]⟩ = "é" := by
  decide +kernel

end Text

namespace PlainField

@[simp] theorem bytes_asRead (f : PlainField) : f.asRead.bytes = f.bytes := by
  cases f with
  | text t => simp only [asRead, bytes, Text.bytes_asRead]
  | _ => rfl

theorem Fits.asRead {f : PlainField} (h : f.Fits) : f.asRead.Fits := by
  cases f with
  | text t =>
    refine ⟨t.readsBack_asRead.1, ?_⟩
    rw [Text.bytes_asRead]
    exact h.2
  | _ => exact h

end PlainField

namespace Attributes

/-- The plain fields of a block as it is read are those of the block as they are read. -/
theorem plainFields_asRead (a : Attributes) (flags : AttributeFlags) :
    a.asRead.plainFields flags = (a.plainFields flags).map PlainField.asRead := by
  have hnumber : ∀ (w : Width) (n : Option Int), (numberField w n).map PlainField.asRead = numberField w n := by
    intro w n
    cases n <;> rfl
  have hextended : (extendedFields a.extended).map PlainField.asRead =
      extendedFields (a.extended.map fun p => (p.1.asRead, p.2)) := by
    unfold extendedFields
    by_cases hnil : a.extended.isEmpty
    · simp [hnil]
    · simp [hnil, PlainField.asRead, List.map_flatMap, List.flatMap_map]
  simp only [plainFields, List.map_append, List.map_cons, hnumber, hextended]
  rfl

/-- The flags are the same. -/
theorem known_asRead (a : Attributes) : a.asRead.known = a.known := by
  simp [known, asRead]

@[simp] theorem bytes_asRead (a : Attributes) : a.asRead.bytes = a.bytes := by
  unfold bytes
  rw [known_asRead, plainFields_asRead, List.flatMap_map]
  simp

theorem Fits.asRead {a : Attributes} (h : a.Fits) : a.asRead.Fits := by
  refine ⟨h.1, ?_⟩
  rw [known_asRead, plainFields_asRead]
  intro f hf
  obtain ⟨g, hg, rfl⟩ := List.mem_map.mp hf
  exact (h.2 g hg).asRead

end Attributes

namespace Field

@[simp] theorem bytes_asRead (f : Field) : f.asRead.bytes = f.bytes := by
  cases f with
  | plain f => exact f.bytes_asRead
  | attributes a => exact a.bytes_asRead

theorem Fits.asRead {f : Field} (h : f.Fits) : f.asRead.Fits := by
  cases f with
  | plain f => exact PlainField.Fits.asRead h
  | attributes a => exact Attributes.Fits.asRead h

theorem HasShape.asRead {f : Field} {s : FieldShape} (h : f.HasShape s) : f.asRead.HasShape s := by
  cases h with
  | number w n => exact .number w n
  | string b => exact .string b
  | text t => exact .text t.asRead
  | attributes a => exact .attributes a.asRead

/-- The texts of a field as it is read. -/
theorem texts_asRead (f : Field) : f.asRead.texts = f.texts.map Text.asRead := by
  cases f with
  | plain f => cases f <;> rfl
  | attributes a => simp [asRead, texts, Attributes.texts, Attributes.asRead]

/-- A field is read as it is if its texts are, and only then. -/
theorem asRead_eq_iff (f : Field) : f.asRead = f ↔ ∀ t ∈ f.texts, t.asRead = t := by
  constructor
  · intro h
    have htexts : f.texts.map Text.asRead = f.texts.map id := by
      rw [← texts_asRead, h, List.map_id]
    exact List.map_inj_left.mp htexts
  · intro h
    cases f with
    | plain f =>
      cases f with
      | text t => exact congrArg Field.text (h t List.mem_cons_self)
      | _ => rfl
    | attributes a =>
      have hextended : (a.extended.map fun p => (p.1.asRead, p.2)) = a.extended.map id := by
        apply List.map_congr_left
        intro p hp
        exact congrArg (·, p.2) (h p.1 (List.mem_map_of_mem hp))
      rw [List.map_id] at hextended
      show attributes { a with extended := a.extended.map fun p => (p.1.asRead, p.2) } = attributes a
      rw [hextended]

/-- Fields are read as they are if their texts are, and only then. -/
theorem map_asRead_eq_iff (fs : List Field) :
    fs.map asRead = fs ↔ ∀ f ∈ fs, ∀ t ∈ f.texts, t.asRead = t := by
  have hsame : fs.map asRead = fs.map id ↔ ∀ f ∈ fs, f.asRead = f := List.map_inj_left
  rw [List.map_id] at hsame
  rw [hsame]
  exact forall₂_congr fun f _ => f.asRead_eq_iff

end Field

/-- Whatever was written is read back but for its texts, of which those are read that their bytes stand for. -/
theorem Reader.reads_fields_asRead {fs : List Field} {shapes : List FieldShape}
    (hshapes : List.Forall₂ Field.HasShape fs shapes) (hfits : ∀ f ∈ fs, f.Fits) :
    Reads (fields shapes) (fs.flatMap Field.bytes) (fs.map Field.asRead) := by
  -- the fields as they are read have the same bytes, and their texts read back
  have hshapes : List.Forall₂ Field.HasShape (fs.map Field.asRead) shapes := by
    rw [List.forall₂_map_left_iff]
    exact hshapes.imp fun _ _ h => h.asRead
  have hfits : ∀ f ∈ fs.map Field.asRead, f.Fits := by
    intro f hf
    obtain ⟨g, hg, rfl⟩ := List.mem_map.mp hf
    exact (hfits g hg).asRead
  have htexts : ∀ f ∈ fs.map Field.asRead, ∀ t ∈ f.texts, t.ReadsBack := by
    intro f hf t ht
    obtain ⟨g, -, rfl⟩ := List.mem_map.mp hf
    rw [Field.texts_asRead] at ht
    obtain ⟨u, -, rfl⟩ := List.mem_map.mp ht
    exact u.readsBack_asRead
  have hread := reads_fields hshapes hfits htexts
  rw [List.flatMap_map] at hread
  simpa only [Field.bytes_asRead] using hread

namespace Writer

variable {fs : List Field} {body : Bytes}

/-- Fields that were all written fit, and the body is their bytes. -/
theorem fits_of_run (h : (fields fs).run [] = (.ok (), body)) :
    (∀ f ∈ fs, f.Fits) ∧ body = fs.flatMap Field.bytes := by
  rw [run_fields, List.nil_append] at h
  obtain ⟨hresult, hbody⟩ := Prod.mk.inj h
  have hwritten : ∃ bytes, (writeFields fs).result = .ok bytes := by
    cases hw : (writeFields fs).result with
    | ok bytes => exact ⟨bytes, rfl⟩
    | error e =>
      rw [hw] at hresult
      cases hresult
  obtain ⟨bytes, hbytes⟩ := hwritten
  have hfits := fits_of_writeFields hbytes
  rw [writeFields_of_fits hfits] at hbody
  exact ⟨hfits, hbody.symm⟩

/-- A plain field that is refused leaves the body as it was. -/
theorem body_of_error {f : PlainField} {e : EncodeFault} {longer : Bytes}
    (h : (field (.plain f)).run body = (.error e, longer)) : longer = body := by
  rw [run_field] at h
  obtain ⟨hresult, rfl⟩ := Prod.mk.inj h
  have hwrite : (Field.plain f).write = Written.ofExcept f.write := rfl
  rw [hwrite] at hresult ⊢
  cases hf : f.write with
  | ok bytes =>
    rw [hf] at hresult
    cases hresult
  | error e => exact List.append_nil body

/-- **Readers undo writers.** Whatever fields were written without a fault, and whatever stands after them, the
matching calls of a reader take the fields and leave what stands after them. They give the fields that were
written if each text, those in blocks included, is the one that its bytes stand for, and only then; of any
other text they give that one. A number, a string or a text that is refused leaves the body as it was. -/
theorem read_as_written :
    (∀ (fs : List Field) (shapes : List FieldShape) (body tail : Bytes),
      List.Forall₂ Field.HasShape fs shapes → (fields fs).run [] = (.ok (), body) →
        ((Reader.fields shapes).run (body ++ tail) = (.ok fs, tail) ↔
          ∀ f ∈ fs, ∀ t ∈ f.texts, Text.decode t.bytes = t) ∧
        (Reader.fields shapes).run (body ++ tail) = (.ok (fs.map Field.asRead), tail)) ∧
    ∀ (f : PlainField) (body longer : Bytes) (e : EncodeFault),
      (field (.plain f)).run body = (.error e, longer) → longer = body := by
  refine ⟨?_, fun f body longer e h => body_of_error h⟩
  intro fs shapes body tail hshapes hrun
  obtain ⟨hfits, rfl⟩ := fits_of_run hrun
  have hread := Reader.reads_fields_asRead hshapes hfits tail
  refine ⟨?_, hread⟩
  rw [hread, Prod.mk.injEq, Except.ok.injEq, and_iff_left rfl, Field.map_asRead_eq_iff]
  rfl

/-- Calls with the greatest number of each width, no bytes, a name that is no UTF-8, and a block with all its
fields, two of them vendor attributes. -/
def sampleCalls : List Field :=
  [.number .byte 0xFF, .number .word 0xFFFFFFFF, .number .long 0xFFFFFFFFFFFFFFFF, .string [],
    .text (Text.decode [0x61, 0xFF]), .attributes {
      size := some 0xFFFFFFFFFFFFFFFF
      uid := some 0
      gid := some 0xFFFFFFFF
      permissions := some 0x81A4
      atime := some 1
      mtime := some 2
      extended := [("e", [1, 2]), ("", [])] }]

/-- What they write. -/
def sampleBody : Bytes :=
  ((fields sampleCalls).run []).2

/-- The calls are read back from before three bytes that nobody wrote, and a number one above the greatest is
not written. -/
theorem read_as_written_sampleCalls :
    (fields sampleCalls).run [] = (.ok (), sampleBody) ∧
      (Reader.fields [.number .byte, .number .word, .number .long, .string, .text, .attributes]).run
        (sampleBody ++ [1, 2, 3]) = (.ok sampleCalls, [1, 2, 3]) ∧
      ∃ longer, (field (.number .word 0x100000000)).run sampleBody =
        (.error (.outOfRange .word 0x100000000), longer) ∧ longer = sampleBody := by
  have hshapes : List.Forall₂ Field.HasShape sampleCalls
      [.number .byte, .number .word, .number .long, .string, .text, .attributes] :=
    .cons (.number _ _) (.cons (.number _ _) (.cons (.number _ _)
      (.cons (.string _) (.cons (.text _) (.cons (.attributes _) .nil)))))
  have hwritten : ((fields sampleCalls).run []).1 = .ok () := by decide +kernel
  have hrun : (fields sampleCalls).run [] = (.ok (), sampleBody) := Prod.ext hwritten rfl
  have htexts : ∀ f ∈ sampleCalls, ∀ t ∈ f.texts, Text.decode t.bytes = t := by
    simp [sampleCalls, Field.texts, Attributes.texts, (Text.readsBack_decode _).2,
      (Text.readsBack_ofString _).2]
  have hrefused : (field (.number .word 0x100000000)).run sampleBody =
      (.error (.outOfRange .word 0x100000000), sampleBody ++ []) := rfl
  obtain ⟨hread, -⟩ := read_as_written.1 sampleCalls _ sampleBody [1, 2, 3] hshapes hrun
  exact ⟨hrun, hread.mpr htexts, _, hrefused, read_as_written.2 _ _ _ _ hrefused⟩

end Writer

end Sftp
