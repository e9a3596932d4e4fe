import Sftp.Proofs.Wire.Layout

/-!
# Reading fields back

`Reader.Reads r bytes a` says that `r` takes exactly `bytes` off the front of whatever follows them
and gives `a`; `Reader.ReadsAll r bytes a` says the same of bytes that nothing follows, for readers
that look for the end. Both are closed under sequencing (`Reads.bind`, `Reads.bindAll`), so a reader
that goes through the fields of a body one after another reads back what the fields lay down one
after another.

Main results:

* `reads_number`, `reads_string`, `reads_name` — plain fields.
* **`reads_attributes`**: a block with complete pairs is read back whole, whichever of its fields
  are known.
* `reads_nameEntry`, `readsAll_extensions` — directory entries and the extensions of a handshake.
-/

namespace Sftp

/-- Whether a text is the one that its bytes stand for. -/
def Text.ReadsBack (t : Text) : Prop :=
  t.IsEncodable ∧ Text.decode t.bytes = t

namespace Reader

variable {α β : Type}

/-- The reader takes these bytes, whatever follows them, and gives this result. -/
def Reads (r : Reader α) (bytes : Bytes) (a : α) : Prop :=
  ∀ tail, run r (bytes ++ tail) = (.ok a, tail)

/-- The reader takes these bytes, if nothing follows them, and gives this result. -/
def ReadsAll (r : Reader α) (bytes : Bytes) (a : α) : Prop :=
  run r bytes = (.ok a, [])

/-- A reader that takes its bytes whatever follows takes them when nothing does. -/
theorem Reads.all {r : Reader α} {bytes : Bytes} {a : α} (h : Reads r bytes a) :
    ReadsAll r bytes a := by
  have := h []
  rwa [List.append_nil] at this

/-- A result that needs no bytes. -/
theorem reads_pure (a : α) : Reads (pure a) [] a := fun _ => rfl

/-- Readers one after another take bytes one after another. -/
theorem Reads.bind {r : Reader α} {k : α → Reader β} {first second : Bytes} {a : α} {b : β}
    (hr : Reads r first a) (hk : Reads (k a) second b) :
    Reads (r >>= k) (first ++ second) b := by
  intro tail
  rw [run_bind, List.append_assoc, hr (second ++ tail)]
  exact hk tail

/-- Readers one after another, the last of which looks for the end. -/
theorem Reads.bindAll {r : Reader α} {k : α → Reader β} {first second : Bytes} {a : α} {b : β}
    (hr : Reads r first a) (hk : ReadsAll (k a) second b) :
    ReadsAll (r >>= k) (first ++ second) b := by
  unfold ReadsAll
  rw [run_bind, hr second]
  exact hk

/-- A reader followed by a computation on its result. -/
theorem Reads.bindPure {r : Reader α} {bytes : Bytes} {a : α} (h : Reads r bytes a) (f : α → β) :
    Reads (r >>= fun x => pure (f x)) bytes (f a) := by
  have := h.bind (k := fun x => pure (f x)) (reads_pure (f a))
  rwa [List.append_nil] at this

/-- A reader that takes all that is left, followed by a computation on its result. -/
theorem ReadsAll.bindPure {r : Reader α} {bytes : Bytes} {a : α} (h : ReadsAll r bytes a)
    (f : α → β) : ReadsAll (r >>= fun x => pure (f x)) bytes (f a) := by
  unfold ReadsAll
  rw [run_bind, h]
  rfl

/-! ## Plain fields -/

/-- Exactly the wanted bytes. -/
theorem reads_take {n : Nat} {bytes : Bytes} (h : bytes.length = n) (kind : FieldKind) :
    Reads (take n kind) bytes bytes := by
  intro tail
  have hfront : (bytes ++ tail).take n = bytes := List.take_left' h
  have hrest : (bytes ++ tail).drop n = tail := List.drop_left' h
  unfold take
  simp only [run_bind, run_get, hfront, hrest, if_pos h, run_set, run_pure]

/-- A number that fits its width. -/
theorem reads_number {w : Width} {n : Int} (h : w.Fits n) :
    Reads (number w) (PlainField.bytes (.number w n)) n.toNat := by
  have hlt : n.toNat < byteValues w.size := by
    obtain ⟨h0, hlimit⟩ := h
    unfold Width.limit at hlimit
    omega
  have := (reads_take (length_bigEndian w.size n.toNat) (.number w)).bindPure ofBigEndian
  rwa [ofBigEndian_bigEndian hlt] at this

/-- A natural number that is below the limit of its width. -/
theorem reads_natNumber {w : Width} {n : Nat} (h : n < w.limit) :
    Reads (number w) (bigEndian w.size n) n := by
  have := reads_number ((Width.fits_natCast w n).mpr h)
  simpa only [PlainField.bytes, Int.toNat_natCast] using this

/-- Open flags that fit, as a number. -/
theorem reads_openFlags {flags : OpenFlags} (h : flags.bits < Width.word.limit) :
    Reads (number .word) (PlainField.bytes (.openFlags flags)) flags.bits :=
  reads_natNumber h

/-- Bytes with their length before them. -/
theorem reads_string {b : Bytes} (h : b.length < Width.word.limit) :
    Reads string (PlainField.bytes (.string b)) b :=
  (reads_natNumber (w := .word) h).bind (reads_take rfl .string)

/-- A text with its length before it, if it is the text that its bytes stand for. -/
theorem reads_name {t : Text} (h : t.ReadsBack) (hlength : t.bytes.length < Width.word.limit) :
    Reads name (PlainField.bytes (.text t)) t := by
  have := (reads_string hlength).bindPure Text.decode
  rwa [h.2] at this

/-- Looking whether anything is left takes nothing; before a text there is something. -/
theorem run_hasMore_text (t : Text) (tail : Bytes) (k : Bool → Reader β) :
    run (hasMore >>= k) (PlainField.bytes (.text t) ++ tail)
      = run (k true) (PlainField.bytes (.text t) ++ tail) := by
  have hmore : ∀ bytes : Bytes, run hasMore bytes = (.ok !bytes.isEmpty, bytes) := fun _ => rfl
  have hfull : (PlainField.bytes (.text t) ++ tail).isEmpty = false := by
    simp [PlainField.bytes, bigEndian]
  rw [run_bind, hmore, hfull]
  rfl

/-- Bytes without a length, when nothing follows them. -/
theorem readsAll_rest (b : Bytes) : ReadsAll rest (PlainField.bytes (.raw b)) b := rfl

/-- A reader taken several times reads what was laid down item by item. -/
theorem reads_times {r : Reader α} {f : α → Bytes} {xs : List α} (h : ∀ x ∈ xs, Reads r (f x) x) :
    Reads (times r xs.length) (xs.flatMap f) xs := by
  induction xs with
  | nil => exact reads_pure []
  | cons x xs ih =>
    have hx := h x List.mem_cons_self
    have hxs := ih fun y hy => h y (List.mem_cons_of_mem x hy)
    exact hx.bind (hxs.bindPure (x :: ·))

end Reader

/-! ## Attribute blocks -/

/-- Flags are read back from their number. -/
@[simp] theorem AttributeFlags.ofBits_bits (f : AttributeFlags) : ofBits f.bits = f := by
  obtain ⟨size, owners, permissions, times, extended⟩ := f
  cases size <;> cases owners <;> cases permissions <;> cases times <;> cases extended <;> rfl

/-- The bytes of a block, field by field. -/
theorem Attributes.bytes_eq (a : Attributes) :
    a.bytes = bigEndian 4 a.known.bits
      ++ ((numberField .long a.size).flatMap PlainField.bytes
      ++ ((numberField .word a.uid).flatMap PlainField.bytes
      ++ ((numberField .word a.gid).flatMap PlainField.bytes
      ++ ((numberField .word a.permissions).flatMap PlainField.bytes
      ++ ((numberField .word a.atime).flatMap PlainField.bytes
      ++ ((numberField .word a.mtime).flatMap PlainField.bytes
      ++ (extendedFields a.extended).flatMap PlainField.bytes)))))) := by
  simp [bytes, plainFields, PlainField.bytes, Width.size]

/-- A number that is not negative is the natural number that it is read back as. -/
theorem map_ofNat_toNat {n : Option Int} {w : Width} (h : ∀ k ∈ n, w.Fits k) :
    (n.map Int.toNat).map Int.ofNat = n := by
  cases n with
  | none => rfl
  | some k => exact congrArg some (Int.toNat_of_nonneg (h k rfl).1)

namespace Reader

variable {α : Type}

/-- A number that is present if it is known. -/
theorem reads_known {w : Width} {n : Option Int} {isKnown : Bool} (hknown : isKnown = n.isSome)
    (h : ∀ k ∈ n, w.Fits k) :
    Reads (when isKnown (number w)) ((Attributes.numberField w n).flatMap PlainField.bytes)
      (n.map Int.toNat) := by
  subst hknown
  cases n with
  | none => exact reads_pure none
  | some k =>
    have := (reads_number (h k rfl)).bindPure some
    simpa [when, Attributes.numberField] using this

/-- A name and its data. -/
theorem reads_pair {p : Text × Bytes} (ht : p.1.ReadsBack)
    (hname : p.1.bytes.length < Width.word.limit) (hdata : p.2.length < Width.word.limit) :
    Reads pair (PlainField.bytes (.text p.1) ++ PlainField.bytes (.string p.2)) p :=
  (reads_name ht hname).bind ((reads_string hdata).bindPure (Prod.mk p.1))

/-- The vendor attributes, if there are any. -/
theorem reads_extended {pairs : List (Text × Bytes)}
    (hfits : ∀ f ∈ Attributes.extendedFields pairs, f.Fits) (ht : ∀ p ∈ pairs, p.1.ReadsBack) :
    Reads (when (!pairs.isEmpty) (number .word >>= times pair))
      ((Attributes.extendedFields pairs).flatMap PlainField.bytes)
      (if pairs.isEmpty then none else some pairs) := by
  by_cases hnil : pairs.isEmpty
  · simp only [hnil, Attributes.extendedFields, when]
    exact reads_pure none
  · simp only [Attributes.extendedFields, if_neg hnil] at hfits ⊢
    have hcount : pairs.length < Width.word.limit :=
      (Width.fits_natCast _ _).mp (hfits _ List.mem_cons_self)
    have hpair : ∀ p ∈ pairs,
        Reads pair (PlainField.bytes (.text p.1) ++ PlainField.bytes (.string p.2)) p := by
      intro p hp
      have hmem : ∀ f ∈ [PlainField.text p.1, .string p.2], f.Fits := fun f hf =>
        hfits f (List.mem_cons_of_mem _ (List.mem_flatMap.mpr ⟨p, hp, hf⟩))
      exact reads_pair (ht p hp) (hmem (.text p.1) (by simp)).2 (hmem (.string p.2) (by simp))
    have hread := (reads_natNumber hcount).bind (reads_times hpair)
    rw [List.flatMap_cons, Attributes.flatMap_bytes_pairs]
    simpa [when, hnil, PlainField.bytes] using hread.bindPure some

/-- **An attribute block is read back whole**, whichever of its fields are known. -/
theorem reads_attributes {a : Attributes} (hfits : a.Fits) (ht : ∀ t ∈ a.texts, t.ReadsBack) :
    Reads attributes a.bytes a := by
  obtain ⟨⟨howners, htimes⟩, hfits⟩ := hfits
  have hnumber : ∀ {w : Width} {n : Option Int},
      (∀ f ∈ Attributes.numberField w n, f ∈ a.plainFields a.known) → ∀ k ∈ n, w.Fits k := by
    intro w n hsub k hk
    exact hfits (.number w k) (hsub _ (by simp [Attributes.numberField, Option.mem_def.mp hk]))
  have hsize : ∀ k ∈ a.size, Width.long.Fits k :=
    hnumber fun f hf => by simp [Attributes.plainFields, hf]
  have huid : ∀ k ∈ a.uid, Width.word.Fits k :=
    hnumber fun f hf => by simp [Attributes.plainFields, hf]
  have hgid : ∀ k ∈ a.gid, Width.word.Fits k :=
    hnumber fun f hf => by simp [Attributes.plainFields, hf]
  have hpermissions : ∀ k ∈ a.permissions, Width.word.Fits k :=
    hnumber fun f hf => by simp [Attributes.plainFields, hf]
  have hatime : ∀ k ∈ a.atime, Width.word.Fits k :=
    hnumber fun f hf => by simp [Attributes.plainFields, hf]
  have hmtime : ∀ k ∈ a.mtime, Width.word.Fits k :=
    hnumber fun f hf => by simp [Attributes.plainFields, hf]
  have hextended : ∀ f ∈ Attributes.extendedFields a.extended, f.Fits := fun f hf =>
    hfits f (by simp [Attributes.plainFields, hf])
  have htexts : ∀ p ∈ a.extended, p.1.ReadsBack := fun p hp => ht p.1 (List.mem_map_of_mem hp)
  have hu : a.known.owners = a.uid.isSome := by simp [Attributes.known, ← howners]
  have hg : a.known.owners = a.gid.isSome := by simp [Attributes.known, howners]
  have ha : a.known.times = a.atime.isSome := by simp [Attributes.known, ← htimes]
  have hm : a.known.times = a.mtime.isSome := by simp [Attributes.known, htimes]
  rw [Attributes.bytes_eq]
  refine (reads_natNumber (w := .word) a.known.bits_lt).bind ?_
  simp only [AttributeFlags.ofBits_bits]
  refine (reads_known rfl hsize).bind ?_
  refine (reads_known hu huid).bind ?_
  refine (reads_known hg hgid).bind ?_
  refine (reads_known rfl hpermissions).bind ?_
  refine (reads_known ha hatime).bind ?_
  refine (reads_known hm hmtime).bind ?_
  simp only [map_ofNat_toNat hsize, map_ofNat_toNat huid, map_ofNat_toNat hgid,
    map_ofNat_toNat hpermissions, map_ofNat_toNat hatime, map_ofNat_toNat hmtime]
  have hlast := (reads_extended hextended htexts).bindPure fun extended =>
    { a with extended := extended.getD [] }
  have hvalue : (if a.extended.isEmpty then none else some a.extended).getD [] = a.extended := by
    cases a.extended <;> rfl
  rw [hvalue] at hlast
  exact hlast

/-- A directory entry. -/
theorem reads_nameEntry {e : NameEntry} (hfits : ∀ f ∈ e.fields, f.Fits)
    (hfilename : e.filename.ReadsBack) (hlongname : e.longname.ReadsBack)
    (ht : ∀ t ∈ e.attrs.texts, t.ReadsBack) :
    Reads nameEntry (e.fields.flatMap Field.bytes) e := by
  have h1 : Field.Fits (.text e.filename) := hfits _ (by simp [NameEntry.fields])
  have h2 : Field.Fits (.text e.longname) := hfits _ (by simp [NameEntry.fields])
  have h3 : Field.Fits (.attributes e.attrs) := hfits _ (by simp [NameEntry.fields])
  have hbytes : e.fields.flatMap Field.bytes = PlainField.bytes (.text e.filename)
      ++ (PlainField.bytes (.text e.longname) ++ e.attrs.bytes) := by
    simp [NameEntry.fields, Field.bytes]
  rw [hbytes]
  refine (reads_name hfilename h1.2).bind ?_
  refine (reads_name hlongname h2.2).bind ?_
  exact (reads_attributes h3 ht).bindPure fun attrs =>
    { filename := e.filename, longname := e.longname, attrs : NameEntry }

/-! ## Extensions -/

/-- Setting names that are all new appends them. -/
theorem entries_foldl_insert {pairs : List (Text × Bytes)} {x : Extensions}
    (h : (x.entries.map Prod.fst ++ pairs.map Prod.fst).Nodup) :
    (pairs.foldl (fun y e => y.insert e.1 e.2) x).entries = x.entries ++ pairs := by
  induction pairs generalizing x with
  | nil => simp
  | cons e pairs ih =>
    have hnew : e.1 ∉ x.entries.map Prod.fst := by
      intro hmem
      have := (List.nodup_append.mp h).2.2
      exact this e.1 hmem e.1 (by simp) rfl
    have hinsert : (x.insert e.1 e.2).entries = x.entries ++ [e] := if_neg hnew
    rw [List.foldl_cons, ih, hinsert]
    · simp
    · rw [hinsert]
      simpa using h

/-- Extensions are those that are set one after another. -/
theorem ofList_entries (x : Extensions) : Extensions.ofList x.entries = x := by
  have hentries : (Extensions.ofList x.entries).entries = x.entries :=
    entries_foldl_insert (x := .empty) x.nodup
  cases x
  cases h : Extensions.ofList _
  simp_all

/-- Name and data pairs up to the end of the body, if there are rounds enough. -/
theorem readsAll_pairsToEnd {pairs : List (Text × Bytes)} {fuel : Nat} (x : Extensions)
    (hfits : ∀ f ∈ pairFields pairs, f.Fits) (ht : ∀ p ∈ pairs, p.1.ReadsBack)
    (hfuel : pairs.length ≤ fuel) :
    ReadsAll (pairsToEnd fuel x) ((pairFields pairs).flatMap Field.bytes)
      (pairs.foldl (fun y e => y.insert e.1 e.2) x) := by
  induction pairs generalizing fuel x with
  | nil => cases fuel <;> rfl
  | cons p pairs ih =>
    obtain ⟨fuel, rfl⟩ : ∃ k, fuel = k + 1 := ⟨fuel - 1, by simp at hfuel; omega⟩
    have h1 : Field.Fits (.text p.1) := hfits _ (by simp [pairFields])
    have h2 : Field.Fits (.string p.2) := hfits _ (by simp [pairFields])
    have hfuel' : pairs.length ≤ fuel := by simpa using hfuel
    have hrest := ih (x.insert p.1 p.2)
      (fun f hf => hfits f (by simp only [pairFields, List.flatMap_cons] at hf ⊢; simp [hf]))
      (fun q hq => ht q (List.mem_cons_of_mem p hq)) hfuel'
    have hbytes : (pairFields (p :: pairs)).flatMap Field.bytes
        = PlainField.bytes (.text p.1) ++ (PlainField.bytes (.string p.2)
          ++ (pairFields pairs).flatMap Field.bytes) := by
      simp [pairFields, Field.bytes]
    rw [hbytes]
    unfold ReadsAll pairsToEnd
    rw [run_hasMore_text, if_pos rfl]
    refine (reads_name (ht p List.mem_cons_self) h1.2).bindAll ?_
    exact (reads_string h2).bindAll hrest

/-- The extensions that end a handshake packet. -/
theorem readsAll_extensions {x : Extensions} (hfits : ∀ f ∈ pairFields x.entries, f.Fits)
    (ht : ∀ p ∈ x.entries, p.1.ReadsBack) :
    ReadsAll extensions ((pairFields x.entries).flatMap Field.bytes) x := by
  have hfuel : x.entries.length ≤ ((pairFields x.entries).flatMap Field.bytes).length := by
    rw [pairFields, List.flatMap_assoc]
    apply card_le_length_flatMap
    intro p _
    simp [Field.bytes, PlainField.bytes, bigEndian]
  have hread := readsAll_pairsToEnd .empty hfits ht hfuel
  change ReadsAll _ _ (Extensions.ofList x.entries) at hread
  rw [ofList_entries] at hread
  unfold ReadsAll extensions
  rw [run_bind, run_get]
  exact hread

/-- A text that may be missing, where it is not. -/
theorem reads_optionalName {t : Text} (h : t.ReadsBack)
    (hlength : t.bytes.length < Width.word.limit) :
    Reads optionalName (PlainField.bytes (.text t)) t := by
  intro tail
  unfold optionalName
  rw [run_hasMore_text, if_pos rfl]
  exact reads_name h hlength tail

end Reader

end Sftp
