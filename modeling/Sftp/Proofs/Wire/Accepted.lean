import Sftp.Proofs.Wire.Encoded

/-!
# What readers accept

A reader takes more than is ever written: flags that nobody knows, counts of nothing, bytes after the
last field. Whatever it takes, what it gives can be written, in no more bytes than it took.

* `Text.StandsIn` — a text is that of some part of the bytes; `Packet.flatMap_texts` — the texts of a packet,
  field by field.
* `WasRead` — fields that some bytes were read as: nothing of them is refused, their texts stand in the
  bytes, and they are no longer than the bytes, apart from a number of bytes that were missing.
* `Reader.Yields` — what a reader gives has a property with the bytes that it took; `Yields.bind` — readers
  one after another.
* **`Reader.yields_attributes`** — every block that is read can be written.
* `Reader.yields_times`, `Reader.yields_extensions` — entries that are counted, and pairs up to the end.
-/

namespace Sftp

/-! ## Texts and fields that were read -/

/-- A text is that of some part of the bytes. -/
def Text.StandsIn (t : Text) (bytes : Bytes) : Prop :=
  ∃ part, part <:+: bytes ∧ t = Text.decode part

namespace Text.StandsIn

variable {t : Text} {before after : Bytes}

/-- A text that stands in the first bytes stands in all. -/
theorem left (h : t.StandsIn before) (after : Bytes) : t.StandsIn (before ++ after) := by
  obtain ⟨part, hpart, ht⟩ := h
  exact ⟨part, hpart.trans (List.prefix_append before after).isInfix, ht⟩

/-- A text that stands in the last bytes stands in all. -/
theorem right (h : t.StandsIn after) (before : Bytes) : t.StandsIn (before ++ after) := by
  obtain ⟨part, hpart, ht⟩ := h
  exact ⟨part, hpart.trans (List.suffix_append before after).isInfix, ht⟩

/-- Its bytes are that part. -/
theorem encode?_eq (h : t.StandsIn after) :
    ∃ part, part <:+: after ∧ t = Text.decode part ∧ t.encode? = some part := by
  obtain ⟨part, hpart, rfl⟩ := h
  exact ⟨part, hpart, rfl, encode?_decode part⟩

/-- It has bytes. -/
theorem isEncodable (h : t.StandsIn after) : t.IsEncodable := by
  obtain ⟨part, -, -, ht⟩ := h.encode?_eq
  exact Option.isSome_iff_exists.mpr ⟨part, ht⟩

/-- It is the text that its bytes stand for. -/
theorem readsBack (h : t.StandsIn after) : t.ReadsBack := by
  obtain ⟨part, -, rfl⟩ := h
  exact readsBack_decode part

end Text.StandsIn

/-- The texts of a field. -/
def Field.texts : Field → List Text
  | plain (.text t) => [t]
  | attributes a => a.texts
  | _ => []

/-- What stands in the fields of name and data pairs, pair by pair. -/
theorem flatMap_pairFields {β : Type} (g : Field → List β) (pairs : List (Text × Bytes)) :
    (pairFields pairs).flatMap g = pairs.flatMap fun p => g (.text p.1) ++ g (.string p.2) := by
  unfold pairFields
  rw [List.flatMap_assoc]
  simp

/-- The texts of a message stand in its fields. -/
theorem Message.flatMap_texts (m : Message) : m.fields.flatMap Field.texts = m.texts := by
  cases m with
  | name entries =>
    simp only [fields, texts, List.flatMap_cons, List.flatMap_assoc]
    simp [NameEntry.fields, Field.texts]
  | _ => simp [fields, texts, Field.texts]

/-- The texts of a packet stand in its fields. -/
theorem Packet.flatMap_texts (p : Packet) : p.fields.flatMap Field.texts = p.texts := by
  cases p with
  | init v x | version v x =>
    simp [fields, texts, flatMap_pairFields, Field.texts, List.map_eq_flatMap]
  | message id m => exact m.flatMap_texts

/-- Fields that were read from some bytes, of which so many were missing. -/
structure WasRead (fs : List Field) (missing : Nat) (taken : Bytes) : Prop where
  /-- Nothing of them is refused, unless it is too long. -/
  proper : ∀ f ∈ fs, f.Proper
  /-- Their texts stand in the bytes. -/
  texts : ∀ f ∈ fs, ∀ t ∈ f.texts, t.StandsIn taken
  /-- They are written in no more bytes, those that were missing apart. -/
  length : (fs.flatMap Field.bytes).length ≤ taken.length + missing

namespace WasRead

variable {f : Field} {fs gs : List Field} {missing missing' : Nat} {taken taken' : Bytes}

/-- No fields were read, whatever the bytes. -/
theorem nil (taken : Bytes) : WasRead [] 0 taken where
  proper := List.forall_mem_nil _
  texts := List.forall_mem_nil _
  length := Nat.zero_le _

/-- Fields were read from the bytes of both, one after another. -/
theorem append (h : WasRead fs missing taken) (h' : WasRead gs missing' taken') :
    WasRead (fs ++ gs) (missing + missing') (taken ++ taken') where
  proper := by
    intro f hf
    rcases List.mem_append.mp hf with hf | hf
    · exact h.proper f hf
    · exact h'.proper f hf
  texts := by
    intro f hf t ht
    rcases List.mem_append.mp hf with hf | hf
    · exact (h.texts f hf t ht).left taken'
    · exact (h'.texts f hf t ht).right taken
  length := by
    have hlength := h.length
    have hlength' := h'.length
    rw [List.flatMap_append, List.length_append, List.length_append]
    omega

/-- A field was read before others. -/
theorem cons (h : WasRead [f] 0 taken) (h' : WasRead fs missing taken') :
    WasRead (f :: fs) missing (taken ++ taken') := by
  have hall := h.append h'
  rwa [Nat.zero_add] at hall

/-- More bytes may have been missing. -/
theorem mono (h : WasRead fs missing taken) (hle : missing ≤ missing') :
    WasRead fs missing' taken :=
  ⟨h.proper, h.texts, Nat.le_trans h.length (Nat.add_le_add_left hle _)⟩

/-- A number was read from as many bytes as it has. -/
theorem number {w : Width} {n : Nat} (hn : n < w.limit) (htaken : taken.length = w.size) :
    WasRead [.number w n] 0 taken where
  proper := List.forall_mem_singleton.mpr ((Width.fits_natCast w n).mpr hn)
  texts := List.forall_mem_singleton.mpr nofun
  length := by simp [Field.bytes, PlainField.bytes, htaken]

/-- A number that was read may stand for flags of a file. -/
theorem openFlags {n : Nat} (hn : n < Width.word.limit) (htaken : taken.length = 4) :
    WasRead [.openFlags ⟨n⟩] 0 taken where
  proper := List.forall_mem_singleton.mpr hn
  texts := List.forall_mem_singleton.mpr nofun
  length := by simp [Field.bytes, PlainField.bytes, htaken]

/-- Bytes were read as they are. -/
theorem raw (taken : Bytes) : WasRead [.raw taken] 0 taken where
  proper := List.forall_mem_singleton.mpr trivial
  texts := List.forall_mem_singleton.mpr nofun
  length := by simp [Field.bytes, PlainField.bytes]

end WasRead

/-! ## Readers -/

namespace Reader

variable {α β : Type} {r : Reader α} {Q : Bytes → α → Prop}

/-- What a reader gives has a property with the bytes that it took. -/
def Yields (r : Reader α) (Q : Bytes → α → Prop) : Prop :=
  ∀ (bytes rest : Bytes) (a : α), run r bytes = (.ok a, rest) →
    ∃ taken, bytes = taken ++ rest ∧ Q taken a

/-- A result that needs no bytes. -/
theorem yields_pure {a : α} (h : Q [] a) : Yields (pure a) Q := by
  intro bytes rest b hrun
  obtain ⟨hb, rfl⟩ := Prod.mk.inj hrun
  obtain rfl := Except.ok.inj hb
  exact ⟨[], rfl, h⟩

/-- A fault is no result. -/
theorem yields_throw (m : Malformed) : Yields (throw m) Q := by
  intro bytes rest b hrun
  cases congrArg Prod.fst hrun

/-- Readers one after another take bytes one after another. -/
theorem Yields.bind {k : α → Reader β} {R : Bytes → β → Prop} (hr : Yields r Q)
    (hk : ∀ first a, Q first a → Yields (k a) fun second b => R (first ++ second) b) :
    Yields (r >>= k) R := by
  intro bytes rest b hrun
  rw [run_bind] at hrun
  rcases hfirst : run r bytes with ⟨m | a, middle⟩
  · rw [hfirst] at hrun
    cases congrArg Prod.fst hrun
  · rw [hfirst] at hrun
    obtain ⟨first, rfl, hQ⟩ := hr _ _ _ hfirst
    obtain ⟨second, rfl, hR⟩ := hk first a hQ _ _ _ hrun
    exact ⟨first ++ second, (List.append_assoc _ _ _).symm, hR⟩

/-- What is made of a result takes no more bytes. -/
theorem Yields.bindPure {f : α → β} {R : Bytes → β → Prop} (hr : Yields r Q)
    (h : ∀ taken a, Q taken a → R taken (f a)) : Yields (r >>= fun a => pure (f a)) R := by
  refine hr.bind ?_
  intro taken a ha
  apply yields_pure
  rw [List.append_nil]
  exact h taken a ha

/-- A property that follows. -/
theorem Yields.imp {R : Bytes → α → Prop} (hr : Yields r Q) (h : ∀ taken a, Q taken a → R taken a) :
    Yields r R := by
  intro bytes rest a hrun
  obtain ⟨taken, hbytes, hQ⟩ := hr _ _ _ hrun
  exact ⟨taken, hbytes, h taken a hQ⟩

/-! ### Plain fields -/

/-- Exactly the wanted bytes. -/
theorem yields_take (n : Nat) (kind : FieldKind) :
    Yields (take n kind) fun taken b => b = taken ∧ taken.length = n := by
  intro bytes rest b hrun
  unfold take at hrun
  rw [run_bind, run_get] at hrun
  simp only at hrun
  split at hrun
  · rename_i hlength
    obtain ⟨hb, rfl⟩ := Prod.mk.inj hrun
    obtain rfl := Except.ok.inj hb
    exact ⟨bytes.take n, (List.take_append_drop n bytes).symm, rfl, hlength⟩
  · cases congrArg Prod.fst hrun

/-- A number is below the limit of its width. -/
theorem yields_number (w : Width) :
    Yields (number w) fun taken n => n < w.limit ∧ taken.length = w.size := by
  refine (yields_take w.size (.number w)).bindPure ?_
  rintro _ taken ⟨rfl, hlength⟩
  refine ⟨?_, hlength⟩
  rw [Width.limit, ← hlength]
  exact ofBigEndian_lt taken

/-- Bytes with their length before them are part of what was taken. -/
theorem yields_part : Yields string fun taken b => b <:+: taken ∧ taken.length = 4 + b.length := by
  refine (yields_number .word).bind ?_
  rintro head n ⟨-, hhead⟩
  refine (yields_take n .string).imp ?_
  rintro _ taken ⟨rfl, -⟩
  refine ⟨(List.suffix_append head taken).isInfix, ?_⟩
  rw [List.length_append, hhead]
  rfl

/-- So they are a string. -/
theorem yields_string : Yields string fun taken b => WasRead [.string b] 0 taken := by
  refine yields_part.imp ?_
  rintro taken b ⟨-, hlength⟩
  constructor
  · exact List.forall_mem_singleton.mpr trivial
  · exact List.forall_mem_singleton.mpr nofun
  · simp [Field.bytes, PlainField.bytes, hlength]

/-- A text with its length before it. -/
theorem yields_name : Yields name fun taken t => WasRead [.text t] 0 taken := by
  refine yields_part.bindPure ?_
  rintro taken b ⟨hpart, hlength⟩
  have hstands : (Text.decode b).StandsIn taken := ⟨b, hpart, rfl⟩
  have hbytes : (Text.decode b).bytes = b := by
    rw [Text.bytes, Text.encode?_decode]
    rfl
  constructor
  · exact List.forall_mem_singleton.mpr hstands.isEncodable
  · exact List.forall_mem_singleton.mpr (List.forall_mem_singleton.mpr hstands)
  · simp [Field.bytes, PlainField.bytes, hbytes, hlength]

/-- All that is left. -/
theorem yields_rest : Yields rest fun taken d => WasRead [.raw d] 0 taken := by
  intro bytes left d hrun
  obtain ⟨hd, rfl⟩ := Prod.mk.inj hrun
  obtain rfl := Except.ok.inj hd
  exact ⟨bytes, (List.append_nil bytes).symm, .raw bytes⟩

/-- Looking whether anything is left takes nothing. -/
theorem yields_hasMore : Yields hasMore fun taken _ => taken = [] := by
  intro bytes rest more hrun
  obtain ⟨-, rfl⟩ := Prod.mk.inj hrun
  exact ⟨[], rfl, rfl⟩

/-- A text that may be missing. Its length is written all the same. -/
theorem yields_optionalName : Yields optionalName fun taken t => WasRead [.text t] 4 taken := by
  refine yields_hasMore.bind ?_
  rintro _ more rfl
  cases more with
  | true => exact yields_name.imp fun _ _ h => h.mono (Nat.zero_le 4)
  | false =>
    apply yields_pure
    have hempty : Text.decode [] = Text.empty := by
      rw [Text.decode, Text.decodeGlyphs]
      rfl
    have hstands : Text.empty.StandsIn [] := ⟨[], List.infix_refl [], hempty.symm⟩
    constructor
    · exact List.forall_mem_singleton.mpr hstands.isEncodable
    · exact List.forall_mem_singleton.mpr (List.forall_mem_singleton.mpr hstands)
    · exact Nat.le_refl 4

/-- Items that are counted. -/
theorem yields_times {f : α → List Field} (hr : Yields r fun taken a => WasRead (f a) 0 taken)
    (n : Nat) : Yields (times r n) fun taken as => as.length = n ∧ WasRead (as.flatMap f) 0 taken := by
  induction n with
  | zero => exact yields_pure ⟨rfl, .nil _⟩
  | succ n ih =>
    refine hr.bind ?_
    intro first a ha
    refine ih.bindPure ?_
    rintro second as ⟨rfl, has⟩
    rw [List.flatMap_cons]
    exact ⟨rfl, ha.append has⟩

/-! ### Attribute blocks -/

/-- A name and its data. -/
theorem yields_pair :
    Yields pair fun taken p => WasRead [.text p.1, .string p.2] 0 taken := by
  refine yields_name.bind ?_
  intro first n hn
  refine yields_string.bindPure ?_
  intro second d hd
  exact hn.cons hd

/-- A number that is there if a flag says so. -/
theorem yields_known (w : Width) (isKnown : Bool) :
    Yields (when isKnown (number w)) fun taken n => n.isSome = isKnown ∧
      WasRead ((Attributes.numberField w (n.map Int.ofNat)).map .plain) 0 taken := by
  unfold when
  cases isKnown with
  | true =>
    refine (yields_number w).bindPure ?_
    rintro taken n ⟨hn, htaken⟩
    exact ⟨rfl, .number hn htaken⟩
  | false => exact yields_pure ⟨rfl, .nil _⟩

/-- The vendor attributes, if a flag says that there are any. There may still be none. -/
theorem yields_extended (isKnown : Bool) :
    Yields (when isKnown (number .word >>= times pair)) fun taken pairs =>
      WasRead ((Attributes.extendedFields (pairs.getD [])).map .plain) 0 taken := by
  unfold when
  cases isKnown with
  | true =>
    have hpairs : Yields (number .word >>= times pair) fun taken pairs =>
        WasRead ((Attributes.extendedFields pairs).map .plain) 0 taken := by
      refine (yields_number .word).bind ?_
      rintro head count ⟨hcount, hhead⟩
      refine (yields_times yields_pair count).imp ?_
      rintro taken pairs ⟨rfl, hpairs⟩
      have hall := (WasRead.number hcount hhead).cons hpairs
      cases pairs with
      | nil => exact .nil _
      | cons p pairs =>
        simp [Attributes.extendedFields, List.map_flatMap] at hall ⊢
        exact hall
    refine hpairs.bindPure ?_
    intro taken pairs h
    exact h
  | false => exact yields_pure (.nil _)

end Reader

namespace WasRead

variable {a : Attributes} {taken : Bytes}

/-- Every number of a block has a field. -/
theorem mem_of_mem_numbers {e : Width × Int} (he : e ∈ a.numbers) :
    Field.number e.1 e.2 ∈ (a.plainFields a.known).map Field.plain := by
  apply List.mem_map_of_mem
  simp only [Attributes.numbers, List.mem_append, List.mem_flatMap, List.mem_cons, List.not_mem_nil,
    or_false, Option.mem_toList, Option.map_eq_some_iff] at he
  simp only [Attributes.plainFields, Attributes.numberField, List.mem_append, List.mem_cons,
    Option.mem_toList, Option.map_eq_some_iff]
  rcases he with ⟨k, hk, rfl⟩ | ⟨n, rfl | rfl | rfl | rfl | rfl, k, hk, rfl⟩
  all_goals simp [hk]

/-- Every text of a block has a field. -/
theorem mem_of_mem_texts {t : Text} (ht : t ∈ a.texts) :
    Field.text t ∈ (a.plainFields a.known).map Field.plain := by
  apply List.mem_map_of_mem
  obtain ⟨e, he, rfl⟩ := List.mem_map.mp ht
  have hne : ¬ a.extended.isEmpty := by
    rw [List.isEmpty_iff]
    exact List.ne_nil_of_mem he
  apply List.mem_append_right
  rw [Attributes.extendedFields, if_neg hne]
  apply List.mem_cons_of_mem
  exact List.mem_flatMap.mpr ⟨e, he, List.mem_cons_self⟩

/-- A block was read if its fields were and its pairs are complete. -/
theorem attributes (hpairs : a.PairsComplete)
    (h : WasRead ((a.plainFields a.known).map .plain) 0 taken) : WasRead [.attributes a] 0 taken := by
  have hstands : ∀ t ∈ a.texts, t.StandsIn taken := fun t ht =>
    h.texts _ (mem_of_mem_texts ht) t List.mem_cons_self
  constructor
  · refine List.forall_mem_singleton.mpr ⟨?_, hpairs, fun t ht => (hstands t ht).isEncodable⟩
    intro e he
    exact h.proper _ (mem_of_mem_numbers he)
  · exact List.forall_mem_singleton.mpr hstands
  · have hlength := h.length
    rw [List.flatMap_map] at hlength
    rw [List.flatMap_singleton]
    exact hlength

end WasRead

namespace Reader

/-- **A block that was read can be written.** Flags that nobody knows and counts of nothing are left
out. -/
theorem yields_attributes : Yields attributes fun taken a => WasRead [.attributes a] 0 taken := by
  refine (yields_number .word).bind ?_
  rintro head bits ⟨-, hhead⟩
  refine (yields_known .long _).bind ?_
  rintro b₁ size ⟨hsize, h₁⟩
  refine (yields_known .word _).bind ?_
  rintro b₂ uid ⟨huid, h₂⟩
  refine (yields_known .word _).bind ?_
  rintro b₃ gid ⟨hgid, h₃⟩
  refine (yields_known .word _).bind ?_
  rintro b₄ permissions ⟨hpermissions, h₄⟩
  refine (yields_known .word _).bind ?_
  rintro b₅ atime ⟨hatime, h₅⟩
  refine (yields_known .word _).bind ?_
  rintro b₆ mtime ⟨hmtime, h₆⟩
  refine (yields_extended _).bindPure ?_
  intro b₇ extended h₇
  apply WasRead.attributes
  · simp [Attributes.PairsComplete, huid, hgid, hatime, hmtime]
  · have hall := h₁.append (h₂.append (h₃.append (h₄.append (h₅.append (h₆.append h₇)))))
    simp only [Attributes.plainFields, List.map_append, List.map_cons, List.append_assoc,
      List.cons_append]
    exact (WasRead.number (AttributeFlags.bits_lt _) hhead).cons hall

/-- A directory entry. -/
theorem yields_nameEntry : Yields nameEntry fun taken e => WasRead e.fields 0 taken := by
  refine yields_name.bind ?_
  intro first filename hfilename
  refine yields_name.bind ?_
  intro second longname hlongname
  refine yields_attributes.bindPure ?_
  intro third attrs hattrs
  exact hfilename.cons (hlongname.cons hattrs)

end Reader

/-! ### Extensions -/

/-- Where a name has one entry at most, new data for it replace the data of that entry. -/
theorem length_replace_le {entries : List (Text × Bytes)} (h : (entries.map Prod.fst).Nodup)
    (n : Text) (d : Bytes) :
    ((pairFields (entries.map fun e => if e.1 = n then (n, d) else e)).flatMap Field.bytes).length ≤
      ((pairFields entries ++ [Field.text n, Field.string d]).flatMap Field.bytes).length := by
  induction entries with
  | nil => exact Nat.zero_le _
  | cons e entries ih =>
    obtain ⟨hne, hnodup⟩ := List.nodup_cons.mp h
    by_cases he : e.1 = n
    · have hrest : entries.map (fun e => if e.1 = n then (n, d) else e) = entries.map id := by
        apply List.map_congr_left
        intro e' he'
        apply if_neg
        rintro rfl
        exact hne (List.mem_map.mpr ⟨e', he', he.symm⟩)
      rw [List.map_id] at hrest
      rw [List.map_cons, if_pos he, hrest]
      simp only [pairFields, List.flatMap_cons, List.flatMap_append, List.length_append,
        List.flatMap_nil]
      omega
    · have hle := ih hnodup
      rw [List.map_cons, if_neg he]
      simp only [pairFields, List.flatMap_cons, List.flatMap_append, List.length_append,
        List.flatMap_nil] at hle ⊢
      omega

namespace WasRead

variable {fs gs : List Field} {missing : Nat} {taken before : Bytes} {x : Extensions} {n : Text}
  {d : Bytes}

/-- Fields among those that were read, and no longer, were read. -/
theorem of_subset (h : WasRead fs missing taken) (hsub : ∀ g ∈ gs, g ∈ fs)
    (hle : (gs.flatMap Field.bytes).length ≤ (fs.flatMap Field.bytes).length) :
    WasRead gs missing taken :=
  ⟨fun g hg => h.proper g (hsub g hg), fun g hg => h.texts g (hsub g hg),
    Nat.le_trans hle h.length⟩

/-- Extensions of which one more is set were read, if they were and that one was. -/
theorem insert (h : WasRead (pairFields x.entries) 0 before)
    (hpair : WasRead [.text n, .string d] 0 taken) :
    WasRead (pairFields (x.insert n d).entries) 0 (before ++ taken) := by
  have hboth := h.append hpair
  show WasRead (pairFields (Extensions.setEntry x.entries n d)) 0 _
  unfold Extensions.setEntry
  split
  · apply hboth.of_subset
    · intro f hf
      obtain ⟨e', he', hf⟩ := List.mem_flatMap.mp hf
      obtain ⟨e, he, rfl⟩ := List.mem_map.mp he'
      split at hf
      · exact List.mem_append_right _ hf
      · exact List.mem_append_left _ (List.mem_flatMap.mpr ⟨e, he, hf⟩)
    · exact length_replace_le x.nodup n d
  · rw [pairFields, List.flatMap_append]
    exact hboth

end WasRead

namespace Reader

/-- Pairs up to the end of the body, after some extensions that were read before. -/
theorem yields_pairsToEnd {before : Bytes} {x : Extensions} (fuel : Nat)
    (h : WasRead (pairFields x.entries) 0 before) :
    Yields (pairsToEnd fuel x) fun taken y => WasRead (pairFields y.entries) 0 (before ++ taken) := by
  induction fuel generalizing before x with
  | zero =>
    apply yields_pure
    rwa [List.append_nil]
  | succ fuel ih =>
    refine yields_hasMore.bind ?_
    rintro _ more rfl
    cases more with
    | false =>
      apply yields_pure
      rwa [List.nil_append, List.append_nil]
    | true =>
      refine yields_name.bind ?_
      intro first n hn
      refine yields_string.bind ?_
      intro second d hd
      refine (ih (h.insert (hn.cons hd))).imp ?_
      intro taken y hy
      rwa [List.nil_append, ← List.append_assoc, ← List.append_assoc, List.append_assoc before]

/-- The extensions that end a handshake packet. -/
theorem yields_extensions :
    Yields extensions fun taken x => WasRead (pairFields x.entries) 0 taken := by
  have hempty : WasRead (pairFields Extensions.empty.entries) 0 [] := .nil _
  intro bytes rest x hrun
  exact yields_pairsToEnd bytes.length hempty bytes rest x hrun

end Reader

end Sftp
