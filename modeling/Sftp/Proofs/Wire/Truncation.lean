import Mathlib.Control.Monad.Basic
import Sftp.Fault
import Sftp.Proofs.Wire.Encoded

/-!
# Bodies that are cut off or go on

A body may be cut off at any byte, in the middle of a field or between two, and bytes may follow it. Most
readers never look for the end of a body: more bytes do not change what they give. Such a reader cannot
take a body that is cut off, for with the missing bytes it would take it and leave them. Five kinds of
packets are read by readers that do look for the end.

* `Reader.Steady` — more bytes change nothing but what is left; `Steady.bind` — readers one after another.
* `PacketKind.IsOpenEnded` — the kinds whose readers look for the end; `Reader.steady_packetOfKind` — the
  others.
* `Reader.Admits` — which beginnings of some bytes a reader takes; `Steady.admits` — only all of them, if
  it is steady; `Reads.admits_bind` — readers one after another.
* `Packet.Curtailed` — the places where a body may be cut off, and the packet that is left.
* **`Packet.ofBody_curtailed`** — a body that is cut off is a bad message, but at these places; a body that
  goes on is read as if it did not, unless its kind is open-ended.
-/

namespace Sftp

/-! ## Readers that do not look for the end -/

namespace Reader

variable {α β : Type} {r : Reader α} {a : α}

/-- More bytes after those that a reader takes are left by it, and change nothing else. -/
def Steady (r : Reader α) : Prop :=
  ∀ (bytes rest more : Bytes) (a : α), run r bytes = (.ok a, rest) →
    run r (bytes ++ more) = (.ok a, rest ++ more)

/-- A result that needs no bytes. -/
theorem steady_pure (a : α) : Steady (pure a) := by
  intro bytes rest more b h
  obtain ⟨hb, rfl⟩ := Prod.mk.inj h
  obtain rfl := Except.ok.inj hb
  rfl

/-- Readers one after another. -/
theorem Steady.bind {k : α → Reader β} (hr : Steady r) (hk : ∀ a, Steady (k a)) :
    Steady (r >>= k) := by
  intro bytes rest more b h
  rw [run_bind] at h
  rcases hfirst : run r bytes with ⟨m | a, middle⟩
  · rw [hfirst] at h
    cases congrArg Prod.fst h
  · rw [hfirst] at h
    rw [run_bind, hr _ _ more _ hfirst]
    exact hk a _ _ more _ h

/-- What is made of a result. -/
theorem Steady.bindPure (hr : Steady r) (f : α → β) : Steady (r >>= fun a => pure (f a)) :=
  hr.bind fun a => steady_pure (f a)

/-- Exactly the wanted bytes. -/
theorem steady_take (n : Nat) (kind : FieldKind) : Steady (take n kind) := by
  intro bytes rest more b h
  unfold take at h
  rw [run_bind, run_get] at h
  simp only at h
  split at h
  · rename_i hlength
    obtain ⟨hb, rfl⟩ := Prod.mk.inj h
    obtain rfl := Except.ok.inj hb
    have hread := reads_take hlength kind (bytes.drop n ++ more)
    rwa [← List.append_assoc, List.take_append_drop] at hread
  · cases congrArg Prod.fst h

/-- A number. -/
theorem steady_number (w : Width) : Steady (number w) :=
  (steady_take _ _).bindPure ofBigEndian

/-- Bytes with their length before them. -/
theorem steady_string : Steady string :=
  (steady_number .word).bind fun n => steady_take n .string

/-- A text. -/
theorem steady_name : Steady name :=
  steady_string.bindPure Text.decode

/-- Something that is there if a flag says so. -/
theorem Steady.when (hr : Steady r) (condition : Bool) : Steady (when condition r) := by
  unfold Reader.when
  cases condition with
  | true => exact hr.bindPure some
  | false => exact steady_pure none

/-- Something that is counted. -/
theorem Steady.times (hr : Steady r) (n : Nat) : Steady (times r n) := by
  induction n with
  | zero => exact steady_pure []
  | succ n ih => exact hr.bind fun a => ih.bindPure (a :: ·)

/-- A name and its data. -/
theorem steady_pair : Steady pair :=
  steady_name.bind fun n => steady_string.bindPure (Prod.mk n)

/-- An attribute block, as its flags say what it holds. -/
theorem steady_attributes : Steady attributes := by
  refine (steady_number .word).bind fun bits => ?_
  refine ((steady_number .long).when _).bind fun size => ?_
  refine ((steady_number .word).when _).bind fun uid => ?_
  refine ((steady_number .word).when _).bind fun gid => ?_
  refine ((steady_number .word).when _).bind fun permissions => ?_
  refine ((steady_number .word).when _).bind fun atime => ?_
  refine ((steady_number .word).when _).bind fun mtime => ?_
  have hextended : Steady (number .word >>= Reader.times pair) :=
    (steady_number .word).bind steady_pair.times
  exact (hextended.when _).bindPure _

/-- A directory entry. -/
theorem steady_nameEntry : Steady nameEntry := by
  refine steady_name.bind fun filename => ?_
  refine steady_name.bind fun longname => ?_
  exact steady_attributes.bindPure _

end Reader

/-- The kinds of packets whose readers look for the end of the body. -/
def PacketKind.IsOpenEnded : PacketKind → Prop
  | init | version | status | extended | extendedReply => True
  | _ => False

/-- **The readers of the other kinds do not look for the end.** -/
theorem Reader.steady_packetOfKind {kind : PacketKind} (h : ¬ kind.IsOpenEnded) :
    Steady (packetOfKind kind) := by
  refine (steady_number .word).bind fun head => ?_
  cases kind with
  | init | version | status | extended | extendedReply => exact absurd trivial h
  | lstat | opendir | remove | rmdir | realpath | stat | readlink => exact steady_name.bindPure _
  | close | fstat | readdir | handle | data => exact steady_string.bindPure _
  | attrs => exact steady_attributes.bindPure _
  | setstat | mkdir => exact steady_name.bind fun path => steady_attributes.bindPure _
  | fsetstat => exact steady_string.bind fun handle => steady_attributes.bindPure _
  | rename | symlink => exact steady_name.bind fun first => steady_name.bindPure _
  | openFile =>
    refine steady_name.bind fun path => ?_
    exact (steady_number .word).bind fun flags => steady_attributes.bindPure _
  | read =>
    refine steady_string.bind fun handle => ?_
    exact (steady_number .long).bind fun offset => (steady_number .word).bindPure _
  | write =>
    refine steady_string.bind fun handle => ?_
    exact (steady_number .long).bind fun offset => steady_string.bindPure _
  | name => exact (steady_number .word).bind fun count => (steady_nameEntry.times count).bindPure _

/-! ## Beginnings of a body -/

namespace Reader

variable {α β : Type} {r : Reader α} {a : α} {bytes first second : Bytes} {Q R : Bytes → α → Prop}

/-- Of the beginnings of some bytes, the reader takes those that `Q` holds of, with that result. -/
def Admits (r : Reader α) (bytes : Bytes) (Q : Bytes → α → Prop) : Prop :=
  ∀ before after : Bytes, bytes = before ++ after → ∀ a, (run r before).1 = .ok a ↔ Q before a

/-- The same condition in other words. -/
theorem Admits.congr (h : Admits r bytes Q)
    (hQ : ∀ before after, bytes = before ++ after → ∀ a, Q before a ↔ R before a) :
    Admits r bytes R :=
  fun before after hbytes a => (h before after hbytes a).trans (hQ before after hbytes a)

/-- **A steady reader that takes all the bytes takes no beginning of them.** -/
theorem Steady.admits (hs : Steady r) (h : ReadsAll r bytes a) :
    Admits r bytes fun before b => before = bytes ∧ b = a := by
  intro before after hbytes b
  constructor
  · intro hrun
    have hmore := hs before _ after b (Prod.ext hrun rfl)
    rw [← hbytes, h] at hmore
    obtain ⟨hb, hrest⟩ := Prod.mk.inj hmore
    obtain rfl := Except.ok.inj hb
    obtain ⟨-, rfl⟩ := List.append_eq_nil_iff.mp hrest.symm
    rw [hbytes, List.append_nil]
    exact ⟨rfl, rfl⟩
  · rintro ⟨rfl, rfl⟩
    rw [h]

/-- Of readers one after another that are given a beginning of their bytes, the first takes its own in
full, if it is steady. -/
theorem Reads.run_beginning {k : α → Reader β} {before after : Bytes} (hr : Reads r first a)
    (hs : Steady r) (hbytes : first ++ second = before ++ after) (b : β) :
    (run (r >>= k) before).1 = .ok b ↔
      ∃ rest, before = first ++ rest ∧ second = rest ++ after ∧ (run (k a) rest).1 = .ok b := by
  constructor
  · intro hrun
    rcases List.append_eq_append_iff.mp hbytes with ⟨rest, rfl, hsecond⟩ | ⟨missing, hfirst, hafter⟩
    · rw [run_bind, hr rest] at hrun
      exact ⟨rest, rfl, hsecond, hrun⟩
    · -- there is no more than a beginning of the first bytes
      rw [run_bind] at hrun
      rcases hrest : run r before with ⟨m | c, middle⟩
      · rw [hrest] at hrun
        cases hrun
      · obtain ⟨rfl, rfl⟩ := (hs.admits hr.all before missing hfirst c).mp (congrArg Prod.fst hrest)
        rw [hr.all] at hrest
        obtain ⟨-, rfl⟩ := Prod.mk.inj hrest
        rw [hr.all] at hrun
        refine ⟨[], (List.append_nil _).symm, ?_, hrun⟩
        exact List.append_cancel_left hbytes
  · rintro ⟨rest, rfl, -, hrun⟩
    rwa [run_bind, hr rest]

/-- So the second reader admits what follows the bytes of the first. -/
theorem Reads.admits_bind {k : α → Reader β} {Q : Bytes → β → Prop} (hr : Reads r first a)
    (hs : Steady r) (hk : Admits (k a) second Q) :
    Admits (r >>= k) (first ++ second) fun before b => ∃ rest, before = first ++ rest ∧ Q rest b := by
  intro before after hbytes b
  rw [hr.run_beginning hs hbytes]
  constructor
  · rintro ⟨rest, rfl, hsecond, hrun⟩
    exact ⟨rest, rfl, (hk rest after hsecond b).mp hrun⟩
  · rintro ⟨rest, rfl, hQ⟩
    rw [List.append_assoc] at hbytes
    have hsecond := List.append_cancel_left hbytes
    exact ⟨rest, rfl, hsecond, (hk rest after hsecond b).mpr hQ⟩

/-- A result that needs no bytes. -/
theorem admits_pure (a : α) : Admits (pure a) [] fun before b => before = [] ∧ b = a :=
  (steady_pure a).admits (reads_pure a).all

/-- What is made of a result. -/
theorem Admits.bindPure (h : Admits r bytes Q) (f : α → β) :
    Admits (r >>= fun a => pure (f a)) bytes fun before b => ∃ a, Q before a ∧ b = f a := by
  intro before after hbytes b
  rw [run_bind]
  constructor
  · intro hrun
    rcases hrest : run r before with ⟨m | a, rest⟩
    · rw [hrest] at hrun
      cases hrun
    · rw [hrest] at hrun
      exact ⟨a, (h before after hbytes a).mp (congrArg Prod.fst hrest), (Except.ok.inj hrun).symm⟩
  · rintro ⟨a, hQ, rfl⟩
    have hrun := (h before after hbytes a).mpr hQ
    rcases hrest : run r before with ⟨m | c, rest⟩
    · rw [hrest] at hrun
      cases hrun
    · rw [hrest] at hrun
      obtain rfl := Except.ok.inj hrun
      rfl

/-- All that is left may be any beginning. -/
theorem admits_rest (bytes : Bytes) : Admits rest bytes fun before d => d = before := by
  intro before after _ d
  constructor
  · intro h
    exact (Except.ok.inj h).symm
  · rintro rfl
    rfl

/-- A text that may be missing is missing from no bytes. -/
theorem admits_optionalName {t : Text} {k : Text → Reader β} {Q : Bytes → β → Prop}
    (h : t.ReadsBack) (hlength : t.bytes.length < Width.word.limit) (hk : Admits (k t) second Q) :
    Admits (optionalName >>= k) (PlainField.bytes (.text t) ++ second) fun before b =>
      (before = [] ∧ (run (k Text.empty) []).1 = .ok b) ∨
        ∃ rest, before = PlainField.bytes (.text t) ++ rest ∧ Q rest b := by
  have hname := (reads_name h hlength).admits_bind steady_name hk
  intro before after hbytes b
  cases before with
  | nil =>
    constructor
    · exact fun hrun => .inl ⟨rfl, hrun⟩
    · rintro (⟨-, hrun⟩ | ⟨rest, hrest, -⟩)
      · exact hrun
      · have hempty := (List.append_eq_nil_iff.mp hrest.symm).1
        simp [PlainField.bytes, bigEndian] at hempty
  | cons c before =>
    have hrun : run (optionalName >>= k) (c :: before) = run (name >>= k) (c :: before) := by
      rw [run_bind, run_bind]
      rfl
    rw [hrun]
    refine (hname _ after hbytes b).trans ⟨.inr, ?_⟩
    rintro (⟨hnil, -⟩ | hrest)
    · cases hnil
    · exact hrest

/-- No bytes are no pairs. -/
theorem pairs_eq_nil {pairs : List (Text × Bytes)}
    (h : (pairFields pairs).flatMap Field.bytes = []) : pairs = [] := by
  cases pairs with
  | nil => rfl
  | cons p pairs => simp [pairFields, Field.bytes, PlainField.bytes, bigEndian] at h

/-- Before the end of the body there are no pairs. -/
theorem run_pairsToEnd_nil (fuel : Nat) (x : Extensions) :
    run (pairsToEnd fuel x) [] = (.ok x, []) := by
  cases fuel with
  | zero => rfl
  | succ fuel => rfl

/-- The bytes of pairs, pair by pair. -/
theorem bytes_pairFields_cons (p : Text × Bytes) (pairs : List (Text × Bytes)) :
    (pairFields (p :: pairs)).flatMap Field.bytes
      = PlainField.bytes (.text p.1) ++ (PlainField.bytes (.string p.2)
        ++ (pairFields pairs).flatMap Field.bytes) := by
  simp [pairFields, Field.bytes]

/-- A pair is taken in full, and then the others. -/
theorem run_pairsToEnd_cons {p : Text × Bytes} {fuel : Nat} {before after others : Bytes}
    {x y : Extensions} (ht : p.1.ReadsBack) (hname : p.1.bytes.length < Width.word.limit)
    (hdata : p.2.length < Width.word.limit) (hsome : before ≠ [])
    (hbytes : PlainField.bytes (.text p.1) ++ (PlainField.bytes (.string p.2) ++ others)
      = before ++ after) :
    (run (pairsToEnd (fuel + 1) x) before).1 = .ok y ↔
      ∃ rest, before = PlainField.bytes (.text p.1) ++ (PlainField.bytes (.string p.2) ++ rest) ∧
        others = rest ++ after ∧ (run (pairsToEnd fuel (x.insert p.1 p.2)) rest).1 = .ok y := by
  have hrun : run (pairsToEnd (fuel + 1) x) before =
      run (name >>= fun n => string >>= fun d => pairsToEnd fuel (x.insert n d)) before := by
    have hmore : run hasMore before = (.ok true, before) := by
      cases before with
      | nil => exact absurd rfl hsome
      | cons c before => rfl
    rw [pairsToEnd, run_bind, hmore]
    rfl
  rw [hrun, (reads_name ht hname).run_beginning steady_name hbytes]
  constructor
  · rintro ⟨middle, rfl, hmiddle, h⟩
    obtain ⟨rest, rfl, hrest, h⟩ :=
      ((reads_string hdata).run_beginning steady_string hmiddle y).mp h
    exact ⟨rest, rfl, hrest, h⟩
  · rintro ⟨rest, rfl, rfl, h⟩
    refine ⟨_, rfl, (List.append_assoc _ _ _).symm, ?_⟩
    exact ((reads_string hdata).run_beginning steady_string
      (List.append_assoc _ rest after).symm y).mpr ⟨rest, rfl, rfl, h⟩

/-- **Pairs up to the end of the body may end after any of them**, if there are rounds enough. -/
theorem run_pairsToEnd_beginning {pairs : List (Text × Bytes)} {fuel : Nat} {before after : Bytes}
    (x : Extensions) (hfits : ∀ f ∈ pairFields pairs, f.Fits) (ht : ∀ p ∈ pairs, p.1.ReadsBack)
    (hbytes : (pairFields pairs).flatMap Field.bytes = before ++ after)
    (hfuel : before.length ≤ fuel) (y : Extensions) :
    (run (pairsToEnd fuel x) before).1 = .ok y ↔
      ∃ front, front <+: pairs ∧ before = (pairFields front).flatMap Field.bytes ∧
        y = front.foldl (fun z e => z.insert e.1 e.2) x := by
  induction pairs generalizing fuel x before with
  | nil =>
    obtain ⟨rfl, -⟩ := List.append_eq_nil_iff.mp hbytes.symm
    rw [run_pairsToEnd_nil]
    constructor
    · intro h
      exact ⟨[], List.nil_prefix, rfl, (Except.ok.inj h).symm⟩
    · rintro ⟨front, hfront, -, rfl⟩
      obtain rfl := List.prefix_nil.mp hfront
      rfl
  | cons p pairs ih =>
    by_cases hsome : before = []
    · subst hsome
      rw [run_pairsToEnd_nil]
      constructor
      · intro h
        exact ⟨[], List.nil_prefix, rfl, (Except.ok.inj h).symm⟩
      · rintro ⟨front, -, hfront, rfl⟩
        obtain rfl := pairs_eq_nil hfront.symm
        rfl
    have hpos := List.length_pos_iff.mpr hsome
    obtain ⟨fuel, rfl⟩ : ∃ k, fuel = k + 1 := ⟨fuel - 1, by omega⟩
    have h1 : Field.Fits (.text p.1) := hfits _ (by simp [pairFields])
    have h2 : Field.Fits (.string p.2) := hfits _ (by simp [pairFields])
    have hfields : ∀ f ∈ pairFields pairs, f.Fits := by
      intro f hf
      refine hfits f ?_
      rw [pairFields, List.flatMap_cons]
      exact List.mem_append_right _ hf
    have htexts : ∀ q ∈ pairs, q.1.ReadsBack := fun q hq => ht q (List.mem_cons_of_mem p hq)
    have hothers := fun (rest : Bytes) (hrest : _ = rest ++ after) (hlength : rest.length ≤ fuel) =>
      ih (x.insert p.1 p.2) hfields htexts hrest hlength
    have hshorter : ∀ rest, before =
        PlainField.bytes (.text p.1) ++ (PlainField.bytes (.string p.2) ++ rest) → rest.length ≤ fuel := by
      rintro rest rfl
      simp only [PlainField.bytes, List.length_append, length_bigEndian] at hfuel
      omega
    rw [bytes_pairFields_cons] at hbytes
    rw [run_pairsToEnd_cons (ht p List.mem_cons_self) h1.2 h2 hsome hbytes]
    constructor
    · rintro ⟨rest, hbefore, hrest, h⟩
      obtain ⟨front, hfront, rfl, rfl⟩ := (hothers rest hrest (hshorter rest hbefore)).mp h
      refine ⟨p :: front, (List.prefix_cons_inj p).mpr hfront, ?_, rfl⟩
      rw [hbefore, bytes_pairFields_cons]
    · rintro ⟨front, hfront, hbefore, rfl⟩
      cases front with
      | nil => exact absurd hbefore hsome
      | cons q front =>
        obtain ⟨rfl, htail⟩ := List.cons_prefix_cons.mp hfront
        rw [bytes_pairFields_cons] at hbefore
        rw [hbefore, List.append_assoc, List.append_assoc] at hbytes
        have hrest := List.append_cancel_left (List.append_cancel_left hbytes)
        exact ⟨_, hbefore, hrest,
          (hothers _ hrest (hshorter _ hbefore)).mpr ⟨front, htail, rfl, rfl⟩⟩

/-- The extensions that end a handshake packet may end after any of them. -/
theorem admits_extensions {x : Extensions} (hfits : ∀ f ∈ pairFields x.entries, f.Fits)
    (ht : ∀ p ∈ x.entries, p.1.ReadsBack) :
    Admits extensions ((pairFields x.entries).flatMap Field.bytes) fun before y =>
      y.entries <+: x.entries ∧ before = (pairFields y.entries).flatMap Field.bytes := by
  intro before after hbytes y
  have hrun : run extensions before = run (pairsToEnd before.length .empty) before := by
    unfold extensions
    rw [run_bind, run_get]
  rw [hrun, run_pairsToEnd_beginning .empty hfits ht hbytes (Nat.le_refl _)]
  constructor
  · rintro ⟨front, hfront, rfl, rfl⟩
    have hentries : (front.foldl (fun z e => z.insert e.1 e.2) Extensions.empty).entries = front := by
      refine entries_foldl_insert (x := .empty) ?_
      exact (hfront.map Prod.fst).sublist.nodup x.nodup
    rw [hentries]
    exact ⟨hfront, rfl⟩
  · rintro ⟨hfront, rfl⟩
    exact ⟨y.entries, hfront, rfl, (ofList_entries y).symm⟩

end Reader

/-! ## Packets -/

/-- Where the fields of a message may be cut off: the fields that are left, and the message that these are
read as. -/
inductive Message.Curtailed : Message → List Field → Message → Prop
  /-- A status after its code. -/
  | afterCode {code : Int} {text lang : Text} :
    Curtailed (status code text lang) [.number .word code] (status code Text.empty Text.empty)
  /-- A status after its message. -/
  | afterMessage {code : Int} {text lang : Text} :
    Curtailed (status code text lang) [.number .word code, .text text] (status code text Text.empty)
  /-- A vendor request anywhere in its data. -/
  | inRequest {request : Text} {d front : Bytes} (h : front <+: d) :
    Curtailed (extended request d) [.text request, .raw front] (extended request front)
  /-- The answer to one anywhere in its data. -/
  | inReply {d front : Bytes} (h : front <+: d) :
    Curtailed (extendedReply d) [.raw front] (extendedReply front)

/-- Where the body of a packet may be cut off: the fields that are left, and the packet that these are read
as. -/
inductive Packet.Curtailed : Packet → List Field → Packet → Prop
  /-- A client's handshake packet after its version or after an extension. -/
  | init {v : Int} {x y : Extensions} (h : y.entries <+: x.entries) :
    Curtailed (init v x) (.number .byte PacketKind.init.tag :: .number .word v :: pairFields y.entries)
      (init v y)
  /-- A server's handshake packet after its version or after an extension. -/
  | version {v : Int} {x y : Extensions} (h : y.entries <+: x.entries) :
    Curtailed (version v x)
      (.number .byte PacketKind.version.tag :: .number .word v :: pairFields y.entries) (version v y)
  /-- A message, as its fields may be cut off. -/
  | message {id : Int} {m left : Message} {fs : List Field} (h : m.Curtailed fs left) :
    Curtailed (message id m) (.number .byte m.kind.tag :: .number .word id :: fs) (message id left)

/-- Only open-ended kinds may be cut off. -/
theorem Message.Curtailed.isOpenEnded {m left : Message} {fs : List Field} (h : m.Curtailed fs left) :
    m.kind.IsOpenEnded := by
  cases h <;> trivial

/-- The fields of a message, whole or cut off, and the message that they are read as. -/
def Message.Remains (m : Message) (before : Bytes) (left : Message) : Prop :=
  (before = m.bytes ∧ left = m) ∨ ∃ fs, m.Curtailed fs left ∧ before = fs.flatMap Field.bytes

/-- The body of a packet, whole or cut off, and the packet that it is read as. -/
def Packet.Remains (p : Packet) (before : Bytes) (left : Packet) : Prop :=
  (before = p.layout ∧ left = p) ∨ ∃ fs, p.Curtailed fs left ∧ before = fs.flatMap Field.bytes

namespace Reader

variable {n : Nat}

/-- The answer to a vendor request. -/
theorem admits_reply (d : Bytes) :
    Admits (rest >>= fun data => pure (Packet.message n (.extendedReply data)))
      (Message.extendedReply d).bytes
      fun before q => ∃ left, (Message.extendedReply d).Remains before left ∧ q = .message n left := by
  have hbytes : ∀ front : Bytes, [Field.raw front].flatMap Field.bytes = front := fun front =>
    List.append_nil front
  show Admits _ ([Field.raw d].flatMap Field.bytes) _
  rw [hbytes]
  refine ((admits_rest d).bindPure fun data => Packet.message n (.extendedReply data)).congr ?_
  intro before after hd q
  constructor
  · rintro ⟨front, rfl, rfl⟩
    exact ⟨_, .inr ⟨_, .inReply ⟨after, hd.symm⟩, (hbytes front).symm⟩, rfl⟩
  · rintro ⟨left, ⟨rfl, rfl⟩ | ⟨fs, hcut, rfl⟩, rfl⟩
    · exact ⟨_, (hbytes d).symm, rfl⟩
    · cases hcut with
      | inReply _ => exact ⟨_, (hbytes _).symm, rfl⟩

/-- A vendor request. -/
theorem admits_request {request : Text} {d : Bytes} (ht : request.ReadsBack)
    (hlength : request.bytes.length < Width.word.limit) :
    Admits (name >>= fun t => rest >>= fun data => pure (Packet.message n (.extended t data)))
      (Message.extended request d).bytes
      fun before q => ∃ left, (Message.extended request d).Remains before left ∧ q = .message n left := by
  have hbytes : ∀ front : Bytes, [Field.text request, .raw front].flatMap Field.bytes
      = PlainField.bytes (.text request) ++ front := by
    intro front
    simp [Field.bytes, PlainField.bytes]
  show Admits _ ([Field.text request, .raw d].flatMap Field.bytes) _
  rw [hbytes]
  refine ((reads_name ht hlength).admits_bind steady_name
    ((admits_rest d).bindPure fun data => Packet.message n (.extended request data))).congr ?_
  intro before after hd q
  constructor
  · rintro ⟨_, rfl, front, rfl, rfl⟩
    rw [List.append_assoc] at hd
    have hfront : front <+: d := ⟨after, (List.append_cancel_left hd).symm⟩
    exact ⟨_, .inr ⟨_, .inRequest hfront, (hbytes front).symm⟩, rfl⟩
  · rintro ⟨left, ⟨rfl, rfl⟩ | ⟨fs, hcut, rfl⟩, rfl⟩
    · exact ⟨d, hbytes d, d, rfl, rfl⟩
    · cases hcut with
      | @inRequest _ _ front _ => exact ⟨front, hbytes front, front, rfl, rfl⟩

/-- A status, of which the texts may be missing. -/
theorem admits_status {code : Nat} {text lang : Text} (hcode : code < Width.word.limit)
    (htext : text.ReadsBack) (htextLength : text.bytes.length < Width.word.limit)
    (hlang : lang.ReadsBack) (hlangLength : lang.bytes.length < Width.word.limit) :
    Admits (number .word >>= fun c => optionalName >>= fun t => optionalName >>= fun l =>
        pure (Packet.message n (.status c t l)))
      (Message.status code text lang).bytes
      fun before q => ∃ left, (Message.status code text lang).Remains before left ∧
        q = .message n left := by
  have hlast := admits_optionalName (k := fun l => pure (Packet.message n (.status code text l)))
    hlang hlangLength (admits_pure _)
  have htexts := admits_optionalName
    (k := fun t => optionalName >>= fun l => pure (Packet.message n (.status code t l)))
    htext htextLength hlast
  have hhead : Reads (number .word) (bigEndian 4 code) code := reads_natNumber hcode
  refine (hhead.admits_bind (k := fun c : Nat => optionalName >>= fun t => optionalName >>= fun l =>
    pure (Packet.message n (.status c t l))) (steady_number .word) htexts).congr ?_
  intro before after _ q
  constructor
  · rintro ⟨_, rfl, ⟨rfl, hrun⟩ | ⟨_, rfl, ⟨rfl, hrun⟩ | ⟨_, rfl, rfl, rfl⟩⟩⟩
    · exact ⟨_, .inr ⟨_, .afterCode, rfl⟩, (Except.ok.inj hrun).symm⟩
    · exact ⟨_, .inr ⟨_, .afterMessage, rfl⟩, (Except.ok.inj hrun).symm⟩
    · exact ⟨_, .inl ⟨rfl, rfl⟩, rfl⟩
  · rintro ⟨left, ⟨rfl, rfl⟩ | ⟨fs, hcut, rfl⟩, rfl⟩
    · exact ⟨_, rfl, .inr ⟨_, rfl, .inr ⟨_, rfl, rfl, rfl⟩⟩⟩
    · cases hcut with
      | afterCode => exact ⟨[], rfl, .inl ⟨rfl, rfl⟩⟩
      | afterMessage => exact ⟨_, rfl, .inr ⟨[], rfl, .inl ⟨rfl, rfl⟩⟩⟩

/-- **The reader of messages takes the fields of a message whole, or as they may be cut off.** -/
theorem admits_message {m : Message} (hn : n < Width.word.limit) (hfits : ∀ f ∈ m.fields, f.Fits)
    (ht : ∀ t ∈ m.texts, t.ReadsBack) :
    Admits (packetOfKind m.kind) (bigEndian 4 n ++ m.bytes) fun before q =>
      ∃ rest, before = bigEndian 4 n ++ rest ∧ ∃ left, m.Remains rest left ∧ q = .message n left := by
  have hsteady : ¬ m.kind.IsOpenEnded → Admits (packetOfKind m.kind) (bigEndian 4 n ++ m.bytes)
      fun before q => ∃ rest, before = bigEndian 4 n ++ rest ∧
        ∃ left, m.Remains rest left ∧ q = .message n left := by
    intro hkind
    refine ((steady_packetOfKind hkind).admits (readsAll_message hn hfits ht)).congr ?_
    intro before after _ q
    constructor
    · rintro ⟨rfl, rfl⟩
      exact ⟨_, rfl, m, .inl ⟨rfl, rfl⟩, rfl⟩
    · rintro ⟨rest, rfl, left, ⟨rfl, rfl⟩ | ⟨fs, hcut, -⟩, rfl⟩
      · exact ⟨rfl, rfl⟩
      · exact absurd hcut.isOpenEnded hkind
  have hhead := reads_natNumber (w := .word) hn
  cases m with
  | extendedReply d => exact hhead.admits_bind (steady_number .word) (admits_reply d)
  | extended request d =>
    have h1 : Field.Fits (.text request) := hfits _ (by simp [Message.fields])
    have ht1 : request.ReadsBack := ht _ (by simp [Message.texts])
    exact hhead.admits_bind (steady_number .word) (admits_request ht1 h1.2)
  | status code text lang =>
    have h1 : Field.Fits (.number .word code) := hfits _ (by simp [Message.fields])
    have h2 : Field.Fits (.text text) := hfits _ (by simp [Message.fields])
    have h3 : Field.Fits (.text lang) := hfits _ (by simp [Message.fields])
    have ht1 : text.ReadsBack := ht _ (by simp [Message.texts])
    have ht2 : lang.ReadsBack := ht _ (by simp [Message.texts])
    obtain ⟨code, rfl⟩ := Int.eq_ofNat_of_zero_le h1.1
    exact hhead.admits_bind (steady_number .word)
      (admits_status ((Width.fits_natCast _ _).mp h1) ht1 h2.2 ht2 h3.2)
  | _ => exact hsteady id

/-- A handshake packet after its tag, of which extensions may be missing. -/
theorem admits_handshake {v : Nat} {x : Extensions} (make : Int → Extensions → Packet)
    (hv : v < Width.word.limit) (hfits : ∀ f ∈ pairFields x.entries, f.Fits)
    (ht : ∀ p ∈ x.entries, p.1.ReadsBack) :
    Admits (number .word >>= fun head : Nat => extensions >>= fun y => pure (make head y))
      (bigEndian 4 v ++ (pairFields x.entries).flatMap Field.bytes) fun before q =>
        ∃ y : Extensions, y.entries <+: x.entries ∧
          before = bigEndian 4 v ++ (pairFields y.entries).flatMap Field.bytes ∧ q = make v y := by
  have hversion : Reads (number .word) (bigEndian 4 v) v := reads_natNumber hv
  refine (hversion.admits_bind (k := fun head : Nat => extensions >>= fun y => pure (make head y))
    (steady_number .word) ((admits_extensions hfits ht).bindPure (make v))).congr ?_
  intro before after _ q
  constructor
  · rintro ⟨_, rfl, y, ⟨hentries, rfl⟩, rfl⟩
    exact ⟨y, hentries, rfl, rfl⟩
  · rintro ⟨y, hentries, rfl, rfl⟩
    exact ⟨_, rfl, y, ⟨hentries, rfl⟩, rfl⟩

/-- After a tag the reader of packets is that of its kind. -/
theorem run_packet_tag (kind : PacketKind) (bytes : Bytes) :
    run packet (bigEndian 1 kind.tag ++ bytes) = run (packetOfKind kind) bytes := by
  have htag : Reads (number .byte) (bigEndian 1 kind.tag) kind.tag :=
    reads_natNumber (w := .byte) (PacketKind.tag_lt kind)
  unfold packet
  rw [run_bind, htag bytes]
  simp only [PacketKind.ofTag?_tag]

/-- So it admits what that reader admits. -/
theorem admits_tag (kind : PacketKind) {bytes : Bytes} {Q : Bytes → Packet → Prop}
    (h : Admits (packetOfKind kind) bytes Q) :
    Admits packet (bigEndian 1 kind.tag ++ bytes) fun before q =>
      ∃ rest, before = bigEndian 1 kind.tag ++ rest ∧ Q rest q := by
  have htag : Reads (number .byte) (bigEndian 1 kind.tag) kind.tag :=
    reads_natNumber (w := .byte) (PacketKind.tag_lt kind)
  refine htag.admits_bind (steady_number .byte) ?_
  rw [PacketKind.ofTag?_tag]
  exact h

/-- **The reader of packets takes the body of a packet whole, or as it may be cut off.** -/
theorem admits_packet {p : Packet} (hfits : ∀ f ∈ p.fields, f.Fits)
    (ht : ∀ t ∈ p.texts, t.ReadsBack) : Admits packet p.layout p.Remains := by
  have hhead : ∀ v : Int, Field.number .word v ∈ p.fields → ∃ n : Nat, v = n ∧ n < Width.word.limit := by
    intro v hv
    have hv : Field.Fits (.number .word v) := hfits _ hv
    obtain ⟨n, rfl⟩ := Int.eq_ofNat_of_zero_le hv.1
    exact ⟨n, rfl, (Width.fits_natCast _ _).mp hv⟩
  cases p with
  | init v x =>
    obtain ⟨n, rfl, hn⟩ := hhead v (by simp [Packet.fields])
    have hpairs : ∀ f ∈ pairFields x.entries, f.Fits := fun f hf =>
      hfits f (List.mem_cons_of_mem _ (List.mem_cons_of_mem _ hf))
    have htexts : ∀ e ∈ x.entries, e.1.ReadsBack := fun e he => ht e.1 (List.mem_map_of_mem he)
    refine (admits_tag .init (admits_handshake .init hn hpairs htexts)).congr ?_
    intro before after _ q
    constructor
    · rintro ⟨_, rfl, y, hentries, rfl, rfl⟩
      exact .inr ⟨_, .init hentries, rfl⟩
    · rintro (⟨rfl, rfl⟩ | ⟨_, hcut, rfl⟩)
      · exact ⟨_, rfl, x, List.prefix_rfl, rfl, rfl⟩
      · cases hcut with
        | init hentries => exact ⟨_, rfl, _, hentries, rfl, rfl⟩
  | version v x =>
    obtain ⟨n, rfl, hn⟩ := hhead v (by simp [Packet.fields])
    have hpairs : ∀ f ∈ pairFields x.entries, f.Fits := fun f hf =>
      hfits f (List.mem_cons_of_mem _ (List.mem_cons_of_mem _ hf))
    have htexts : ∀ e ∈ x.entries, e.1.ReadsBack := fun e he => ht e.1 (List.mem_map_of_mem he)
    refine (admits_tag .version (admits_handshake .version hn hpairs htexts)).congr ?_
    intro before after _ q
    constructor
    · rintro ⟨_, rfl, y, hentries, rfl, rfl⟩
      exact .inr ⟨_, .version hentries, rfl⟩
    · rintro (⟨rfl, rfl⟩ | ⟨_, hcut, rfl⟩)
      · exact ⟨_, rfl, x, List.prefix_rfl, rfl, rfl⟩
      · cases hcut with
        | version hentries => exact ⟨_, rfl, _, hentries, rfl, rfl⟩
  | message id m =>
    obtain ⟨n, rfl, hn⟩ := hhead id (by simp [Packet.fields])
    have hfields : ∀ f ∈ m.fields, f.Fits := fun f hf =>
      hfits f (List.mem_cons_of_mem _ (List.mem_cons_of_mem _ hf))
    refine (admits_tag m.kind (admits_message hn hfields ht)).congr ?_
    intro before after _ q
    constructor
    · rintro ⟨_, rfl, rest, rfl, left, ⟨rfl, rfl⟩ | ⟨fs, hcut, rfl⟩, rfl⟩
      · exact .inl ⟨rfl, rfl⟩
      · exact .inr ⟨_, .message hcut, rfl⟩
    · rintro (⟨rfl, rfl⟩ | ⟨_, hcut, rfl⟩)
      · exact ⟨_, rfl, _, rfl, m, .inl ⟨rfl, rfl⟩, rfl⟩
      · cases hcut with
        | message hcut => exact ⟨_, rfl, _, rfl, _, .inr ⟨_, hcut, rfl⟩, rfl⟩

end Reader

namespace Packet

/-- Only the bodies of open-ended kinds may be cut off. -/
theorem Curtailed.isOpenEnded {p left : Packet} {fs : List Field} (h : p.Curtailed fs left) :
    p.kind.IsOpenEnded := by
  cases h with
  | init _ | version _ => trivial
  | message hcut => exact hcut.isOpenEnded

/-- A body is read as if it ended there when it goes on, if its reader does not look for the end. -/
theorem ofBody_append {p : Packet} (hfits : ∀ f ∈ p.fields, f.Fits) (ht : ∀ t ∈ p.texts, t.ReadsBack)
    (hkind : ¬ p.kind.IsOpenEnded) (more : Bytes) : ofBody (p.layout ++ more) = .ok p := by
  obtain ⟨bytes, hlayout⟩ : ∃ bytes, p.layout = bigEndian 1 p.kind.tag ++ bytes := ⟨_, rfl⟩
  have hread := Reader.readsAll_packet hfits ht
  unfold Reader.ReadsAll at hread
  rw [hlayout, Reader.run_packet_tag] at hread
  have hmore := Reader.steady_packetOfKind hkind _ _ more _ hread
  unfold ofBody
  rw [hlayout, List.append_assoc, Reader.run_packet_tag, hmore]

/-- A body that is cut off is read as what may be left of it. -/
theorem ofBody_beginning {p : Packet} (hfits : ∀ f ∈ p.fields, f.Fits)
    (ht : ∀ t ∈ p.texts, t.ReadsBack) {before after : Bytes} (hbody : p.layout = before ++ after)
    (hafter : after ≠ []) (q : Packet) :
    ofBody before = .ok q ↔ ∃ fs, p.Curtailed fs q ∧ before = fs.flatMap Field.bytes := by
  refine (Reader.admits_packet hfits ht before after hbody q).trans ⟨?_, .inr⟩
  rintro (⟨rfl, -⟩ | hcut)
  · exact absurd (List.append_right_eq_self.mp hbody.symm) hafter
  · exact hcut

/-- **A body that is cut off is a bad message, but at the places where its packet may end**: there it is
read as the packet without what is missing. Only the five open-ended kinds have such places. The body of a
packet of another kind is a bad message wherever it is cut off, and whatever follows it is passed over. -/
theorem ofBody_curtailed {p : Packet} {body : Bytes} (hbody : p.body = .ok body)
    (htexts : ∀ t ∈ p.texts, t.ReadsBack) :
    ofBody body = .ok p ∧
      (∀ before after, body = before ++ after → after ≠ [] →
        (∀ q, ofBody before = .ok q ↔ ∃ fs, p.Curtailed fs q ∧ before = fs.flatMap Field.bytes) ∧
        ((∀ fs q, p.Curtailed fs q → before ≠ fs.flatMap Field.bytes) →
          ∃ text, (ofBody before).mapError Fault.malformed = .error (.badMessage text))) ∧
      (¬ p.kind.IsOpenEnded →
        (∀ before after, body = before ++ after → after ≠ [] →
          ∃ text, (ofBody before).mapError Fault.malformed = .error (.badMessage text)) ∧
        ∀ more, ofBody (body ++ more) = .ok p) := by
  have hfits := fits_of_writeFields hbody
  obtain rfl : p.layout = body := by
    unfold Packet.body at hbody
    rw [writeFields_of_fits hfits] at hbody
    exact Except.ok.inj hbody
  have hcut := fun before after (hbytes : p.layout = before ++ after) (hafter : after ≠ []) =>
    ofBody_beginning hfits htexts hbytes hafter
  have hbad : ∀ before, (∀ q, ofBody before ≠ .ok q) →
      ∃ text, (ofBody before).mapError Fault.malformed = .error (.badMessage text) := by
    intro before hnone
    cases hread : ofBody before with
    | error m => exact ⟨m.message, rfl⟩
    | ok q => exact absurd hread (hnone q)
  refine ⟨ofBody_layout hfits htexts, ?_, ?_⟩
  · intro before after hbytes hafter
    refine ⟨hcut before after hbytes hafter, fun hplace => hbad before fun q hread => ?_⟩
    obtain ⟨fs, hfs, hbefore⟩ := (hcut before after hbytes hafter q).mp hread
    exact hplace fs q hfs hbefore
  · intro hkind
    refine ⟨fun before after hbytes hafter => hbad before fun q hread => ?_,
      ofBody_append hfits htexts hkind⟩
    obtain ⟨fs, hfs, -⟩ := (hcut before after hbytes hafter q).mp hread
    exact hkind hfs.isOpenEnded

/-- The answer that a file is missing, in English. -/
def sampleStatus : Packet :=
  .message 7 (.status 2 "gone" "en")

/-- Its bytes: the tag, the id, the code, the message and the language. -/
def sampleStatusBody : Bytes :=
  [101, 0, 0, 0, 7, 0, 0, 0, 2, 0, 0, 0, 4, 103, 111, 110, 101, 0, 0, 0, 2, 101, 110]

/-- The answer may end after its message, as if it had no language; one byte further it may not. -/
theorem ofBody_curtailed_sampleStatus :
    sampleStatus.body = .ok sampleStatusBody ∧ (∀ t ∈ sampleStatus.texts, t.ReadsBack) ∧
      ofBody (sampleStatusBody.take 17) = .ok (.message 7 (.status 2 "gone" Text.empty)) ∧
      ∃ text, (ofBody (sampleStatusBody.take 18)).mapError Fault.malformed =
        .error (.badMessage text) := by
  have hbody : sampleStatus.body = .ok sampleStatusBody := by decide +kernel
  have htexts : ∀ t ∈ sampleStatus.texts, t.ReadsBack := by
    simp [sampleStatus, texts, Message.texts, Text.readsBack_ofString]
  have hcut := (ofBody_curtailed hbody htexts).2.1
  have hmessage := hcut _ _ (List.take_append_drop 17 sampleStatusBody).symm (by decide)
  have hlength := hcut _ _ (List.take_append_drop 18 sampleStatusBody).symm (by decide)
  refine ⟨hbody, htexts, ?_, ?_⟩
  · exact (hmessage.1 _).mpr ⟨_, .message .afterMessage, by decide +kernel⟩
  · refine hlength.2 fun fs q hfs => ?_
    cases hfs with
    | message hfs =>
      cases hfs with
      | afterCode => decide +kernel
      | afterMessage => decide +kernel

end Packet

end Sftp
