import Sftp.Proofs.OpenDirectory.Reading
import Sftp.Proofs.OpenHandle.Release

/-!
# Listings

A listing opens the directory, goes through its entries as far as the consumer wants, and releases the
directory on every way out.

* `OpenDirectory.upTo` — as many entries as are wanted.
* `OpenDirectory.Collected` — what a consumer has got of a directory;
  **`OpenDirectory.collected_collect`** — it gets that.
* `Message.releaseFault` — the fault of a reply to releasing.
* `Client.listing` — the requests of a listing.
* `Peer.Opens` — the far end opens a directory and lists it.
* **`Client.list_complete`** — a listing loses and repeats nothing, and releases the directory once.
* `Peer.scripted` — a far end that lists what it is given; **`Peer.opens_scripted`** — it does.
-/

namespace Sftp

variable {σ : Type}

namespace OpenDirectory

/-! ## Consumers -/

/-- Entries, as many as are wanted. -/
def upTo (wanted : Option Nat) (entries : List FileStats) : List FileStats :=
  match wanted with
  | none => entries
  | some n => entries.take n

/-- Whether so many entries are all that are wanted. -/
def Suffices (wanted : Option Nat) (entries : List FileStats) : Prop :=
  ∃ n, wanted = some n ∧ n ≤ entries.length

/-- What suffices is asked for by the consumer. -/
theorem any_iff_suffices {wanted : Option Nat} {entries : List FileStats} :
    (wanted.any (· ≤ entries.length) = true) ↔ Suffices wanted entries := by
  cases wanted with
  | none => exact ⟨nofun, fun ⟨_, h, _⟩ => nomatch h⟩
  | some n =>
    refine ⟨fun h => ⟨n, rfl, of_decide_eq_true h⟩, ?_⟩
    rintro ⟨_, ⟨⟩, h⟩
    exact decide_eq_true h

/-- What does not suffice is all of what is wanted so far. -/
theorem upTo_of_not_suffices {wanted : Option Nat} {entries : List FileStats}
    (h : ¬ Suffices wanted entries) : upTo wanted entries = entries := by
  cases wanted with
  | none => rfl
  | some n =>
    refine List.take_of_length_le (Nat.le_of_not_le fun hle => h ⟨n, rfl, hle⟩)

/-- What suffices is not changed by more. -/
theorem upTo_append_of_suffices {wanted : Option Nat} {entries : List FileStats}
    (h : Suffices wanted entries) (more : List FileStats) :
    upTo wanted (entries ++ more) = upTo wanted entries := by
  obtain ⟨n, rfl, hle⟩ := h
  exact List.take_append_of_le_length hle

/-- Of what suffices, as much as is wanted suffices. -/
theorem suffices_upTo {wanted : Option Nat} {entries : List FileStats} (h : Suffices wanted entries) :
    Suffices wanted (upTo wanted entries) := by
  obtain ⟨n, rfl, hle⟩ := h
  exact ⟨n, rfl, Nat.le_of_eq (List.length_take_of_le hle).symm⟩

/-- A consumer with enough stops. -/
theorem run_collect_of_suffices {wanted : Option Nat} {seen : List FileStats}
    (h : Suffices wanted seen) (rounds : Nat) (held : Held OpenDirectory σ) :
    (collect wanted (rounds + 1) seen).run held = (.ok { entries := seen }, held) := by
  rw [collect, if_pos (any_iff_suffices.mpr h)]
  rfl

/-- Otherwise it reads on. -/
theorem run_collect_succ {wanted : Option Nat} {seen : List FileStats} (h : ¬ Suffices wanted seen)
    (rounds : Nat) (held : Held OpenDirectory σ) :
    (collect wanted (rounds + 1) seen).run held =
      match read.run held with
      | (.error f, held) => (.ok { entries := seen, fault := some f }, held)
      | (.ok [], held) => (.ok { entries := seen }, held)
      | (.ok (e :: batch), held) => (collect wanted rounds (upTo wanted (seen ++ e :: batch))).run held := by
  rw [collect, if_neg (fun hany => h (any_iff_suffices.mp hany)), Step.run_bind, Step.run_attempt]
  rcases read.run held with ⟨f | _ | ⟨e, batch⟩, held'⟩
  · rfl
  · rfl
  · cases wanted with
    | none => rfl
    | some n =>
      have hle : seen.length ≤ n := Nat.le_of_not_le fun hle => h ⟨n, rfl, hle⟩
      have htake : upTo (some n) (seen ++ e :: batch) =
          seen ++ (e :: batch).take (n - seen.length) := by
        show (seen ++ e :: batch).take n = _
        rw [List.take_append, List.take_of_length_le hle]
      exact congrArg (fun entries => (collect (some n) rounds entries).run held') htake.symm

section collecting

variable (peer : Peer σ) (limit : Int) (patience : Nat) (handle : Bytes) (closing : Message → Prop)
  (last : Message) (f : Fault)

/-- **What a consumer has got** of a directory of which some batches were still to come, after what it had
seen. -/
inductive Collected (wanted : Option Nat) (seen : List FileStats) (batches : List (List NameEntry))
    (h : Held OpenDirectory σ) : Except Fault Listing × Held OpenDirectory σ → Prop
  /-- The entries of some batches, as many as are wanted, if fewer batches do not suffice. -/
  | enough {k : Nat} {h' : Held OpenDirectory σ} (hk : k ≤ batches.length)
      (hsuffices : Suffices wanted (seen ++ (batches.take k).flatMap listed))
      (hleast : ∀ j < k, ¬ Suffices wanted (seen ++ (batches.take j).flatMap listed))
      (hreads : Held.Reads handle k h h') (hrest : h'.Releasable peer limit patience handle closing) :
      Collected wanted seen batches h
        (.ok { entries := upTo wanted (seen ++ batches.flatMap listed) }, h')
  /-- The entries of all batches, if they do not suffice, and then what the last reply says. -/
  | drained {h' : Held OpenDirectory σ} (hnot : ¬ Suffices wanted (seen ++ batches.flatMap listed))
      (hreads : Held.Reads handle (batches.length + 1) h h')
      (hrest : h'.Releasable peer limit patience handle closing) :
      Collected wanted seen batches h
        (.ok { entries := seen ++ batches.flatMap listed, fault := f.endsListing }, h')

variable {peer limit patience handle closing last f}

/-- In blank batches nothing is listed. -/
theorem flatMap_listed_of_blank {batches : List (List NameEntry)}
    (h : ∀ blank ∈ batches, listed blank = []) : batches.flatMap listed = [] :=
  List.flatMap_eq_nil_iff.mpr h

section batches

variable {blanks rest : List (List NameEntry)} {b : List NameEntry}
  (hblanks : ∀ blank ∈ blanks, listed blank = [])

include hblanks

/-- What is listed after blank batches. -/
theorem flatMap_listed_append :
    (blanks ++ b :: rest).flatMap listed = listed b ++ rest.flatMap listed := by
  rw [List.flatMap_append, flatMap_listed_of_blank hblanks, List.nil_append, List.flatMap_cons]

/-- What is listed in some of these batches. -/
theorem flatMap_listed_take (k : Nat) :
    ((blanks ++ b :: rest).take (blanks.length + 1 + k)).flatMap listed =
      listed b ++ (rest.take k).flatMap listed := by
  have hsplit : (blanks ++ b :: rest).take (blanks.length + 1 + k) = blanks ++ b :: rest.take k := by
    rw [Nat.add_assoc, Nat.add_comm 1 k, List.take_length_add_append, List.take_succ_cons]
  rw [hsplit, flatMap_listed_append hblanks]

/-- Nothing is listed as long as only blank batches have come. -/
theorem flatMap_listed_take_of_le {j : Nat} (hj : j ≤ blanks.length) :
    ((blanks ++ b :: rest).take j).flatMap listed = [] := by
  rw [List.take_append_of_le_length hj]
  exact flatMap_listed_of_blank fun blank hblank => hblanks blank (List.mem_of_mem_take hblank)

/-- What a consumer has got after a batch that suffices. -/
theorem collected_of_suffices {wanted : Option Nat} {seen : List FileStats}
    (hseen : ¬ Suffices wanted seen) (henough : Suffices wanted (seen ++ listed b))
    {h h' : Held OpenDirectory σ} (hreads : Held.Reads handle (blanks.length + 1) h h')
    (hrest : h'.Releasable peer limit patience handle closing) :
    Collected peer limit patience handle closing f wanted seen (blanks ++ b :: rest) h
      (.ok { entries := upTo wanted (seen ++ listed b) }, h') := by
  have hall : upTo wanted (seen ++ (blanks ++ b :: rest).flatMap listed) =
      upTo wanted (seen ++ listed b) := by
    rw [flatMap_listed_append hblanks, ← List.append_assoc]
    exact upTo_append_of_suffices henough _
  have htake : ((blanks ++ b :: rest).take (blanks.length + 1)).flatMap listed = listed b := by
    rw [← Nat.add_zero (blanks.length + 1), flatMap_listed_take hblanks, List.take_zero,
      List.flatMap_nil, List.append_nil]
  rw [← hall]
  refine .enough ?_ (by rwa [htake]) ?_ hreads hrest
  · rw [List.length_append, List.length_cons]
    omega
  · intro j hj
    rwa [flatMap_listed_take_of_le hblanks (Nat.le_of_lt_succ hj), List.append_nil]

/-- What a consumer has got after a batch that does not suffice. -/
theorem Collected.after_batch {wanted : Option Nat} {seen : List FileStats} (hseen : ¬ Suffices wanted seen)
    {h h' : Held OpenDirectory σ} (hreads : Held.Reads handle (blanks.length + 1) h h')
    {outcome : Except Fault Listing × Held OpenDirectory σ}
    (hcollected : Collected peer limit patience handle closing f wanted (seen ++ listed b) rest h' outcome) :
    Collected peer limit patience handle closing f wanted seen (blanks ++ b :: rest) h outcome := by
  have hlength : (blanks ++ b :: rest).length = blanks.length + 1 + rest.length := by
    rw [List.length_append, List.length_cons]
    omega
  have hall : seen ++ (blanks ++ b :: rest).flatMap listed =
      seen ++ listed b ++ rest.flatMap listed := by
    rw [flatMap_listed_append hblanks, List.append_assoc]
  cases hcollected with
  | @enough k h'' hk hsuffices hleast hmore hrest =>
    rw [← hall]
    have htake : ∀ i, seen ++ ((blanks ++ b :: rest).take (blanks.length + 1 + i)).flatMap listed =
        seen ++ listed b ++ (rest.take i).flatMap listed := by
      intro i
      rw [flatMap_listed_take hblanks, List.append_assoc]
    refine .enough (by omega) (by rwa [htake]) ?_ (hreads.trans hmore) hrest
    intro j hj
    by_cases hfew : j ≤ blanks.length
    · rwa [flatMap_listed_take_of_le hblanks hfew, List.append_nil]
    · obtain ⟨i, rfl⟩ : ∃ i, j = blanks.length + 1 + i := ⟨j - (blanks.length + 1), by omega⟩
      rw [htake]
      exact hleast i (by omega)
  | @drained h'' hnot hmore hrest =>
    rw [← hall] at hnot ⊢
    refine .drained hnot ?_ hrest
    rw [hlength, Nat.add_assoc]
    exact hreads.trans hmore

end batches

/-- **A consumer gets the entries of the batches.** -/
theorem collected_collect (hroom : 9 + handle.length < Width.word.limit)
    (hlast : ∀ id, Reply.names false (.message id last) = .error f) (wanted : Option Nat)
    {batches : List (List NameEntry)} {h : Held OpenDirectory σ}
    (hx : h.Expects peer limit patience handle closing last batches)
    (hpatience : batches.length < patience) {rounds : Nat} (hrounds : batches.length + 1 < rounds)
    {seen : List FileStats} (hseen : ¬ Suffices wanted seen) :
    Collected peer limit patience handle closing f wanted seen batches h
      ((collect wanted rounds seen).run h) := by
  -- what is left after a turn is shorter
  induction hn : batches.length using Nat.strongRecOn generalizing batches h rounds seen with
  | ind n ih =>
    obtain ⟨rounds, rfl⟩ := Nat.exists_eq_add_one.mpr (Nat.zero_lt_of_lt hrounds)
    have hturn := turn_read hroom hlast hx hpatience
    rw [run_collect_succ hseen]
    generalize read.run h = outcome at hturn ⊢
    cases hturn with
    | @drained h' hblanks hreads hrest hexhausted =>
      have hnone := flatMap_listed_of_blank hblanks
      have hnot : ¬ Suffices wanted (seen ++ batches.flatMap listed) := by
        rwa [hnone, List.append_nil]
      have hdrained := Collected.drained (f := f) hnot hreads hrest
      rw [hnone, List.append_nil] at hdrained
      unfold Fault.endsListing at hdrained
      cases hend : f.isEnd with
      | true => rwa [hend] at hdrained
      | false => rwa [hend] at hdrained
    | @batch blanks rest b h' hbatches hblanks hlisted hreads hrest =>
      subst hbatches
      rw [List.length_append, List.length_cons] at hn hpatience hrounds
      obtain ⟨e, batch, hbatch⟩ := List.exists_cons_of_ne_nil hlisted
      rw [hbatch]
      simp only
      rw [← hbatch]
      by_cases henough : Suffices wanted (seen ++ listed b)
      · -- the consumer stops
        obtain ⟨rounds, rfl⟩ := Nat.exists_eq_add_one.mpr (Nat.zero_lt_of_lt (Nat.lt_of_succ_lt_succ hrounds))
        rw [run_collect_of_suffices (suffices_upTo henough)]
        exact collected_of_suffices hblanks hseen henough hreads hrest.releasable
      · rw [upTo_of_not_suffices henough]
        exact .after_batch hblanks hseen hreads
          (ih rest.length (by omega) hrest (by omega) (by omega) henough rfl)

end collecting

end OpenDirectory

/-! ## Releasing -/

/-- The fault of a reply to releasing a handle, unless it confirms that. -/
def Message.releaseFault (reply : Message) : Option Fault :=
  match Reply.ok (.message 0 reply) with
  | .ok _ => none
  | .error f => some f

namespace Held.Releasable

variable {peer : Peer σ} {limit : Int} {patience : Nat} {handle : Bytes} {closing : Message → Prop}
  {h : Held OpenDirectory σ}

/-- A directory that can be released is released with one request. -/
theorem run_close (hx : h.Releasable peer limit patience handle closing)
    (hroom : 9 + handle.length < Width.word.limit) :
    ∃ id reply h', (close : OpenDirectory.Action σ Unit).run h = (Reply.ok (.message id reply), h') ∧
      closing reply ∧ h.client.Sends [.close handle] h'.client := by
  obtain ⟨id, reply, c', hrun, hclosing, -, hsends⟩ :=
    hx.client.run_ask (Packet.isEncodable_of_handle hroom).2 Reply.ok
  have hask : (Client.closeHandle (OwnsHandle.base h.object).handle).run h.client =
      (Reply.ok (.message id reply), c') := by
    show (Client.closeHandle h.object.base.handle).run h.client = _
    rw [hx.owns]
    exact hrun
  have hclose := run_close_of_open (h := h) hx.isOpen
  rw [hask] at hclose
  exact ⟨id, reply, _, hclose, hclosing, hsends⟩

end Held.Releasable

/-! ## Listing a path -/

/-- In a state, the far end opens a directory, lists it with these replies, and releases it at any time,
with a reply of some sort. -/
def Peer.Opens (peer : Peer σ) (limit : Int) (path : Text) (handle : Bytes) (closing : Message → Prop)
    (replies : List Message) : σ → Prop :=
  peer.Answers limit (.opendir path) (· = .handle handle) (peer.Lists limit handle closing replies)

namespace Client

/-- The requests of a listing that reads the directory so many times. -/
def listing (path : Text) (handle : Bytes) (reads : Nat) : List Message :=
  .opendir path :: (List.replicate reads (.readdir handle) ++ [.close handle])

/-- A listing brings some entries and ends with a fault or without one, unless releasing the directory
faults; its requests are those to open the directory, to read it so many times, and to release it. -/
def Listed (c : Client σ) (path : Text) (handle : Bytes) (closing : Message → Prop)
    (wanted : Option Nat) (reads : Nat) (entries : List FileStats) (fault : Option Fault) : Prop :=
  ∃ reply c', closing reply ∧
    (list path wanted).run c = (.ok { entries, fault := reply.releaseFault.or fault }, c') ∧
    c.Sends (listing path handle reads) c'

section listing

variable {peer : Peer σ} {limit : Int} {patience : Nat} {path : Text} {handle : Bytes}
  {closing : Message → Prop} {batches : List (List NameEntry)} {last : Message} {c : Client σ}

/-- A directory is opened, and then its batches are to come. -/
theorem Facing.run_openDirectory {replies : List Message}
    (hc : Facing peer limit patience (peer.Opens limit path handle closing replies) c)
    (hpath : (Packet.message 0 (.opendir path)).IsEncodable) :
    ∃ c', (openDirectory path).run c = (.ok { base := { kind := .directory, handle, path } }, c') ∧
      Facing peer limit patience (peer.Lists limit handle closing replies) c' ∧
      c.Sends [.opendir path] c' := by
  obtain ⟨id, _, c', hrun, rfl, hc', hsends⟩ := hc.run_ask hpath Reply.handle
  refine ⟨c', ?_, hc', hsends⟩
  unfold openDirectory
  rw [Step.run_bind, hrun]
  rfl

/-- What a consumer has got is listed. -/
theorem listed_of_collected {c' : Client σ} {wanted : Option Nat} (hwanted : wanted ≠ some 0)
    {directory : OpenDirectory} (hopen : (openDirectory path).run c = (.ok directory, c'))
    (hsends : c.Sends [.opendir path] c') (hroom : 9 + handle.length < Width.word.limit)
    {reads : Nat} {entries : List FileStats} {fault : Option Fault} {h' : Held OpenDirectory σ}
    (hiterate : (OpenDirectory.iterate wanted).run { object := directory, client := c' } =
      (.ok { entries, fault }, h'))
    (hreads : Held.Reads handle reads { object := directory, client := c' } h')
    (hrest : h'.Releasable peer limit patience handle closing) :
    c.Listed path handle closing wanted reads entries fault := by
  obtain ⟨id, reply, h'', hclose, hclosing, hreleased⟩ := hrest.run_close hroom
  refine ⟨reply, h''.client, hclosing, ?_, hsends.trans (Client.Sends.trans hreads hreleased)⟩
  unfold list
  rw [if_neg hwanted, Step.run_bind, Step.run_attempt, hopen]
  simp only
  rw [Step.run_within, Step.run_bind, hiterate]
  simp only
  rw [Step.run_bind, Step.run_attempt, hclose]
  simp only
  unfold Message.releaseFault
  have hsame : Reply.ok (.message id reply) = Reply.ok (.message 0 reply) := by
    cases reply with
    | _ => rfl
  rw [hsame]
  cases Reply.ok (.message 0 reply) with
  | ok u => rfl
  | error f => rfl

/-- A listing brings the entries of the batches, as many as are wanted. -/
theorem list_cases {f : Fault}
    (hc : Facing peer limit patience
      (peer.Opens limit path handle closing (batches.map .name ++ [last])) c)
    (hpath : (Packet.message 0 (.opendir path)).IsEncodable)
    (hlast : ∀ id, Reply.names false (.message id last) = .error f)
    (hpatience : batches.length < patience) {wanted : Option Nat} (hwanted : wanted ≠ some 0) :
    (∃ k ≤ batches.length, OpenDirectory.Suffices wanted ((batches.take k).flatMap listed) ∧
        (∀ j < k, ¬ OpenDirectory.Suffices wanted ((batches.take j).flatMap listed)) ∧
        c.Listed path handle closing wanted k (OpenDirectory.upTo wanted (batches.flatMap listed)) none) ∨
      ¬ OpenDirectory.Suffices wanted (batches.flatMap listed) ∧
        c.Listed path handle closing wanted (batches.length + 1) (batches.flatMap listed)
          f.endsListing := by
  have hroom := hc.length_handle hpath
  obtain ⟨c', hopen, hc', hsends⟩ := hc.run_openDirectory hpath
  have hexpects : Held.Expects peer limit patience handle closing last batches
      { object := { base := { kind := .directory, handle, path } }, client := c' } :=
    ⟨rfl, rfl, rfl, hc'⟩
  have hnothing : ¬ OpenDirectory.Suffices wanted [] := by
    rintro ⟨n, rfl, hle⟩
    exact hwanted (congrArg some (Nat.le_zero.mp hle))
  have hcollected := OpenDirectory.collected_collect hroom hlast wanted hexpects hpatience
    (Nat.succ_lt_succ hpatience) hnothing
  rw [← hc'.patience] at hcollected
  generalize hrun : (OpenDirectory.collect wanted (c'.patience + 1) []).run _ = outcome at hcollected
  cases hcollected with
  | @enough k h' hk hsuffices hleast hreads hrest =>
    exact .inl ⟨k, hk, hsuffices, hleast, listed_of_collected hwanted hopen hsends hroom hrun hreads hrest⟩
  | @drained h' hnot hreads hrest =>
    exact .inr ⟨hnot, listed_of_collected hwanted hopen hsends hroom hrun hreads hrest⟩

/-- Nothing is sent for a listing of which nothing is wanted. -/
theorem run_list_zero (path : Text) (c : Client σ) :
    (list path (some 0)).run c = (.ok { entries := [] }, c) := by
  unfold list
  rw [if_pos rfl]
  rfl

/-- **A listing loses and repeats nothing, and releases the directory once.** A client is ready, and the far
end opens a directory of which it has some batches of entries, of any sizes, and then a reply without
entries. All that is listed of the batches is listed in their order, with one request to open the directory,
one to read it for each batch and one more, and one to release it; the last reply is the end, or a fault
that ends the listing. A consumer that stops early gets the first entries, no batch is asked for that it
does not need, and the directory is released with one request. A directory brings nothing only after its
end, whatever its far end does; this one is read again and again, and after its end nothing more is sent,
however often it is read. -/
theorem list_complete
    (hc : Facing peer limit patience
      (peer.Opens limit path handle closing (batches.map .name ++ [last])) c)
    (hpath : (Packet.message 0 (.opendir path)).IsEncodable)
    (hlast : ∀ entries, last ≠ .name entries) (hpatience : batches.length < patience) :
    ∃ fault, last.EndsListing fault ∧
      c.Listed path handle closing none (batches.length + 1) (batches.flatMap listed) fault ∧
      (list path (some 0)).run c = (.ok { entries := [] }, c) ∧
      (∀ n, 0 < n → n ≤ (batches.flatMap listed).length →
        ∃ k ≤ batches.length, n ≤ ((batches.take k).flatMap listed).length ∧
          (∀ j < k, ((batches.take j).flatMap listed).length < n) ∧
          c.Listed path handle closing (some n) k ((batches.flatMap listed).take n) none) ∧
      (∀ n, (batches.flatMap listed).length < n →
        c.Listed path handle closing (some n) (batches.length + 1) (batches.flatMap listed) fault) ∧
      (∀ held : Held OpenDirectory σ, held.object.base.closed = false →
        (OpenDirectory.read.run held).1 = .ok [] →
        (OpenDirectory.read.run held).2.object.exhausted = true) ∧
      ∃ directory c', (openDirectory path).run c = (.ok directory, c') ∧ c.Sends [.opendir path] c' ∧
        (fault = none → ∀ n, ∃ k held,
          (OpenDirectory.readTimes n).run { object := directory, client := c' } =
            (.ok ((OpenDirectory.shown batches).take n ++
              List.replicate (n - (OpenDirectory.shown batches).length) []), held) ∧
          c'.Sends (List.replicate k (.readdir handle)) held.client ∧ k ≤ batches.length + 1 ∧
          (held.object.exhausted = true ↔ (OpenDirectory.shown batches).length < n) ∧
          ((OpenDirectory.shown batches).length < n → k = batches.length + 1)) := by
  obtain ⟨f, hread, hends⟩ := Message.exists_endsListing hlast
  have hcases {wanted : Option Nat} (hwanted : wanted ≠ some 0) :=
    list_cases hc hpath hread hpatience hwanted
  refine ⟨f.endsListing, hends, ?_, run_list_zero path c, ?_, ?_,
    fun _ => OpenDirectory.exhausted_of_read_nil, ?_⟩
  · rcases hcases (Option.some_ne_none 0).symm with ⟨k, -, ⟨n, hn, -⟩, -⟩ | ⟨-, hlisted⟩
    · cases hn
    · exact hlisted
  · intro n hpos hle
    have hwanted : some n ≠ some 0 := fun h => absurd (Option.some.inj h) (Nat.ne_of_gt hpos)
    rcases hcases hwanted with ⟨k, hk, ⟨_, ⟨⟩, hsuffices⟩, hleast, hlisted⟩ | ⟨hnot, -⟩
    · refine ⟨k, hk, hsuffices, fun j hj => ?_, hlisted⟩
      exact Nat.lt_of_not_le fun hle => hleast j hj ⟨n, rfl, hle⟩
    · exact absurd ⟨n, rfl, hle⟩ hnot
  · intro n hlt
    have hwanted : some n ≠ some 0 := fun h =>
      absurd (Option.some.inj h) (Nat.ne_of_gt (Nat.zero_lt_of_lt hlt))
    rcases hcases hwanted with ⟨k, hk, ⟨_, ⟨⟩, hsuffices⟩, -, -⟩ | ⟨-, hlisted⟩
    · -- some of the batches would have more entries than all of them
      have hsplit := congrArg List.length (congrArg (List.flatMap listed) (List.take_append_drop k batches))
      rw [List.flatMap_append, List.length_append] at hsplit
      omega
    · exact hlisted
  · obtain ⟨c', hopen, hc', hsends⟩ := hc.run_openDirectory hpath
    refine ⟨_, c', hopen, hsends, fun hnone n => ?_⟩
    have hend : f.isEnd = true := by
      by_contra hnot
      unfold Fault.endsListing at hnone
      rw [if_neg hnot] at hnone
      cases hnone
    have hexpects : Held.Expects peer limit patience handle closing last batches
        { object := { base := { kind := .directory, handle, path } }, client := c' } :=
      ⟨rfl, rfl, rfl, hc'⟩
    exact OpenDirectory.run_readTimes (hc.length_handle hpath) hread hend hexpects hpatience n

end listing

end Client

/-! ## A far end that lists what it is given -/

/-- A message can be sent as a reply under every id, in a frame within a limit. -/
structure Message.Sendable (limit : Int) (m : Message) : Prop where
  /-- It has a frame. -/
  isEncodable : (Packet.message 0 m).IsEncodable
  /-- Its texts are read as they are written. -/
  readsBack : ∀ t ∈ m.texts, t.ReadsBack
  /-- Its frame is within the limit. -/
  within : ((Packet.message 0 m).layout.length : Int) ≤ limit

/-- Such a message is a brief reply. -/
theorem Message.Sendable.brief {limit : Int} {m : Message} (h : m.Sendable limit) {id : Int}
    (hid : Width.word.Fits id) :
    ∃ frame, (Packet.message id m).encode = .ok frame ∧
      Arrival.Carry [.chunk frame] (Packet.message id m).layout ∧
      (Packet.message id m).layout.Brief limit id m := by
  obtain ⟨frame, hframe⟩ := h.isEncodable.of_id hid
  obtain ⟨hfits, hlength, rfl⟩ := Packet.encode_eq_ok_iff.mp hframe
  refine ⟨_, hframe, Arrival.carry_chunk hlength, Packet.ofBody_layout hfits h.readsBack, ?_⟩
  have hwithin := h.within
  rw [Packet.length_layout_message] at hwithin ⊢
  exact hwithin

namespace Peer

variable (handle : Bytes) (closing : Message) {limit : Int}

/-- What is answered about a directory, and the replies that are left. -/
def scriptedReply : Message → List Message → Option (Message × List Message)
  | .opendir _, replies => some (.handle handle, replies)
  | .close _, replies => some (closing, replies)
  | .readdir _, reply :: replies => some (reply, replies)
  | _, _ => none

/-- A far end with one directory, of which it has the replies that are left. -/
def scripted : Peer (List Message) where
  write := fun frame replies =>
    match Packet.decode frame with
    | .ok (.message id m) =>
      match scriptedReply handle closing m replies with
      | some (reply, left) =>
        match (Packet.message id reply).encode with
        | .ok answer => (.ok [.chunk answer], left)
        | .error _ => (.ok [], replies)
      | none => (.ok [], replies)
    | _ => (.ok [], replies)
  close := fun replies => (none, replies)

variable {handle closing}

/-- A request that is read is answered. -/
theorem answers_scripted {m reply : Message} {replies left : List Message} {sort : Message → Prop}
    {after : List Message → Prop} (hm : ∀ t ∈ m.texts, t.ReadsBack)
    (hreply : scriptedReply handle closing m replies = some (reply, left))
    (hsendable : reply.Sendable limit) (hsort : sort reply) (hafter : after left) :
    (scripted handle closing).Answers limit m sort after replies := by
  intro id frame hframe
  have hid : Width.word.Fits id := (Packet.isEncodable_message_iff.mp ⟨frame, hframe⟩).1
  obtain ⟨answer, hanswer, hcarry, hbrief⟩ := hsendable.brief hid
  refine ⟨[.chunk answer], left, _, reply, ?_, hcarry, hbrief, hsort, rfl, hafter⟩
  unfold scripted
  simp only
  rw [Packet.decode_frame hframe hm]
  simp only
  rw [hreply]
  simp only
  rw [hanswer]

/-- **A far end lists what it is given**, if all its replies can be sent. -/
theorem opens_scripted {path : Text} (hpath : path.ReadsBack)
    (hhandle : (Message.handle handle).Sendable limit) (hclosing : closing.Sendable limit)
    {replies : List Message} (hreplies : ∀ reply ∈ replies, reply.Sendable limit) :
    (scripted handle closing).Opens limit path handle (· = closing) replies replies := by
  have hreleases : ∀ left, (scripted handle closing).Releases limit handle (· = closing) left :=
    fun left => answers_scripted (List.forall_mem_nil _) rfl hclosing rfl trivial
  have hlists : (scripted handle closing).Lists limit handle (· = closing) replies replies := by
    induction replies with
    | nil => exact hreleases []
    | cons reply replies ih =>
      obtain ⟨hreply, hreplies⟩ := List.forall_mem_cons.mp hreplies
      exact ⟨hreleases _, answers_scripted (List.forall_mem_nil _) rfl hreply rfl (ih hreplies)⟩
  exact answers_scripted (List.forall_mem_singleton.mpr hpath) rfl hhandle rfl hlists

end Peer

/-! ## A directory of one file -/

/-- The directory's batches: itself and its parent, a file, and nothing. -/
def sampleBatches : List (List NameEntry) :=
  [[{ filename := "." }, { filename := ".." }], [{ filename := "a" }], []]

/-- The reply at its end. -/
def sampleEnd : Message :=
  .status StatusCode.endOfFile.number Text.empty Text.empty

/-- Requests of one byte go with every limit. -/
theorem sampleBounds {limit : Int} (hlimit : 1 ≤ limit) : 0 < (1 : Int) ∧ 1 ≤ limit :=
  ⟨Int.one_pos, hlimit⟩

/-- A client whose far end has that directory, on a connection with a limit for frames. -/
def sampleLister (limit : Int) (hlimit : 1 ≤ limit) : Client (List Message) where
  settings := { packetSize := 1, frameSize := limit, bounds := sampleBounds hlimit }
  link := {
    line := {
      peer := .scripted [104] (.status StatusCode.ok.number Text.empty Text.empty)
      state := sampleBatches.map .name ++ [sampleEnd] }
    exchange := { limit, reader := .running } }
  session := some { version := 3, extensions := .empty }
  patience := 4

/-- The far end of the client lists the directory, within larger limits. -/
theorem opens_sampleLister :
    (Peer.scripted [104] (.status StatusCode.ok.number Text.empty Text.empty)).Opens 64 "/d" [104]
      (· = .status StatusCode.ok.number Text.empty Text.empty)
      (sampleBatches.map .name ++ [sampleEnd]) (sampleBatches.map .name ++ [sampleEnd]) := by
  have hsendable : ∀ m : Message, (Packet.message 0 m).encode.isOk = true →
      (∀ t ∈ m.texts, t.encode?.isSome = true ∧ Text.decode t.bytes = t) →
      ((Packet.message 0 m).layout.length : Int) ≤ 64 → m.Sendable 64 := by
    intro m hencode htexts hwithin
    refine ⟨?_, htexts, hwithin⟩
    cases hframe : (Packet.message 0 m).encode with
    | ok frame => exact ⟨frame, hframe⟩
    | error f =>
      rw [hframe] at hencode
      cases hencode
  refine Peer.opens_scripted (Text.readsBack_ofString "/d") ?_ ?_ ?_
  · exact hsendable _ (by decide +kernel) (by decide +kernel) (by decide +kernel)
  · exact hsendable _ (by decide +kernel) (by decide +kernel) (by decide +kernel)
  · intro reply hreply
    have hall : ∀ m ∈ sampleBatches.map .name ++ [sampleEnd],
        (Packet.message 0 m).encode.isOk = true ∧
          (∀ t ∈ m.texts, t.encode?.isSome = true ∧ Text.decode t.bytes = t) ∧
          ((Packet.message 0 m).layout.length : Int) ≤ 64 := by
      decide +kernel
    obtain ⟨hencode, htexts, hwithin⟩ := hall reply hreply
    exact hsendable reply hencode htexts hwithin

namespace Client

/-- The file is listed, after four reads. -/
theorem list_complete_sampleLister :
    Facing (.scripted [104] (.status StatusCode.ok.number Text.empty Text.empty)) 64 4
        (Peer.Opens (.scripted [104] (.status StatusCode.ok.number Text.empty Text.empty)) 64 "/d" [104]
          (· = .status StatusCode.ok.number Text.empty Text.empty)
          (sampleBatches.map .name ++ [sampleEnd]))
        (sampleLister 64 (by decide)) ∧
      (Packet.message 0 (.opendir "/d")).IsEncodable ∧ (∀ entries, sampleEnd ≠ .name entries) ∧
      sampleBatches.length < 4 ∧
      (sampleLister 64 (by decide)).Listed "/d" [104]
        (· = .status StatusCode.ok.number Text.empty Text.empty) none 4 [{ name := "a" }] none := by
  have hc : Facing (.scripted [104] (.status StatusCode.ok.number Text.empty Text.empty)) 64 4
      (Peer.Opens (.scripted [104] (.status StatusCode.ok.number Text.empty Text.empty)) 64 "/d" [104]
        (· = .status StatusCode.ok.number Text.empty Text.empty)
        (sampleBatches.map .name ++ [sampleEnd]))
      (sampleLister 64 (by decide)) :=
    ⟨nofun, Link.ready_of_started 64 rfl rfl, rfl, rfl, rfl, opens_sampleLister⟩
  have hpath : (Packet.message 0 (.opendir "/d")).IsEncodable :=
    ⟨[0, 0, 0, 11, 11, 0, 0, 0, 0, 0, 0, 0, 2, 47, 100], by decide +kernel⟩
  obtain ⟨fault, hends, hlisted, -⟩ := list_complete hc hpath nofun (by decide)
  obtain rfl : fault = none := hends.eq_none_iff.mpr ⟨_, _, rfl⟩
  have hentries : sampleBatches.flatMap listed = [{ name := "a" }] := by decide +kernel
  rw [hentries] at hlisted
  exact ⟨hc, hpath, nofun, by decide, hlisted⟩

/-- A batch with one file does not fit into the frames of a tight connection, and the listing ends there
without the file. -/
theorem batch_breaks_tightLister :
    (sampleLister 17 (by decide)).session ≠ none ∧ (sampleLister 17 (by decide)).link.Ready ∧
      (sampleLister 17 (by decide)).link.line.peer.Opens 64 "/d" [104]
        (· = .status StatusCode.ok.number Text.empty Text.empty)
        (sampleBatches.map .name ++ [sampleEnd]) (sampleLister 17 (by decide)).link.line.state ∧
      sampleBatches.flatMap listed = [{ name := "a" }] ∧
      ((list "/d").run (sampleLister 17 (by decide))).1.toOption.map (fun l => (l.entries, l.fault)) =
        some ([], some (.lost
          "connection lost: sftp: frame of 36 bytes exceeds limit of 17 (SSH_FX_BAD_MESSAGE)")) := by
  refine ⟨nofun, Link.ready_of_started 17 rfl rfl, opens_sampleLister, ?_, ?_⟩
  · decide +kernel
  · decide +kernel

end Client

end Sftp
