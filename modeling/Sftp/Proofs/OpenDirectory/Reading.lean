import Sftp.OpenDirectory
import Sftp.Proofs.Client.Conversation
import Sftp.Proofs.Client.Reply

/-!
# Reading an open directory

The entries of a directory come in batches, and a batch may have nothing in it that is listed. Reading
goes on to the next batch then, so nothing is read only at the end.

* `Peer.Lists` — the far end answers requests to read a directory with some replies, one after another.
* `Message.EndsListing` — how a reply without entries ends a listing.
* `Held.Expects` — an open directory of which some batches are still to come.
* `OpenDirectory.read_of_exhausted`, `OpenDirectory.exhausted_of_read_nil` — the end of a directory, whatever
  the far end does.
* `OpenDirectory.Turn` — what one read brings; **`OpenDirectory.turn_read`** — it is one of these.
* **`OpenDirectory.run_readTimes`** — a directory that is read again and again.
-/

namespace Sftp

variable {σ : Type}

/-! ## The far end -/

/-- In a state, the far end answers a request to release a handle, with a reply of some sort. -/
def Peer.Releases (peer : Peer σ) (limit : Int) (handle : Bytes) (closing : Message → Prop) : σ → Prop :=
  peer.Answers limit (.close handle) closing fun _ => True

/-- In a state, the far end answers requests to read a directory with these replies, one after another.
Whenever it is asked to release the handle, it answers that. -/
def Peer.Lists (peer : Peer σ) (limit : Int) (handle : Bytes) (closing : Message → Prop) :
    List Message → σ → Prop
  | [], state => peer.Releases limit handle closing state
  | reply :: replies, state => peer.Releases limit handle closing state ∧
      peer.Answers limit (.readdir handle) (· = reply) (peer.Lists limit handle closing replies) state

/-- The handle can be released at any time. -/
theorem Peer.Lists.releases {peer : Peer σ} {limit : Int} {handle : Bytes} {closing : Message → Prop}
    {replies : List Message} {state : σ} (h : peer.Lists limit handle closing replies state) :
    peer.Releases limit handle closing state := by
  cases replies with
  | nil => exact h
  | cons reply replies => exact h.1

/-- How a reply without entries ends a listing: the end of the directory is no fault. -/
inductive Message.EndsListing : Message → Option Fault → Prop
  /-- The end of the directory. -/
  | atEnd {message lang : Text} :
    EndsListing (.status StatusCode.endOfFile.number message lang) none
  /-- Any other reply is the fault that it stands for. -/
  | fault {m : Message} {f : Fault} (hrefused : m.Refused false f) (hend : f.isEnd = false) :
    EndsListing m (some f)

/-- Only the end of the directory is no fault. -/
theorem Message.EndsListing.eq_none_iff {m : Message} {fault : Option Fault} (h : m.EndsListing fault) :
    fault = none ↔ ∃ message lang, m = .status StatusCode.endOfFile.number message lang := by
  cases h with
  | atEnd => exact ⟨fun _ => ⟨_, _, rfl⟩, fun _ => rfl⟩
  | fault hrefused hend =>
    refine ⟨nofun, ?_⟩
    rintro ⟨message, lang, rfl⟩
    cases hrefused with
    | failure _ hnotEnd => exact absurd rfl hnotEnd
    | unexpectedEnd h => cases h
    | endOfFile => cases hend
    | unwanted _ h => cases h _ _ _ rfl

/-- What ends a listing, by the fault with which a read of the directory ended. -/
def Fault.endsListing (f : Fault) : Option Fault :=
  if f.isEnd then none else some f

/-- A status is never the end of the input. -/
theorem Fault.isEnd_status (e : StatusError) : (Fault.status e).isEnd = false := by
  unfold isEnd category
  cases hkind : e.kind with
  | _ => simp only [hkind, reduceCtorEq, decide_false]

/-- A reply without entries ends a listing. -/
theorem Message.exists_endsListing {last : Message} (hlast : ∀ entries, last ≠ .name entries) :
    ∃ f, (∀ id, Reply.names false (.message id last) = .error f) ∧ last.EndsListing f.endsListing := by
  have hnone : ∀ id, Reply.names false (.message id last) = Reply.names false (.message 0 last) :=
    fun id => rfl
  cases hread : Reply.names false (.message 0 last) with
  | ok entries =>
    have hpick := Reply.pick_of_payload hread
    cases last with
    | name es => exact absurd rfl (hlast es)
    | _ => cases hpick
  | error f =>
    obtain ⟨-, hrefused⟩ := Reply.refused_of_payload hread
    refine ⟨f, fun id => (hnone id).trans hread, ?_⟩
    unfold Fault.endsListing
    by_cases hend : f.isEnd = true
    · rw [if_pos hend]
      cases hrefused with
      | endOfFile => exact .atEnd
      | failure _ _ => cases (Fault.isEnd_status _).symm.trans hend
      | unexpectedEnd h => cases h
      | unwanted text h => cases hend
    · rw [if_neg hend]
      exact .fault hrefused (eq_false_of_ne_true hend)

/-- A request about a handle has a frame if the handle leaves room for what stands before it. -/
theorem Packet.isEncodable_of_handle {handle : Bytes} (h : 9 + handle.length < Width.word.limit) :
    (message 0 (.readdir handle)).IsEncodable ∧ (message 0 (.close handle)).IsEncodable := by
  have hbytes : (4 : Nat) + handle.length + 5 < Width.word.limit := by omega
  constructor
  all_goals
    rw [isEncodable_message_iff, length_layout_message]
    refine ⟨by decide, ?_, ?_⟩
    · exact List.forall_mem_singleton.mpr (by show handle.length < Width.word.limit; omega)
    · simp only [Message.bytes, Message.fields, List.flatMap_cons, List.flatMap_nil, Field.bytes,
        PlainField.bytes, List.length_append, length_bigEndian, List.length_nil]
      omega

/-! ## Batches that are still to come -/

/-- An open directory of which some batches of entries are still to come, and then a reply without
entries. -/
structure Held.Expects (peer : Peer σ) (limit : Int) (patience : Nat) (handle : Bytes)
    (closing : Message → Prop) (last : Message) (batches : List (List NameEntry))
    (h : Held OpenDirectory σ) : Prop where
  /-- It is open. -/
  isOpen : h.object.base.closed = false
  /-- This is its handle. -/
  owns : h.object.base.handle = handle
  /-- Its end has not been met. -/
  more : h.object.exhausted = false
  /-- The far end answers so. -/
  client : Client.Facing peer limit patience
    (peer.Lists limit handle closing (batches.map .name ++ [last])) h.client

/-- An open directory that can be released. -/
structure Held.Releasable (peer : Peer σ) (limit : Int) (patience : Nat) (handle : Bytes)
    (closing : Message → Prop) (h : Held OpenDirectory σ) : Prop where
  /-- It is open. -/
  isOpen : h.object.base.closed = false
  /-- This is its handle. -/
  owns : h.object.base.handle = handle
  /-- The far end answers a request to release it. -/
  client : Client.Facing peer limit patience (peer.Releases limit handle closing) h.client

/-- A directory of which batches are still to come can be released. -/
theorem Held.Expects.releasable {peer : Peer σ} {limit : Int} {patience : Nat} {handle : Bytes}
    {closing : Message → Prop} {last : Message} {batches : List (List NameEntry)}
    {h : Held OpenDirectory σ} (hx : h.Expects peer limit patience handle closing last batches) :
    h.Releasable peer limit patience handle closing :=
  ⟨hx.isOpen, hx.owns, hx.client.imp fun _ => Peer.Lists.releases⟩

/-- From one state to another, so many requests to read the directory were sent and nothing else. -/
def Held.Reads (handle : Bytes) (n : Nat) (h h' : Held OpenDirectory σ) : Prop :=
  h.client.Sends (List.replicate n (.readdir handle)) h'.client

/-- Reads after reads. -/
theorem Held.Reads.trans {handle : Bytes} {n n' : Nat} {h h' h'' : Held OpenDirectory σ}
    (hfirst : Held.Reads handle n h h') (hnext : Held.Reads handle n' h' h'') :
    Held.Reads handle (n + n') h h'' := by
  unfold Held.Reads
  rw [List.replicate_add]
  exact Client.Sends.trans hfirst hnext

namespace OpenDirectory

/-! ## The end, whatever the far end does -/

/-- A directory that was met to its end brings nothing and asks for nothing. -/
theorem nextBatch_of_exhausted {h : Held OpenDirectory σ} (hend : h.object.exhausted = true)
    (rounds : Nat) : (nextBatch (rounds + 1)).run h = (.ok [], h) := by
  rw [nextBatch, Step.run_bind, Held.run_current]
  simp only
  rw [if_pos hend]
  rfl

/-- A batch is asked for unless the end was met. -/
theorem nextBatch_succ {h : Held OpenDirectory σ} (hmore : h.object.exhausted = false) (rounds : Nat) :
    (nextBatch (rounds + 1)).run h =
      match (Client.readDirectory h.object.base.handle).run h.client with
      | (.ok entries, client) =>
        if (listed entries).isEmpty then (nextBatch rounds).run { h with client }
        else (.ok (listed entries), { h with client })
      | (.error f, client) =>
        if f.isEnd then (.ok [], { object := { h.object with exhausted := true }, client })
        else (.error f, { h with client }) := by
  rw [nextBatch, Step.run_bind, Held.run_current]
  simp only
  rw [if_neg (by rw [hmore]; exact Bool.false_ne_true), Step.run_bind, Step.run_attempt,
    Held.run_onClient]
  rcases (Client.readDirectory h.object.base.handle).run h.client with ⟨f | entries, client⟩
  · simp only
    by_cases hend : f.isEnd = true
    · rw [if_pos hend, if_pos hend]
      rfl
    · rw [if_neg hend, if_neg hend]
      rfl
  · simp only
    by_cases hnone : (listed entries).isEmpty = true
    · rw [if_pos hnone, if_pos hnone]
    · rw [if_neg hnone, if_neg hnone]
      rfl

/-- Reading an open directory is looking for the next batch. -/
theorem run_read {h : Held OpenDirectory σ} (hopen : h.object.base.closed = false) :
    read.run h = (nextBatch h.client.patience).run h := by
  unfold read
  rw [Step.run_bind, Held.run_ensureOpen hopen]
  rfl

/-- **After its end, a directory brings nothing and nothing is sent.** -/
theorem read_of_exhausted {h : Held OpenDirectory σ} (hopen : h.object.base.closed = false)
    (hpatience : 0 < h.client.patience) (hend : h.object.exhausted = true) :
    read.run h = (.ok [], h) := by
  obtain ⟨rounds, hrounds⟩ := Nat.exists_eq_add_one.mpr hpatience
  rw [run_read hopen, hrounds]
  exact nextBatch_of_exhausted hend rounds

/-- Nothing is found only at the end. -/
theorem exhausted_of_nextBatch_nil (rounds : Nat) (h : Held OpenDirectory σ)
    (hnil : ((nextBatch rounds).run h).1 = .ok []) :
    ((nextBatch rounds).run h).2.object.exhausted = true := by
  induction rounds generalizing h with
  | zero => cases hnil
  | succ rounds ih =>
    cases hexhausted : h.object.exhausted with
    | true =>
      rw [nextBatch_of_exhausted hexhausted]
      exact hexhausted
    | false =>
      rw [nextBatch_succ hexhausted] at hnil ⊢
      generalize (Client.readDirectory h.object.base.handle).run h.client = outcome at hnil ⊢
      rcases outcome with ⟨f | entries, client⟩
      · by_cases hend : f.isEnd = true
        · simp only [if_pos hend]
        · simp only [if_neg hend] at hnil
          cases hnil
      · by_cases hnone : (listed entries).isEmpty = true
        · simp only [if_pos hnone] at hnil ⊢
          exact ih _ hnil
        · simp only [if_neg hnone] at hnil
          rw [Except.ok.inj hnil] at hnone
          exact absurd rfl hnone

/-- **Nothing is read only at the end.** -/
theorem exhausted_of_read_nil {h : Held OpenDirectory σ} (hopen : h.object.base.closed = false)
    (hnil : (read.run h).1 = .ok []) : (read.run h).2.object.exhausted = true := by
  rw [run_read hopen] at hnil ⊢
  exact exhausted_of_nextBatch_nil _ h hnil

/-! ## One read -/

section reading

variable (peer : Peer σ) (limit : Int) (patience : Nat) (handle : Bytes) (closing : Message → Prop)
  (last : Message) (f : Fault)

/-- **What one read brings** of a directory of which some batches are still to come. -/
inductive Turn (batches : List (List NameEntry)) (h : Held OpenDirectory σ) :
    Except Fault (List FileStats) × Held OpenDirectory σ → Prop
  /-- The first batch with something in it that is listed. -/
  | batch {blanks rest : List (List NameEntry)} {b : List NameEntry} {h' : Held OpenDirectory σ}
      (hbatches : batches = blanks ++ b :: rest) (hblanks : ∀ blank ∈ blanks, listed blank = [])
      (hlisted : listed b ≠ []) (hreads : Held.Reads handle (blanks.length + 1) h h')
      (hrest : h'.Expects peer limit patience handle closing last rest) :
      Turn batches h (.ok (listed b), h')
  /-- What the last reply says, if there is no such batch. -/
  | drained {h' : Held OpenDirectory σ} (hblanks : ∀ blank ∈ batches, listed blank = [])
      (hreads : Held.Reads handle (batches.length + 1) h h')
      (hrest : h'.Releasable peer limit patience handle closing)
      (hexhausted : h'.object.exhausted = f.isEnd) :
      Turn batches h (if f.isEnd then .ok [] else .error f, h')

variable {peer limit patience handle closing last f}

/-- What it brings after a batch with nothing in it that is listed. -/
theorem Turn.after_blank {b : List NameEntry} {batches : List (List NameEntry)}
    {h h' : Held OpenDirectory σ} {outcome : Except Fault (List FileStats) × Held OpenDirectory σ}
    (hblank : listed b = []) (hfirst : Held.Reads handle 1 h h')
    (hturn : Turn peer limit patience handle closing last f batches h' outcome) :
    Turn peer limit patience handle closing last f (b :: batches) h outcome := by
  cases hturn with
  | batch hbatches hblanks hlisted hreads hrest =>
    subst hbatches
    refine .batch (List.cons_append ..).symm (List.forall_mem_cons.mpr ⟨hblank, hblanks⟩) hlisted ?_ hrest
    rw [List.length_cons, Nat.add_comm]
    exact hfirst.trans hreads
  | drained hblanks hreads hrest hexhausted =>
    refine .drained (List.forall_mem_cons.mpr ⟨hblank, hblanks⟩) ?_ hrest hexhausted
    rw [List.length_cons, Nat.add_comm]
    exact hfirst.trans hreads

/-- When no batch is to come any more, a request to read brings what the last reply says. -/
theorem readDirectory_of_nil (hroom : 9 + handle.length < Width.word.limit)
    (hlast : ∀ id, Reply.names false (.message id last) = .error f) {h : Held OpenDirectory σ}
    (hx : h.Expects peer limit patience handle closing last []) :
    ∃ c', (Client.readDirectory h.object.base.handle).run h.client = (.error f, c') ∧
      h.client.Sends [.readdir handle] c' ∧
      Client.Facing peer limit patience (peer.Releases limit handle closing) c' := by
  have hanswered : Client.Facing peer limit patience
      (peer.Answers limit (.readdir handle) (· = last) (peer.Lists limit handle closing [])) h.client :=
    hx.client.imp fun _ hlists => hlists.2
  obtain ⟨id, _, c', hrun, rfl, hc', hsends⟩ :=
    hanswered.run_ask (Packet.isEncodable_of_handle hroom).1 (Reply.names false)
  rw [hlast id] at hrun
  rw [hx.owns]
  exact ⟨c', hrun, hsends, hc'⟩

/-- A request to read brings the next batch. -/
theorem readDirectory_of_cons (hroom : 9 + handle.length < Width.word.limit)
    {b : List NameEntry} {batches : List (List NameEntry)} {h : Held OpenDirectory σ}
    (hx : h.Expects peer limit patience handle closing last (b :: batches)) :
    ∃ c', (Client.readDirectory h.object.base.handle).run h.client = (.ok b, c') ∧
      h.client.Sends [.readdir handle] c' ∧
      ({ h with client := c' } : Held OpenDirectory σ).Expects peer limit patience handle closing last
        batches := by
  have hanswered : Client.Facing peer limit patience
      (peer.Answers limit (.readdir handle) (· = .name b)
        (peer.Lists limit handle closing (batches.map .name ++ [last]))) h.client :=
    hx.client.imp fun _ hlists => hlists.2
  obtain ⟨id, _, c', hrun, rfl, hc', hsends⟩ :=
    hanswered.run_ask (Packet.isEncodable_of_handle hroom).1 (Reply.names false)
  rw [hx.owns]
  exact ⟨c', hrun, hsends, hx.isOpen, hx.owns, hx.more, hc'⟩

/-- Looking for the next batch brings one of these. -/
theorem run_nextBatch (hroom : 9 + handle.length < Width.word.limit)
    (hlast : ∀ id, Reply.names false (.message id last) = .error f) {batches : List (List NameEntry)}
    {h : Held OpenDirectory σ} (hx : h.Expects peer limit patience handle closing last batches)
    {rounds : Nat} (hrounds : batches.length < rounds) :
    Turn peer limit patience handle closing last f batches h ((nextBatch rounds).run h) := by
  induction batches generalizing h rounds with
  | nil =>
    obtain ⟨rounds, rfl⟩ := Nat.exists_eq_add_one.mpr hrounds
    obtain ⟨c', hread, hsends, hc'⟩ := readDirectory_of_nil hroom hlast hx
    have hresult : (nextBatch (rounds + 1)).run h =
        (if f.isEnd then .ok [] else .error f,
          { object := { h.object with exhausted := f.isEnd }, client := c' }) := by
      rw [nextBatch_succ hx.more, hread]
      cases hend : f.isEnd with
      | true => simp only [hend, if_true]
      | false =>
        simp only [hend, Bool.false_eq_true, if_false]
        rw [← hx.more]
    rw [hresult]
    exact .drained (List.forall_mem_nil _) hsends ⟨hx.isOpen, hx.owns, hc'⟩ rfl
  | cons b batches ih =>
    obtain ⟨rounds, rfl⟩ := Nat.exists_eq_add_one.mpr (Nat.zero_lt_of_lt hrounds)
    obtain ⟨c', hread, hsends, hrest⟩ := readDirectory_of_cons hroom hx
    rw [nextBatch_succ hx.more, hread]
    by_cases hblank : (listed b).isEmpty = true
    · simp only [if_pos hblank]
      have hfirst : Held.Reads handle 1 h { h with client := c' } := hsends
      exact .after_blank (List.isEmpty_iff.mp hblank) hfirst
        (ih hrest (Nat.lt_of_succ_lt_succ hrounds))
    · simp only [if_neg hblank]
      rw [List.isEmpty_iff] at hblank
      exact .batch (List.nil_append _).symm (List.forall_mem_nil _) hblank hsends hrest

/-- One read brings one of these, if a call may take enough round trips. -/
theorem turn_read (hroom : 9 + handle.length < Width.word.limit)
    (hlast : ∀ id, Reply.names false (.message id last) = .error f) {batches : List (List NameEntry)}
    {h : Held OpenDirectory σ} (hx : h.Expects peer limit patience handle closing last batches)
    (hpatience : batches.length < patience) :
    Turn peer limit patience handle closing last f batches h (read.run h) := by
  rw [run_read hx.isOpen, hx.client.patience]
  exact run_nextBatch hroom hlast hx hpatience

end reading

/-! ## Reading again and again -/

/-- Reads a directory so many times. -/
def readTimes : Nat → Action σ (List (List FileStats))
  | 0 => return []
  | n + 1 => do
    let batch ← read
    let rest ← readTimes n
    return batch :: rest

/-- The batches in which something is listed, without the rest. -/
def shown (batches : List (List NameEntry)) : List (List FileStats) :=
  (batches.map listed).filter fun batch => !batch.isEmpty

/-- In blank batches nothing is listed. -/
theorem shown_of_blank {batches : List (List NameEntry)} (h : ∀ blank ∈ batches, listed blank = []) :
    shown batches = [] := by
  refine List.filter_eq_nil_iff.mpr fun batch hbatch => ?_
  obtain ⟨blank, hblank, rfl⟩ := List.mem_map.mp hbatch
  rw [h blank hblank]
  exact Bool.false_ne_true

/-- After blank batches comes the first in which something is listed. -/
theorem shown_of_batch {blanks rest : List (List NameEntry)} {b : List NameEntry}
    (hblanks : ∀ blank ∈ blanks, listed blank = []) (hlisted : listed b ≠ []) :
    shown (blanks ++ b :: rest) = listed b :: shown rest := by
  have hnone := shown_of_blank hblanks
  unfold shown at hnone ⊢
  have hkept : (!(listed b).isEmpty) = true := by
    rw [Bool.not_eq_true', List.isEmpty_eq_false_iff]
    exact hlisted
  rw [List.map_append, List.filter_append, hnone, List.map_cons, List.nil_append]
  exact List.filter_cons_of_pos hkept

/-- Reading once more. -/
theorem run_readTimes_succ {n : Nat} {h h' : Held OpenDirectory σ} {batch : List FileStats}
    (hread : read.run h = (.ok batch, h')) {batches : List (List FileStats)} {h'' : Held OpenDirectory σ}
    (hrest : (readTimes n).run h' = (.ok batches, h'')) :
    (readTimes (n + 1)).run h = (.ok (batch :: batches), h'') := by
  rw [readTimes, Step.run_bind, hread]
  simp only
  rw [Step.run_bind, hrest]
  rfl

/-- After its end, a directory can be read as often as one likes. -/
theorem readTimes_of_exhausted {h : Held OpenDirectory σ} (hopen : h.object.base.closed = false)
    (hpatience : 0 < h.client.patience) (hend : h.object.exhausted = true) (n : Nat) :
    (readTimes n).run h = (.ok (List.replicate n []), h) := by
  induction n with
  | zero => rfl
  | succ n ih => exact run_readTimes_succ (read_of_exhausted hopen hpatience hend) ih

section readTimes

variable {peer : Peer σ} {limit : Int} {patience : Nat} {handle : Bytes} {closing : Message → Prop}
  {last : Message} {f : Fault}

/-- **A directory that is read again and again** brings the batches in which something is listed, in order,
and then nothing any more. The end is met as soon as nothing was brought, and it is asked for once. -/
theorem run_readTimes (hroom : 9 + handle.length < Width.word.limit)
    (hlast : ∀ id, Reply.names false (.message id last) = .error f) (hend : f.isEnd = true)
    {batches : List (List NameEntry)} {h : Held OpenDirectory σ}
    (hx : h.Expects peer limit patience handle closing last batches)
    (hpatience : batches.length < patience) (n : Nat) :
    ∃ k h', (readTimes n).run h = (.ok ((shown batches).take n ++
        List.replicate (n - (shown batches).length) []), h') ∧
      Held.Reads handle k h h' ∧ k ≤ batches.length + 1 ∧
      (h'.object.exhausted = true ↔ (shown batches).length < n) ∧
      ((shown batches).length < n → k = batches.length + 1) := by
  induction n generalizing batches h with
  | zero =>
    refine ⟨0, h, ?_, Client.Sends.refl h.client, Nat.zero_le _, ?_, ?_⟩
    · rw [List.take_zero, Nat.zero_sub]
      rfl
    · rw [hx.more]
      exact ⟨nofun, fun hlt => absurd hlt (Nat.not_lt_zero _)⟩
    · exact fun hlt => absurd hlt (Nat.not_lt_zero _)
  | succ n ih =>
    have hturn := turn_read hroom hlast hx hpatience
    generalize hread : read.run h = outcome at hturn
    cases hturn with
    | @batch blanks rest b h' hbatches hblanks hlisted hreads hrest =>
      subst hbatches
      have hlength : (blanks ++ b :: rest).length = blanks.length + 1 + rest.length := by
        rw [List.length_append, List.length_cons]
        omega
      rw [hlength] at hpatience ⊢
      obtain ⟨k, h'', hrun, hreads', hk, hexhausted, hall⟩ := ih hrest (by omega)
      rw [shown_of_batch hblanks hlisted, List.take_succ_cons, List.length_cons,
        Nat.succ_sub_succ]
      refine ⟨blanks.length + 1 + k, h'', run_readTimes_succ hread hrun, hreads.trans hreads', by omega,
        ?_, ?_⟩
      · rw [hexhausted]
        omega
      · intro hlt
        have := hall (by omega)
        omega
    | @drained h' hblanks hreads hrest hexhausted =>
      rw [hend] at hexhausted
      rw [if_pos hend] at hread
      have hmore := readTimes_of_exhausted hrest.isOpen
        (by rw [hrest.client.patience]; omega) hexhausted n
      rw [shown_of_blank hblanks]
      refine ⟨batches.length + 1, h', run_readTimes_succ hread hmore, hreads, Nat.le_refl _, ?_, ?_⟩
      · exact ⟨fun _ => Nat.succ_pos n, fun _ => hexhausted⟩
      · exact fun _ => rfl

end readTimes

end OpenDirectory

end Sftp
