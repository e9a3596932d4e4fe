import Sftp.Proofs.Link.Reader

/-!
# Arrivals at a link

The bytes of a stream come in chunks and at any times, and the reader takes frames as soon as they
are complete. What becomes of the requests depends on the bytes alone.

* `Link.Listening` — a started link that has not failed, at rest.
* `Link.HasRead` — where a link stands that has received some arrivals; `Link.HasRead.receive` is the
  step, `Link.Listening.hasRead_receive` the induction over all groups of arrivals.
* **`Link.receive_settles`** — whatever arrives at a listening link, cut into chunks in any way and at
  any times: the run of frames settles every request, and nothing else matters.
-/

namespace Sftp

namespace Link

variable {σ : Type} {l : Link σ}

/-! ## Arrivals in groups -/

/-- A started link that has not failed, at rest: its reader waits for the rest of a frame. -/
structure Listening (l : Link σ) : Prop where
  /-- The reader runs. -/
  running : l.exchange.reader = .running
  /-- The connection has not failed. -/
  healthy : l.exchange.failure = none
  /-- The table of requests is in order. -/
  sound : l.exchange.Sound
  /-- No chunk is without bytes. -/
  tidy : l.line.inbox.Tidy
  /-- The stream has not ended. -/
  unended : l.line.inbox.ending = none
  /-- What was left unread is no complete frame. -/
  short : Short l.exchange.limit l.line.inbox.unread

/-- Where a link stands that began with an exchange and unread bytes, after arrivals. -/
inductive HasRead (x : Exchange) (unread : Bytes) (arrivals : List Arrival) (l : Link σ) : Prop
  /-- The reader has delivered a run of frames and waits. -/
  | waits {packets : List Packet} {last : Bytes}
      (h : Frames x.limit (unread ++ Arrival.bytes arrivals) packets last)
      (hshort : Short x.limit last) (hopen : Arrival.ending? arrivals = none)
      (hexchange : l.exchange = x.takeAll packets) (htidy : l.line.inbox.Tidy)
      (hending : l.line.inbox.ending = none) (hlast : l.line.inbox.unread = last) :
      HasRead x unread arrivals l
  /-- The reader has delivered a run of frames and stopped. -/
  | stopped {packets : List Packet} {last : Bytes} {message : Text}
      (h : Frames x.limit (unread ++ Arrival.bytes arrivals) packets last)
      (hstops : Stops x.limit last (Arrival.ending? arrivals) message)
      (hexchange : l.exchange = (x.takeAll packets).stop message) : HasRead x unread arrivals l

/-- A listening link has read nothing yet. -/
theorem Listening.hasRead (hl : l.Listening) : HasRead l.exchange l.line.inbox.unread [] l := by
  have hframes : Frames l.exchange.limit (l.line.inbox.unread ++ Arrival.bytes []) []
      l.line.inbox.unread := by
    rw [Arrival.bytes, List.append_nil]
    exact Frames.of_short hl.short
  exact .waits hframes hl.short rfl rfl hl.tidy hl.unended rfl

/-- Once the reader has stopped, nothing that arrives matters. -/
theorem exchange_receive_of_stopped (h : l.exchange.reader = .stopped) (arrivals : List Arrival) :
    (l.receive arrivals).exchange = l.exchange := by
  unfold receive rest
  rw [if_neg]
  simp only
  rw [h]
  exact nofun

/-- **One more group of arrivals**: the run goes on from what was left unread. -/
theorem HasRead.receive {x : Exchange} {unread : Bytes} {before : List Arrival}
    (hx : x.reader = .running) (h : HasRead x unread before l) (arrivals : List Arrival) :
    HasRead x unread (before ++ arrivals) (l.receive arrivals) := by
  cases h with
  | @stopped packets last message h hstops hexchange =>
    have hreader : l.exchange.reader = .stopped := by
      rw [hexchange]
      rfl
    have hstay := (exchange_receive_of_stopped hreader arrivals).trans hexchange
    cases hopen : Arrival.ending? before with
    | some e =>
      -- the stream is over, so the arrivals are not read
      have hending : Arrival.ending? (before ++ arrivals) = Arrival.ending? before := by
        rw [Arrival.ending?_append, hopen]
        rfl
      rw [← hending] at hstops
      rw [← Arrival.bytes_append_of_some arrivals hopen] at h
      exact .stopped h hstops hstay
    | none =>
      -- there is a flaw, and it stays where it is
      cases hstops with
      | ended _ he =>
        rw [hopen] at he
        cases he
      | flawed hflaw =>
        have hflaw' := hflaw.append (Arrival.bytes arrivals)
        have hframes := h.append (Frames.of_flaw hflaw')
        rw [List.append_nil, List.append_assoc, ← Arrival.bytes_append_of_none arrivals hopen]
          at hframes
        exact .stopped hframes (.flawed hflaw') hstay
  | @waits packets last h hshort hopen hexchange htidy hending hlast =>
    obtain ⟨htidy', hunread', hending'⟩ := Inbox.foldl_add_of_none htidy hending arrivals
    have hlimit : l.exchange.limit = x.limit := by rw [hexchange, Exchange.limit_takeAll]
    have hrest : l.receive arrivals =
        takeFrames { l with line := l.line.receive arrivals } := by
      unfold Link.receive rest
      rw [if_pos]
      simp only
      rw [hexchange, Exchange.reader_takeAll, hx]
    obtain ⟨others, last', hothers⟩ :=
      Frames.exists_of_bytes x.limit (last ++ Arrival.bytes arrivals)
    have hall : Frames x.limit (unread ++ Arrival.bytes (before ++ arrivals)) (packets ++ others)
        last' := by
      rw [Arrival.bytes_append_of_none arrivals hopen, ← List.append_assoc]
      exact h.append hothers
    have hending? : Arrival.ending? (before ++ arrivals) = Arrival.ending? arrivals := by
      rw [Arrival.ending?_append, hopen]
      rfl
    rw [hlast] at hunread'
    have hstop : ∀ message, Stops x.limit last' (Arrival.ending? arrivals) message →
        HasRead x unread (before ++ arrivals) (l.receive arrivals) := by
      intro message hstops
      refine .stopped hall (hending?.symm ▸ hstops) ?_
      rw [← hlimit] at hothers hstops
      rw [← hending'] at hstops
      have hexchange' := takeFrames_of_stops (l := { l with line := l.line.receive arrivals })
        htidy' hunread' hothers hstops
      rw [hrest, hexchange', Exchange.takeAll_append, hexchange]
    rcases hothers.last_cases with ⟨m, hflaw⟩ | hshort'
    · exact hstop _ (.flawed hflaw)
    · cases harrived : Arrival.ending? arrivals with
      | some e => exact hstop _ (.ended hshort' harrived)
      | none =>
        rw [harrived] at hending' hending?
        have hshort'' := hshort'
        rw [← hlimit] at hothers hshort''
        obtain ⟨hexchange', htidy'', hending'', hlast'⟩ :=
          takeFrames_of_short (l := { l with line := l.line.receive arrivals }) htidy' hending'
            hunread' hothers hshort''
        rw [← hrest] at hexchange' htidy'' hending'' hlast'
        refine .waits hall hshort' hending? ?_ htidy'' hending'' hlast'
        rw [hexchange', Exchange.takeAll_append, hexchange]

/-- **All groups of arrivals**, one after another. -/
theorem Listening.hasRead_receive (hl : l.Listening) (groups : List (List Arrival)) :
    HasRead l.exchange l.line.inbox.unread groups.flatten (groups.foldl Link.receive l) := by
  -- what came before grows group by group
  suffices h : ∀ (before : List Arrival) (l' : Link σ),
      HasRead l.exchange l.line.inbox.unread before l' →
      HasRead l.exchange l.line.inbox.unread (before ++ groups.flatten)
        (groups.foldl Link.receive l') from h [] l hl.hasRead
  induction groups with
  | nil =>
    intro before l' h
    rwa [List.flatten_nil, List.append_nil]
  | cons arrivals groups ih =>
    intro before l' h
    rw [List.flatten_cons, ← List.append_assoc]
    exact ih _ _ (h.receive hl.running arrivals)

/-- What a listening link makes of arrivals is given by the run of frames in their bytes. -/
theorem Listening.exchange_receive (hl : l.Listening) {chunks : List Bytes}
    {ending : Option Ending} {groups : List (List Arrival)}
    (hgroups : groups.flatten = chunks.map .chunk ++ ending.toList.map .ending)
    {packets : List Packet} {last : Bytes}
    (h : Frames l.exchange.limit (l.line.inbox.unread ++ chunks.flatten) packets last) :
    (∀ message, Stops l.exchange.limit last ending message →
      (groups.foldl receive l).exchange = (l.exchange.takeAll packets).stop message) ∧
    ((∀ message, ¬ Stops l.exchange.limit last ending message) →
      (groups.foldl receive l).exchange = l.exchange.takeAll packets) := by
  have hread := hl.hasRead_receive groups
  rw [hgroups] at hread
  cases hread with
  | @waits packets' last' hframes hshort hopen hexchange _ _ _ =>
    rw [Arrival.bytes_chunks] at hframes
    rw [Arrival.ending?_chunks] at hopen
    obtain ⟨rfl, rfl⟩ := h.unique hframes
    refine ⟨fun message hstops => ?_, fun _ => hexchange⟩
    cases hstops with
    | flawed hflaw => exact absurd hflaw hshort.not_flaw
    | ended _ he =>
      rw [hopen] at he
      cases he
  | @stopped packets' last' message hframes hstops hexchange =>
    rw [Arrival.bytes_chunks] at hframes
    rw [Arrival.ending?_chunks] at hstops
    obtain ⟨rfl, rfl⟩ := h.unique hframes
    refine ⟨fun message' hstops' => ?_, fun hnone => absurd hstops (hnone message)⟩
    rw [hexchange, hstops.unique hstops']

/-- **What a reader makes of a stream is settled by its bytes.** Whatever arrives at a listening
link, in chunks of any size, followed or not by an ending, and in groups that come at any times: the
bytes have a longest run of frames that can be taken, and

* if a flawed frame, an ending or a read fault follows the run, the run and the failure settle the
  requests;
* if not, the run alone does, and the connection has not failed;
* any other arrivals after which the same follows, and whose run is the same, or has the same packets
  in another order and their ids are distinct, leave the same exchange. -/
theorem receive_settles (hl : l.Listening) {chunks : List Bytes} {ending : Option Ending}
    {groups : List (List Arrival)}
    (hgroups : groups.flatten = chunks.map .chunk ++ ending.toList.map .ending) :
    ∃ packets last,
      Frames l.exchange.limit (l.line.inbox.unread ++ chunks.flatten) packets last ∧
      (∀ message, Stops l.exchange.limit last ending message →
        l.exchange.Settles packets (some message) (groups.foldl receive l).exchange) ∧
      ((∀ message, ¬ Stops l.exchange.limit last ending message) →
        l.exchange.Settles packets none (groups.foldl receive l).exchange) ∧
      ∀ (chunks' : List Bytes) (ending' : Option Ending) (groups' : List (List Arrival))
        (packets' : List Packet) (last' : Bytes),
        groups'.flatten = chunks'.map .chunk ++ ending'.toList.map .ending →
        Frames l.exchange.limit (l.line.inbox.unread ++ chunks'.flatten) packets' last' →
        (∀ message, Stops l.exchange.limit last' ending' message ↔
          Stops l.exchange.limit last ending message) →
        (packets' = packets ∨
          packets.Perm packets' ∧ (packets.filterMap Packet.id?).Nodup) →
        (groups'.foldl receive l).exchange = (groups.foldl receive l).exchange := by
  obtain ⟨packets, last, hframes⟩ :=
    Frames.exists_of_bytes l.exchange.limit (l.line.inbox.unread ++ chunks.flatten)
  obtain ⟨hstop, hwait⟩ := hl.exchange_receive hgroups hframes
  refine ⟨packets, last, hframes, ?_, ?_, ?_⟩
  · intro message hstops
    rw [hstop message hstops]
    exact hl.sound.settles_stop hl.healthy packets message
  · intro hnone
    rw [hwait hnone]
    exact hl.sound.settles_takeAll hl.healthy packets
  · intro chunks' ending' groups' packets' last' hgroups' hframes' hiff hpackets
    obtain ⟨hstop', hwait'⟩ := hl.exchange_receive hgroups' hframes'
    have hsame : l.exchange.takeAll packets' = l.exchange.takeAll packets := by
      refine hl.sound.takeAll_congr fun e _ => ?_
      rcases hpackets with rfl | ⟨hperm, hdistinct⟩
      · rfl
      · exact (Packet.find?_of_perm hperm hdistinct e.1).symm
    by_cases hstops : ∃ message, Stops l.exchange.limit last ending message
    · obtain ⟨message, hstops⟩ := hstops
      rw [hstop message hstops, hstop' message ((hiff message).mpr hstops), hsame]
    · have hnone : ∀ message, ¬ Stops l.exchange.limit last ending message :=
        fun message h => hstops ⟨message, h⟩
      rw [hwait hnone, hwait' fun message h => hnone message ((hiff message).mp h), hsame]

/-- A link at rest with two requests in its table, the second abandoned, and three bytes of a length
unread. -/
def sampleLink : Link Unit where
  line := {
    peer := { write := fun _ s => (.ok [], s), close := fun s => (none, s) }
    state := ()
    inbox := { chunks := [[0], [0, 0]] } }
  exchange := {
    limit := 64
    pending := [(7, 0), (8, 1)]
    progress := #[.waiting, .abandoned]
    reader := .running }

/-- The sample link listens. -/
theorem listening_sampleLink : sampleLink.Listening where
  running := rfl
  healthy := rfl
  sound := by constructor <;> decide
  tidy := by unfold Inbox.Tidy; decide
  unended := rfl
  short := .head (by decide)

/-- Data for the first request comes in two groups, cut within the id, and then the stream ends. -/
theorem receive_settles_sampleLink :
    sampleLink.Listening ∧
      ([[.chunk [9, 103, 0]], [.chunk [0, 0, 7, 0, 0, 0, 0], .ending .closed]] :
          List (List Arrival)).flatten =
        [[9, 103, 0], [0, 0, 7, 0, 0, 0, 0]].map .chunk ++ (some .closed).toList.map .ending ∧
      ∃ packets last,
        Frames 64 [0, 0, 0, 9, 103, 0, 0, 0, 7, 0, 0, 0, 0] packets last ∧
          ∀ message, Stops 64 last (some .closed) message →
            sampleLink.exchange.Settles packets (some message)
              (([[.chunk [9, 103, 0]], [.chunk [0, 0, 7, 0, 0, 0, 0], .ending .closed]] :
                List (List Arrival)).foldl receive sampleLink).exchange := by
  have hgroups : ([[.chunk [9, 103, 0]], [.chunk [0, 0, 7, 0, 0, 0, 0], .ending .closed]] :
      List (List Arrival)).flatten =
        [[9, 103, 0], [0, 0, 7, 0, 0, 0, 0]].map .chunk ++ (some .closed).toList.map .ending := rfl
  refine ⟨listening_sampleLink, hgroups, ?_⟩
  obtain ⟨packets, last, hframes, hstop, -⟩ := receive_settles listening_sampleLink hgroups
  exact ⟨packets, last, hframes, hstop⟩

end Link

end Sftp
