import Sftp.Link
import Sftp.Proofs.Exchange.Outcome
import Sftp.Proofs.Stream.Framing

/-!
# The reader at work

What the reader makes of the bytes that are there, when it is let to take them.

* `Fault.farewell`, `Stops` — when the reader stops, and with which message the connection fails.
* `Link.exchange_stopReader`, `Link.exchange_deliver` — what the reader does to the exchange.
* **`Link.takeFrames_of_stops`**, **`Link.takeFrames_of_short`** — the reader delivers the run of frames
  in the unread bytes, and then stops or waits.
* `Inbox.packets`, `Link.exchange_rest`, `Link.line_rest` — the same without a look at the bytes: some
  packets are delivered, perhaps the reader stops, and of the stream nothing changes but what is left
  unread. `Inbox.frames_packets` says which packets.
-/

namespace Sftp

/-! ## The end of reading -/

/-- The message with which the connection fails when its reader stops because of a fault. -/
def Fault.farewell (f : Fault) : Text :=
  if f.isEnd then "connection closed by server" else "connection lost: " ++ f.message

/-- The message with which the connection fails at an ending. -/
def Ending.farewell : Ending → Text
  | .closed => "connection closed by server"
  | .broken f => f.farewell

/-- The message depends on the ending, not on what was missing. -/
theorem Ending.Shows.farewell_eq {e : Ending} {f : Fault} (h : e.Shows f) :
    f.farewell = e.farewell := by
  cases h with
  | closed count size => rfl
  | broken f => rfl

/-- Whether the reader stops at bytes that begin with no packet's frame, and with which message. -/
inductive Stops (limit : Int) (bytes : Bytes) (ending : Option Ending) : Text → Prop
  /-- The next frame cannot be taken. -/
  | flawed {m : Malformed} (h : Flaw limit bytes m) :
      Stops limit bytes ending (Fault.malformed m).farewell
  /-- The next frame is not complete and never will be. -/
  | ended {e : Ending} (h : Short limit bytes) (he : ending = some e) :
      Stops limit bytes ending e.farewell

/-- The reader stops with one message. -/
theorem Stops.unique {limit : Int} {bytes : Bytes} {ending : Option Ending} {m m' : Text}
    (h : Stops limit bytes ending m) (h' : Stops limit bytes ending m') : m = m' := by
  cases h with
  | flawed hflaw =>
    cases h' with
    | flawed hflaw' => rw [hflaw.unique hflaw']
    | ended hshort _ => exact absurd hflaw hshort.not_flaw
  | ended hshort he =>
    cases h' with
    | flawed hflaw' => exact absurd hflaw' hshort.not_flaw
    | ended _ he' =>
      rw [he] at he'
      rw [Option.some.inj he']

/-! ## The reader at work -/

namespace Link

variable {σ : Type} {l : Link σ}

/-- Reports leave the exchange alone. -/
theorem exchange_reportFirst (l : Link σ) (message : Text) :
    (l.reportFirst message).exchange = l.exchange := by
  unfold reportFirst
  split
  · rfl
  · rfl

/-- The reader stops with the message of the fault. -/
theorem exchange_stopReader (l : Link σ) (f : Fault) :
    (l.stopReader f).exchange = l.exchange.stop f.farewell := by
  unfold stopReader Fault.farewell Exchange.stop
  simp only
  by_cases h : f.isEnd
  · rw [if_pos h, if_pos h]
    exact congrArg (Exchange.fail · _) (exchange_reportFirst _ _)
  · rw [if_neg h, if_neg h]
    exact congrArg (Exchange.fail · _) (exchange_reportFirst _ _)

/-- A packet that reaches nobody is only reported. -/
theorem exchange_deliver (l : Link σ) (p : Packet) :
    (l.deliver p).exchange = l.exchange.take p := by
  unfold deliver Exchange.take
  cases l.exchange.deliver p with
  | none => rfl
  | some x => rfl

/-- What the reader does with the next frame. -/
theorem takeFrames_eq (l : Link σ) :
    l.takeFrames = match l.line.inbox.readFrame l.exchange.limit with
      | (.blocked, _) => l
      | (.failed f, inbox) => { l with line := { l.line with inbox } }.stopReader f
      | (.got body, inbox) =>
        match Packet.ofBody body with
        | .error m => { l with line := { l.line with inbox } }.stopReader (.malformed m)
        | .ok p => { l.deliver p with line := { l.line with inbox } }.takeFrames := by
  rw [takeFrames]
  split
  · rename_i h
    rw [h]
  · rename_i h
    rw [h]
  · rename_i h
    split
    · rename_i hbody
      simp only [h, hbody]
    · rename_i hbody
      simp only [h, hbody]

/-- The reader waits for the rest of a frame. -/
theorem takeFrames_of_blocked {inbox : Inbox}
    (h : l.line.inbox.readFrame l.exchange.limit = (.blocked, inbox)) : l.takeFrames = l := by
  rw [takeFrames_eq, h]

/-- The reader stops when it cannot read. -/
theorem takeFrames_of_failed {inbox : Inbox} {f : Fault}
    (h : l.line.inbox.readFrame l.exchange.limit = (.failed f, inbox)) :
    l.takeFrames = { l with line := { l.line with inbox } }.stopReader f := by
  rw [takeFrames_eq, h]

/-- The reader stops at a body that is no packet. -/
theorem takeFrames_of_error {inbox : Inbox} {body : Bytes} {m : Malformed}
    (h : l.line.inbox.readFrame l.exchange.limit = (.got body, inbox))
    (hm : Packet.ofBody body = .error m) :
    l.takeFrames = { l with line := { l.line with inbox } }.stopReader (.malformed m) := by
  rw [takeFrames_eq, h]
  simp only [hm]

/-- The reader delivers a packet and goes on. -/
theorem takeFrames_of_ok {inbox : Inbox} {body : Bytes} {p : Packet}
    (h : l.line.inbox.readFrame l.exchange.limit = (.got body, inbox))
    (hp : Packet.ofBody body = .ok p) :
    l.takeFrames = ({ l.deliver p with line := { l.line with inbox } } : Link σ).takeFrames := by
  rw [takeFrames_eq, h]
  simp only [hp]

/-- **At a flaw, or at the end of the stream, the reader stops** after it has delivered the packets
before. -/
theorem takeFrames_of_stops {bytes last : Bytes} {packets : List Packet} {message : Text}
    (htidy : l.line.inbox.Tidy) (hbytes : l.line.inbox.unread = bytes)
    (h : Frames l.exchange.limit bytes packets last)
    (hstops : Stops l.exchange.limit last l.line.inbox.ending message) :
    l.takeFrames.exchange = (l.exchange.takeAll packets).stop message := by
  generalize hlimit : l.exchange.limit = limit at h hstops
  induction h generalizing l with
  | done _ =>
    rw [← hbytes] at hstops
    subst hlimit
    rw [Exchange.takeAll_nil]
    cases hstops with
    | flawed hflaw =>
      rcases Inbox.readFrame_of_flaw htidy hflaw with ⟨next, hread⟩ | ⟨body, next, hread, hm⟩
      · rw [takeFrames_of_failed hread, exchange_stopReader]
      · rw [takeFrames_of_error hread hm, exchange_stopReader]
    | ended hshort he =>
      obtain ⟨outcome, next, hread, hlacks⟩ := Inbox.readFrame_of_short htidy hshort
      cases hlacks with
      | waits hnone =>
        rw [hnone] at he
        cases he
      | fails he' hf =>
        rw [he'] at he
        obtain rfl := Option.some.inj he
        rw [takeFrames_of_failed hread, exchange_stopReader, hf.farewell_eq]
  | next hbegins hp _ ih =>
    rw [← hbytes, ← hlimit] at hbegins
    obtain ⟨next, hread, hunread, htidy', hending⟩ := Inbox.readFrame_of_begins htidy hbegins
    rw [takeFrames_of_ok hread hp, ih htidy' hunread, exchange_deliver, Exchange.takeAll_cons]
    · rw [← hlimit, exchange_deliver, Exchange.limit_take]
    · rwa [hending]

/-- **At part of a frame the reader waits** after it has delivered the packets before. -/
theorem takeFrames_of_short {bytes last : Bytes} {packets : List Packet}
    (htidy : l.line.inbox.Tidy) (hopen : l.line.inbox.ending = none)
    (hbytes : l.line.inbox.unread = bytes) (h : Frames l.exchange.limit bytes packets last)
    (hshort : Short l.exchange.limit last) :
    l.takeFrames.exchange = l.exchange.takeAll packets ∧ l.takeFrames.line.inbox.Tidy ∧
      l.takeFrames.line.inbox.ending = none ∧ l.takeFrames.line.inbox.unread = last := by
  generalize hlimit : l.exchange.limit = limit at h hshort
  induction h generalizing l with
  | done _ =>
    rw [← hbytes, ← hlimit] at hshort
    obtain ⟨outcome, next, hread, hlacks⟩ := Inbox.readFrame_of_short htidy hshort
    cases hlacks with
    | waits _ =>
      rw [takeFrames_of_blocked hread]
      exact ⟨rfl, htidy, hopen, hbytes⟩
    | fails he _ =>
      rw [hopen] at he
      cases he
  | next hbegins hp _ ih =>
    rw [← hbytes, ← hlimit] at hbegins
    obtain ⟨next, hread, hunread, htidy', hending⟩ := Inbox.readFrame_of_begins htidy hbegins
    rw [takeFrames_of_ok hread hp, Exchange.takeAll_cons, ← exchange_deliver]
    refine ih htidy' (hending.trans hopen) hunread ?_ hshort
    rw [← hlimit, exchange_deliver, Exchange.limit_take]

end Link

/-! ## The packets that a reader takes -/

/-- The packets at the front of a read side, up to what is no complete packet. -/
def Inbox.packets (limit : Int) (inbox : Inbox) : List Packet :=
  match h : inbox.readFrame limit with
  | (.blocked, _) => []
  | (.failed _, _) => []
  | (.got body, next) =>
    match Packet.ofBody body with
    | .error _ => []
    | .ok p =>
      have : next.available < inbox.available := Inbox.available_readFrame_got h
      p :: packets limit next
  termination_by inbox.available

namespace Inbox

variable {inbox next : Inbox} {limit : Int} {body : Bytes} {p : Packet}

/-- The packets that are taken begin with the next one. -/
theorem packets_eq (limit : Int) (inbox : Inbox) :
    inbox.packets limit = match inbox.readFrame limit with
      | (.got body, next) =>
        match Packet.ofBody body with
        | .ok p => p :: next.packets limit
        | .error _ => []
      | _ => [] := by
  rw [packets]
  split
  · rename_i h
    rw [h]
  · rename_i h
    rw [h]
  · rename_i h
    split
    · rename_i hbody
      simp only [h, hbody]
    · rename_i hbody
      simp only [h, hbody]

/-- No packet is taken where the read side does not begin with one. -/
theorem packets_eq_nil (h : ∀ body next p, inbox.readFrame limit = (.got body, next) →
    Packet.ofBody body ≠ .ok p) : inbox.packets limit = [] := by
  rw [packets_eq]
  rcases hread : inbox.readFrame limit with ⟨body | _ | f, next⟩
  · cases hbody : Packet.ofBody body with
    | error m => simp only [hbody]
    | ok p => exact absurd hbody (h body next p hread)
  · rfl
  · rfl

/-- A packet at the front is taken, and then those after it. -/
theorem packets_eq_cons (hread : inbox.readFrame limit = (.got body, next))
    (hp : Packet.ofBody body = .ok p) : inbox.packets limit = p :: next.packets limit := by
  rw [packets_eq, hread]
  simp only [hp]

/-- The packets that are taken are the run of frames in the unread bytes. -/
theorem frames_packets (htidy : inbox.Tidy) :
    ∃ last, Frames limit inbox.unread (inbox.packets limit) last := by
  obtain ⟨packets, last, h⟩ := Frames.exists_of_bytes limit inbox.unread
  generalize hbytes : inbox.unread = bytes at h
  induction h generalizing inbox with
  | @done bytes h =>
    have hrun : Frames limit bytes [] bytes := .done h
    have hnil : inbox.packets limit = [] := by
      refine packets_eq_nil fun body next p hread hp => ?_
      rcases hrun.last_cases with ⟨m, hflaw⟩ | hshort
      · rw [← hbytes] at hflaw
        rcases readFrame_of_flaw htidy hflaw with ⟨_, hread'⟩ | ⟨_, _, hread', hm⟩
        · rw [hread] at hread'
          cases hread'
        · rw [hread] at hread'
          cases hread'
          rw [hp] at hm
          cases hm
      · rw [← hbytes] at hshort
        obtain ⟨outcome, _, hread', hlacks⟩ := readFrame_of_short htidy hshort
        rw [hread] at hread'
        cases hread'
        cases hlacks
    rw [hnil]
    exact ⟨bytes, hrun⟩
  | next hbegins hp _ ih =>
    have hbegins' := hbegins
    rw [← hbytes] at hbegins'
    obtain ⟨next, hread, hunread, htidy', -⟩ := readFrame_of_begins htidy hbegins'
    obtain ⟨last, hframes⟩ := ih htidy' hunread
    rw [packets_eq_cons hread hp]
    exact ⟨last, .next hbegins hp hframes⟩

end Inbox

namespace Link

variable {σ : Type}

/-- Reports leave the stream alone. -/
theorem line_reportFirst (l : Link σ) (message : Text) : (l.reportFirst message).line = l.line := by
  unfold reportFirst
  split
  · rfl
  · rfl

/-- Stopping leaves the stream alone. -/
theorem line_stopReader (l : Link σ) (f : Fault) : (l.stopReader f).line = l.line := by
  unfold stopReader
  split
  · exact line_reportFirst _ _
  · exact line_reportFirst _ _

/-- Taking frames changes the stream only in what is left unread. -/
theorem line_takeFrames (l : Link σ) :
    ∃ inbox, l.takeFrames.line = { l.line with inbox } := by
  fun_induction takeFrames l with
  | case1 l inbox h => exact ⟨_, rfl⟩
  | case2 l f inbox h => exact ⟨inbox, line_stopReader _ f⟩
  | case3 l body inbox h m hm => exact ⟨inbox, line_stopReader _ _⟩
  | case4 l body inbox h p hp hlt ih => exact ih

/-- Taking frames delivers the packets at the front of the read side, and perhaps stops the
reader. -/
theorem exchange_takeFrames (l : Link σ) :
    l.takeFrames.exchange = l.exchange.takeAll (l.line.inbox.packets l.exchange.limit) ∨
      ∃ message, l.takeFrames.exchange =
        (l.exchange.takeAll (l.line.inbox.packets l.exchange.limit)).stop message := by
  fun_induction takeFrames l with
  | case1 l inbox h =>
    rw [Inbox.packets_eq_nil fun body next p hread => by rw [h] at hread; cases hread]
    exact .inl rfl
  | case2 l f inbox h =>
    rw [Inbox.packets_eq_nil fun body next p hread => by rw [h] at hread; cases hread]
    exact .inr ⟨_, exchange_stopReader _ _⟩
  | case3 l body inbox h m hm =>
    rw [Inbox.packets_eq_nil fun body next p hread => by rw [h] at hread; cases hread; simp [hm]]
    exact .inr ⟨_, exchange_stopReader _ _⟩
  | case4 l body inbox h p hp hlt ih =>
    rw [Inbox.packets_eq_cons h hp, Exchange.takeAll_cons]
    rwa [exchange_deliver, Exchange.limit_take] at ih

/-- The packets that the reader takes when it is let to. -/
def restPackets (l : Link σ) : List Packet :=
  if l.exchange.reader = .running then l.line.inbox.packets l.exchange.limit else []

/-- A reader that is let to delivers packets, and perhaps stops. -/
theorem exchange_rest (l : Link σ) :
    l.rest.exchange = l.exchange.takeAll l.restPackets ∨
      ∃ message, l.rest.exchange = (l.exchange.takeAll l.restPackets).stop message := by
  unfold rest restPackets
  by_cases h : l.exchange.reader = .running
  · rw [if_pos h, if_pos h]
    exact exchange_takeFrames l
  · rw [if_neg h, if_neg h]
    exact .inl rfl

/-- A reader that is let to changes the stream only in what is left unread. -/
theorem line_rest (l : Link σ) : ∃ inbox, l.rest.line = { l.line with inbox } := by
  unfold rest
  split
  · exact line_takeFrames l
  · exact ⟨_, rfl⟩

/-- A reader that is let to adds no request. -/
theorem pending_rest {l : Link σ} {e : Int × Ticket} (h : e ∈ l.rest.exchange.pending) :
    e ∈ l.exchange.pending := by
  rcases exchange_rest l with hrest | ⟨message, hrest⟩
  · rw [hrest] at h
    exact Exchange.mem_pending_takeAll h
  · rw [hrest] at h
    cases h

/-- A reader that is let to gives out no ticket. -/
theorem size_rest (l : Link σ) : l.rest.exchange.progress.size = l.exchange.progress.size := by
  rcases exchange_rest l with hrest | ⟨message, hrest⟩
  · rw [hrest, Exchange.size_takeAll]
  · rw [hrest]
    exact (Exchange.size_fail _ _).trans (Exchange.size_takeAll _ _)

end Link

end Sftp
