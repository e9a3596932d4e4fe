import Sftp.Proofs.OpenHandle.Requests
import Sftp.Proofs.Session.Closing

/-!
# The life of a client

A client may be connected and disconnected in any order and as often as one likes, while its callers ask
and the far end does what it wants. The client, its session and the exchange each know whether they are
over, and they agree: a client is unopened, then connected, then finished, and never goes back.

* `Client.Call`, `Client.after` — what can be done with a client, and a run of such calls.
* `Client.Unopened`, **`Client.unopened_after`** — before a session is opened;
  `Client.Unopened.connect_cases` — what an attempt to open one leaves.
* `Call.ops`, **`Client.after_of_session`** — once there is a session, calls are operations of its link.
* `Greets`, **`Client.Unopened.greets_after`** — the greeting comes first, and once.
* `Client.Connected`, **`Client.Connected.after`** — until the session is closed.
* `Client.Finished`, **`Client.Connected.finished_disconnect`** — what the first disconnection leaves,
  whatever comes after it.
* **`Client.lifecycle`** — all of it.
-/

namespace Sftp

/-- Whether a frame is a greeting: the tag stands after the four bytes of the length. -/
def Bytes.isGreeting (frame : Bytes) : Bool :=
  frame[4]? = some (UInt8.ofNat PacketKind.init.tag)

/-- Frames of which the first greets, and no other. -/
inductive Greets : List Bytes → Prop
  /-- No frame. -/
  | silent : Greets []
  /-- The greeting, and then requests. -/
  | greeted {frames : List Bytes} (h : ∀ frame ∈ frames, frame.isGreeting = false) :
      Greets (Link.greetingFrame :: frames)

/-- A packet's frame greets exactly if the packet does. -/
theorem Packet.isGreeting_of_encode {p : Packet} {frame : Bytes} (h : p.encode = .ok frame) :
    frame.isGreeting = true ↔ p.kind = .init := by
  unfold Bytes.isGreeting
  rw [tag_of_encode h, decide_eq_true_iff, Option.some_inj, PacketKind.ofNat_tag_inj]

/-- A message does not greet. -/
theorem Message.kind_ne_init (m : Message) : m.kind ≠ .init := by
  cases m <;> exact nofun

/-- Frames for messages do not greet. -/
theorem Carried.isGreeting_eq_false {ms : List Message} {frames : List Bytes} (h : Carried ms frames)
    {frame : Bytes} (hframe : frame ∈ frames) : frame.isGreeting = false := by
  obtain ⟨m, -, id, hencode⟩ := h.exists_of_mem hframe
  refine Bool.eq_false_iff.mpr fun hgreets => ?_
  exact m.kind_ne_init ((Packet.isGreeting_of_encode hencode).mp hgreets)

namespace Client

variable {σ : Type}

/-! ## Calls -/

/-- Sends a message and gives the ticket of whoever waits for the reply. -/
def submit (m : Message) : Step (Client σ) Ticket := do
  let _ ← currentSession
  onLink (Link.submit (.ofMessage m))

/-- What can be done with a client. -/
inductive Call (σ : Type)
  /-- The client is connected, as it is when its context is entered. -/
  | connect
  /-- The client is disconnected, which is to close it, as it is when its context is left. -/
  | disconnect
  /-- A caller sends a message and waits until there is a reply. -/
  | request (m : Message)
  /-- A caller sends a message and waits while other calls are made. -/
  | submit (m : Message)
  /-- Something arrives. -/
  | receive (arrivals : List Arrival)
  /-- The far end comes to another state of its own accord. -/
  | change (state : σ)

/-- The client after a call, whether or not the call faults. -/
def Call.perform (c : Client σ) : Call σ → Client σ
  | connect => (Client.connect.run c).2
  | disconnect => (Client.disconnect.run c).2
  | request m => ((Client.request m).run c).2
  | submit m => ((Client.submit m).run c).2
  | receive arrivals => { c with link := c.link.receive arrivals }
  | change state => { c with link := { c.link with line := { c.link.line with state } } }

/-- The client after calls, one after another. -/
def after (c : Client σ) (calls : List (Call σ)) : Client σ :=
  calls.foldl Call.perform c

/-- Every request is refused with this fault, and nothing changes. -/
def Refuses (c : Client σ) (f : Fault) : Prop :=
  ∀ m, (request m).run c = (.error f, c) ∧ (submit m).run c = (.error f, c)

/-- No call in the run connects the client. -/
def Unconnected (c : Client σ) (calls : List (Call σ)) : Prop :=
  ∀ before others, calls = before ++ .connect :: others →
    ∃ f, (connect.run (c.after before)).1 = .error f

/-- A ticket that was given out in a run. -/
def Issued (c : Client σ) (calls : List (Call σ)) (t : Ticket) : Prop :=
  ∃ before m others, calls = before ++ .submit m :: others ∧
    ((submit m).run (c.after before)).1 = .ok t

/-- A request that stands in the table and whose caller waits. -/
def Pending (c : Client σ) (t : Ticket) : Prop :=
  (∃ id, (id, t) ∈ c.link.exchange.pending) ∧ c.link.exchange.standing t = .waiting

section calls

variable {c : Client σ} {session : Session}

/-- Without a session, every request is refused. -/
theorem refuses_of_unopened (h : c.session = none) : c.Refuses (.status .notConnected) := by
  intro m
  unfold request submit
  rw [Step.run_bind, Step.run_bind, run_currentSession, h]
  exact ⟨rfl, rfl⟩

/-- Where there is a session, a submission goes out over the link. -/
theorem run_submit (h : c.session = some session) (m : Message) :
    (submit m).run c = (onLink (Link.submit (.ofMessage m))).run c := by
  unfold submit
  rw [Step.run_bind, run_currentSession, h]

/-- Where the connection has failed, every request is refused. -/
theorem refuses_of_failed (h : c.session = some session) {message : Text}
    (hfailed : c.link.exchange.failure = some message) : c.Refuses (.lost message) := by
  have hsubmit := Link.run_submit_of_failed hfailed
  intro m
  constructor
  · rw [run_request h, run_onLink]
    unfold Link.send
    rw [Step.run_bind, hsubmit]
  · rw [run_submit h, run_onLink, hsubmit]

/-- Where there is a session, to connect is to do nothing. -/
theorem run_connect_of_session (h : c.session = some session) : connect.run c = (.ok ⟨⟩, c) := by
  unfold connect
  rw [Step.run_bind, Step.run_get]
  simp only
  rw [h]
  rfl

/-- Where there is none, to connect is to open one. -/
theorem run_connect (h : c.session = none) :
    connect.run c =
      match (Link.openSession c.settings.frameSize).run c.link with
      | (.ok session, link) => (.ok ⟨⟩, { c with link, session := some session })
      | (.error f, link) => (.error f, { c with link }) := by
  have hnone : c.session.isNone = true := by
    rw [h]
    rfl
  unfold connect
  rw [Step.run_bind, Step.run_get]
  simp only
  rw [if_pos hnone]
  show Step.run (onLink (Link.openSession c.settings.frameSize) >>= _) c = _
  rw [Step.run_bind, run_onLink]
  rcases (Link.openSession c.settings.frameSize).run c.link with ⟨f | session, link⟩
  · rfl
  · rfl

/-- A client that could not connect has no session on its link. -/
theorem openSession_of_connect_error {c' : Client σ} {f : Fault} (h : c.session = none)
    (hfault : connect.run c = (.error f, c')) :
    (Link.openSession c.settings.frameSize).run c.link = (.error f, c'.link) := by
  rw [run_connect h] at hfault
  rcases hopening : (Link.openSession c.settings.frameSize).run c.link with ⟨g | session, link⟩
  · rw [hopening] at hfault
    cases hfault
    rfl
  · rw [hopening] at hfault
    cases hfault

/-- A client that is connected has the session of its link. -/
theorem openSession_of_connect_ok {c' : Client σ} (h : c.session = none)
    (hok : connect.run c = (.ok ⟨⟩, c')) :
    ∃ session link, (Link.openSession c.settings.frameSize).run c.link = (.ok session, link) ∧
      c' = { c with link, session := some session } := by
  rw [run_connect h] at hok
  rcases hopening : (Link.openSession c.settings.frameSize).run c.link with ⟨f | session, link⟩
  · rw [hopening] at hok
    cases hok
  · rw [hopening] at hok
    cases hok
    exact ⟨session, link, rfl, rfl⟩

/-- Without a session that is open, to disconnect is to do nothing. -/
theorem run_disconnect_of_not_open (h : ∀ session, c.session = some session → session.closed = true) :
    disconnect.run c = (.ok ⟨⟩, c) := by
  unfold disconnect
  rw [Step.run_bind, Step.run_get]
  simp only
  cases hsession : c.session with
  | none => rfl
  | some session =>
    simp only
    rw [h session hsession]
    rfl

/-- An open session is closed, and is closed afterwards also if the stream faults. -/
theorem state_disconnect_of_open (h : c.session = some session) (hopen : session.closed = false) :
    (disconnect.run c).2 = { c with
      session := some { session with closed := true }
      link := (Link.closeSession.run c.link).2 } := by
  unfold disconnect
  rw [Step.run_bind, Step.run_get]
  simp only
  rw [h]
  simp only
  rw [hopen]
  rfl

/-- To disconnect a client whose session is open is to close the session. -/
theorem run_disconnect_of_open (h : c.session = some session)
    (hopen : session.closed = false) :
    (disconnect.run c).1 = (Link.closeSession.run c.link).1 ∧
      (disconnect.run c).2.link = (Link.closeSession.run c.link).2 := by
  rw [state_disconnect_of_open h hopen]
  refine ⟨?_, rfl⟩
  unfold disconnect
  rw [Step.run_bind, Step.run_get]
  dsimp only
  rw [h]
  dsimp only
  rw [hopen]
  rfl

end calls

/-! ## Before there is a session -/

/-- A client that has no session: nobody has tried to open one, or the stream is closed, perhaps after
the greeting. -/
structure Unopened (line : Line σ) (c : Client σ) : Prop where
  /-- There is no session. -/
  session : c.session = none
  /-- No reader was started. -/
  idle : c.link.exchange.reader = .idle
  /-- The stream is as it was, or closed. -/
  stream : c.link.line.closes = line.closes ∧ c.sent = line.sent.toList ∨
    0 < c.link.line.closes ∧
      (c.sent = line.sent.toList ∨ c.sent = line.sent.toList ++ [Link.greetingFrame])

/-- A client with a session that is open, on a stream that is. -/
structure Connected (line : Line σ) (c : Client σ) : Prop where
  /-- There is a session, and it is open. -/
  session : ∃ session, c.session = some session ∧ session.closed = false
  /-- The stream was not closed. -/
  closes : c.link.line.closes = line.closes
  /-- The exchange accounts for every request. -/
  kept : ∃ events, (History.mk c.link events []).Kept

namespace Unopened

variable {line : Line σ} {c : Client σ}

/-- Every request is refused. -/
theorem refuses (h : c.Unopened line) : c.Refuses (.status .notConnected) :=
  refuses_of_unopened h.session

/-- A stream that is still open has not been touched. -/
theorem untouched (h : c.Unopened line) (hopen : c.link.line.closes = 0) :
    c.link.line.closes = line.closes ∧ c.sent = line.sent.toList := by
  rcases h.stream with hsame | ⟨hclosed, -⟩
  · exact hsame
  · exact absurd hopen (Nat.ne_of_gt hclosed)

/-- Nothing but the greeting can have gone out. -/
theorem sent_cases (h : c.Unopened line) :
    c.sent = line.sent.toList ∨ c.sent = line.sent.toList ++ [Link.greetingFrame] := by
  rcases h.stream with ⟨-, hsent⟩ | ⟨-, hsent⟩
  · exact .inl hsent
  · exact hsent

/-- **To connect is to open a session over an open stream, or to close the stream.** -/
theorem connect_cases (h : c.Unopened line) :
    (connect.run c).1 = .ok ⟨⟩ ∧ (connect.run c).2.Connected line ∧
        (connect.run c).2.sent = line.sent.toList ++ [Link.greetingFrame] ∨
      (∃ f, (connect.run c).1 = .error f) ∧ (connect.run c).2.Unopened line := by
  have hopening := Link.opening h.idle c.settings.frameSize
  rw [run_connect h.session]
  generalize (Link.openSession c.settings.frameSize).run c.link = outcome at hopening ⊢
  obtain ⟨result, link⟩ := outcome
  simp only at hopening
  cases hopening with
  | opened hopen hfirst hcloses hsent hkept =>
    obtain ⟨hsame, hnothing⟩ := h.untouched hfirst
    refine .inl ⟨rfl, ⟨⟨_, rfl, hopen⟩, ?_, ⟨_, hkept⟩⟩, ?_⟩
    · exact hcloses.trans (hfirst.symm.trans hsame)
    · exact hsent.trans (congrArg (· ++ _) hnothing)
  | failed hidle hcloses hsent =>
    refine .inr ⟨⟨_, rfl⟩, ⟨h.session, hidle, .inr ⟨?_, ?_⟩⟩⟩
    · show 0 < link.line.closes
      rw [hcloses]
      exact Nat.succ_pos _
    · show link.line.sent.toList = _ ∨ link.line.sent.toList = _
      rw [hsent]
      cases hwrite : (c.link.line.write Link.greetingFrame).1 with
      | some f =>
        -- the stream has refused the greeting
        show c.sent ++ [] = _ ∨ c.sent ++ [] = _
        rw [List.append_nil]
        exact h.sent_cases
      | none =>
        obtain ⟨-, hnothing⟩ := h.untouched (Link.closes_of_write hwrite)
        exact .inr (congrArg (· ++ _) hnothing)

/-- A call that does not connect the client leaves it as it was. -/
theorem perform (h : c.Unopened line) {call : Call σ}
    (hcall : call = .connect → ∃ f, (connect.run c).1 = .error f) : (call.perform c).Unopened line := by
  cases call with
  | connect =>
    rcases h.connect_cases with ⟨hok, -⟩ | ⟨-, hstill⟩
    · obtain ⟨f, hf⟩ := hcall rfl
      rw [hok] at hf
      cases hf
    · exact hstill
  | disconnect =>
    have hnone : ∀ session, c.session = some session → session.closed = true := by
      intro session hsome
      rw [h.session] at hsome
      cases hsome
    show (disconnect.run c).2.Unopened line
    rw [run_disconnect_of_not_open hnone]
    exact h
  | request m =>
    show ((Client.request m).run c).2.Unopened line
    rw [(h.refuses m).1]
    exact h
  | submit m =>
    show ((Client.submit m).run c).2.Unopened line
    rw [(h.refuses m).2]
    exact h
  | receive arrivals =>
    have hunread : c.link.receive arrivals =
        { c.link with line := c.link.line.receive arrivals } :=
      Link.receive_of_not_running (by rw [h.idle]; exact nofun) arrivals
    show ({ c with link := c.link.receive arrivals } : Client σ).Unopened line
    rw [hunread]
    exact ⟨h.session, h.idle, h.stream⟩
  | change state => exact ⟨h.session, h.idle, h.stream⟩

end Unopened

/-- A client is made without a session. -/
theorem unopened_make (settings : SessionSettings) (line : Line σ) (patience : Nat) :
    (make settings line patience).Unopened line :=
  ⟨rfl, rfl, .inl ⟨rfl, rfl⟩⟩

/-- **Until it is connected, a client has no session.** -/
theorem unopened_after {line : Line σ} {c : Client σ} (h : c.Unopened line) {calls : List (Call σ)}
    (hcalls : c.Unconnected calls) : (c.after calls).Unopened line := by
  induction calls generalizing c with
  | nil => exact h
  | cons call calls ih =>
    refine ih (h.perform fun hconnect => hcalls [] calls (by rw [hconnect]; rfl)) ?_
    rintro before others rfl
    exact hcalls (call :: before) others rfl

/-! ## Once there is a session -/

/-- What a call does to the link of a client that has a session. -/
def Call.ops : Call σ → List (Op σ)
  | connect => []
  | disconnect => []
  | request m => [.send (.ofMessage m)]
  | submit m => [.submit (.ofMessage m)]
  | receive arrivals => [.receive arrivals]
  | change state => [.change state]

/-- No call closes the stream, but for the first disconnection. -/
theorem Call.closeLine_not_mem_flatMap_ops (calls : List (Call σ)) :
    Op.closeLine ∉ calls.flatMap ops := by
  intro hmem
  obtain ⟨call, -, hcall⟩ := List.mem_flatMap.mp hmem
  cases call with
  | connect => cases hcall
  | disconnect => cases hcall
  | request m => cases List.mem_singleton.mp hcall
  | submit m => cases List.mem_singleton.mp hcall
  | receive arrivals => cases List.mem_singleton.mp hcall
  | change state => cases List.mem_singleton.mp hcall

section session

variable {c : Client σ} {session : Session}

/-- A call that closes no session is what it does to the link. -/
theorem Call.perform_of_session (h : c.session = some session) (call : Call σ)
    (hcall : call = .disconnect → session.closed = true) :
    call.perform c = { c with link := (c.link.history call.ops).link } := by
  cases call with
  | connect =>
    show (Client.connect.run c).2 = c
    rw [run_connect_of_session h]
  | disconnect =>
    have hclosed : ∀ s, c.session = some s → s.closed = true := by
      intro s hs
      rw [h] at hs
      cases hs
      exact hcall rfl
    show (Client.disconnect.run c).2 = c
    rw [run_disconnect_of_not_open hclosed]
  | request m =>
    show ((Client.request m).run c).2 = _
    rw [run_request h]
    rfl
  | submit m =>
    show ((Client.submit m).run c).2 = _
    rw [run_submit h]
    rfl
  | receive arrivals => rfl
  | change state => rfl

/-- **Calls that close no session are what they do to the link.** -/
theorem after_of_session (h : c.session = some session) {calls : List (Call σ)}
    (hcalls : .disconnect ∈ calls → session.closed = true) :
    c.after calls = { c with link := (c.link.history (calls.flatMap Call.ops)).link } := by
  induction calls generalizing c with
  | nil => rfl
  | cons call calls ih =>
    have hfirst := Call.perform_of_session h call
      fun hcall => hcalls (hcall ▸ List.mem_cons_self)
    have hrest := ih (c := call.perform c) (by rw [hfirst]; exact h)
      fun hmem => hcalls (List.mem_cons_of_mem call hmem)
    refine hrest.trans ?_
    rw [hfirst]
    show ({ c with link := _ } : Client σ) = { c with link := _ }
    rw [List.flatMap_cons, Link.link_history_append]

/-- What goes out for a call are frames for messages. -/
theorem Call.carried_ops (call : Call σ) (l : Link σ) :
    ∃ ms, Carried ms ((l.history call.ops).events.filterMap Event.sent?) := by
  cases call with
  | connect => exact ⟨[], .none⟩
  | disconnect => exact ⟨[], .none⟩
  | request m => exact ⟨[m], Link.carried_sendEvents m l⟩
  | submit m => exact ⟨[m], Link.carried_submitEvents m l⟩
  | receive arrivals =>
    refine ⟨[], ?_⟩
    show Carried [] ((l.arrived arrivals).restEvents.filterMap Event.sent?)
    rw [Link.restEvents, Link.filterMap_sent_takings]
    exact .none
  | change state => exact ⟨[], .none⟩

/-- A session stays, and what goes out for a call does not greet. -/
theorem Call.perform_keeps (h : c.session ≠ none) (call : Call σ) :
    (call.perform c).session ≠ none ∧
      ∃ frames, (call.perform c).sent = c.sent ++ frames ∧
        ∀ frame ∈ frames, frame.isGreeting = false := by
  obtain ⟨session, hsession⟩ := Option.ne_none_iff_exists'.mp h
  by_cases hcall : call = .disconnect → session.closed = true
  · obtain ⟨ms, hcarried⟩ := call.carried_ops c.link
    rw [perform_of_session hsession call hcall]
    exact ⟨h, _, (Link.acts_history c.link call.ops).sent, fun _ => hcarried.isGreeting_eq_false⟩
  · obtain ⟨rfl, hopen⟩ := Classical.not_imp.mp hcall
    have hafter := state_disconnect_of_open hsession (Bool.not_eq_true _ ▸ hopen)
    rw [show Call.perform c .disconnect = _ from hafter]
    refine ⟨nofun, [], ?_, nofun⟩
    rw [List.append_nil]
    exact congrArg Array.toList (Link.line_closeSession c.link).2

/-- Nothing that goes out after a session was opened greets. -/
theorem exists_sent_after (h : c.session ≠ none) (calls : List (Call σ)) :
    ∃ frames, (c.after calls).sent = c.sent ++ frames ∧
      ∀ frame ∈ frames, frame.isGreeting = false := by
  induction calls generalizing c with
  | nil => exact ⟨[], (List.append_nil _).symm, nofun⟩
  | cons call calls ih =>
    obtain ⟨hsession, first, hfirst, hquiet⟩ := call.perform_keeps h
    obtain ⟨frames, hframes, hquiet'⟩ := ih hsession
    refine ⟨first ++ frames, ?_, fun frame hframe => ?_⟩
    · rw [← List.append_assoc, ← hfirst]
      exact hframes
    · rcases List.mem_append.mp hframe with hframe | hframe
      · exact hquiet frame hframe
      · exact hquiet' frame hframe

end session

/-- What an unopened client has sent greets at most once. -/
theorem Unopened.greets {line : Line σ} {c : Client σ} (h : c.Unopened line) :
    ∃ frames, c.sent = line.sent.toList ++ frames ∧ Greets frames := by
  rcases h.sent_cases with hsent | hsent
  · exact ⟨[], by rw [hsent, List.append_nil], .silent⟩
  · exact ⟨_, hsent, .greeted nofun⟩

/-- **The greeting comes first, and once**, in whatever order a client is connected, disconnected and
asked. -/
theorem Unopened.greets_after {line : Line σ} {c : Client σ} (h : c.Unopened line)
    (calls : List (Call σ)) :
    ∃ frames, (c.after calls).sent = line.sent.toList ++ frames ∧ Greets frames := by
  induction calls generalizing c with
  | nil => exact h.greets
  | cons call calls ih =>
    by_cases hconnects : call = .connect ∧ (connect.run c).1 = .ok ⟨⟩
    · obtain ⟨rfl, hok⟩ := hconnects
      rcases h.connect_cases with ⟨-, hconnected, hsent⟩ | ⟨⟨f, hf⟩, -⟩
      · obtain ⟨session, hsession, -⟩ := hconnected.session
        obtain ⟨frames, hframes, hquiet⟩ :=
          exists_sent_after (by rw [hsession]; exact nofun) calls
        refine ⟨Link.greetingFrame :: frames, hframes.trans ?_, .greeted hquiet⟩
        rw [hsent, List.append_assoc]
        rfl
      · rw [hok] at hf
        cases hf
    · refine ih (h.perform fun hconnect => ?_)
      rcases h.connect_cases with ⟨hok, -⟩ | ⟨hfault, -⟩
      · exact absurd ⟨hconnect, hok⟩ hconnects
      · exact hfault

/-! ## While the session is open -/

namespace Connected

variable {line : Line σ} {c : Client σ} {between : List (Call σ)}

/-- **Until it is disconnected, a client stays connected**, whether or not the connection has failed. -/
theorem after (h : c.Connected line) (hbetween : .disconnect ∉ between) :
    (c.after between).Connected line := by
  obtain ⟨session, hsession, hopen⟩ := h.session
  obtain ⟨events, hkept⟩ := h.kept
  rw [after_of_session hsession fun hmem => absurd hmem hbetween]
  refine ⟨⟨session, hsession, hopen⟩, ?_, ?_⟩
  · exact (Link.closes_history (Call.closeLine_not_mem_flatMap_ops between) c.link).trans h.closes
  · have haccounted := (hkept.run (between.flatMap Call.ops)).accounted
    rw [Link.link_history] at haccounted
    exact ⟨_, haccounted, nofun⟩

/-- Whoever was given a ticket and waits is in the table. -/
theorem pending_of_issued (h : c.Connected line) (hbetween : .disconnect ∉ between) {t : Ticket}
    (ht : c.Issued between t) (hwaiting : (c.after between).link.exchange.standing t = .waiting) :
    (c.after between).Pending t := by
  obtain ⟨session, hsession, -⟩ := h.session
  obtain ⟨events, hkept⟩ := h.kept
  have hafter := after_of_session hsession fun hmem => absurd hmem hbetween
  rw [hafter] at hwaiting ⊢
  obtain ⟨before, m, others, rfl, hok⟩ := ht
  have hnone : .disconnect ∉ before := fun hmem => hbetween (List.mem_append_left _ hmem)
  have hbefore := after_of_session hsession fun hmem => absurd hmem hnone
  have hsession' : (c.after before).session = some session := by
    rw [hbefore]
    exact hsession
  rw [run_submit hsession', run_onLink, hbefore] at hok
  -- the ticket is entered where the submission is made, and stays
  obtain ⟨id, hid⟩ := Link.exists_mem_submitIssued hok
  have hissued : (id, t) ∈
      ((History.mk c.link events []).run ((before ++ .submit m :: others).flatMap Call.ops)).issued := by
    rw [List.flatMap_append, List.flatMap_cons, History.run_append, History.run_append]
    refine History.mem_issued_run (List.mem_append_right _ ?_) _
    rw [Link.link_history]
    exact hid
  rw [← Link.link_history c.link events []] at hwaiting
  have hmem := (hkept.run _).mem_pending hissued hwaiting
  rw [Link.link_history] at hmem hwaiting
  exact ⟨⟨id, hmem⟩, hwaiting⟩

end Connected

/-! ## When it is over -/

/-- A client whose session was closed. However it is used afterwards, the stream was closed once and stays
as it is, nothing goes out any more, and every request is refused; every request that was pending is
lost. -/
structure Finished (c c' : Client σ) (message : Text) : Prop where
  /-- Every request that was pending is lost. -/
  lost : ∀ t, c.Pending t → c'.link.exchange.standing t = .lost message
  /-- The stream was closed, and is not closed again. -/
  closes : ∀ later, (c'.after later).link.line.closes = c.link.line.closes + 1
  /-- Nothing goes out. -/
  sent : ∀ later, (c'.after later).sent = c.sent
  /-- Every request is refused. -/
  refuses : ∀ later, (c'.after later).Refuses (.lost message)

/-- **The first disconnection is final**, whether or not it faults. -/
theorem Connected.finished_disconnect {line : Line σ} {c : Client σ} (h : c.Connected line) :
    c.Finished (disconnect.run c).2 (c.link.exchange.failure.getD Exchange.closedMessage) := by
  obtain ⟨session, hsession, hopen⟩ := h.session
  obtain ⟨events, hkept⟩ := h.kept
  obtain ⟨hfailure, hlost⟩ := Link.ended_closeSession hkept.accounted.sound
  obtain ⟨hcloses, hsent⟩ := Link.line_closeSession c.link
  rw [state_disconnect_of_open hsession hopen]
  generalize (Link.closeSession.run c.link).2 = link at hfailure hlost hcloses hsent ⊢
  constructor
  case lost =>
    rintro t ⟨⟨id, hmem⟩, hwaiting⟩
    exact hlost (id, t) hmem hwaiting
  all_goals
    intro later
    rw [after_of_session rfl fun _ => rfl]
    obtain ⟨hstill, hsilent⟩ := History.failure_run (h := History.mk link [] []) hfailure
      (later.flatMap Call.ops)
  case closes =>
    exact (Link.closes_history (Call.closeLine_not_mem_flatMap_ops later) link).trans hcloses
  case sent => exact congrArg Array.toList (hsilent.trans hsent)
  case refuses => exact refuses_of_failed rfl hstill

/-- **The life of a client**, in whatever order it is connected, disconnected and asked, and whatever the
far end of its stream does:

* what it sends begins with the greeting, which is sent once;
* until it is connected, every request is refused and nothing changes;
* until it is then disconnected, the stream is not closed, and whoever waits for a reply is in the table;
* the disconnection closes the stream and loses every request that is pending, also if it faults, and from
  then on the stream is not closed again, nothing goes out, and every request is refused. -/
theorem lifecycle (settings : SessionSettings) (line : Line σ) (patience : Nat) :
    (∀ calls, ∃ frames, ((make settings line patience).after calls).sent =
      line.sent.toList ++ frames ∧ Greets frames) ∧
    ∀ first, (make settings line patience).Unconnected first →
      ((make settings line patience).after first).Refuses (.status .notConnected) ∧
      ∀ c, connect.run ((make settings line patience).after first) = (.ok ⟨⟩, c) →
        ∀ between, .disconnect ∉ between →
          (c.after between).link.line.closes = line.closes ∧
          (∀ t, c.Issued between t → (c.after between).link.exchange.standing t = .waiting →
            (c.after between).Pending t) ∧
          (c.after between).Finished (disconnect.run (c.after between)).2
            ((c.after between).link.exchange.failure.getD Exchange.closedMessage) := by
  have hmade := unopened_make settings line patience
  refine ⟨hmade.greets_after, fun first hfirst => ?_⟩
  have hunopened := unopened_after hmade hfirst
  refine ⟨hunopened.refuses, fun c hconnect between hbetween => ?_⟩
  have hcases := hunopened.connect_cases
  rw [hconnect] at hcases
  rcases hcases with ⟨-, hconnected, -⟩ | ⟨⟨f, hf⟩, -⟩
  · have hstill := hconnected.after hbetween
    exact ⟨hstill.closes, fun t => hconnected.pending_of_issued hbetween, hstill.finished_disconnect⟩
  · cases hf

/-- The far end agrees on the version and answers nothing else. To close the stream faults. -/
def silentServer : Peer Unit where
  write frame s :=
    (.ok (if frame = Link.greetingFrame then [.chunk [0, 0, 0, 5, 2, 0, 0, 0, 3]] else []), s)
  close s := (some .closedStream, s)

/-- A client of that server. -/
def silentClient : Client Unit :=
  make default { peer := silentServer, state := () } 1

/-- The client after a needless disconnection. -/
def waryClient : Client Unit :=
  silentClient.after [.disconnect]

/-- A request to which no reply comes. -/
def unansweredCall : List (Call Unit) :=
  [.submit (.close [1])]

/-- The client is connected and sends a request. Its disconnection faults, and still the request is lost
and the stream is closed once. -/
theorem lifecycle_waryClient :
    silentClient.Unconnected [.disconnect] ∧
      waryClient.Refuses (.status .notConnected) ∧
      ∃ c, connect.run waryClient = (.ok ⟨⟩, c) ∧ .disconnect ∉ unansweredCall ∧
        c.Issued unansweredCall 0 ∧ (c.after unansweredCall).Pending 0 ∧
        (disconnect.run (c.after unansweredCall)).1 = .error .closedStream ∧
        (disconnect.run (c.after unansweredCall)).2.link.exchange.standing 0 =
          .lost Exchange.closedMessage ∧
        ∀ later, ((disconnect.run (c.after unansweredCall)).2.after later).link.line.closes = 1 := by
  obtain ⟨-, hlife⟩ := lifecycle default { peer := silentServer, state := () } 1
  have hfirst : silentClient.Unconnected [.disconnect] := by
    intro before others hcalls
    have hmem : Call.connect ∈ [(Call.disconnect : Call Unit)] := by
      rw [hcalls]
      exact List.mem_append_right _ List.mem_cons_self
    cases List.mem_singleton.mp hmem
  obtain ⟨hrefuses, hlife⟩ := hlife _ hfirst
  have hconnect : connect.run waryClient = (.ok ⟨⟩, (connect.run waryClient).2) :=
    Prod.ext (by decide +kernel) rfl
  have hopen : .disconnect ∉ unansweredCall := by
    intro hmem
    cases List.mem_singleton.mp hmem
  have hissued : (connect.run waryClient).2.Issued unansweredCall 0 :=
    ⟨[], .close [1], [], rfl, by decide +kernel⟩
  obtain ⟨hcloses, hpending, hfinished⟩ := hlife _ hconnect _ hopen
  have hwaits := hpending 0 hissued (by decide +kernel)
  have hhealthy : ((connect.run waryClient).2.after unansweredCall).link.exchange.failure = none := by
    decide +kernel
  refine ⟨hfirst, hrefuses, _, hconnect, hopen, hissued, hwaits, by decide +kernel, ?_, fun later => ?_⟩
  · have hlost := hfinished.lost 0 hwaits
    rw [hhealthy] at hlost
    exact hlost
  · rw [hfinished.closes later, hcloses]

end Client

end Sftp
