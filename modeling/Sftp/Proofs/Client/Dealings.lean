import Sftp.Proofs.Client.Conversation
import Sftp.Proofs.Client.Lifecycle
import Sftp.Proofs.Client.Reply
import Sftp.Proofs.Link.Sending

/-!
# Dealings with a server

What a client does with a connection is to make requests, and each of them comes to something: a reply, or
a fault. What an operation gives can be told from these dealings, whatever the server is.

* `Dealing` — a request and what came of it; `Dealing.fault?` — the fault of one that did not bring what it
  wanted; **`Dealing.granted_of_fault?_eq_none`** — otherwise there is a reply that has it.
* `Client.Deals` — from one state of a client to another there were dealings, and nothing else but records.
* `Client.Able` — a connected client; **`Client.Deals.able`** — it stays connected, its dealings are
  `Dealing.Proper`, and `Client.Deals.sends` — a frame has gone out for each, unless the connection failed.
* `Client.Deals.sends_of_answered` — a frame has gone out for each dealing that has a reply, and
  `Client.Deals.sends_of_earlier_answered` — for all but the last, if only the last has none.
* `Client.Deals.answered_or_status` — requests that have frames are answered, or fail with a status, also on a
  stream that fails with faults of values.
* `Client.able_connect` — connecting makes a client able.
-/

namespace Sftp

/-! ## Dealings -/

/-- What a request wants of its reply. -/
def Message.wants : Message → Want
  | .openFile path _ _ => .handle .file path
  | .opendir path => .handle .directory path
  | .read _ _ length => .data length
  | .readdir _ => .entries
  | .stat _ | .lstat _ | .fstat _ => .attributes
  | .readlink _ => .oneName .readlink
  | .realpath _ => .oneName .realpath
  | _ => .confirmation

/-- A request, and what came of it. -/
structure Dealing where
  /-- The request. -/
  request : Message
  /-- The reply, or the fault that there was instead. -/
  outcome : Except Fault Packet

/-- The fault of an outcome that is one. -/
def faultOf {α : Type} : Except Fault α → Option Fault
  | .ok _ => none
  | .error f => some f

namespace Dealing

/-- What the request has brought. -/
def result (d : Dealing) : Except Fault Payload :=
  d.outcome.bind d.request.wants.read

/-- The fault with which the request failed. To read a directory at its end is no failure. -/
def fault? (d : Dealing) : Option Fault :=
  (faultOf d.result).filter fun f => !(d.request.kind = .readdir && f.isEnd)

/-- The handle that the request has brought. -/
def opened? (d : Dealing) : Option Bytes :=
  match d.result with
  | .ok (.handle base) => some base.handle
  | _ => none

/-- The request, unless it had no frame. -/
def carried? (d : Dealing) : Option Message :=
  match d.outcome with
  | .error (.unencodable _) => none
  | _ => some d.request

/-- The names in the reply. -/
def names (d : Dealing) : List Text :=
  match d.outcome with
  | .ok (.message _ (.name entries)) => entries.map NameEntry.filename
  | _ => []

/-- What the client is given to do: the request itself, and the entries of its reply. -/
def work (d : Dealing) : Nat :=
  d.names.length + 1

/-- **A request that is granted**: there is a reply that has what was wanted, or that says that the
directory is at its end. -/
inductive Granted (d : Dealing) : Prop
  /-- The reply has what was wanted. -/
  | brought {id : Int} {reply : Message} {payload : Payload} (hreply : d.outcome = .ok (.message id reply))
      (h : d.request.wants.Brings reply payload)
  /-- The directory is at its end. -/
  | atEnd {id : Int} {handle : Bytes} {message lang : Text} (hrequest : d.request = .readdir handle)
      (hreply : d.outcome = .ok (.message id (.status StatusCode.endOfFile.number message lang)))

/-- What can come of a request over a connection whose stream fails only with failures of the system. -/
inductive Proper (d : Dealing) : Prop
  /-- A reply that was read from a body. -/
  | answered {id : Int} {reply : Message} (h : d.outcome = .ok (.message id reply))
      (hbody : (Packet.message id reply).HasBody)
  /-- The request has no frame. -/
  | unmade {id : Int} {cause : EncodeFault} (h : d.outcome = .error (.unencodable cause))
      (hid : Width.word.Fits id) (hencode : (Packet.message id d.request).encode = .error cause)
  /-- A failure of the system. -/
  | failed {f : Fault} (h : d.outcome = .error f) (hsystem : f.isSystem = true)


variable {d : Dealing} {f : Fault} {reply : Packet}

/-- What a request has brought is read from its reply. -/
theorem result_of_ok (h : d.outcome = .ok reply) : d.result = d.request.wants.read reply := by
  rw [result, h]
  rfl

/-- Without a reply it has brought nothing. -/
theorem result_of_error (h : d.outcome = .error f) : d.result = .error f := by
  rw [result, h]
  rfl

/-- A request that fails with a fault that is no end. -/
theorem fault?_eq_some (hresult : d.result = .error f) (hend : f.isEnd = false) : d.fault? = some f := by
  rw [fault?, hresult, faultOf, Option.filter_some, hend, Bool.and_false]
  rfl

/-- A request that fails has brought nothing. -/
theorem of_fault?_eq_some (h : d.fault? = some f) :
    d.result = .error f ∧ ¬ (d.request.kind = .readdir ∧ f.isEnd = true) := by
  obtain ⟨hfault, hend⟩ := Option.filter_eq_some_iff.mp h
  refine ⟨?_, fun hboth => ?_⟩
  · cases hresult : d.result with
    | ok payload =>
      rw [hresult] at hfault
      cases hfault
    | error g =>
      rw [hresult] at hfault
      exact congrArg Except.error (Option.some.inj hfault)
  · rw [decide_eq_true hboth.1, hboth.2] at hend
    cases hend

/-- A request that does not fail brings something, or ends a directory. -/
theorem fault?_eq_none_iff :
    d.fault? = none ↔ (∃ payload, d.result = .ok payload) ∨
      d.request.kind = .readdir ∧ ∃ f, d.result = .error f ∧ f.isEnd = true := by
  rw [fault?]
  cases hresult : d.result with
  | ok payload => exact ⟨fun _ => .inl ⟨payload, rfl⟩, fun _ => rfl⟩
  | error f =>
    rw [faultOf, Option.filter_some]
    by_cases hends : (d.request.kind = .readdir && f.isEnd) = true
    · rw [hends]
      rw [Bool.and_eq_true, decide_eq_true_iff] at hends
      exact ⟨fun _ => .inr ⟨hends.1, f, rfl, hends.2⟩, fun _ => rfl⟩
    · rw [Bool.eq_false_iff.mpr hends]
      rw [Bool.and_eq_true, decide_eq_true_iff] at hends
      refine ⟨nofun, ?_⟩
      rintro (⟨_, ⟨⟩⟩ | ⟨hkind, _, ⟨⟩, hend⟩)
      exact absurd ⟨hkind, hend⟩ hends

/-- A failure of the system is no end. -/
theorem isEnd_of_isSystem (h : f.isSystem = true) : f.isEnd = false := by
  unfold Fault.isSystem at h
  unfold Fault.isEnd
  cases hcategory : f.category with
  | endOfInput =>
    rw [hcategory] at h
    cases h
  | _ => rfl

/-- What has no encoding is no end. -/
theorem isEnd_unencodable (cause : EncodeFault) : (Fault.unencodable cause).isEnd = false := by
  cases cause with
  | _ => rfl

/-- A fault with a status is no end. -/
theorem isEnd_status (e : StatusError) : (Fault.status e).isEnd = false := by
  obtain ⟨kind, code, message, lang, confirmed⟩ := e
  cases kind with
  | _ => rfl

/-- Only the status of an end is one. -/
theorem refused_of_isEnd {endIsFailure : Bool} {reply : Message} (h : reply.Refused endIsFailure f)
    (hend : f.isEnd = true) :
    ∃ message lang, reply = .status StatusCode.endOfFile.number message lang := by
  cases h with
  | endOfFile _ => exact ⟨_, _, rfl⟩
  | failure _ _ =>
    rw [isEnd_status] at hend
    cases hend
  | unexpectedEnd _ => cases hend
  | unwanted text _ => cases hend

/-- A request to read a directory is that. -/
theorem eq_readdir_of_kind {m : Message} (h : m.kind = .readdir) : ∃ handle, m = .readdir handle := by
  cases m with
  | readdir handle => exact ⟨handle, rfl⟩
  | _ => cases h

/-- **A request without a fault is granted.** -/
theorem granted_of_fault?_eq_none (hproper : d.Proper) (h : d.fault? = none) : d.Granted := by
  cases hproper with
  | @answered id reply hreply hbody =>
    have hresult := result_of_ok hreply
    have hgoverns := d.request.wants.governs_read id reply
    rw [← hresult] at hgoverns
    rcases fault?_eq_none_iff.mp h with ⟨payload, hok⟩ | ⟨hkind, f, hf, hend⟩
    · exact .brought hreply ((hgoverns.brings payload).mp hok)
    · obtain ⟨handle, hrequest⟩ := eq_readdir_of_kind hkind
      obtain ⟨message, lang, rfl⟩ := refused_of_isEnd (hgoverns.refused hf) hend
      exact .atEnd hrequest hreply
  | @unmade id cause hfault _ _ =>
    rw [fault?_eq_some (result_of_error hfault) (isEnd_unencodable cause)] at h
    cases h
  | @failed f hfault hsystem =>
    rw [fault?_eq_some (result_of_error hfault) (isEnd_of_isSystem hsystem)] at h
    cases h

end Dealing

/-! ## Opening a session -/

namespace Link

variable {σ : Type} {l : Link σ}

/-- A stream breaks under the greeting, or something can be read from it afterwards. -/
theorem breaks_or_greeted (hidle : l.exchange.reader ≠ .running) (htidy : l.line.inbox.Tidy) :
    (∃ f, l.Breaks greetingFrame f) ∨ l.Greeted (l.line.write greetingFrame).2.inbox.unread
      (l.line.write greetingFrame).2.inbox.ending := by
  have hrest : (l.wrote greetingFrame).rest = l.wrote greetingFrame := if_neg hidle
  cases hwrite : (l.line.write greetingFrame).1 with
  | some f => exact .inl ⟨f, .write hwrite⟩
  | none =>
    cases hflush : (l.line.write greetingFrame).2.flush.1 with
    | some f => exact .inl ⟨f, .flush hwrite (by rw [hrest]; exact hflush)⟩
    | none => exact .inr ⟨hwrite, hflush, tidy_write htidy _, rfl, rfl⟩

/-- A handshake that succeeds leaves no chunk without bytes. -/
theorem tidy_of_handshake (hidle : l.exchange.reader ≠ .running) (htidy : l.line.inbox.Tidy) {limit : Int}
    {agreed : Int × Extensions} (hok : ((handshake limit).run l).1 = .ok agreed) :
    ((handshake limit).run l).2.line.inbox.Tidy := by
  rcases breaks_or_greeted hidle htidy with ⟨f, hbreaks⟩ | hgreeted
  · rw [(hbreaks.run_handshake hidle limit).1] at hok
    cases hok
  · obtain ⟨-, body, rest, hbegins, -⟩ := (hgreeted.accepts_iff hidle).mp hok
    obtain ⟨t, hrun, -, htidy', -⟩ := hgreeted.run_handshake_of_begins hidle hbegins
    rw [hrun]
    exact htidy'

/-- **The link of a session that was just opened can be used**, and its stream is the same. -/
theorem usable_openSession (hidle : l.exchange.reader = .idle) (htidy : l.line.inbox.Tidy) {limit : Int}
    {session : Session} (hok : ((openSession limit).run l).1 = .ok session) :
    ((openSession limit).run l).2.Usable ∧
      ((openSession limit).run l).2.line.peer = l.line.peer := by
  have hstill : l.exchange.reader ≠ .running := by
    rw [hidle]
    exact nofun
  cases hresult : ((handshake limit).run l).1 with
  | error f =>
    rw [(openSession_of_error hstill hresult).1] at hok
    cases hok
  | ok agreed =>
    have htidy' := tidy_of_handshake hstill htidy hresult
    obtain ⟨inbox, hline⟩ := line_openSession_of_ok hresult
    obtain ⟨-, -, hpeer, -⟩ := handshake_keeps hstill limit
    refine ⟨?_, by rw [hline]; exact hpeer⟩
    rw [(openSession_of_ok hresult).2]
    generalize ((handshake limit).run l).2 = t at htidy' ⊢
    have hstart : ({ t with exchange := { limit } } : Link σ).AtRest := ⟨fun _ => htidy', nofun⟩
    have hrunning : ({ t with exchange := { limit } } : Link σ).listening.exchange.reader ≠ .idle := nofun
    obtain ⟨events, haccounted, -⟩ := kept_start limit t .info
      s!"SFTP session established (version {agreed.1})"
    refine ⟨(hstart.perform .start).of_same rfl rfl rfl, ⟨events, haccounted⟩, ?_, fun _ => ?_⟩
    · have hmoves : Exchange.Moves True _ _ _ := moves_rest ({ t with exchange := { limit } } : Link σ).listening
      exact Exchange.reader_ne_idle_of_moves hmoves hrunning
    · have hnobody : ∀ e, e ∉ ({ t with exchange := { limit } } : Link σ).listening.rest.exchange.pending :=
        fun e he => List.not_mem_nil (pending_rest he)
      show ({ t with exchange := { limit } } : Link σ).listening.rest.exchange.pending.length < _
      rw [List.eq_nil_iff_forall_not_mem.mpr hnobody]
      decide

/-! ## Messages that are sent -/

/-- A submission of a message that is done has sent its frame. -/
theorem sent_of_submit {m : Message} {t : Ticket}
    (h : ((submit (.ofMessage m)).run l).1 = .ok t) :
    ∃ frame, m.HasFrame frame ∧ (l.submitEvents (.ofMessage m)).filterMap Event.sent? = [frame] := by
  obtain ⟨g, hhanding, -, htransmit⟩ := exists_handing_of_ok h
  obtain ⟨-, -, -, hencode, haccepted⟩ := handing?_eq_some hhanding
  rw [packet_of_handing hhanding] at hencode
  have hwritten : g.accepted = true := by
    rw [haccepted, Option.isNone_iff_eq_none]
    rw [run_transmit] at htransmit
    have hsame : (l.enter g.id).line = l.line := rfl
    rw [hsame] at htransmit
    cases hwrite : (l.line.write g.frame).1 with
    | none => rfl
    | some f =>
      rw [hwrite] at htransmit
      cases htransmit
  refine ⟨g.frame, ⟨g.id, hencode⟩, ?_⟩
  rw [submitEvents_of_some hhanding, List.filterMap_append, filterMap_sent_takenBack,
    List.append_nil, List.filterMap_cons, restEvents, filterMap_sent_takings, Event.sent?, hwritten]
  rfl

end Link

/-! ## A client and its dealings -/

namespace Client

variable {σ : Type} {c c' c'' : Client σ} {ds others : List Dealing}

/-- From one state of a client to another there were dealings, one after another, and nothing else but
records. -/
inductive Deals : Client σ → List Dealing → Client σ → Prop
  /-- Nothing. -/
  | refl (c : Client σ) : Deals c [] c
  /-- A request. -/
  | request {c c' : Client σ} {ds : List Dealing} (m : Message)
      (h : Deals ((Client.request m).run c).2 ds c') :
      Deals c ({ request := m, outcome := ((Client.request m).run c).1 } :: ds) c'
  /-- A record. -/
  | record {c c' : Client σ} {ds : List Dealing} (level : Level) (message : Text)
      (h : Deals { c with link := c.link.record level message } ds c') : Deals c ds c'

namespace Deals

/-- One request. -/
theorem one (c : Client σ) (m : Message) :
    c.Deals [{ request := m, outcome := ((Client.request m).run c).1 }]
      ((Client.request m).run c).2 :=
  .request m (.refl _)

/-- Dealings after dealings. -/
theorem trans (h : c.Deals ds c') (h' : c'.Deals others c'') : c.Deals (ds ++ others) c'' := by
  induction h with
  | refl => exact h'
  | request m _ ih => exact .request m (ih h')
  | record level message _ ih => exact .record level message (ih h')

end Deals

/-- A request leaves all of the client but its link, and does not close the stream. -/
theorem request_keeps (c : Client σ) (m : Message) :
    ∃ link, ((request m).run c).2 = { c with link } ∧ link.line.closes = c.link.line.closes ∧
      link.line.peer = c.link.line.peer := by
  rcases Option.eq_none_or_eq_some c.session with hnone | ⟨session, hsession⟩
  · rw [(refuses_of_unopened hnone m).1]
    exact ⟨c.link, rfl, rfl, rfl⟩
  · have hcloses : ((Link.send (.ofMessage m)).run c.link).2.line.closes = c.link.line.closes :=
      Op.closes_perform (show Op.send (.ofMessage m) ≠ .closeLine from nofun) c.link
    rw [run_request hsession]
    exact ⟨_, rfl, hcloses, (Link.acts_send (.ofMessage m) c.link).peer⟩

/-- Dealings leave all of the client but its link, and do not close the stream. -/
theorem Deals.keeps (h : c.Deals ds c') :
    ∃ link, c' = { c with link } ∧ link.line.closes = c.link.line.closes ∧
      link.line.peer = c.link.line.peer := by
  induction h with
  | refl c => exact ⟨c.link, rfl, rfl, rfl⟩
  | @request c c' ds m _ ih =>
    obtain ⟨link, hafter, hcloses, hpeer⟩ := request_keeps c m
    obtain ⟨link', rfl, hcloses', hpeer'⟩ := ih
    rw [hafter] at hcloses' hpeer' ⊢
    exact ⟨link', rfl, hcloses'.trans hcloses, hpeer'.trans hpeer⟩
  | record level message _ ih => exact ih

/-! ## Requests that were answered -/

/-- **For a request that was answered** its frame has gone out, whatever the stream is. -/
theorem sends_of_answered {m : Message} {reply : Packet} (h : ((request m).run c).1 = .ok reply) :
    c.Sends [m] ((request m).run c).2 := by
  cases hsession : c.session with
  | none =>
    rw [(refuses_of_unopened hsession m).1] at h
    cases h
  | some session =>
    rw [run_request hsession, run_onLink] at h ⊢
    have hsent := (Link.acts_send (.ofMessage m) c.link).sent
    rw [Link.sendEvents, List.filterMap_append] at hsent
    rcases hsubmit : (Link.submit (.ofMessage m)).run c.link with ⟨f | t, link⟩
    · rw [Link.run_send_of_error hsubmit] at h
      cases h
    · obtain ⟨frame, hframe, hevents⟩ := Link.sent_of_submit (congrArg Prod.fst hsubmit)
      rw [hsubmit, hevents] at hsent
      simp only [Link.filterMap_sent_awaitEvents, List.append_nil] at hsent
      exact ⟨[frame], .cons hframe .nil, hsent⟩

/-- **Requests all of which were answered** have gone out, in order, and nothing else has. -/
theorem Deals.sends_of_answered (h : c.Deals ds c') (hds : ∀ d ∈ ds, ∃ reply, d.outcome = .ok reply) :
    c.Sends (ds.map Dealing.request) c' := by
  induction h with
  | refl c => exact .refl c
  | request m _ ih =>
    obtain ⟨⟨reply, hreply⟩, hrest⟩ := List.forall_mem_cons.mp hds
    exact (Client.sends_of_answered hreply).trans (ih hrest)
  | record level message _ ih => exact ih hds

/-- What goes out for a request is a frame of it, or nothing. -/
theorem sends_or_not (c : Client σ) (m : Message) :
    c.Sends [] ((request m).run c).2 ∨ c.Sends [m] ((request m).run c).2 := by
  obtain ⟨frames, hframes, hsent⟩ := sent_request c m
  cases hframes with
  | @sent _ _ id frame _ hencode hrest =>
    cases hrest
    exact .inr ⟨[frame], .cons ⟨id, hencode⟩ .nil, hsent⟩
  | unsent hrest =>
    cases hrest
    exact .inl ⟨[], .nil, hsent⟩

/-- **Of requests all of which were answered, but perhaps not the last,** all have gone out, in order, or all
but the last, and nothing else has. -/
theorem Deals.sends_of_earlier_answered {earlier : List Dealing} {last : Dealing}
    (h : c.Deals (earlier ++ [last]) c') (hearlier : ∀ d ∈ earlier, ∃ reply, d.outcome = .ok reply) :
    c.Sends (earlier.map Dealing.request) c' ∨
      c.Sends ((earlier ++ [last]).map Dealing.request) c' := by
  generalize hds : earlier ++ [last] = ds at h
  induction h generalizing earlier with
  | refl c => exact absurd hds (List.append_ne_nil_of_right_ne_nil _ (List.cons_ne_nil _ _))
  | @request c c' ds m h ih =>
    cases earlier with
    | nil =>
      obtain ⟨rfl, rfl⟩ := List.cons.inj hds
      have hnone := h.sends_of_answered (List.forall_mem_nil _)
      exact (c.sends_or_not m).imp (·.trans hnone) (·.trans hnone)
    | cons first earlier =>
      obtain ⟨rfl, htail⟩ := List.cons.inj hds
      obtain ⟨⟨reply, hreply⟩, hrest⟩ := List.forall_mem_cons.mp hearlier
      have hfirst := Client.sends_of_answered hreply
      exact (ih hrest htail).imp hfirst.trans hfirst.trans
  | record level message _ ih => exact ih hearlier hds

/-! ## Connected clients -/

/-- A client that is connected, on a stream that fails only with faults of a sort. -/
structure Able (sort : Fault → Prop) (c : Client σ) : Prop where
  /-- There is a session. -/
  session : c.session ≠ none
  /-- Its link can be used. -/
  usable : c.link.Usable
  /-- The stream fails only with such faults. -/
  peer : c.link.line.peer.FailsOnly sort

/-- What the client records does not concern the connection. -/
theorem Able.record {sort : Fault → Prop} (hc : c.Able sort) (level : Level) (message : Text) :
    Able sort { c with link := c.link.record level message } :=
  ⟨hc.session, ⟨hc.usable.atRest.of_same rfl rfl rfl, hc.usable.accounted, hc.usable.started,
    hc.usable.room⟩, hc.peer⟩

variable {sort : Fault → Prop}

section streams

variable (hsort : ∀ f, sort f → (f.isSystem || f.isInvalid) = true)

include hsort

/-- A connected client is connected after a request, whatever comes of it. -/
theorem Able.after_request (hc : c.Able sort) (m : Message) : Able sort ((request m).run c).2 := by
  obtain ⟨session, hsession⟩ := Option.ne_none_iff_exists'.mp hc.session
  rw [run_request hsession]
  refine ⟨hc.session, hc.usable.send hc.peer hsort m, ?_⟩
  show ((Link.send (.ofMessage m)).run c.link).2.line.peer.FailsOnly sort
  rw [(Link.acts_send (.ofMessage m) c.link).peer]
  exact hc.peer

/-- How a request of a connected client ends. -/
theorem Able.sending (hc : c.Able sort) (m : Message) :
    Link.Sending sort m c.link ((request m).run c).1 ((request m).run c).2.link := by
  obtain ⟨session, hsession⟩ := Option.ne_none_iff_exists'.mp hc.session
  rw [run_request hsession]
  exact (hc.usable.sending hc.peer hsort m).1

/-- A request that has a frame is answered, or fails with a status. -/
theorem Able.answered_or_status (hc : c.Able sort) {m : Message}
    (hencodable : (Packet.message 0 m).IsEncodable) :
    (∃ reply, ((request m).run c).1 = .ok reply) ∨
      ∃ e, ((request m).run c).1 = .error (.status e) := by
  have hsending := hc.sending hsort m
  generalize ((request m).run c).1 = outcome at hsending ⊢
  cases hsending with
  | answered _ _ _ => exact .inl ⟨_, rfl⟩
  | unmade hid hencode _ =>
    obtain ⟨frame, hframe⟩ := hencodable.of_id hid
    cases hframe.symm.trans hencode
  | lost _ => exact .inr ⟨_, rfl⟩
  | @deserted f _ hlost _ =>
    cases f with
    | status e => exact .inr ⟨e, rfl⟩
    | _ => cases hlost

/-- So is each of many that have one. -/
theorem Deals.answered_or_status (h : c.Deals ds c') (hc : c.Able sort)
    (hencodable : ∀ d ∈ ds, (Packet.message 0 d.request).IsEncodable) :
    ∀ d ∈ ds, (∃ reply, d.outcome = .ok reply) ∨ ∃ e, d.outcome = .error (.status e) := by
  induction h with
  | refl c => exact List.forall_mem_nil _
  | request m _ ih =>
    obtain ⟨hfirst, hrest⟩ := List.forall_mem_cons.mp hencodable
    exact List.forall_mem_cons.mpr
      ⟨hc.answered_or_status hsort hfirst, ih (hc.after_request hsort m) hrest⟩
  | record level message _ ih => exact ih (hc.record level message) hencodable

/-- A connection that has not failed had not failed before. -/
theorem Deals.healthy (h : c.Deals ds c') (hc : c.Able sort)
    (hhealthy : c'.link.exchange.failure = none) : c.link.exchange.failure = none := by
  induction h with
  | refl c => exact hhealthy
  | @request c c' ds m _ ih =>
    have hafter := ih (hc.after_request hsort m) hhealthy
    obtain ⟨session, hsession⟩ := Option.ne_none_iff_exists'.mp hc.session
    rw [run_request hsession] at hafter
    cases hfailure : c.link.exchange.failure with
    | none => rfl
    | some message =>
      have hmoves := (Link.acts_send (.ofMessage m) c.link).moves
      obtain ⟨hstays, -⟩ := Exchange.failure_moves hfailure hmoves
      cases hstays.symm.trans hafter
  | record level message _ ih => exact ih (hc.record level message) hhealthy

end streams

section systems

variable (hsort : ∀ f, sort f → f.isSystem = true)

include hsort

/-- Failures of the system are among those that a stream may have. -/
theorem isSystem_or_isInvalid_of_sort (f : Fault) (hf : sort f) : (f.isSystem || f.isInvalid) = true := by
  rw [hsort f hf, Bool.true_or]

/-- What comes of it is one of the things that can. -/
theorem Able.proper (hc : c.Able sort) (m : Message) :
    Dealing.Proper { request := m, outcome := ((Client.request m).run c).1 } := by
  have hsending := hc.sending (isSystem_or_isInvalid_of_sort hsort) m
  generalize ((Client.request m).run c).1 = outcome at hsending ⊢
  cases hsending with
  | answered _ _ hbody => exact .answered rfl hbody
  | unmade hid hencode _ => exact .unmade rfl hid hencode
  | lost _ => exact .failed rfl rfl
  | deserted _ hf => exact .failed rfl (hsort _ hf)

/-- **A connected client stays connected through its dealings.** -/
theorem Deals.able (h : c.Deals ds c') (hc : c.Able sort) :
    c'.Able sort ∧ ∀ d ∈ ds, d.Proper := by
  induction h with
  | refl c => exact ⟨hc, List.forall_mem_nil _⟩
  | request m _ ih =>
    obtain ⟨hc', hproper⟩ := ih (hc.after_request (isSystem_or_isInvalid_of_sort hsort) m)
    exact ⟨hc', List.forall_mem_cons.mpr ⟨hc.proper hsort m, hproper⟩⟩
  | record level message _ ih => exact ih (hc.record level message)

/-- **Unless the connection has failed, one frame has gone out for each request that has one**, in order,
and no other. -/
theorem Deals.sends (hlost : ∀ f, sort f → f.isLost = false) (h : c.Deals ds c') (hc : c.Able sort)
    (hhealthy : c'.link.exchange.failure = none) :
    c.Sends (ds.filterMap Dealing.carried?) c' := by
  induction h with
  | refl c => exact .refl c
  | @request c c' ds m h ih =>
    have hstream := isSystem_or_isInvalid_of_sort hsort
    have hafter := hc.after_request hstream m
    have hrest := ih hafter hhealthy
    have hstill := h.healthy hstream hafter hhealthy
    have hsending := hc.sending hstream m
    rw [List.filterMap_cons]
    generalize ((Client.request m).run c).2 = c₁ at hrest hstill hsending
    generalize ((Client.request m).run c).1 = outcome at hsending ⊢
    generalize hlink : c₁.link = link at hsending
    cases hsending with
    | @answered id frame reply _ hencode hsent hbody =>
      have hfirst : c.Sends [m] c₁ :=
        ⟨[frame], .cons ⟨id, hencode⟩ .nil, by rw [sent, hlink]; exact hsent⟩
      exact hfirst.trans hrest
    | unmade _ _ hline =>
      have hfirst : c.Sends [] c₁ :=
        ⟨[], .nil, by rw [sent, hlink, hline, List.append_nil]; rfl⟩
      exact hfirst.trans hrest
    | lost hfailed =>
      rw [hlink] at hstill
      exact absurd hstill hfailed
    | deserted hislost hf =>
      rw [hlost _ hf] at hislost
      cases hislost
  | record level message _ ih => exact ih (hc.record level message) hhealthy

end systems

/-- **A client is able once it is connected**, on a stream that fails only with faults of a sort. -/
theorem able_connect {c : Client σ} (hnone : c.session = none)
    (hidle : c.link.exchange.reader = .idle) (htidy : c.link.line.inbox.Tidy)
    (hpeer : c.link.line.peer.FailsOnly sort) (hok : (connect.run c).1 = .ok ⟨⟩) :
    (connect.run c).2.Able sort := by
  rw [run_connect hnone] at hok ⊢
  rcases hopening : (Link.openSession c.settings.frameSize).run c.link with ⟨f | session, link⟩
  · rw [hopening] at hok
    cases hok
  · obtain ⟨husable, hsame⟩ := Link.usable_openSession hidle htidy (congrArg Prod.fst hopening)
    rw [hopening] at husable hsame
    exact ⟨nofun, husable, hsame ▸ hpeer⟩

end Client

end Sftp
