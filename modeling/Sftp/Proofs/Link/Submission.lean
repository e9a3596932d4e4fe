import Sftp.Proofs.Exchange.NewId
import Sftp.Proofs.Link.Reader

/-!
# Submissions

A submission allots an id, registers the request, makes its frame, hands the frame to the stream,
takes what arrives in answer, and flushes. It can end at each of these steps.

* `Handing` — a frame that was handed to the stream; `Link.handing?` — the frame that a submission hands
  over, if it gets so far.
* `Link.run_enroll`, `Link.run_make`, `Link.run_write`, `Link.run_flush`, `Link.run_writeFailed` — the
  parts of a submission, one by one; `Link.run_transmit` — handing a frame over.
* `Link.run_submit_of_handing` — a submission that gets so far. `Link.run_submit_of_failed`,
  `Link.run_submit_of_exhausted`, `Link.run_submit_of_unmade`, `Link.run_submit_of_hangsUp` — those that do
  not.
* **`Link.submitted`** — every way in which a submission can go.
* `Link.line_transmit` — what goes out over the stream; `Link.fault_of_transmit` — what can be wrong with that;
  `Peer.Lossy` and `Link.lossy_of_transmit` — which streams can say that the connection is lost.
-/

namespace Sftp

/-! ## What happens -/

/-- A frame that was handed to the stream. -/
structure Handing where
  /-- The id that was allotted. -/
  id : Int
  /-- The ticket of the request. -/
  ticket : Ticket
  /-- The packet that was made for the id. -/
  packet : Packet
  /-- The frame of the packet. -/
  frame : Bytes
  /-- Whether the stream took it. -/
  accepted : Bool
  deriving DecidableEq

namespace Exchange

/-- What becomes of an exchange when handing over the frame of a request ends with a fault: the
request is taken back if the stream says that the connection is lost, the connection fails if the
fault is fatal, and the request stays if it is not. -/
def afterFault (x : Exchange) (id : Int) (f : Fault) : Exchange :=
  if f.isLost then x.withdraw id
  else if f.isSystem || f.isInvalid then x.fail ("write failed: " ++ f.message)
  else x

/-- The fault that a submission ends with when handing over its frame ends with one: a fatal fault
is replaced by the failure of the connection. -/
def faultAfter (x : Exchange) (f : Fault) : Fault :=
  if f.isLost then f
  else if f.isSystem || f.isInvalid then .lost (x.failure.getD ("write failed: " ++ f.message))
  else f

end Exchange

namespace Link

variable {σ : Type}

/-- The frame of a request's packet. -/
def Request.frame (r : Request) (id : Int) : Except Fault Bytes :=
  (Request.parcel r id).map Prod.snd

/-- A link with a request registered under an id that was just allotted. -/
def enter (l : Link σ) (id : Int) : Link σ :=
  { l with exchange := (l.exchange.nextId.2.register id).2 }

/-- A link whose stream was handed bytes. -/
def wrote (l : Link σ) (bytes : Bytes) : Link σ :=
  { l with line := (l.line.write bytes).2 }

/-- The frame that a submission hands to the stream, if it gets so far. -/
def handing? (r : Request) (l : Link σ) : Option Handing :=
  match l.exchange.failure, r.hangsUp, l.exchange.nextId.1 with
  | none, false, some id =>
    match r.build id with
    | .error _ => none
    | .ok packet =>
      match packet.encode with
      | .error _ => none
      | .ok frame =>
        let accepted := (l.line.write frame).1.isNone
        some { id, ticket := l.exchange.progress.size, packet, frame, accepted }
  | _, _, _ => none

theorem run_ensureHealthy (l : Link σ) :
    ensureHealthy.run l =
      match l.exchange.failure with
      | some message => (.error (.lost message), l)
      | none => (.ok ⟨⟩, l) := by
  unfold ensureHealthy
  rw [Step.run_bind, Step.run_get]
  simp only
  cases l.exchange.failure with
  | none => rfl
  | some message => rfl

theorem run_nextId (l : Link σ) :
    nextId.run l =
      (match l.exchange.nextId.1 with
        | some id => .ok id
        | none => .error .noFreeId, { l with exchange := l.exchange.nextId.2 }) := by
  unfold nextId
  rw [Step.run_bind, Step.run_get]
  simp only
  rw [Step.run_bind, Step.run_set]
  simp only
  cases l.exchange.nextId.1 with
  | none => rfl
  | some id => rfl

/-- An id is allotted and a request is entered under it, unless the connection has failed or all ids that
are tried are taken. -/
theorem run_enroll (l : Link σ) :
    enroll.run l =
      match l.exchange.failure, l.exchange.nextId.1 with
      | some message, _ => (.error (.lost message), l)
      | none, none => (.error .noFreeId, { l with exchange := l.exchange.nextId.2 })
      | none, some id => (.ok (id, l.exchange.progress.size), l.enter id) := by
  unfold enroll
  rw [Step.run_bind, run_ensureHealthy]
  cases l.exchange.failure with
  | some message => rfl
  | none =>
    simp only
    rw [Step.run_bind, run_nextId]
    cases l.exchange.nextId.1 with
    | none => rfl
    | some id => rfl

/-- A link when the packet of a request has been made, and the exchange was closed if that does it. -/
def afterMaking (l : Link σ) (r : Request) : Link σ :=
  if r.hangsUp then l.close else l

/-- A request that cannot be made leaves the table. -/
theorem run_make (r : Request) (id : Int) (l : Link σ) :
    (make r id).run l =
      match Request.parcel r id with
      | .error f =>
        (.error f,
          { l.afterMaking r with exchange := (l.afterMaking r).exchange.withdraw id })
      | .ok parcel => (.ok parcel, l.afterMaking r) := by
  unfold make
  rw [Step.run_bind, Step.run_modify]
  cases Request.parcel r id with
  | error f => rfl
  | ok parcel => rfl

/-- A packet that is made has the frame with which it comes. -/
theorem parcel_eq_ok_iff {r : Request} {id : Int} {p : Packet} {frame : Bytes} :
    Request.parcel r id = .ok (p, frame) ↔ r.build id = .ok p ∧ p.encode = .ok frame := by
  unfold Request.parcel
  cases r.build id with
  | error f => simp
  | ok q =>
    cases hencode : q.encode with
    | error e =>
      simp only [hencode, Except.mapError, Except.map, reduceCtorEq, Except.ok.injEq, false_iff]
      rintro ⟨rfl, h⟩
      rw [hencode] at h
      cases h
    | ok bytes =>
      simp only [hencode, Except.mapError, Except.map, Except.ok.injEq, Prod.mk.injEq]
      constructor
      · rintro ⟨rfl, rfl⟩
        exact ⟨rfl, hencode⟩
      · rintro ⟨rfl, h⟩
        rw [hencode] at h
        exact ⟨rfl, Except.ok.inj h⟩

/-- Handing bytes over: the write, and what arrives in answer. -/
theorem run_write (bytes : Bytes) (l : Link σ) :
    (write bytes).run l =
      (match (l.line.write bytes).1 with
        | some f => .error f
        | none => .ok ⟨⟩, (l.wrote bytes).rest) := by
  unfold write
  rw [Step.run_bind, Step.run_get]
  simp only
  rw [Step.run_bind, Step.run_set]
  simp only
  cases (l.line.write bytes).1 with
  | some f => rfl
  | none => rfl

/-- A flush concerns the stream alone. -/
theorem run_flush (l : Link σ) :
    flush.run l =
      (match l.line.flush.1 with
        | some f => .error f
        | none => .ok ⟨⟩, { l with line := l.line.flush.2 }) := by
  unfold flush
  rw [Step.run_bind, Step.run_get]
  simp only
  rw [Step.run_bind, Step.run_set]
  simp only
  cases l.line.flush.1 with
  | some f => rfl
  | none => rfl

/-- Handing a frame over: the write, what arrives in answer, and the flush. -/
theorem run_transmit (bytes : Bytes) (l : Link σ) :
    (transmit bytes).run l =
      let written := (l.wrote bytes).rest
      match (l.line.write bytes).1 with
      | some f => (.error f, written)
      | none =>
        let flushed := { written with line := written.line.flush.2 }
        match written.line.flush.1 with
        | some f => (.error f, flushed)
        | none => (.ok ⟨⟩, flushed) := by
  unfold transmit
  rw [Step.run_bind, run_write]
  cases (l.line.write bytes).1 with
  | some f => rfl
  | none =>
    simp only
    rw [run_flush]
    cases (l.wrote bytes).rest.line.flush.1 with
    | some f => rfl
    | none => rfl

/-- A failed write ends in a fault. Its aftermath concerns the exchange and leaves the stream. -/
theorem run_writeFailed (id : Int) (f : Fault) (l : Link σ) :
    ((writeFailed id f).run l).1 = .error (l.exchange.faultAfter f) ∧
      ((writeFailed id f).run l).2.exchange = l.exchange.afterFault id f ∧
      ((writeFailed id f).run l).2.line = l.line := by
  unfold writeFailed Exchange.afterFault Exchange.faultAfter
  by_cases hlost : f.isLost
  · rw [if_pos hlost, if_pos hlost, if_pos hlost, Step.run_bind, Step.run_modify]
    exact ⟨rfl, rfl, rfl⟩
  · rw [if_neg hlost, if_neg hlost, if_neg hlost]
    by_cases hfatal : f.isSystem || f.isInvalid
    · rw [if_pos hfatal, if_pos hfatal, if_pos hfatal, Step.run_bind, Step.run_modify]
      simp only
      rw [Step.run_bind, Step.run_get]
      exact ⟨rfl, rfl, rfl⟩
    · rw [if_neg hfatal, if_neg hfatal, if_neg hfatal]
      exact ⟨rfl, rfl, rfl⟩

/-- The ways in which a submission can go. -/
inductive Submitted (r : Request) (l : Link σ) : Except Fault Ticket → Link σ → Prop
  /-- The connection has failed. -/
  | refused {message : Text} (hfailed : l.exchange.failure = some message) :
      Submitted r l (.error (.lost message)) l
  /-- All ids that are tried are taken. -/
  | exhausted (hhealthy : l.exchange.failure = none) (hnone : l.exchange.nextId.1 = none) :
      Submitted r l (.error .noFreeId) { l with exchange := l.exchange.nextId.2 }
  /-- The frame cannot be made. -/
  | unmade {id : Int} {f : Fault} (hhealthy : l.exchange.failure = none)
      (hid : l.exchange.nextId.1 = some id) (hframe : Request.frame r id = .error f)
      (hstays : r.hangsUp = false) :
      Submitted r l (.error f)
        { l.enter id with exchange := (l.enter id).exchange.withdraw id }
  /-- The connection is closed while the frame is made. -/
  | hungUp {id : Int} {f : Fault} (hhealthy : l.exchange.failure = none)
      (hid : l.exchange.nextId.1 = some id) (hhangsUp : r.hangsUp = true) :
      Submitted r l (.error f)
        { l.enter id with exchange := (l.enter id).exchange.close.withdraw id }
  /-- The stream takes the frame. -/
  | sent {h : Handing} (hhanding : l.handing? r = some h)
      (hsent : ((transmit h.frame).run (l.enter h.id)).1 = .ok ⟨⟩) :
      Submitted r l (.ok h.ticket) ((transmit h.frame).run (l.enter h.id)).2
  /-- The stream faults. -/
  | faulted {h : Handing} {f g : Fault} {l' : Link σ} (hhanding : l.handing? r = some h)
      (hfault : ((transmit h.frame).run (l.enter h.id)).1 = .error f)
      (hexchange : l'.exchange =
        ((transmit h.frame).run (l.enter h.id)).2.exchange.afterFault h.id f)
      (hline : l'.line = ((transmit h.frame).run (l.enter h.id)).2.line) :
      Submitted r l (.error g) l'

/-- The frame of a request is that of the packet which is made for the id. -/
theorem frame_eq (r : Request) (id : Int) :
    Request.frame r id =
      match r.build id with
      | .error f => .error f
      | .ok p => p.encode.mapError Fault.unencodable := by
  unfold Request.frame Request.parcel
  cases r.build id with
  | error f => rfl
  | ok p =>
    simp only
    cases p.encode with
    | error cause => rfl
    | ok frame => rfl

/-- A frame that can be made is the frame of a packet. -/
theorem exists_packet_of_frame {r : Request} {id : Int} {bytes : Bytes}
    (h : Request.frame r id = .ok bytes) : ∃ p, r.build id = .ok p ∧ p.encode = .ok bytes := by
  rw [frame_eq] at h
  cases hbuild : r.build id with
  | error f =>
    rw [hbuild] at h
    cases h
  | ok p =>
    rw [hbuild] at h
    cases hencode : p.encode with
    | error e =>
      simp only [hencode] at h
      cases h
    | ok frame =>
      simp only [hencode] at h
      obtain rfl : frame = bytes := Except.ok.inj h
      exact ⟨p, rfl, hencode⟩

/-- A request without a frame cannot be made. -/
theorem parcel_of_frame_eq_error {r : Request} {id : Int} {f : Fault}
    (h : Request.frame r id = .error f) : Request.parcel r id = .error f := by
  unfold Request.frame at h
  cases hparcel : Request.parcel r id with
  | error g =>
    rw [hparcel] at h
    obtain rfl : g = f := Except.error.inj h
    rfl
  | ok parcel =>
    rw [hparcel] at h
    cases h

/-- A frame that can be made is handed over. -/
theorem exists_handing {r : Request} {l : Link σ} {id : Int} {bytes : Bytes}
    (hhealthy : l.exchange.failure = none) (hid : l.exchange.nextId.1 = some id)
    (hstays : r.hangsUp = false) (hframe : Request.frame r id = .ok bytes) :
    ∃ h, l.handing? r = some h ∧ h.id = id ∧ h.ticket = l.exchange.progress.size ∧
      h.frame = bytes := by
  obtain ⟨p, hbuild, hencode⟩ := exists_packet_of_frame hframe
  unfold handing?
  simp only [hhealthy, hstays, hid, hbuild, hencode]
  exact ⟨_, rfl, rfl, rfl, rfl⟩

/-- After a failure no frame is handed over, and the request is taken back. -/
theorem run_transmit_of_failed {l : Link σ} {message : Text}
    (h : l.exchange.failure = some message) (id : Int) (bytes : Bytes) :
    Step.run (tryCatch (do ensureHealthy; transmit bytes) fun f => writeFailed id f) l =
      (.error (.lost message), { l with exchange := l.exchange.withdraw id }) := by
  rw [Step.run_tryCatch, Step.run_bind, run_ensureHealthy, h]
  rfl

/-- Without a failure the frame is handed over. -/
theorem run_transmit_of_healthy {l : Link σ} (h : l.exchange.failure = none) (id : Int)
    (bytes : Bytes) :
    Step.run (tryCatch (do ensureHealthy; transmit bytes) fun f => writeFailed id f) l =
      match (transmit bytes).run l with
      | (.ok _, t) => (.ok ⟨⟩, t)
      | (.error f, t) => (writeFailed id f).run t := by
  rw [Step.run_tryCatch, Step.run_bind, run_ensureHealthy, h]
  simp only
  rcases (transmit bytes).run l with ⟨_ | _, t⟩
  · rfl
  · rfl

/-- After a failure a submission is refused and changes nothing. -/
theorem run_submit_of_failed {l : Link σ} {message : Text}
    (h : l.exchange.failure = some message) (r : Request) :
    (submit r).run l = (.error (.lost message), l) := by
  unfold submit
  rw [Step.run_bind, run_enroll, h]

/-- Without an id a submission faults. -/
theorem run_submit_of_exhausted {l : Link σ} (hhealthy : l.exchange.failure = none)
    (hnone : l.exchange.nextId.1 = none) (r : Request) :
    (submit r).run l = (.error .noFreeId, { l with exchange := l.exchange.nextId.2 }) := by
  unfold submit
  rw [Step.run_bind, run_enroll, hhealthy, hnone]

/-- A submission for which there is an id makes its packet and hands the frame over. -/
theorem run_submit_of_id {l : Link σ} {id : Int} (hhealthy : l.exchange.failure = none)
    (hid : l.exchange.nextId.1 = some id) (r : Request) :
    (submit r).run l =
      match Request.parcel r id with
      | .error f =>
        (.error f, { (l.enter id).afterMaking r with
          exchange := ((l.enter id).afterMaking r).exchange.withdraw id })
      | .ok parcel =>
        match Step.run (tryCatch (do ensureHealthy; transmit parcel.2) fun f => writeFailed id f)
            ((l.enter id).afterMaking r) with
        | (.ok _, t) => (.ok l.exchange.progress.size, t)
        | (.error f, t) => (.error f, t) := by
  unfold submit
  rw [Step.run_bind, run_enroll, hhealthy, hid]
  simp only
  rw [Step.run_bind, run_make]
  cases Request.parcel r id with
  | error f => rfl
  | ok parcel =>
    simp only
    rw [Step.run_bind]
    rcases Step.run (tryCatch (do ensureHealthy; transmit parcel.2) fun f => writeFailed id f)
      ((l.enter id).afterMaking r) with ⟨f | u, t⟩
    · rfl
    · rfl

/-- A request that cannot be made is taken back. -/
theorem run_submit_of_unmade {r : Request} {l : Link σ} {id : Int} {f : Fault}
    (hhealthy : l.exchange.failure = none) (hid : l.exchange.nextId.1 = some id)
    (hframe : Request.frame r id = .error f) (hstays : r.hangsUp = false) :
    (submit r).run l =
      (.error f, { l.enter id with exchange := (l.enter id).exchange.withdraw id }) := by
  have hmaking : (l.enter id).afterMaking r = l.enter id := by
    unfold afterMaking
    rw [hstays, if_neg Bool.false_ne_true]
  rw [run_submit_of_id hhealthy hid, parcel_of_frame_eq_error hframe, hmaking]

/-- A request during which the connection is closed ends with a fault, whether its frame can be made or
not. -/
theorem run_submit_of_hangsUp {r : Request} {l : Link σ} {id : Int}
    (hhealthy : l.exchange.failure = none) (hid : l.exchange.nextId.1 = some id)
    (hhangsUp : r.hangsUp = true) :
    ∃ f, (submit r).run l =
      (.error f, { l.enter id with exchange := (l.enter id).exchange.close.withdraw id }) := by
  have hmaking : (l.enter id).afterMaking r = (l.enter id).close := by
    unfold afterMaking
    rw [hhangsUp, if_pos rfl]
  rw [run_submit_of_id hhealthy hid, hmaking]
  cases Request.parcel r id with
  | error f => exact ⟨f, rfl⟩
  | ok parcel =>
    -- the failure is found before the write
    have hclosed : (l.enter id).close.exchange.failure = some Exchange.closedMessage := by
      show some (l.exchange.failure.getD _) = _
      rw [hhealthy]
      rfl
    simp only
    rw [run_transmit_of_failed hclosed id parcel.2]
    exact ⟨.lost Exchange.closedMessage, rfl⟩

/-- A submission that gets as far as the stream hands its frame over. If that faults, the aftermath
decides with which fault the submission ends. -/
theorem run_submit_of_handing {r : Request} {l : Link σ} {h : Handing}
    (hh : l.handing? r = some h) :
    (submit r).run l =
      match (transmit h.frame).run (l.enter h.id) with
      | (.ok _, t) => (.ok h.ticket, t)
      | (.error f, t) => (.error (t.exchange.faultAfter f), ((writeFailed h.id f).run t).2) := by
  unfold handing? at hh
  split at hh
  · rename_i id hfailure hhangsUp hid
    split at hh
    · cases hh
    · rename_i packet hbuild
      split at hh
      · cases hh
      · rename_i bytes hencode
        obtain rfl := Option.some.inj hh
        have hmaking : (l.enter id).afterMaking r = l.enter id := by
          unfold afterMaking
          rw [hhangsUp, if_neg Bool.false_ne_true]
        rw [run_submit_of_id hfailure hid, parcel_eq_ok_iff.mpr ⟨hbuild, hencode⟩, hmaking]
        simp only
        rw [run_transmit_of_healthy (l := l.enter id) hfailure id bytes]
        rcases (transmit bytes).run (l.enter id) with ⟨f | u, t⟩
        · have hfailed := (run_writeFailed id f t).1
          simp only
          rcases hafter : (writeFailed id f).run t with ⟨result, l'⟩
          rw [hafter] at hfailed
          obtain rfl : result = .error (t.exchange.faultAfter f) := hfailed
          rfl
        · rfl
  · cases hh

/-- **Every submission goes in one of these ways.** -/
theorem submitted (r : Request) (l : Link σ) :
    Submitted r l ((submit r).run l).1 ((submit r).run l).2 := by
  cases hhanding : l.handing? r with
  | some h =>
    have hrun := run_submit_of_handing hhanding
    rcases htransmit : (transmit h.frame).run (l.enter h.id) with ⟨f | u, t⟩
    · obtain ⟨-, hexchange, hline⟩ := run_writeFailed h.id f t
      rw [hrun, htransmit]
      refine .faulted (f := f) hhanding ?_ ?_ ?_
      · rw [htransmit]
      · rw [htransmit]
        exact hexchange
      · rw [htransmit]
        exact hline
    · have hsent := Submitted.sent hhanding (congrArg Prod.fst htransmit)
      rw [htransmit] at hsent
      rw [hrun, htransmit]
      exact hsent
  | none =>
    cases hfailure : l.exchange.failure with
    | some message =>
      rw [run_submit_of_failed hfailure]
      exact .refused hfailure
    | none =>
      cases hid : l.exchange.nextId.1 with
      | none =>
        rw [run_submit_of_exhausted hfailure hid]
        exact .exhausted hfailure hid
      | some id =>
        cases hhangsUp : r.hangsUp with
        | true =>
          obtain ⟨f, hrun⟩ := run_submit_of_hangsUp hfailure hid hhangsUp
          rw [hrun]
          exact .hungUp hfailure hid hhangsUp
        | false =>
          cases hframe : Request.frame r id with
          | error f =>
            rw [run_submit_of_unmade hfailure hid hframe hhangsUp]
            exact .unmade hfailure hid hframe hhangsUp
          | ok bytes =>
            -- there is a frame to hand over
            obtain ⟨h, hsome, -⟩ := exists_handing hfailure hid hhangsUp hframe
            rw [hhanding] at hsome
            cases hsome

/-! ## What goes over the stream -/

/-- Handing a frame over changes the exchange only by what arrives. -/
theorem exchange_transmit (bytes : Bytes) (l : Link σ) :
    ((transmit bytes).run l).2.exchange = (l.wrote bytes).rest.exchange := by
  rw [run_transmit]
  simp only
  split
  · rfl
  · split
    · rfl
    · rfl

/-- A write keeps the far end, and sends the bytes if the stream takes them. -/
theorem line_write (line : Line σ) (bytes : Bytes) :
    (line.write bytes).2.peer = line.peer ∧
      (line.write bytes).2.sent.toList =
        line.sent.toList ++ if (line.write bytes).1.isNone then [bytes] else [] := by
  unfold Line.write
  by_cases hclosed : line.isClosed
  · rw [if_pos hclosed]
    exact ⟨rfl, (List.append_nil _).symm⟩
  · rw [if_neg hclosed]
    rcases line.peer.write bytes line.state with ⟨f | arrivals, state⟩
    · exact ⟨rfl, (List.append_nil _).symm⟩
    · exact ⟨rfl, Array.toList_push⟩

/-- A flush keeps the far end and sends nothing. -/
theorem line_flush (line : Line σ) :
    line.flush.2.peer = line.peer ∧ line.flush.2.sent = line.sent := by
  unfold Line.flush
  cases line.peer.flush with
  | none => exact ⟨rfl, rfl⟩
  | some step => exact ⟨rfl, rfl⟩

/-- Handing a frame over sends that frame, if the stream takes it. -/
theorem line_transmit (bytes : Bytes) (l : Link σ) :
    ((transmit bytes).run l).2.line.peer = l.line.peer ∧
      ((transmit bytes).run l).2.line.sent.toList =
        l.line.sent.toList ++ if (l.line.write bytes).1.isNone then [bytes] else [] := by
  obtain ⟨hpeer, hsent⟩ := line_write l.line bytes
  obtain ⟨inbox, hrest⟩ := line_rest (l.wrote bytes)
  have hflush := line_flush (l.wrote bytes).rest.line
  rw [hrest] at hflush
  rw [run_transmit]
  simp only
  cases hwrite : (l.line.write bytes).1 with
  | some f =>
    rw [hwrite] at hsent
    simp only
    rw [hrest]
    exact ⟨hpeer, hsent⟩
  | none =>
    rw [hwrite] at hsent
    simp only
    rw [hrest]
    split
    · exact ⟨hflush.1.trans hpeer, (congrArg Array.toList hflush.2).trans hsent⟩
    · exact ⟨hflush.1.trans hpeer, (congrArg Array.toList hflush.2).trans hsent⟩

end Link

/-- Whether a far end may say, in answer to a write or a flush, that the connection is lost. -/
def Peer.Lossy {σ : Type} (peer : Peer σ) : Prop :=
  (∃ bytes s f, (peer.write bytes s).1 = .error f ∧ f.isLost = true) ∨
    ∃ step s f, peer.flush = some step ∧ (step s).1 = some f ∧ f.isLost = true

namespace Link

variable {σ : Type}

/-- A fault of a write is that of a closed stream, or the far end refuses the bytes. -/
theorem fault_of_write {line : Line σ} {bytes : Bytes} {f : Fault} (h : (line.write bytes).1 = some f) :
    f = .closedStream ∨ ∃ s, (line.peer.write bytes s).1 = .error f := by
  unfold Line.write at h
  by_cases hclosed : line.isClosed
  · rw [if_pos hclosed] at h
    exact .inl (Option.some.inj h).symm
  · rw [if_neg hclosed] at h
    rcases hwrite : line.peer.write bytes line.state with ⟨g | arrivals, state⟩
    · rw [hwrite] at h
      obtain rfl := Option.some.inj h
      exact .inr ⟨line.state, congrArg Prod.fst hwrite⟩
    · rw [hwrite] at h
      cases h

/-- A fault of a flush is the far end's. -/
theorem fault_of_flush {line : Line σ} {f : Fault} (h : line.flush.1 = some f) :
    ∃ step s, line.peer.flush = some step ∧ (step s).1 = some f := by
  unfold Line.flush at h
  cases hstep : line.peer.flush with
  | none =>
    rw [hstep] at h
    cases h
  | some step =>
    rw [hstep] at h
    exact ⟨step, line.state, rfl, h⟩

/-- **A fault of handing a frame over** is that of a closed stream, or the far end refuses the frame or a
flush. -/
theorem fault_of_transmit {bytes : Bytes} {l : Link σ} {f : Fault}
    (h : ((transmit bytes).run l).1 = .error f) :
    f = .closedStream ∨ (∃ s, (l.line.peer.write bytes s).1 = .error f) ∨
      ∃ step s, l.line.peer.flush = some step ∧ (step s).1 = some f := by
  obtain ⟨hpeer, -⟩ := line_write l.line bytes
  obtain ⟨inbox, hrest⟩ := line_rest (l.wrote bytes)
  rw [run_transmit] at h
  simp only at h
  cases hwrite : (l.line.write bytes).1 with
  | some g =>
    rw [hwrite] at h
    obtain rfl : g = f := Except.error.inj h
    exact (fault_of_write hwrite).imp_right .inl
  | none =>
    rw [hwrite] at h
    simp only at h
    cases hflush : (l.wrote bytes).rest.line.flush.1 with
    | none =>
      rw [hflush] at h
      cases h
    | some g =>
      rw [hflush] at h
      obtain rfl : g = f := Except.error.inj h
      obtain ⟨step, s, hstep, hfault⟩ := fault_of_flush hflush
      rw [hrest] at hstep
      exact .inr (.inr ⟨step, s, hpeer ▸ hstep, hfault⟩)

/-- When a write ends with the word that the connection is lost, the far end says so. -/
theorem lossy_of_write {line : Line σ} {bytes : Bytes} {f : Fault} (h : (line.write bytes).1 = some f)
    (hlost : f.isLost = true) : line.peer.Lossy := by
  rcases fault_of_write h with rfl | ⟨s, hwrite⟩
  · cases hlost
  · exact .inl ⟨bytes, s, f, hwrite, hlost⟩

/-- When a flush ends with the word that the connection is lost, the far end says so. -/
theorem lossy_of_flush {line : Line σ} {f : Fault} (h : line.flush.1 = some f) (hlost : f.isLost = true) :
    line.peer.Lossy := by
  obtain ⟨step, s, hstep, hflush⟩ := fault_of_flush h
  exact .inr ⟨step, s, f, hstep, hflush, hlost⟩

/-- When handing a frame over ends with the word that the connection is lost, the far end says
so. -/
theorem lossy_of_transmit {bytes : Bytes} {l : Link σ} {f : Fault}
    (h : ((transmit bytes).run l).1 = .error f) (hlost : f.isLost = true) : l.line.peer.Lossy := by
  rcases fault_of_transmit h with rfl | ⟨s, hwrite⟩ | ⟨step, s, hstep, hflush⟩
  · cases hlost
  · exact .inl ⟨bytes, s, f, hwrite, hlost⟩
  · exact .inr ⟨step, s, f, hstep, hflush, hlost⟩

/-- Where a frame is handed over, the connection has not failed and the id is new. -/
theorem handing?_eq_some {r : Request} {l : Link σ} {h : Handing} (hh : l.handing? r = some h) :
    l.exchange.failure = none ∧ l.exchange.nextId.1 = some h.id ∧
      h.ticket = l.exchange.progress.size ∧ h.packet.encode = .ok h.frame ∧
      h.accepted = (l.line.write h.frame).1.isNone := by
  unfold handing? at hh
  split at hh
  · rename_i id hfailure _ hid
    split at hh
    · cases hh
    · rename_i packet _
      split at hh
      · cases hh
      · rename_i frame hencode
        obtain rfl := Option.some.inj hh
        exact ⟨hfailure, hid, rfl, hencode, rfl⟩
  · cases hh

/-- A new request is entered in order. -/
theorem sound_enter {l : Link σ} (hsound : l.exchange.Sound) {id : Int} (hid : l.exchange.nextId.1 = some id) :
    (l.enter id).exchange.Sound := by
  have hcounted : l.exchange.nextId.2.Sound :=
    hsound.of_subset (fun _ he => he) (fun _ => rfl) (Nat.le_refl _)
  have hfree : ∀ e ∈ l.exchange.pending, e.1 ≠ id := Exchange.nextId_free hid
  exact hcounted.register hfree

/-- Only the new request has the id that was allotted to it. -/
theorem ticket_enter {l : Link σ} {id : Int} (hid : l.exchange.nextId.1 = some id) :
    ∀ e ∈ (l.enter id).exchange.pending, e.1 = id → e.2 = l.exchange.progress.size := by
  intro e he heq
  rcases List.mem_append.mp he with hold | hnew
  · exact absurd heq (Exchange.nextId_free (x := l.exchange) hid e hold)
  · rw [List.mem_singleton.mp hnew]
    rfl

/-- A request that is entered and taken back leaves the table as it was. -/
theorem pending_withdraw_enter {l : Link σ} {id : Int} (hid : l.exchange.nextId.1 = some id) :
    ((l.enter id).exchange.withdraw id).pending = l.exchange.pending :=
  Exchange.pending_withdraw_register (x := l.exchange.nextId.2)
    (Exchange.nextId_free (x := l.exchange) hid)

/-- A submission that is refused or not made hands nothing over. -/
theorem handing?_eq_none {r : Request} {l : Link σ}
    (h : l.exchange.failure ≠ none ∨ l.exchange.nextId.1 = none ∨ r.hangsUp = true ∨
      ∃ id f, l.exchange.nextId.1 = some id ∧ Request.frame r id = .error f) :
    l.handing? r = none := by
  unfold handing?
  split
  · rename_i id hfailure hhangsUp hid
    rcases h with h | h | h | ⟨id', f, hid', hframe⟩
    · exact absurd hfailure h
    · rw [h] at hid
      cases hid
    · rw [h] at hhangsUp
      cases hhangsUp
    · rw [hid] at hid'
      obtain rfl := Option.some.inj hid'
      have hparcel := parcel_of_frame_eq_error hframe
      split
      · rfl
      · rename_i packet hbuild
        split
        · rfl
        · rename_i frame hencode
          rw [parcel_eq_ok_iff.mpr ⟨hbuild, hencode⟩] at hparcel
          cases hparcel
  · rfl

/-- A submission that gives out a ticket handed its frame over, and the stream took it. -/
theorem exists_handing_of_ok {r : Request} {l : Link σ} {t : Ticket}
    (h : ((submit r).run l).1 = .ok t) :
    ∃ g, l.handing? r = some g ∧ g.ticket = t ∧
      ((transmit g.frame).run (l.enter g.id)).1 = .ok ⟨⟩ := by
  have hsubmitted := submitted r l
  rw [h] at hsubmitted
  generalize ((submit r).run l).2 = l' at hsubmitted
  cases hsubmitted with
  | sent hhanding hsent => exact ⟨_, hhanding, rfl, hsent⟩

end Link

end Sftp
