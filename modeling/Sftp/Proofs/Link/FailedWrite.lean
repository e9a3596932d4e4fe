import Sftp.Proofs.Link.Rest

/-!
# Writes that fail

When the stream faults while it takes a frame, part of the frame may be on its way. Which faults end
the connection is told by their sort.

* `Link.Breaks` — the write of a frame faults, or the flush after it.
* `Fault.IsFatal` — the faults that end the connection: failures of the system and refused values, but
  not the word of the stream itself that the connection is lost.
* `Link.Terminal` — a connection that has failed and that nobody waits on; `Link.Terminal.history` —
  whatever is done then, it stays so, and no frame goes out.
* `Link.standing_fail_rest` — what becomes of a request when the reader is let to and the connection
  fails after that.
* `Link.Breaks.terminal`, `Link.Breaks.raised`, `Link.Breaks.unharmed` — what a submission leaves whose
  write broke.
* **`Link.failed_write`** — a fatal fault leaves a terminal connection. Any other is raised as it is,
  and the connection goes on.
-/

namespace Sftp

/-- Whether a fault of a write ends the connection. -/
def Fault.IsFatal (f : Fault) : Prop :=
  f.isLost = false ∧ (f.isSystem || f.isInvalid) = true

instance (f : Fault) : Decidable f.IsFatal :=
  inferInstanceAs (Decidable (_ ∧ _))

namespace Exchange

variable (x : Exchange) (id : Int) {f : Fault}

/-- A fatal fault makes the connection fail, and is replaced by the failure. -/
theorem afterFault_of_isFatal (h : f.IsFatal) :
    x.afterFault id f = x.fail ("write failed: " ++ f.message) ∧
      x.faultAfter f = .lost (x.failure.getD ("write failed: " ++ f.message)) := by
  obtain ⟨hlost, hfatal⟩ := h
  unfold afterFault faultAfter
  rw [hlost, hfatal]
  exact ⟨rfl, rfl⟩

/-- Any other fault is raised as it is, and at most takes the request back. -/
theorem afterFault_of_not_isFatal (h : ¬ f.IsFatal) :
    x.afterFault id f = (if f.isLost then x.withdraw id else x) ∧ x.faultAfter f = f := by
  unfold afterFault faultAfter
  cases hlost : f.isLost with
  | true => exact ⟨rfl, rfl⟩
  | false =>
    have hharmless : ¬ (f.isSystem || f.isInvalid) = true := fun hfatal => h ⟨hlost, hfatal⟩
    rw [if_neg hharmless, if_neg hharmless]
    exact ⟨rfl, rfl⟩

end Exchange

namespace Link

variable {σ : Type} {l : Link σ}

/-! ## Where a stream breaks -/

/-- The stream faults while a frame is handed to it. -/
inductive Breaks (l : Link σ) (bytes : Bytes) (f : Fault) : Prop
  /-- In the write, so that part of the frame may have gone out. -/
  | write (h : (l.line.write bytes).1 = some f)
  /-- In the flush, after what came in answer to the write was taken. -/
  | flush (hwrite : (l.line.write bytes).1 = none) (h : (l.wrote bytes).rest.line.flush.1 = some f)

/-- Handing a frame over ends with a fault if the stream breaks. -/
theorem Breaks.run_transmit {bytes : Bytes} {f : Fault} (h : l.Breaks bytes f) :
    ((transmit bytes).run l).1 = .error f := by
  rw [Link.run_transmit]
  cases h with
  | write h =>
    simp only
    rw [h]
  | flush hwrite h =>
    simp only
    rw [hwrite]
    simp only
    rw [h]

/-- A submission whose frame breaks ends with the aftermath of the fault. -/
theorem Breaks.run_submit {r : Request} {h : Handing} {f : Fault} (hhanding : l.handing? r = some h)
    (hbreaks : (l.enter h.id).Breaks h.frame f) :
    ((submit r).run l).1 =
        .error ((((l.enter h.id).wrote h.frame).rest.exchange).faultAfter f) ∧
      ((submit r).run l).2.exchange =
        (((l.enter h.id).wrote h.frame).rest.exchange).afterFault h.id f := by
  have hfault := hbreaks.run_transmit
  have hexchange := exchange_transmit h.frame (l.enter h.id)
  rw [run_submit_of_handing hhanding]
  generalize (transmit h.frame).run (l.enter h.id) = outcome at hfault hexchange ⊢
  obtain ⟨result, t⟩ := outcome
  obtain rfl : result = .error f := hfault
  simp only at hexchange ⊢
  rw [← hexchange]
  exact ⟨rfl, (run_writeFailed h.id f t).2.1⟩

/-! ## What becomes of the requests -/

/-- A connection that has failed, and that nobody waits on. -/
structure Terminal (l : Link σ) (message : Text) : Prop where
  /-- The connection has failed. -/
  failure : l.exchange.failure = some message
  /-- The table is empty. -/
  emptied : l.exchange.pending = []

/-- Whatever is done with a failed connection, it stays failed, no frame goes out, and a submission is
refused and changes nothing. -/
theorem Terminal.history {message : Text} (h : l.Terminal message) (more : List (Op σ)) :
    (l.history more).link.exchange.failure = some message ∧
      (l.history more).link.line.sent = l.line.sent ∧
      ∀ r, (submit r).run (l.history more).link = (.error (.lost message), (l.history more).link) := by
  obtain ⟨hfailed, hsent⟩ := History.failure_run (h := ⟨l, [], []⟩) h.failure more
  exact ⟨hfailed, hsent, run_submit_of_failed hfailed⟩

/-- When the reader is let to, and the connection fails after that, a request that waited was answered
by the first packet with its id or is lost. -/
theorem standing_fail_rest (hsound : l.exchange.Sound) (hhealthy : l.exchange.failure = none)
    {id : Int} {t : Ticket} (hmem : (id, t) ∈ l.exchange.pending)
    (hwaiting : l.exchange.standing t = .waiting) (message : Text) :
    (l.rest.exchange.fail message).standing t =
      match l.restPackets.find? fun p => p.id? = some id with
      | some p => .answered p
      | none => .lost (l.rest.exchange.failure.getD message) := by
  rcases exchange_rest l with hrest | ⟨stopped, hrest⟩
  · -- the failure is that of the write
    have hsettles := hsound.settles_stop hhealthy l.restPackets message
    have hfailure : l.rest.exchange.failure = none := by
      rw [hrest, Exchange.failure_takeAll, hhealthy]
    rw [hfailure, hrest]
    show ((l.exchange.takeAll l.restPackets).stop message).standing t = _
    cases hfind : l.restPackets.find? fun p => p.id? = some id with
    | some p => exact hsettles.answered id t p hmem hwaiting hfind
    | none => exact hsettles.unanswered id t hmem hwaiting hfind
  · -- the reader has stopped before
    have hsettles := hsound.settles_stop hhealthy l.restPackets stopped
    have hfailure : l.rest.exchange.failure = some stopped := by
      rw [hrest, hsettles.failure]
    rw [hfailure, hrest]
    show ((l.exchange.takeAll l.restPackets).stop stopped).standing t = _
    cases hfind : l.restPackets.find? fun p => p.id? = some id with
    | some p => exact hsettles.answered id t p hmem hwaiting hfind
    | none => exact hsettles.unanswered id t hmem hwaiting hfind

/-- A link at rest has nothing that its reader could take. -/
theorem AtRest.exchange_rest (h : l.AtRest) : l.rest.exchange = l.exchange := by
  unfold rest
  by_cases hrunning : l.exchange.reader = .running
  · rw [if_pos hrunning]
    obtain ⟨hunended, hshort⟩ := h.waits hrunning
    have htidy : l.line.inbox.Tidy := h.tidy (by rw [hrunning]; exact nofun)
    exact (takeFrames_of_short htidy hunended rfl (Frames.of_short hshort) hshort).1
  · rw [if_neg hrunning]

/-- A write that faults brings nothing. -/
theorem inbox_write_of_fault {line : Line σ} {bytes : Bytes} {f : Fault}
    (h : (line.write bytes).1 = some f) : (line.write bytes).2.inbox = line.inbox := by
  unfold Line.write at h ⊢
  by_cases hclosed : line.isClosed
  · rw [if_pos hclosed]
  · rw [if_neg hclosed] at h ⊢
    rcases hpeer : line.peer.write bytes line.state with ⟨g | arrivals, state⟩
    · rfl
    · rw [hpeer] at h
      cases h

/-- After a write that faults, a link that was at rest has the requests that it had. -/
theorem AtRest.exchange_rest_wrote (h : l.AtRest) {bytes : Bytes} {f : Fault}
    (hwrite : (l.line.write bytes).1 = some f) : (l.wrote bytes).rest.exchange = l.exchange := by
  have hrest : (l.wrote bytes).AtRest := h.of_same (inbox_write_of_fault hwrite) rfl rfl
  exact hrest.exchange_rest

section breaks

variable {r : Request} {h : Handing} {f : Fault} (hhanding : l.handing? r = some h)
  (hbreaks : (l.enter h.id).Breaks h.frame f)

include hhanding hbreaks

/-- A fatal fault is raised as the failure of the connection, and a request that waited is lost unless
its reply came before the flush. -/
theorem Breaks.terminal (hsound : l.exchange.Sound) (hfatal : f.IsFatal) :
    ∃ message, ((submit r).run l).1 = .error (.lost message) ∧
      ((submit r).run l).2.Terminal message ∧
      ∀ e ∈ l.exchange.pending, l.exchange.standing e.2 = .waiting →
        ((submit r).run l).2.exchange.standing e.2 = .lost message ∨
          ∃ p, p ∈ ((l.enter h.id).wrote h.frame).restPackets ∧ p.id? = some e.1 ∧
            ((submit r).run l).2.exchange.standing e.2 = .answered p := by
  obtain ⟨hhealthy, hid, -, -, -⟩ := handing?_eq_some hhanding
  obtain ⟨hresult, hafter⟩ := Breaks.run_submit hhanding hbreaks
  generalize (submit r).run l = outcome at hresult hafter ⊢
  obtain ⟨hfail, hraised⟩ :=
    ((l.enter h.id).wrote h.frame).rest.exchange.afterFault_of_isFatal h.id hfatal
  rw [hfail] at hafter
  rw [hraised] at hresult
  refine ⟨_, hresult, ?_, ?_⟩
  · constructor
    · rw [hafter, Exchange.failure_fail]
    · rw [hafter, Exchange.pending_fail]
  · rintro ⟨id, t⟩ he hwaiting
    have hentered : ((l.enter h.id).wrote h.frame).exchange.Sound := sound_enter hsound hid
    have hmem : (id, t) ∈ ((l.enter h.id).wrote h.frame).exchange.pending :=
      List.mem_append_left _ he
    have hstill : ((l.enter h.id).wrote h.frame).exchange.standing t = .waiting :=
      (Exchange.standing_register _ _ _).trans hwaiting
    have hstanding := standing_fail_rest hentered hhealthy hmem hstill
      ("write failed: " ++ f.message)
    rw [← hafter] at hstanding
    cases hfind : ((l.enter h.id).wrote h.frame).restPackets.find? fun p => p.id? = some id with
    | none =>
      rw [hfind] at hstanding
      exact .inl hstanding
    | some p =>
      rw [hfind] at hstanding
      refine .inr ⟨p, List.mem_of_find?_eq_some hfind, ?_, hstanding⟩
      exact of_decide_eq_true (List.find?_some (p := fun p : Packet => p.id? = some id) hfind)

/-- Any other fault is raised as it is, and the connection has failed only if its reader stopped. -/
theorem Breaks.raised (hharmless : ¬ f.IsFatal) :
    ((submit r).run l).1 = .error f ∧ ((submit r).run l).2.exchange.failure =
      ((l.enter h.id).wrote h.frame).rest.exchange.failure := by
  obtain ⟨hresult, hafter⟩ := Breaks.run_submit hhanding hbreaks
  obtain ⟨hleft, hraised⟩ :=
    ((l.enter h.id).wrote h.frame).rest.exchange.afterFault_of_not_isFatal h.id hharmless
  rw [hraised] at hresult
  rw [hafter, hleft]
  refine ⟨hresult, ?_⟩
  cases f.isLost with
  | true => rfl
  | false => rfl

/-- If the write itself raised it, every request stands as it did. -/
theorem Breaks.unharmed (hrest : l.AtRest) (hharmless : ¬ f.IsFatal)
    (hwrite : (l.line.write h.frame).1 = some f) :
    ((submit r).run l).2.exchange.failure = none ∧
      (∀ t, ((submit r).run l).2.exchange.standing t = l.exchange.standing t) ∧
      ((submit r).run l).2.exchange.pending =
        if f.isLost then l.exchange.pending else l.exchange.pending ++ [(h.id, h.ticket)] := by
  obtain ⟨hhealthy, hid, hticket, -, -⟩ := handing?_eq_some hhanding
  obtain ⟨-, hafter⟩ := Breaks.run_submit hhanding hbreaks
  have hentered : (l.enter h.id).AtRest := hrest.of_same rfl rfl rfl
  have hsame : ((l.enter h.id).wrote h.frame).rest.exchange =
      (l.exchange.nextId.2.register h.id).2 := hentered.exchange_rest_wrote hwrite
  obtain ⟨hleft, -⟩ :=
    ((l.enter h.id).wrote h.frame).rest.exchange.afterFault_of_not_isFatal h.id hharmless
  rw [hafter, hleft, hsame]
  have hstanding : ∀ t, (l.exchange.nextId.2.register h.id).2.standing t =
      l.exchange.standing t := Exchange.standing_register _ _
  have hfree : ∀ e ∈ l.exchange.pending, e.1 ≠ h.id := Exchange.nextId_free hid
  cases f.isLost with
  | true => exact ⟨hhealthy, hstanding, Exchange.pending_withdraw_register hfree⟩
  | false =>
    rw [hticket]
    exact ⟨hhealthy, hstanding, rfl⟩

end breaks

/-- **What follows a write that fails.** Take any operations on a fresh link, and then a submission
during which the stream breaks, in the write or in the flush.

* If the fault is fatal, the submission raises the failure of the connection, the table is empty, and a
  request that waited is lost with the same failure, unless its reply came before the flush. Whatever
  is done later, the failure stays, no frame goes out, and every submission is refused.
* Any other fault is raised as it is. The connection has failed only if its reader has stopped.
* If the fault is not fatal and the write raised it, the connection is healthy and every request waits
  on; the new one stays in the table, unless the stream said that the connection is lost. -/
theorem failed_write (hl : l.Fresh) (htidy : l.line.inbox.Tidy) (ops : List (Op σ)) {r : Request}
    {h : Handing} {f : Fault} {before after : Link σ} {result : Except Fault Ticket}
    (hbefore : (l.history ops).link = before) (hrun : (submit r).run before = (result, after))
    (hhanding : before.handing? r = some h) (hbreaks : (before.enter h.id).Breaks h.frame f) :
    (f.IsFatal → ∃ message,
      result = .error (.lost message) ∧ after.Terminal message ∧
      (∀ e ∈ before.exchange.pending, before.exchange.standing e.2 = .waiting →
        after.exchange.standing e.2 = .lost message ∨
          ∃ p, p ∈ ((before.enter h.id).wrote h.frame).restPackets ∧ p.id? = some e.1 ∧
            after.exchange.standing e.2 = .answered p) ∧
      ∀ more : List (Op σ), (after.history more).link.exchange.failure = some message ∧
        (after.history more).link.line.sent = after.line.sent ∧
        ∀ r', (submit r').run (after.history more).link =
          (.error (.lost message), (after.history more).link)) ∧
    (¬ f.IsFatal → result = .error f ∧
      after.exchange.failure = ((before.enter h.id).wrote h.frame).rest.exchange.failure) ∧
    (¬ f.IsFatal → (before.line.write h.frame).1 = some f →
      after.exchange.failure = none ∧
      (∀ t, after.exchange.standing t = before.exchange.standing t) ∧
      after.exchange.pending = if f.isLost then before.exchange.pending
        else before.exchange.pending ++ [(h.id, h.ticket)]) := by
  have hsound : before.exchange.Sound := by
    rw [← hbefore]
    exact (History.kept_history hl ops).accounted.sound
  have hrest : before.AtRest := by
    rw [← hbefore]
    exact atRest_history hl htidy ops
  refine ⟨fun hfatal => ?_, fun hharmless => ?_, fun hharmless hwrite => ?_⟩
  · have hterminal := hbreaks.terminal hhanding hsound hfatal
    rw [hrun] at hterminal
    obtain ⟨message, hresult, hdead, hstanding⟩ := hterminal
    exact ⟨message, hresult, hdead, hstanding, hdead.history⟩
  · have hraised := hbreaks.raised hhanding hharmless
    rw [hrun] at hraised
    exact hraised
  · have hunharmed := hbreaks.unharmed hhanding hrest hharmless hwrite
    rw [hrun] at hunharmed
    exact hunharmed

/-- A fresh link whose stream takes one frame and faults at the next. -/
def fragileLink (f : Fault) : Link Bool where
  line := {
    peer := {
      write := fun _ isBroken => if isBroken then (.error f, true) else (.ok [], true)
      close := fun s => (none, s) }
    state := false }
  exchange := { limit := 64 }

/-- The link is fresh. -/
theorem fresh_fragileLink (f : Fault) : (fragileLink f).Fresh :=
  ⟨rfl, rfl, rfl, rfl⟩

/-- The reader is started, and the frame is sent that the stream takes. -/
def firstRequest : List (Op Bool) :=
  [.start, .submit (.ofMessage (.close [1]))]

/-- The link before the request at which its stream faults. -/
def halfway (f : Fault) : Link Bool :=
  ((fragileLink f).history firstRequest).link

/-- The frame that the stream does not take. -/
def refusedHanding : Handing where
  id := 1
  ticket := 1
  packet := .message 1 (.close [2])
  frame := [0, 0, 0, 10, 4, 0, 0, 0, 1, 0, 0, 0, 1, 2]
  accepted := false

/-- The request at which the stream faults. -/
def secondRequest (f : Fault) : Except Fault Ticket × Link Bool :=
  (submit (.ofMessage (.close [2]))).run (halfway f)

/-- A failure of the system ends the connection, and the first request is lost. -/
theorem failed_write_fragileLink :
    (fragileLink (.foreign .system "reset")).Fresh ∧
      (halfway (.foreign .system "reset")).handing? (.ofMessage (.close [2])) =
        some refusedHanding ∧
      Fault.IsFatal (.foreign .system "reset") ∧
      ∃ after message, secondRequest (.foreign .system "reset") = (.error (.lost message), after) ∧
        after.Terminal message ∧ after.exchange.standing 0 = .lost message := by
  have hhanding : (halfway (.foreign .system "reset")).handing? (.ofMessage (.close [2])) =
      some refusedHanding := by decide +kernel
  have hfatal : Fault.IsFatal (.foreign .system "reset") := by decide
  have hwrite : (((halfway (.foreign .system "reset")).enter refusedHanding.id).line.write
      refusedHanding.frame).1 = some (.foreign .system "reset") := by decide +kernel
  have htidy : (fragileLink (.foreign .system "reset")).line.inbox.Tidy :=
    fun _ hc => absurd hc List.not_mem_nil
  have hbefore : ((fragileLink (.foreign .system "reset")).history firstRequest).link =
      halfway (.foreign .system "reset") := rfl
  rcases hrun : secondRequest (.foreign .system "reset") with ⟨result, after⟩
  obtain ⟨hterminal, -, -⟩ :=
    failed_write (fresh_fragileLink _) htidy firstRequest hbefore hrun hhanding (.write hwrite)
  obtain ⟨message, rfl, hdead, hlost, -⟩ := hterminal hfatal
  refine ⟨fresh_fragileLink _, hhanding, hfatal, after, message, rfl, hdead, ?_⟩
  rcases hlost (0, 0) (by decide +kernel) (by decide +kernel) with hstanding | ⟨p, hp, -, -⟩
  · exact hstanding
  · -- nothing has arrived
    have hnone : (((halfway (.foreign .system "reset")).enter refusedHanding.id).wrote
        refusedHanding.frame).restPackets = [] := by decide +kernel
    rw [hnone] at hp
    cases hp

/-- A fault of another sort is raised, but the connection has not failed, both requests stay in the
table, and nobody is told. -/
theorem runtime_fault_is_not_final :
    (halfway (.foreign .runtime "boom")).exchange.failure = none ∧
      (halfway (.foreign .runtime "boom")).exchange.pending = [(0, 0)] ∧
      ((halfway (.foreign .runtime "boom")).enter 1).Breaks refusedHanding.frame
        (.foreign .runtime "boom") ∧
      (secondRequest (.foreign .runtime "boom")).1 = .error (.foreign .runtime "boom") ∧
      (secondRequest (.foreign .runtime "boom")).2.exchange.failure = none ∧
      (secondRequest (.foreign .runtime "boom")).2.exchange.pending = [(0, 0), (1, 1)] ∧
      (secondRequest (.foreign .runtime "boom")).2.exchange.standing 0 = .waiting := by
  have hbreaks : ((halfway (.foreign .runtime "boom")).enter 1).Breaks refusedHanding.frame
      (.foreign .runtime "boom") := .write (by decide +kernel)
  have hresult := Breaks.run_submit (r := .ofMessage (.close [2])) (h := refusedHanding)
    (by decide +kernel) hbreaks
  refine ⟨by decide +kernel, by decide +kernel, hbreaks, hresult.1, ?_, ?_, ?_⟩
  · decide +kernel
  · decide +kernel
  · decide +kernel

end Link

end Sftp
