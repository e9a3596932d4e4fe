import Sftp.Proofs.OpenHandle.Requests

/-!
# Handles are released once

An open object is closed and its methods are called in any order, and between the calls anything may happen
to the client: others use it, the far end answers or does not, the connection fails. The object asks at
most once for its handle to be released, and after it was closed for the first time nothing reaches the
server, whatever became of the request to release.

* `Held.Call`, `Held.Record`, `Held.history` — calls, what happened in a call, and a run of calls. A block
  that closes the object at its end is part of such a run: the calls in the block, as far as it gets, and
  then a call that closes.
* `Held.ReleasedOnce` — what is said of a run.
* `Held.Guarded` — methods that leave the handle alone and ask first whether it was released.
* `Held.Follows` — what one call does; the flag of the object pays for a request to release.
* **`Held.Guarded.releasedOnce`** — an object with such methods releases its handle once.
-/

namespace Sftp

namespace Held

variable {ρ σ μ α β : Type}

/-! ## Calls -/

/-- A call on an open object. -/
inductive Call (μ : Type)
  /-- The object is closed. -/
  | close
  /-- One of its methods is called. -/
  | method (m : μ)
  deriving DecidableEq

/-- What happened in a call. -/
structure Record (ρ σ μ : Type) where
  /-- The call. -/
  call : Call μ
  /-- Object and client before it. -/
  before : Held ρ σ
  /-- Whether it ended with a fault. -/
  outcome : Except Fault Unit
  /-- Object and client after it. -/
  after : Held ρ σ

/-- The frames that went out in a call. -/
def Record.frames (r : Record ρ σ μ) : List Bytes :=
  r.after.client.sent.drop r.before.client.sent.length

/-- A call that is refused: it ends with the fault of using a handle after its release, which is that of a
wrong value. -/
structure Record.Refused (base : OpenHandle) (r : Record ρ σ μ) : Prop where
  /-- It ends with the fault. -/
  outcome : r.outcome = .error (.closedHandle base.kind base.path)
  /-- The fault is that of a wrong value. -/
  isInvalid : ∀ f, r.outcome = .error f → f.isInvalid = true

/-- A call that does nothing. Calls of methods are refused, except for those that would not need the
handle even if it were there. -/
structure Record.Silent (needless : μ → Bool) (base : OpenHandle) (r : Record ρ σ μ) : Prop where
  /-- Nothing goes out. -/
  frames : r.frames = []
  /-- Object and client stay as they are. -/
  unchanged : r.after = r.before
  /-- Methods are refused. -/
  refused : ∀ m, r.call = .method m → needless m = false → r.Refused base

/-- **The handle is released at most once and not used afterwards.** -/
structure ReleasedOnce (needless : μ → Bool) (base : OpenHandle) (records : List (Record ρ σ μ)) :
    Prop where
  /-- What has gone out before a call and in it is what has gone out after it. -/
  sent : ∀ r ∈ records, r.after.client.sent = r.before.client.sent ++ r.frames
  /-- At most one of the frames asks to release a handle. -/
  once : (records.flatMap Record.frames).countP Bytes.isRelease ≤ 1
  /-- It asks to release the handle of the object. -/
  own : ∀ frame ∈ records.flatMap Record.frames, frame.isRelease = true →
    ∃ id, (Packet.message id (.close base.handle)).encode = .ok frame
  /-- Even together with the requests that do not get as far as the stream, or that it does not take, there
  is at most one to release a handle. -/
  asked : ∃ asked : List (List Message),
    List.Forall₂ (fun r ms => r.after.client = r.before.client.asked ms) records asked ∧
      asked.flatten.countP Message.isRelease ≤ 1
  /-- All that comes after a call that closes does nothing, whatever became of that call. -/
  afterwards : records.Pairwise fun r later => r.call = .close → later.Silent needless base

/-! ## What goes out -/

/-- What goes out in a call are frames of its requests. -/
theorem Record.carried {r : Record ρ σ μ} {ms : List Message}
    (hasked : r.after.client = r.before.client.asked ms) :
    Carried ms r.frames ∧ r.after.client.sent = r.before.client.sent ++ r.frames := by
  obtain ⟨frames, hcarried, hsent⟩ := r.before.client.sent_asked ms
  have hframes : r.frames = frames := by rw [Record.frames, hasked, hsent, List.drop_left]
  rw [hframes, hasked]
  exact ⟨hcarried, hsent⟩

/-- What goes out in calls are frames of their requests. -/
theorem carried_frames {records : List (Record ρ σ μ)} {asked : List (List Message)}
    (hasked : List.Forall₂ (fun r ms => r.after.client = r.before.client.asked ms) records asked) :
    Carried asked.flatten (records.flatMap Record.frames) ∧
      ∀ r ∈ records, r.after.client.sent = r.before.client.sent ++ r.frames := by
  induction hasked with
  | nil => exact ⟨.none, List.forall_mem_nil _⟩
  | cons hfirst _ ih =>
    obtain ⟨hcarried, hsent⟩ := Record.carried hfirst
    rw [List.flatten_cons, List.flatMap_cons, List.forall_mem_cons]
    exact ⟨hcarried.append ih.1, hsent, ih.2⟩

/-! ## Making calls -/

variable [OwnsHandle ρ]

/-- The step of a call. -/
def Call.step (perform : μ → Step (Held ρ σ) Unit) : Call μ → Step (Held ρ σ) Unit
  | close => Held.close
  | method m => perform m

/-- A call, recorded. -/
def record (perform : μ → Step (Held ρ σ) Unit) (h : Held ρ σ) (call : Call μ) : Record ρ σ μ where
  call
  before := h
  outcome := ((call.step perform).run h).1
  after := ((call.step perform).run h).2

/-- Calls on an object, each with the client that it finds. -/
def history (perform : μ → Step (Held ρ σ) Unit) (object : ρ) :
    List (Client σ × Call μ) → List (Record ρ σ μ)
  | [] => []
  | (client, call) :: calls =>
    let r := record perform { object, client } call
    r :: history perform r.after.object calls

/-! ## Steps that need the handle -/

/-- The fault of using the handle after its release. -/
def releasedFault (o : ρ) : Fault :=
  .closedHandle (OwnsHandle.base o).kind (OwnsHandle.base o).path

/-- After its release, asking whether the handle was released faults. -/
theorem run_ensureOpen_of_closed {h : Held ρ σ}
    (hclosed : (OwnsHandle.base h.object).closed = true) :
    ensureOpen.run h = (.error (releasedFault h.object), h) := by
  unfold ensureOpen
  rw [Step.run_bind, run_current]
  simp only
  rw [hclosed]
  rfl

/-- A step that is refused after the release of the handle. -/
def Refuses (a : Step (Held ρ σ) α) : Prop :=
  ∀ h : Held ρ σ, (OwnsHandle.base h.object).closed = true →
    a.run h = (.error (releasedFault h.object), h)

/-- Asking for the handle. -/
theorem refuses_ensureOpen : Refuses (ensureOpen : Step (Held ρ σ) Unit) :=
  fun _ => run_ensureOpen_of_closed

/-- A step after one that is refused. -/
theorem Refuses.bind {a : Step (Held ρ σ) α} (ha : Refuses a) (k : α → Step (Held ρ σ) β) :
    Refuses (a >>= k) := by
  intro h hclosed
  rw [Step.run_bind, ha h hclosed]

/-- A step that is refused, of whose result something would be made. -/
theorem Refuses.map {a : Step (Held ρ σ) α} (ha : Refuses a) (f : α → β) : Refuses (f <$> a) := by
  intro h hclosed
  rw [Step.run_map, ha h hclosed]
  rfl

/-- Methods that go by the flag of the object. -/
structure Guarded (perform : μ → Step (Held ρ σ) Unit) (needless : μ → Bool) : Prop where
  /-- They leave the handle to be released by closing. -/
  spares : ∀ m, Spares (perform m)
  /-- They ask first whether it was. -/
  refuses : ∀ m, needless m = false → Refuses (perform m)
  /-- If they do not ask, they do nothing. -/
  idle : ∀ m, needless m = true → ∀ h : Held ρ σ, ((perform m).run h).2 = h

/-! ## After the release -/

/-- Closing an object that was closed does nothing. -/
theorem run_close_of_closed {h : Held ρ σ} (hclosed : (OwnsHandle.base h.object).closed = true) :
    close.run h = (.ok (), h) := by
  unfold close
  rw [Step.run_bind, run_current]
  simp only
  rw [hclosed]
  rfl

section released

variable {perform : μ → Step (Held ρ σ) Unit} {needless : μ → Bool}
  (hguarded : Guarded perform needless)

include hguarded

/-- After the release of the handle, a call does nothing. -/
theorem Guarded.silent {base : OpenHandle} {h : Held ρ σ}
    (hclosed : OwnsHandle.base h.object = { base with closed := true }) (call : Call μ) :
    (record perform h call).Silent needless base := by
  have hflag : (OwnsHandle.base h.object).closed = true := by rw [hclosed]
  have hunchanged : (record perform h call).after = h := by
    cases call with
    | close => exact congrArg Prod.snd (run_close_of_closed hflag)
    | method m =>
      cases hneedless : needless m with
      | true => exact hguarded.idle m hneedless h
      | false => exact congrArg Prod.snd (hguarded.refuses m hneedless h hflag)
  refine ⟨?_, hunchanged, ?_⟩
  · rw [Record.frames, hunchanged]
    exact List.drop_length
  · intro m hcall hneedless
    obtain rfl : call = .method m := hcall
    have houtcome : (record perform h (.method m)).outcome =
        .error (.closedHandle base.kind base.path) := by
      have hrefused := congrArg Prod.fst (hguarded.refuses m hneedless h hflag)
      rw [releasedFault, hclosed] at hrefused
      exact hrefused
    refine ⟨houtcome, ?_⟩
    intro f hf
    rw [← Except.error.inj (houtcome.symm.trans hf)]
    rfl

/-- After the release of the handle, calls do nothing. -/
theorem Guarded.silent_history {base : OpenHandle} {object : ρ}
    (hclosed : OwnsHandle.base object = { base with closed := true })
    (calls : List (Client σ × Call μ)) :
    ∀ r ∈ history perform object calls, r.Silent needless base := by
  induction calls with
  | nil => exact List.forall_mem_nil _
  | cons first calls ih =>
    obtain ⟨client, call⟩ := first
    have hsilent := hguarded.silent (h := { object, client }) hclosed call
    rw [history, List.forall_mem_cons]
    refine ⟨hsilent, ?_⟩
    rw [hsilent.unchanged]
    exact ih

end released

/-! ## One call -/

/-- What a call does: it makes requests, and one to release the handle only as it sets the flag of the
object. -/
structure Follows (h h' : Held ρ σ) : Prop where
  /-- The flag is all that may change about the handle. -/
  base : OwnsHandle.base h'.object =
    { OwnsHandle.base h.object with closed := (OwnsHandle.base h'.object).closed }
  /-- The client made requests, and the flag pays for those that release. -/
  asked : ∃ ms, h'.client = h.client.asked ms ∧
    (∀ m ∈ ms, m.isRelease = true → m = .close (OwnsHandle.base h.object).handle) ∧
    ms.countP Message.isRelease + (OwnsHandle.base h.object).closed.toNat ≤
      (OwnsHandle.base h'.object).closed.toNat

/-- A step that spares the handle. -/
theorem Spared.follows {h h' : Held ρ σ} (hspared : h.Spared h') : h.Follows h' := by
  obtain ⟨hbase, ms, hnone, hclient⟩ := hspared
  refine ⟨?_, ms, hclient, ?_, ?_⟩
  · rw [hbase]
  · intro m hm hrelease
    exact absurd hrelease (List.countP_eq_zero.mp hnone m hm)
  · rw [hnone, hbase]
    exact Nat.le_of_eq (Nat.zero_add _)

/-- Closing an open object sets its flag and asks to release the handle, whatever comes of it. -/
theorem run_close_of_open {h : Held ρ σ} (hopen : (OwnsHandle.base h.object).closed = false) :
    close.run h = (((Client.closeHandle (OwnsHandle.base h.object).handle).run h.client).1, {
      object := OwnsHandle.withBase h.object { OwnsHandle.base h.object with closed := true }
      client := ((Client.closeHandle (OwnsHandle.base h.object).handle).run h.client).2 }) := by
  unfold close
  rw [Step.run_bind, run_current]
  simp only
  rw [hopen]
  simp only [Bool.not_false, if_true]
  rw [Step.run_bind, run_update]
  simp only
  rw [run_onClient]

/-- What that leaves. -/
theorem state_close_of_open {h : Held ρ σ} (hopen : (OwnsHandle.base h.object).closed = false) :
    (close.run h).2 = {
      object := OwnsHandle.withBase h.object { OwnsHandle.base h.object with closed := true }
      client := h.client.asked [.close (OwnsHandle.base h.object).handle] } := by
  rw [run_close_of_open hopen, Client.closeHandle, Client.state_ask]

/-- An object whose handle can be set. -/
class LawfulOwnsHandle (ρ : Type) [OwnsHandle ρ] : Prop where
  /-- The handle is the one that was set. -/
  base_withBase : ∀ (o : ρ) (base : OpenHandle), OwnsHandle.base (OwnsHandle.withBase o base) = base

variable [LawfulOwnsHandle ρ]

/-- After it was closed, an object is closed. -/
theorem closed_close (h : Held ρ σ) : (OwnsHandle.base (close.run h).2.object).closed = true := by
  cases hclosed : (OwnsHandle.base h.object).closed with
  | true =>
    rw [run_close_of_closed hclosed]
    exact hclosed
  | false => rw [state_close_of_open hclosed, LawfulOwnsHandle.base_withBase]

/-- What closing does. -/
theorem follows_close (h : Held ρ σ) : h.Follows (close.run h).2 := by
  cases hclosed : (OwnsHandle.base h.object).closed with
  | true =>
    rw [run_close_of_closed hclosed]
    exact (Spared.refl h).follows
  | false =>
    rw [state_close_of_open hclosed]
    refine ⟨?_, [.close (OwnsHandle.base h.object).handle], rfl, ?_, ?_⟩
    · rw [LawfulOwnsHandle.base_withBase]
    · intro m hm _
      exact List.mem_singleton.mp hm
    · rw [LawfulOwnsHandle.base_withBase, hclosed]
      exact Nat.le_refl 1

section guarded

variable {perform : μ → Step (Held ρ σ) Unit} {needless : μ → Bool}
  (hguarded : Guarded perform needless)

include hguarded

/-- What a call does. -/
theorem Guarded.follows (h : Held ρ σ) (call : Call μ) :
    h.Follows (record perform h call).after := by
  cases call with
  | close => exact follows_close h
  | method m => exact (hguarded.spares m h).follows

/-! ## All calls -/

/-- After a call that closes, calls do nothing. -/
theorem Guarded.afterwards {base : OpenHandle} {object : ρ} {closed : Bool}
    (hbase : OwnsHandle.base object = { base with closed }) (calls : List (Client σ × Call μ)) :
    (history perform object calls).Pairwise fun r later =>
      r.call = .close → later.Silent needless base := by
  induction calls generalizing object closed with
  | nil => exact .nil
  | cons first calls ih =>
    obtain ⟨client, call⟩ := first
    have hnext := (hguarded.follows { object, client } call).base
    rw [hbase] at hnext
    rw [history, List.pairwise_cons]
    refine ⟨?_, ih hnext⟩
    intro later hlater hcall
    obtain rfl : call = .close := hcall
    apply hguarded.silent_history _ calls later hlater
    rw [hnext]
    exact congrArg _ (closed_close { object, client })

/-- The requests of all calls together: the flag of the object pays for the one that releases. -/
theorem Guarded.asked {base : OpenHandle} {object : ρ} {closed : Bool}
    (hbase : OwnsHandle.base object = { base with closed }) (calls : List (Client σ × Call μ)) :
    ∃ asked : List (List Message),
      List.Forall₂ (fun r ms => r.after.client = r.before.client.asked ms)
        (history perform object calls) asked ∧
      (∀ m ∈ asked.flatten, m.isRelease = true → m = .close base.handle) ∧
      asked.flatten.countP Message.isRelease + closed.toNat ≤ 1 := by
  induction calls generalizing object closed with
  | nil => exact ⟨[], .nil, List.forall_mem_nil _, by
      rw [List.flatten_nil, List.countP_nil, Nat.zero_add]
      exact Bool.toNat_le closed⟩
  | cons first calls ih =>
    obtain ⟨client, call⟩ := first
    obtain ⟨hnext, ms, hclient, hown, hpaid⟩ := hguarded.follows { object, client } call
    rw [hbase] at hnext hown hpaid
    obtain ⟨asked, hasked, howns, honce⟩ := ih hnext
    refine ⟨ms :: asked, .cons hclient hasked, ?_, ?_⟩
    · rw [List.flatten_cons, List.forall_mem_append]
      exact ⟨hown, howns⟩
    · rw [List.flatten_cons, List.countP_append]
      have : closed.toNat = ({ base with closed } : OpenHandle).closed.toNat := rfl
      omega

end guarded

/-- **An object whose methods go by its flag releases its handle once.** -/
theorem Guarded.releasedOnce {perform : μ → Step (Held ρ σ) Unit} {needless : μ → Bool}
    (hguarded : Guarded perform needless) (object : ρ) (calls : List (Client σ × Call μ)) :
    ReleasedOnce needless (OwnsHandle.base object) (history perform object calls) := by
  have hbase : OwnsHandle.base object =
      { OwnsHandle.base object with closed := (OwnsHandle.base object).closed } := rfl
  obtain ⟨asked, hasked, hown, hpaid⟩ := hguarded.asked hbase calls
  have honce : asked.flatten.countP Message.isRelease ≤ 1 := Nat.le_of_add_right_le hpaid
  obtain ⟨hcarried, hsent⟩ := carried_frames hasked
  refine ⟨hsent, Nat.le_trans hcarried.countP_isRelease honce, ?_, ⟨asked, hasked, honce⟩,
    hguarded.afterwards hbase calls⟩
  intro frame hframe hrelease
  obtain ⟨m, hm, id, hencode⟩ := hcarried.exists_of_mem hframe
  rw [Packet.isRelease_of_encode hencode] at hrelease
  rw [hown m hm hrelease] at hencode
  exact ⟨id, hencode⟩

end Held

end Sftp
