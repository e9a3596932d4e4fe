import Sftp.Proofs.Client.Asking
import Sftp.Proofs.OpenFile.Reading
import Sftp.Proofs.OpenFile.Writing

/-!
# The requests of a transfer

Whatever the server is, to read or to write an open file is to make requests about it, one after another. A
transfer stops at the first of them that fails, with the fault of that request.

* `Message.IsTransfer` — the requests that move bytes of an open file; `Dealing.Transferring` — how a step
  ends that makes only such requests.
* `OpenFile.Fetched`, **`OpenFile.fetched_fetches`** — the requests of one read, one after another;
  `OpenFile.asks_read`.
* `OpenFile.Sliced`, **`OpenFile.sliced_writeLoop`** — the requests of one write, one for each slice of its
  data; `OpenFile.dealt_writeLoop`, `OpenFile.asks_write`.
-/

namespace Sftp

open Dealing

/-! ## Requests that move bytes -/

/-- A request that moves bytes of an open file. -/
inductive Message.IsTransfer (handle : Bytes) : Message → Prop
  /-- Bytes are read. -/
  | read (offset length : Int) : IsTransfer handle (.read handle offset length)
  /-- Bytes are written. -/
  | write (offset : Int) (data : Bytes) : IsTransfer handle (.write handle offset data)

namespace Dealing

variable {α : Type} {handle : Bytes} {own own' : Nat → Fault → Prop} {r : Except Fault α}
  {ds others : List Dealing}

/-- How a step ends that only moves bytes of an open file. -/
structure Transferring (handle : Bytes) (own : Nat → Fault → Prop) (r : Except Fault α)
    (ds : List Dealing) : Prop where
  /-- All that is done is to read and to write. -/
  requests : ∀ d ∈ ds, d.request.IsTransfer handle
  /-- It stops at the first request that fails. -/
  ends : Straight Fault.Repeats own r ds

namespace Transferring

/-- The faults of this side may be told in other words. -/
theorem imp (h : Transferring handle own r ds) (hown : ∀ f, own (totalWork ds) f → own' (totalWork ds) f) :
    Transferring handle own' r ds :=
  ⟨h.requests, h.ends.imp (fun _ _ => id) hown⟩

/-- One step after another. -/
theorem after {x : α} {β : Type} {r' : Except Fault β} {first : Nat → Fault → Prop}
    (h : Transferring handle first (.ok x) ds) (h' : Transferring handle own' r' others)
    (hown : ∀ f, own' (totalWork others) f → own (totalWork ds + totalWork others) f) :
    Transferring handle own r' (ds ++ others) :=
  ⟨List.forall_mem_append.mpr ⟨h.requests, h'.requests⟩, .after h.ends.clear h'.ends hown⟩

/-- A fault is a fault of whatever type of result. -/
theorem of_error {β : Type} {f : Fault} (h : Transferring handle own (.error f : Except Fault α) ds) :
    Transferring handle own (.error f : Except Fault β) ds :=
  ⟨h.requests, h.ends.of_error⟩

/-- What is made of a result is a result. -/
theorem of_ok {β : Type} {x : α} (h : Transferring handle own (.ok x) ds) (y : β) :
    Transferring handle own (.ok y) ds :=
  ⟨h.requests, .done h.ends.clear⟩

end Transferring

end Dealing

/-! ## One read -/

namespace OpenFile

variable {σ : Type}

open Held

/-- A dealing is that of a request of a read, which brought what the reply has. -/
structure Brought (handle : Bytes) (fetch : Fetch) (d : Dealing) : Prop where
  /-- It asks for the bytes. -/
  request : d.request = .read handle fetch.offset fetch.length
  /-- What is read from the reply. -/
  outcome : fetch.outcome = d.outcome.bind (Reply.data fetch.length)

/-- The requests of a read that may make so many, and their dealings. -/
inductive Fetched (file : OpenFile) : Nat → Option Nat → Int → List Fetch → List Dealing → Prop
  /-- No more may be made. -/
  | spent (wanted : Option Nat) (offset : Int) : Fetched file 0 wanted offset [] []
  /-- No more bytes are wanted. -/
  | done (rounds : Nat) (offset : Int) : Fetched file rounds (some 0) offset [] []
  /-- A request that brings no bytes is the last. -/
  | last {rounds : Nat} {wanted : Option Nat} {fetch : Fetch} {d : Dealing} (hwanted : wanted ≠ some 0)
      (hlength : fetch.length = file.share wanted) (hbrought : Brought file.base.handle fetch d)
      (hnone : fetch.bytes = []) : Fetched file (rounds + 1) wanted fetch.offset [fetch] [d]
  /-- After one that brings some come those for the rest. -/
  | next {rounds : Nat} {wanted : Option Nat} {fetch : Fetch} {d : Dealing} {made : List Fetch}
      {ds : List Dealing} (hwanted : wanted ≠ some 0) (hlength : fetch.length = file.share wanted)
      (hbrought : Brought file.base.handle fetch d) (hsome : fetch.bytes ≠ [])
      (h : Fetched file rounds (wanted.map (· - fetch.bytes.length)) (fetch.offset + fetch.bytes.length)
        made ds) : Fetched file (rounds + 1) wanted fetch.offset (fetch :: made) (d :: ds)

/-- **The requests of a read** are dealings, one for each. -/
theorem fetched_fetches (file : OpenFile) (rounds : Nat) (wanted : Option Nat) (offset : Int)
    (c : Client σ) :
    ∃ ds, c.Deals ds (file.fetches rounds wanted offset c).2 ∧
      Fetched file rounds wanted offset (file.fetches rounds wanted offset c).1 ds := by
  induction rounds generalizing wanted offset c with
  | zero => exact ⟨[], .refl c, .spent wanted offset⟩
  | succ rounds ih =>
    by_cases hwanted : wanted = some 0
    · subst hwanted
      rw [fetches_zero]
      exact ⟨[], .refl c, .done _ offset⟩
    obtain ⟨outcome, hdeals, hresult⟩ := Client.run_ask_deals
      (.read file.base.handle offset (file.share wanted)) (Reply.data (file.share wanted)) c
    rcases hrun : (Client.readChunk file.base.handle offset (file.share wanted)).run c with ⟨result, c'⟩
    have hask := hrun
    rw [Client.readChunk] at hask
    rw [hask] at hdeals hresult
    by_cases hbytes : Fetch.bytes { offset, length := file.share wanted, outcome := result } = []
    · rw [fetches_last hwanted hrun hbytes]
      exact ⟨_, hdeals, .last hwanted rfl ⟨rfl, hresult⟩ hbytes⟩
    · cases result with
      | error f => exact absurd rfl hbytes
      | ok chunk =>
        rw [fetches_next hwanted hrun hbytes]
        obtain ⟨ds, hothers, hfetched⟩ := ih (wanted.map (· - chunk.length)) (offset + chunk.length) c'
        exact ⟨_, hdeals.trans hothers, .next hwanted rfl ⟨rfl, hresult⟩ hbytes hfetched⟩

/-- The requests of a read only read, and stop at the first that fails. -/
theorem Fetched.transferring {file : OpenFile} {rounds : Nat} {wanted : Option Nat} {offset : Int}
    {made : List Fetch} {ds : List Dealing} (h : Fetched file rounds wanted offset made ds) :
    ds.length = made.length ∧ Transferring file.base.handle (fun _ _ => False) (gathered made) ds := by
  have hone : ∀ {fetch : Fetch} {d : Dealing}, Brought file.base.handle fetch d →
      Transferring file.base.handle (fun _ _ => False) fetch.outcome [d] := by
    rintro fetch ⟨_, outcome⟩ ⟨rfl, hresult⟩
    have hends := Client.straight_of_read (m := .read file.base.handle fetch.offset fetch.length)
      (w := .data) (fun _ => rfl) (by exact nofun) (fun _ _ => False) outcome
    rw [hresult]
    exact ⟨List.forall_mem_singleton.mpr (.read _ _), hends.imp (fun _ _ h => .inl h) (fun _ => id)⟩
  induction h with
  | spent | done => exact ⟨rfl, List.forall_mem_nil _, .done clear_nil⟩
  | @last _ _ fetch d _ _ hbrought hnone =>
    obtain ⟨offset, length, f | data⟩ := fetch
    · exact ⟨rfl, hone hbrought⟩
    · obtain rfl : data = [] := hnone
      exact ⟨rfl, hone hbrought⟩
  | @next _ _ fetch d made ds _ _ hbrought hsome _ ih =>
    obtain ⟨hlength, hrest⟩ := ih
    obtain ⟨offset, length, f | chunk⟩ := fetch
    · exact absurd rfl hsome
    have hmore : Transferring file.base.handle (fun _ _ => False)
        ((gathered made).map (chunk ++ ·)) ds := by
      generalize gathered made = result at hrest ⊢
      rcases result with f | data
      · exact hrest
      · exact hrest.of_ok _
    rw [gathered_cons]
    exact ⟨congrArg (· + 1) hlength, (hone hbrought).after hmore fun _ => id⟩

/-- What requests brought, if they brought bytes, was brought by some. -/
theorem ne_nil_of_gathered {made : List Fetch} {data : Bytes} (h : gathered made = .ok data)
    (hdata : data ≠ []) : made ≠ [] := by
  rintro rfl
  exact hdata (Except.ok.inj h).symm

variable {base : OpenHandle} {patience : Nat}

/-- **One read** only reads. If it brings bytes, a request was made. -/
theorem asks_read (hopen : base.closed = false) (size : Nat) :
    (read (some (size : Int)) : Action σ Bytes).Asks Held.client
      (fun h => h.object.base = base ∧ h.client.patience = patience)
      fun r ds => Transferring base.handle (fun _ _ => False) r ds ∧
        ∀ data, r = .ok data → data ≠ [] → 0 < totalWork ds := by
  rintro h ⟨rfl, rfl⟩
  have hsize : (some (size : Int)).filter (0 ≤ ·) = some (size : Int) := by
    rw [Option.filter_some, decide_eq_true (Int.natCast_nonneg size)]
    rfl
  rw [run_read_of_size hopen hsize]
  dsimp only
  obtain ⟨ds, hdeals, hfetched⟩ := fetched_fetches h.object (size : Int).toNat
    (some (size : Int).toNat) h.object.offset h.client
  obtain ⟨hlength, hends⟩ := hfetched.transferring
  generalize h.object.fetches _ _ _ _ = fetched at hdeals hlength hends ⊢
  obtain ⟨made, c'⟩ := fetched
  have hpatience := hdeals.patience
  cases hgathered : gathered made with
  | error f =>
    rw [hgathered] at hends
    exact ⟨ds, hdeals, ⟨rfl, hpatience⟩, hends, nofun⟩
  | ok data =>
    rw [hgathered] at hends
    refine ⟨ds, hdeals, ⟨rfl, hpatience⟩, hends, ?_⟩
    rintro _ ⟨⟩ hdata
    refine Nat.lt_of_lt_of_le ?_ (length_le_totalWork ds)
    rw [hlength]
    exact List.length_pos_iff.mpr (ne_nil_of_gathered hgathered hdata)

/-! ## One write -/

/-- The outcome of a transfer. -/
def outcomeOf {α : Type} (t : Transfer α) : Except Fault α :=
  match t.fault with
  | some f => .error f
  | none => .ok t.done

/-- The requests of a write of data to an offset, slice by slice, how many bytes went with those that did not
fail, and the fault of the last, if it failed. -/
inductive Sliced (file : OpenFile) : Bytes → Int → List Dealing → Nat → Option Fault → Prop
  /-- No data are left. -/
  | done (offset : Int) : Sliced file [] offset [] 0 none
  /-- The first slice is written, and then the others. -/
  | next {data : Bytes} {offset : Int} {d : Dealing} {ds : List Dealing} {confirmed : Nat}
      {fault : Option Fault} (hdata : data ≠ [])
      (hrequest : d.request = .write file.base.handle offset (data.take file.packetSize))
      (hdone : d.fault? = none)
      (h : Sliced file (data.drop file.packetSize) (offset + (data.take file.packetSize).length) ds
        confirmed fault) :
      Sliced file data offset (d :: ds) ((data.take file.packetSize).length + confirmed) fault
  /-- The first slice cannot be written. -/
  | stopped {data : Bytes} {offset : Int} {d : Dealing} {f : Fault} (hdata : data ≠ [])
      (hrequest : d.request = .write file.base.handle offset (data.take file.packetSize))
      (hfault : d.fault? = some f) : Sliced file data offset [d] 0 (some f)

/-- **The requests of a write** are dealings, one for each slice. -/
theorem sliced_writeLoop (file : OpenFile) (data : Bytes) (offset : Int) (before : Nat)
    (h : Held OpenFile σ) :
    ∃ ds confirmed fault c, h.client.Deals ds c ∧ Sliced file data offset ds confirmed fault ∧
      (writeLoop file data offset before).run h =
        (.ok { done := before + confirmed, fault := fault.map (Fault.withConfirmed (before + confirmed)) },
          { h with client := c }) := by
  -- what is left after a slice is shorter
  induction hlength : data.length using Nat.strongRecOn generalizing data offset before h with
  | ind n ih =>
    by_cases hdata : data = []
    · subst hdata
      exact ⟨[], 0, none, h.client, .refl _, .done offset, run_writeLoop_nil file offset before h⟩
    have hpos := file.packetSize_pos
    have hdataPos := List.length_pos_iff.mpr hdata
    have hdrop : (data.drop file.packetSize).length = data.length - file.packetSize := List.length_drop
    obtain ⟨outcome, hdeals, hresult⟩ := Client.run_ask_deals
      (.write file.base.handle offset (data.take file.packetSize)) Reply.ok h.client
    have hfault := Client.fault?_of_read
      (m := .write file.base.handle offset (data.take file.packetSize)) (w := fun _ => .nothing)
      (fun _ => rfl) (by exact nofun) outcome
    rw [← hresult] at hfault
    rw [run_writeLoop_cons hdata, Client.writeChunk]
    generalize (Client.ask (.write file.base.handle offset (data.take file.packetSize)) Reply.ok).run
      h.client = after at hdeals hfault ⊢
    rcases after with ⟨f | u, c⟩
    · exact ⟨_, 0, some f, c, hdeals, .stopped hdata rfl hfault, rfl⟩
    · obtain ⟨ds, confirmed, fault, c', hothers, hsliced, hrun⟩ := ih _ (by omega)
        (data.drop file.packetSize) (offset + (data.take file.packetSize).length)
        (before + (data.take file.packetSize).length) { h with client := c } rfl
      refine ⟨_, _, fault, c', hdeals.trans hothers, .next hdata rfl hfault hsliced, ?_⟩
      dsimp only
      rw [hrun, Nat.add_assoc]

namespace Sliced

variable {file : OpenFile} {data : Bytes} {offset : Int} {ds : List Dealing} {confirmed : Nat}
  {fault : Option Fault}

/-- All of them write. -/
theorem isTransfer (h : Sliced file data offset ds confirmed fault) :
    ∀ d ∈ ds, d.request.IsTransfer file.base.handle := by
  induction h with
  | done offset => exact List.forall_mem_nil _
  | next _ hrequest _ _ ih => exact List.forall_mem_cons.mpr ⟨hrequest ▸ .write _ _, ih⟩
  | stopped _ hrequest _ => exact List.forall_mem_singleton.mpr (hrequest ▸ .write _ _)

/-- Only the last can fail. -/
theorem ends (h : Sliced file data offset ds confirmed fault) :
    match fault with
    | none => Clear ds
    | some f => BreaksOff ds f := by
  induction h with
  | done offset => exact clear_nil
  | @next data offset d ds confirmed fault _ _ hdone _ ih =>
    have hfirst : Clear [d] := List.forall_mem_singleton.mpr hdone
    cases fault with
    | none => exact hfirst.append ih
    | some f => exact ih.after hfirst
  | stopped _ _ hfault => exact ⟨[], _, rfl, clear_nil, hfault⟩

end Sliced

/-- **A write only writes,** and has the outcome of its requests. -/
theorem dealt_writeLoop (file : OpenFile) (data : Bytes) (offset : Int) (before : Nat)
    (h : Held OpenFile σ) :
    ∃ ds t c, h.client.Deals ds c ∧
      (writeLoop file data offset before).run h = (.ok t, { h with client := c }) ∧
      Transferring file.base.handle (fun _ _ => False) (outcomeOf t) ds := by
  obtain ⟨ds, confirmed, fault, c, hdeals, hsliced, hrun⟩ := sliced_writeLoop file data offset before h
  refine ⟨ds, _, c, hdeals, hrun, hsliced.isTransfer, ?_⟩
  have hends := hsliced.ends
  cases fault with
  | none => exact .done hends
  | some f => exact .refused hends (.inr ⟨_, rfl⟩)

/-- A write has the outcome of its requests. -/
theorem run_write_of_loop {data : Bytes} {h : Held OpenFile σ} {t : Transfer Nat} {c : Client σ}
    (hopen : h.object.base.closed = false)
    (hloop : (writeLoop h.object data h.object.offset 0).run h = (.ok t, { h with client := c })) :
    ∃ offset, (write data).run h = (outcomeOf t, { object := { h.object with offset }, client := c }) := by
  unfold write outcomeOf
  rw [Step.run_bind, run_ensureOpen hopen]
  dsimp only
  rw [Step.run_bind, run_current]
  dsimp only
  rw [Step.run_bind, hloop]
  dsimp only
  cases t.fault with
  | none => exact ⟨_, rfl⟩
  | some f =>
    cases f with
    | status e => exact ⟨_, rfl⟩
    | _ => exact ⟨h.object.offset, rfl⟩

/-- So does a write at an offset. -/
theorem run_writeAt_of_loop {data : Bytes} {offset : Int} {h : Held OpenFile σ} {t : Transfer Nat}
    {c : Client σ} (hopen : h.object.base.closed = false)
    (hloop : (writeLoop h.object data offset 0).run h = (.ok t, { h with client := c })) :
    (writeAt data offset).run h = (outcomeOf t, { h with client := c }) := by
  unfold writeAt outcomeOf
  rw [Step.run_bind, run_ensureOpen hopen]
  dsimp only
  rw [Step.run_bind, run_current]
  dsimp only
  rw [Step.run_bind, hloop]
  unfold Transfer.complete
  dsimp only
  cases t.fault with
  | none => rfl
  | some f => rfl

/-- **One write** only writes. -/
theorem asks_write (hopen : base.closed = false) (data : Bytes) :
    (write data : Action σ Nat).Asks Held.client
      (fun h => h.object.base = base ∧ h.client.patience = patience)
      (Transferring base.handle fun _ _ => False) := by
  rintro h ⟨rfl, rfl⟩
  obtain ⟨ds, t, c, hdeals, hloop, hends⟩ := dealt_writeLoop h.object data h.object.offset 0 h
  obtain ⟨offset, hrun⟩ := run_write_of_loop hopen hloop
  rw [hrun]
  exact ⟨ds, hdeals, ⟨rfl, hdeals.patience⟩, hends⟩

end OpenFile

end Sftp
