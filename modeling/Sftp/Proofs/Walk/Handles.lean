import Sftp.Proofs.Client.Proper
import Sftp.Proofs.Walk.Probes

/-!
# Walks leave no directory open

A walk opens one directory after another, and each is closed again before the next entry is visited, also
when it cannot be read. So wherever its consumer stops, every handle that the walk was given was released
once, or the connection has failed. Faults of the system or the server become entries, one for each probe;
what else a walk may end with is a path that no frame can hold.

* `Text.isEncodable_joinPath`, `Walk.Reached.isEncodable` — the paths of a walk have bytes.
* `Dealing.Balanced` — handles that were given and requests to release them; `Walk.Probe.Of.balanced`.
* **`Walk.visit_releases`** — every walk of a connected client.
-/

namespace Sftp

open Dealing

/-! ## Paths -/

namespace Text

variable {t t' : Text}

/-- Values are found for all if one is found for each. -/
theorem isSome_mapM_iff {α β : Type} {f : α → Option β} {xs : List α} :
    (xs.mapM f).isSome = true ↔ ∀ x ∈ xs, (f x).isSome = true := by
  induction xs with
  | nil => exact ⟨fun _ => List.forall_mem_nil _, fun _ => rfl⟩
  | cons x xs ih =>
    rw [List.mapM_cons, List.forall_mem_cons, ← ih]
    cases f x with
    | none => exact ⟨nofun, fun h => h.1⟩
    | some y =>
      cases xs.mapM f with
      | none => exact ⟨nofun, fun h => h.2⟩
      | some ys => exact ⟨fun _ => ⟨rfl, rfl⟩, fun _ => rfl⟩

/-- A text has bytes if all its code points do. -/
theorem isEncodable_iff : t.IsEncodable ↔ ∀ g ∈ t.glyphs, g.isEncodable = true := by
  unfold IsEncodable encode?
  rw [Option.isSome_map]
  exact isSome_mapM_iff

/-- Texts one after another have bytes if each has. -/
theorem IsEncodable.append (h : t.IsEncodable) (h' : t'.IsEncodable) : (t ++ t').IsEncodable := by
  rw [isEncodable_iff] at h h' ⊢
  exact List.forall_mem_append.mpr ⟨h, h'⟩

/-- A path below another has bytes if both have. -/
theorem IsEncodable.joinPath (h : t.IsEncodable) (h' : t'.IsEncodable) : (t.joinPath t').IsEncodable := by
  have hslash : IsEncodable "/" := isEncodable_iff.mpr (by decide)
  unfold Text.joinPath
  split
  · exact h'
  · split
    · exact h.append h'
    · exact (h.append hslash).append h'

end Text

/-- **The paths of a walk have bytes**, if the root has and the names that came do. -/
theorem Walk.Reached.isEncodable {root path : Text} {ds : List Dealing} (hroot : root.IsEncodable)
    (hds : ∀ d ∈ ds, d.Proper) (h : Reached root ds path) : path.IsEncodable := by
  induction h with
  | root => exact hroot
  | child _ hd hname ih => exact ih.joinPath ((hds _ hd).names _ hname)

/-! ## Handles that are given and released -/

namespace Dealing

variable {d : Dealing} {ds others : List Dealing} {handle : Bytes} {path : Text}

/-- Each handle was released in so many requests as it was given in. -/
def Balanced (ds : List Dealing) : Prop :=
  ∀ handle : Bytes, (ds.filterMap carried?).count (.close handle) = ds.countP (·.opened? = some handle)

/-- Requests after requests. -/
theorem Balanced.append (h : Balanced ds) (h' : Balanced others) : Balanced (ds ++ others) := by
  intro handle
  rw [List.filterMap_append, List.count_append, List.countP_append, h handle, h' handle]

/-- Only requests to open something bring a handle. -/
theorem wants_of_opened? (h : d.opened? = some handle) :
    ∃ kind path, d.request.wants = .handle kind path := by
  obtain ⟨base, hresult⟩ : ∃ base, d.result = .ok (.handle base) := by
    unfold opened? at h
    split at h
    · rename_i base hresult
      exact ⟨base, hresult⟩
    · cases h
  unfold result at hresult
  cases houtcome : d.outcome with
  | error f =>
    rw [houtcome] at hresult
    cases hresult
  | ok reply =>
    rw [houtcome] at hresult
    have hread : d.request.wants.read reply = .ok (.handle base) := hresult
    have hmap : ∀ {α : Type} {r : Except Fault α} {wrap : α → Payload},
        r.map wrap = .ok (.handle base) → ∃ a, wrap a = .handle base := by
      intro α r wrap hr
      cases r with
      | error f => cases hr
      | ok a => exact ⟨a, Except.ok.inj hr⟩
    cases hwants : d.request.wants with
    | handle kind path => exact ⟨kind, path, rfl⟩
    | _ =>
      rw [hwants] at hread
      obtain ⟨_, hpayload⟩ := hmap hread
      cases hpayload

/-- Other requests bring none. -/
theorem countP_opened (h : ∀ kind path, d.request.wants ≠ .handle kind path) (handle : Bytes) :
    [d].countP (·.opened? = some handle) = 0 := by
  refine List.countP_eq_zero.mpr (List.forall_mem_singleton.mpr fun hopened => ?_)
  obtain ⟨kind, path, hwants⟩ := wants_of_opened? (of_decide_eq_true hopened)
  exact h kind path hwants

/-- What is sent for another request releases nothing. -/
theorem count_carried (h : d.request ≠ .close handle) :
    ([d].filterMap carried?).count (.close handle) = 0 := by
  refine List.count_eq_zero.mpr fun hmem => ?_
  obtain ⟨e, he, hcarried⟩ := List.mem_filterMap.mp hmem
  obtain rfl := List.mem_singleton.mp he
  unfold carried? at hcarried
  split at hcarried
  · cases hcarried
  · exact h (Option.some.inj hcarried)

/-- A request that neither opens nor releases anything. -/
theorem balanced_of_reading (hwants : ∀ kind path, d.request.wants ≠ .handle kind path)
    (hrequest : ∀ handle, d.request ≠ .close handle) : Balanced [d] := by
  intro handle
  rw [count_carried (hrequest handle), countP_opened hwants]

/-- Requests to read a directory. -/
theorem balanced_of_readdir (h : ∀ d ∈ ds, d.request = .readdir handle) : Balanced ds := by
  induction ds with
  | nil => exact fun _ => rfl
  | cons d ds ih =>
    obtain ⟨hd, hds⟩ := List.forall_mem_cons.mp h
    have hfirst : Balanced [d] := by
      refine balanced_of_reading ?_ ?_
      · rw [hd]
        exact nofun
      · rw [hd]
        exact nofun
    exact hfirst.append (ih hds)

/-- A directory that is opened and then closed. -/
theorem balanced_of_closed {closing : Dealing} {reading : List Dealing} (hrequest : d.request = .opendir path)
    (hhandle : d.opened? = some handle) (hreading : Balanced reading)
    (hclosing : closing.request = .close handle) (hcarried : closing.carried? = some (.close handle)) :
    Balanced (d :: (reading ++ [closing])) := by
  intro other
  have hopening : ([d].filterMap carried?).count (.close other) = 0 :=
    count_carried (by rw [hrequest]; exact nofun)
  have hclosed : [closing].countP (·.opened? = some other) = 0 :=
    countP_opened (by rw [hclosing]; exact nofun) other
  have hgiven : [d].countP (·.opened? = some other) = if handle = other then 1 else 0 := by
    rw [List.countP_singleton, hhandle]
    simp only [Option.some_inj, decide_eq_true_eq]
  have hreleased : ([closing].filterMap carried?).count (.close other) =
      if handle = other then 1 else 0 := by
    rw [List.filterMap_cons_some hcarried, List.filterMap_nil, List.count_singleton]
    simp only [beq_iff_eq, Message.close.injEq]
  rw [← List.singleton_append, List.filterMap_append, List.filterMap_append, List.count_append,
    List.count_append, List.countP_append, List.countP_append, hopening, hclosed, hgiven, hreleased,
    hreading other]
  omega

end Dealing

/-- What a walk asks about one path leaves nothing open. -/
theorem Walk.Probe.Of.balanced {root : Text} {p : Probe} (hp : p.Of root)
    (hds : ∀ d ∈ p.dealings, d.Proper) : Balanced p.dealings := by
  cases hp with
  | root h =>
    refine balanced_of_reading ?_ ?_
    · rw [h]
      exact nofun
    · rw [h]
      exact nofun
  | listing h =>
    cases h with
    | @unopened d hrequest hnone =>
      intro handle
      rw [count_carried (by rw [hrequest]; exact nofun), List.countP_singleton, hnone]
      rfl
    | @opened d closing reading handle hrequest hhandle hreading hclosing =>
      have hd := hds d List.mem_cons_self
      have hlast := hds closing
        (List.mem_cons_of_mem d (List.mem_append_right reading (List.mem_singleton_self closing)))
      have hcarried := hlast.carried (by
        rw [hclosing]
        exact (Packet.isEncodable_of_handle (hd.length_opened hhandle)).2)
      rw [hclosing] at hcarried
      exact balanced_of_closed hrequest hhandle (balanced_of_readdir hreading) hclosing hcarried

/-- So does all that a walk asks. -/
theorem Walk.balanced_allDealings {probes : List Probe} (h : ∀ p ∈ probes, Balanced p.dealings) :
    Balanced (allDealings probes) := by
  induction probes with
  | nil => exact fun _ => rfl
  | cons p probes ih =>
    obtain ⟨hp, hprobes⟩ := List.forall_mem_cons.mp h
    exact hp.append (ih hprobes)

/-! ## Faults that end a walk -/

/-- A handle that was given is one that requests can be made about. -/
theorem Dealing.Proper.not_unmade {d : Dealing} {handle : Bytes} {m : Message} (hd : d.Proper)
    (hhandle : d.opened? = some handle) (hm : m = .readdir handle ∨ m = .close handle) {id : Int}
    (hid : Width.word.Fits id) {cause : EncodeFault}
    (hencode : (Packet.message id m).encode = .error cause) : False := by
  have hroom := Packet.isEncodable_of_handle (hd.length_opened hhandle)
  have hencodable : (Packet.message 0 m).IsEncodable := by
    rcases hm with rfl | rfl
    · exact hroom.1
    · exact hroom.2
  obtain ⟨frame, hframe⟩ := hencodable.of_id hid
  cases hframe.symm.trans hencode

/-- Unless a probe fails as the system or the server, its path is too long for a frame. -/
theorem Walk.Probe.Of.tooLong {root : Text} {p : Probe} (hp : p.Of root) (hpath : p.path.IsEncodable)
    (hds : ∀ d ∈ p.dealings, d.Proper) {d : Dealing} (hd : d ∈ p.dealings) {f : Fault}
    (hf : d.fault? = some f) (hsystem : f.isSystem = false) :
    ∃ length, f = .unencodable (.tooLong length) := by
  rcases (hds d hd).fault hf with hyes | ⟨id, cause, rfl, hid, hencode⟩
  · cases hyes.symm.trans hsystem
  have hlong : ∀ path, path.IsEncodable → d.request = .lstat path ∨ d.request = .opendir path →
      ∃ length, Fault.unencodable cause = .unencodable (.tooLong length) := by
    intro path hencodable hrequest
    obtain ⟨length, rfl⟩ := Message.tooLong_of_path hrequest hencodable hid hencode
    exact ⟨length, rfl⟩
  cases hp with
  | root h =>
    obtain rfl := List.mem_singleton.mp hd
    exact hlong root hpath (.inl h)
  | listing h =>
    cases h with
    | @unopened d' hrequest _ =>
      obtain rfl := List.mem_singleton.mp hd
      exact hlong _ hpath (.inr hrequest)
    | @opened d' closing reading handle hrequest hhandle hreading hclosing =>
      have hopening := hds d' List.mem_cons_self
      rcases List.mem_cons.mp hd with rfl | hd
      · exact hlong _ hpath (.inr hrequest)
      rcases List.mem_append.mp hd with hd | hd
      · exact (hopening.not_unmade hhandle (.inl (hreading d hd)) hid hencode).elim
      · obtain rfl := List.mem_singleton.mp hd
        exact (hopening.not_unmade hhandle (.inr hclosing) hid hencode).elim

/-! ## Walks -/

/-- A failure of the system that does not say that the connection is dead. -/
def Fault.IsOrdinary (f : Fault) : Prop :=
  f.isSystem = true ∧ f.isLost = false

namespace Walk

/-- What a walk of a connected client has done, wherever its consumer has stopped. -/
structure LeavesNothingOpen {σ : Type} (w : Walker) (c : Client σ) (probes : List Probe) (seen : Seen)
    (c' : Client σ) : Prop where
  /-- It has asked what the root is and what is in directories, and has done nothing else. -/
  deals : c.Deals (allDealings probes) c' ∧ ∀ p ∈ probes, p.Of w.root
  /-- Unless the connection has failed, every handle was released once for every time it was given. -/
  released : c'.link.exchange.failure = none → ∃ ms, c.Sends ms c' ∧
    ∀ handle : Bytes, ms.count (.close handle) = (allDealings probes).countP (·.opened? = some handle)
  /-- The fault of every probe, that of its last request that failed, was reported in an entry. -/
  reported : seen.fault = none → probes.filterMap Probe.fault? = seen.entries.filterMap WalkEntry.report?
  /-- Only a path too long for a frame ends a walk with a fault, or patience that was at its end. -/
  raised : ∀ f, seen.fault = some f → (∃ length, f = .unencodable (.tooLong length)) ∨
    f.Overtaxed c.patience (totalWork (allDealings probes))

/-- **A walk leaves no directory open.** A connected client, whose stream refuses writes only with ordinary
failures of the system, walks from a root whose path has bytes, and the consumer leaves out whatever
directories and stops at whatever entry. Then each handle that the walk was given has been released by so
many frames as it was given in, or the connection has failed. The entries report one fault for each probe
that failed, and nothing else ends the walk but a path that no frame can hold, or a server that has given
more to do than there is patience for. -/
theorem visit_releases {σ : Type} {c : Client σ} (hc : c.Able Fault.IsOrdinary) {w : Walker}
    (hroot : w.root.IsEncodable) (skipped : List Nat) (limit : Nat) :
    ∃ probes, LeavesNothingOpen w c probes (visit Client.tree skipped limit w c).1
      (visit Client.tree skipped limit w c).2.2 := by
  obtain ⟨probes, hwalked⟩ := visit_probes w c skipped limit
  generalize visit Client.tree skipped limit w c = outcome at hwalked ⊢
  obtain ⟨seen, w', c'⟩ := outcome
  obtain ⟨hdeals, hasked, htold, -⟩ := hwalked
  have hsort : ∀ f, Fault.IsOrdinary f → f.isSystem = true := fun f hf => hf.1
  obtain ⟨-, hproper⟩ := hdeals.able hsort hc
  have hproper' : ∀ p ∈ probes, ∀ d ∈ p.dealings, d.Proper := fun p hp d hd =>
    hproper d (List.mem_flatMap.mpr ⟨p, hp, hd⟩)
  have hbalanced : Balanced (allDealings probes) :=
    balanced_allDealings fun p hp => (hasked p hp).1.balanced (hproper' p hp)
  refine ⟨probes, ⟨hdeals, fun p hp => (hasked p hp).1⟩, fun hhealthy => ?_, htold.complete, ?_⟩
  · exact ⟨_, hdeals.sends hsort (fun f hf => hf.2) hc hhealthy, hbalanced⟩
  · intro f hf
    rcases htold.raised f hf with ⟨path, hfaults, hsystem⟩ | ⟨-, hover⟩
    · have hlast : (path, f) ∈ probes.filterMap Probe.fault? := by
        rw [hfaults]
        exact List.mem_append_right _ (List.mem_singleton_self _)
      obtain ⟨p, hp, hfault⟩ := List.mem_filterMap.mp hlast
      obtain ⟨g, hg, heq⟩ := Option.map_eq_some_iff.mp hfault
      obtain rfl := congrArg Prod.snd heq
      obtain ⟨d, hd, hdfault⟩ := exists_of_lastFault? hg
      obtain ⟨hof, hreached⟩ := hasked p hp
      exact .inl (hof.tooLong (hreached.isEncodable hroot hproper) (hproper' p hp) hd hdfault hsystem)
    · exact .inr hover

/-- A tree of one directory, which may be opened but neither read nor closed: the server refuses to read it,
and then fails to close it. -/
def blockedReplies : List (Int → Packet) :=
  [fun id => .message id (.attrs { permissions := some 0x41ED }), fun id => .message id (.handle [104]),
    fun id => .message id (.status StatusCode.permissionDenied.number "denied" Text.empty),
    fun id => .message id (.status StatusCode.failure.number "busy" Text.empty)]

/-- A client that is connected to this server. -/
def blockedClient : Client (List (Int → Packet)) :=
  (Client.connect.run (Client.inTurn 10 blockedReplies)).2

/-- A walk of this tree. -/
def blockedWalk : Seen × Walker × Client (List (Int → Packet)) :=
  visit Client.tree [] 10 { root := "/r" } blockedClient

/-- The client is connected. -/
theorem able_blockedClient : blockedClient.Able Fault.IsOrdinary :=
  Client.able_inTurn _ _ _ (by decide +kernel)

/-- The directory was closed, and the entry after it has the fault of closing. -/
theorem visit_releases_blockedClient :
    blockedClient.Able Fault.IsOrdinary ∧ ("/r" : Text).IsEncodable ∧
      (∃ probes, LeavesNothingOpen { root := "/r" } blockedClient probes blockedWalk.1 blockedWalk.2.2) ∧
      blockedWalk.1.entries.filterMap WalkEntry.report? =
        [(Text.ofString "/r", .status { kind := .failure, code := 4, message := "busy", lang := Text.empty })] := by
  have hroot : ("/r" : Text).IsEncodable := Text.isEncodable_iff.mpr (by decide)
  exact ⟨able_blockedClient, hroot, visit_releases (w := { root := "/r" }) able_blockedClient hroot [] 10,
    by decide +kernel⟩

/-- **A fault of closing hides one of reading.** The four requests of the walk go out and each is answered,
that to read the directory by a status of failure, but no entry reports this. -/
theorem read_fault_is_hidden :
    blockedWalk.2.2.link.line.sent.toList.tail.map (fun frame => (Packet.decode frame).toOption) =
        [some (.message 0 (.lstat "/r")), some (.message 1 (.opendir "/r")),
          some (.message 2 (.readdir [104])), some (.message 3 (.close [104]))] ∧
      blockedWalk.2.2.link.line.state.length = 0 ∧
      (blockedReplies.map fun reply => reply 2)[2]? =
        some (.message 2 (.status StatusCode.permissionDenied.number "denied" Text.empty)) ∧
      blockedWalk.1.fault = none ∧
      ¬ ∃ e ∈ blockedWalk.1.entries, ∃ error : StatusError,
        e.fault = some (.status error) ∧ error.code = StatusCode.permissionDenied.number := by
  refine ⟨by decide +kernel, by decide +kernel, by decide +kernel, by decide +kernel, ?_⟩
  have hfaults : blockedWalk.1.entries.map WalkEntry.fault =
      [none, some (.status { kind := .failure, code := 4, message := "busy", lang := Text.empty })] := by
    decide +kernel
  rintro ⟨e, he, error, hfault, hcode⟩
  have hmem := List.mem_map_of_mem (f := WalkEntry.fault) he
  rw [hfaults, hfault] at hmem
  rcases List.mem_cons.mp hmem with hnone | hlast
  · cases hnone
  · cases List.mem_singleton.mp hlast
    cases hcode

end Walk

end Sftp
