import Sftp.Proofs.Client.Asking
import Sftp.Proofs.OpenDirectory.Listing
import Sftp.Walk

/-!
# The requests of a listing

Whatever the server is, to list a path is to open it and, if it was opened, to read it for a while and to
close it. The listing ends with the fault of the last of these requests that failed, so a fault of closing
hides one of reading.

* `Listing.Requests` — the requests of a listing; `Listing.Dealt` — how the listing ends after them.
* `OpenDirectory.Browsing` — how reading ends; `OpenDirectory.asks_nextBatch`, `OpenDirectory.asks_read`,
  **`OpenDirectory.asks_collect`** — one batch, one read, and reading on.
* **`Client.dealt_list`** — every listing.
-/

namespace Sftp

open Dealing

/-! ## One request to read -/

/-- A reply with entries is a reply that brings them. -/
theorem Reply.names_eq_ok {endIsFailure : Bool} {p : Packet} {entries : List NameEntry}
    (h : names endIsFailure p = .ok entries) : ∃ id, p = .message id (.name entries) := by
  cases p with
  | message id m =>
    cases m with
    | name es => exact ⟨id, congrArg (fun es => Packet.message id (.name es)) (Except.ok.inj h)⟩
    | status code message lang =>
      simp only [names, payload] at h
      split at h <;> cases h
    | _ => cases h
  | _ => cases h

namespace Dealing

/-- Entries that came in replies: every one has a name there, and they are no more than there were. -/
structure Brought (ds : List Dealing) (entries : List FileStats) : Prop where
  /-- Their number. -/
  length : entries.length ≤ totalWork ds
  /-- Their names. -/
  names : ∀ s ∈ entries, ∃ d ∈ ds, s.name ∈ d.names

variable {outcome : Except Fault Packet} {entries : List NameEntry} {f : Fault}
  {ds others : List Dealing} {found more : List FileStats}

/-- There may be no entries. -/
theorem brought_nil (ds : List Dealing) : Brought ds [] :=
  ⟨Nat.zero_le _, List.forall_mem_nil _⟩

/-- Entries after entries. -/
theorem Brought.append (h : Brought ds found) (h' : Brought others more) :
    Brought (ds ++ others) (found ++ more) where
  length := by
    rw [List.length_append, totalWork_append]
    exact Nat.add_le_add h.length h'.length
  names := by
    intro s hs
    rcases List.mem_append.mp hs with hs | hs
    · obtain ⟨d, hd, hname⟩ := h.names s hs
      exact ⟨d, List.mem_append_left others hd, hname⟩
    · obtain ⟨d, hd, hname⟩ := h'.names s hs
      exact ⟨d, List.mem_append_right ds hd, hname⟩

/-- What is listed of a reply came in it. -/
theorem brought_listed {d : Dealing} (h : d.names = entries.map NameEntry.filename) :
    Brought [d] (listed entries) where
  length := by
    unfold listed
    rw [totalWork_cons, work, h, List.length_map, List.length_map]
    have hle := List.length_filter_le (fun e : NameEntry => !isDotName e.filename) entries
    omega
  names := by
    intro s hs
    obtain ⟨e, he, rfl⟩ := List.mem_map.mp hs
    refine ⟨d, List.mem_singleton_self d, ?_⟩
    rw [h]
    exact List.mem_map_of_mem (List.mem_of_mem_filter he)

/-- A reply with entries is no failure. -/
theorem fault?_of_entries (handle : Bytes) (h : outcome.bind (Reply.names false) = .ok entries) :
    fault? { request := .readdir handle, outcome } = none ∧
      names { request := .readdir handle, outcome } = entries.map NameEntry.filename := by
  cases outcome with
  | error f => cases h
  | ok p =>
    obtain ⟨id, rfl⟩ := Reply.names_eq_ok h
    exact ⟨rfl, rfl⟩

/-- Anything else is a failure, unless it is the end. -/
theorem fault?_of_no_entries (handle : Bytes) (h : outcome.bind (Reply.names false) = .error f) :
    fault? { request := .readdir handle, outcome } = if f.isEnd then none else some f := by
  have hresult : result { request := .readdir handle, outcome } = .error f := by
    rw [Client.result_of_read (w := .entries) (fun _ => rfl), h]
    rfl
  rw [fault?, hresult, faultOf, Option.filter_some]
  cases f.isEnd with
  | true => rfl
  | false => rfl

end Dealing

/-! ## Reading -/

namespace OpenDirectory

variable {σ : Type}

open Held

/-- How reading a directory ends, for a consumer that had some entries before. -/
structure Browsing (handle : Bytes) (patience : Nat) (had : List FileStats)
    (r : Except Fault (List FileStats)) (ds : List Dealing) : Prop where
  /-- All that is done is to read. -/
  requests : ∀ d ∈ ds, d.request = .readdir handle
  /-- It stops at the first request that fails, or when patience is at its end. -/
  ends : Straight Eq (Fault.Overtaxed patience) r ds
  /-- All other entries came in replies. -/
  entries : ∀ all, r = .ok all → ∃ found, all = had ++ found ∧ Brought ds found

/-- **Looking for a batch** is to read until there is one. -/
theorem asks_nextBatch (base : OpenHandle) (patience rounds : Nat) :
    (nextBatch rounds : Action σ (List FileStats)).Asks Held.client
      (fun h => h.object.base = base ∧ h.client.patience = patience)
      (Browsing base.handle rounds []) := by
  induction rounds with
  | zero =>
    refine Step.asks_of_same (fun _ => rfl) (fun _ h => h) fun _ _ => ?_
    exact ⟨List.forall_mem_nil _, .own clear_nil ⟨rfl, Nat.zero_le _⟩, nofun⟩
  | succ rounds ih =>
    rintro h ⟨rfl, rfl⟩
    cases hexhausted : h.object.exhausted with
    | true =>
      rw [nextBatch_of_exhausted hexhausted]
      refine ⟨[], .refl _, ⟨rfl, rfl⟩, List.forall_mem_nil _, .done clear_nil, ?_⟩
      rintro all ⟨⟩
      exact ⟨[], rfl, brought_nil _⟩
    | false =>
      obtain ⟨outcome, hdeals, hresult⟩ :=
        Client.run_ask_deals (.readdir h.object.base.handle) (Reply.names false) h.client
      have hpatience := hdeals.patience
      rw [nextBatch_succ hexhausted, Client.readDirectory]
      generalize (Client.ask (.readdir h.object.base.handle) (Reply.names false)).run h.client = after
        at hdeals hresult hpatience ⊢
      rcases after with ⟨f | entries, client⟩
      · have hfault := fault?_of_no_entries h.object.base.handle hresult.symm
        by_cases hend : f.isEnd = true
        · rw [if_pos hend] at hfault
          dsimp only
          rw [if_pos hend]
          refine ⟨_, hdeals, ⟨rfl, hpatience⟩, List.forall_mem_singleton.mpr rfl,
            .done (List.forall_mem_singleton.mpr hfault), ?_⟩
          rintro all ⟨⟩
          exact ⟨[], rfl, brought_nil _⟩
        · rw [if_neg hend] at hfault
          dsimp only
          rw [if_neg hend]
          exact ⟨_, hdeals, ⟨rfl, hpatience⟩, List.forall_mem_singleton.mpr rfl,
            .refused ⟨[], _, rfl, clear_nil, hfault⟩ rfl, nofun⟩
      · obtain ⟨hfault, hnames⟩ := fault?_of_entries h.object.base.handle hresult.symm
        have hclear : Clear [{ request := .readdir h.object.base.handle, outcome }] :=
          List.forall_mem_singleton.mpr hfault
        by_cases hblank : (listed entries).isEmpty = true
        · dsimp only
          rw [if_pos hblank]
          obtain ⟨others, hothers, hkept, hbrowsing⟩ := ih { h with client } ⟨rfl, hpatience⟩
          refine ⟨_, hdeals.trans hothers, hkept, ?_, ?_, ?_⟩
          · exact List.forall_mem_append.mpr ⟨List.forall_mem_singleton.mpr rfl, hbrowsing.requests⟩
          · refine .after hclear hbrowsing.ends fun f ⟨hf, hle⟩ => ⟨hf, ?_⟩
            rw [totalWork_cons, work]
            omega
          · intro all hall
            obtain ⟨found, hfound, hbrought⟩ := hbrowsing.entries all hall
            exact ⟨found, hfound, (brought_nil _).append hbrought⟩
        · dsimp only
          rw [if_neg hblank]
          refine ⟨_, hdeals, ⟨rfl, hpatience⟩, List.forall_mem_singleton.mpr rfl, .done hclear, ?_⟩
          rintro all ⟨⟩
          exact ⟨listed entries, rfl, brought_listed hnames⟩

variable {base : OpenHandle} {patience : Nat}

/-- One read of an open directory is to look for a batch with all patience. -/
theorem asks_read (hopen : base.closed = false) :
    (read : Action σ (List FileStats)).Asks Held.client
      (fun h => h.object.base = base ∧ h.client.patience = patience)
      (Browsing base.handle patience []) := by
  rintro h ⟨rfl, rfl⟩
  rw [run_read hopen]
  exact asks_nextBatch h.object.base h.client.patience h.client.patience h ⟨rfl, rfl⟩

/-- **Reading on** stops at the first request that fails, or when patience is at its end. -/
theorem asks_collect (hopen : base.closed = false) (rounds : Nat) (seen : List FileStats) :
    (collect none rounds seen : Action σ Listing).Asks Held.client
      (fun h => h.object.base = base ∧ h.client.patience = patience)
      fun r ds => ∃ listing, r = .ok listing ∧
        Browsing base.handle (min patience rounds) seen listing.complete ds := by
  induction rounds generalizing seen with
  | zero =>
    refine Step.asks_of_same (fun _ => rfl) (fun _ h => h) fun _ _ => ⟨_, rfl, ?_⟩
    exact ⟨List.forall_mem_nil _, .own clear_nil ⟨rfl, Nat.min_le_right _ _⟩, nofun⟩
  | succ rounds ih =>
    intro h hh
    have hmore : ¬ Suffices none seen := fun ⟨_, hnone, _⟩ => nomatch hnone
    obtain ⟨ds, hdeals, hkept, hbrowsing⟩ := asks_read hopen h hh
    rw [run_collect_succ hmore]
    generalize read.run h = after at hdeals hkept hbrowsing ⊢
    have hwork : ∀ f, Fault.Overtaxed patience (totalWork ds) f →
        Fault.Overtaxed (min patience (rounds + 1)) (totalWork ds) f :=
      fun f ⟨hf, hle⟩ => ⟨hf, Nat.le_trans (Nat.min_le_left _ _) hle⟩
    rcases after with ⟨f | (_ | ⟨e, batch⟩), h'⟩
    · exact ⟨ds, hdeals, hkept, _, rfl, hbrowsing.requests, (hbrowsing.ends.imp (fun _ _ => id) hwork).of_error, nofun⟩
    · refine ⟨ds, hdeals, hkept, _, rfl, hbrowsing.requests, .done hbrowsing.ends.clear, ?_⟩
      rintro all ⟨⟩
      exact ⟨[], (List.append_nil seen).symm, brought_nil _⟩
    · obtain ⟨others, hothers, hkept', listing, hlisting, hrest⟩ := ih (seen ++ e :: batch) h' hkept
      obtain ⟨_, rfl, hbatch⟩ := hbrowsing.entries _ rfl
      have hlength := hbatch.length
      rw [List.length_cons] at hlength
      refine ⟨ds ++ others, hdeals.trans hothers, hkept', listing, hlisting, ?_, ?_, ?_⟩
      · exact List.forall_mem_append.mpr ⟨hbrowsing.requests, hrest.requests⟩
      · refine .after hbrowsing.ends.clear hrest.ends fun f ⟨hf, hle⟩ => ⟨hf, ?_⟩
        omega
      · intro all hall
        obtain ⟨found, rfl, hfound⟩ := hrest.entries all hall
        exact ⟨(e :: batch) ++ found, List.append_assoc _ _ _, hbatch.append hfound⟩

end OpenDirectory

/-! ## A listing -/

namespace Listing

/-- The requests of the listing of a path: it is opened, and if it was, it is read for a while and the
handle is released. -/
inductive Requests (path : Text) : List Dealing → Prop
  /-- It was not opened. -/
  | unopened {d : Dealing} (hrequest : d.request = .opendir path) (hnone : d.opened? = none) :
      Requests path [d]
  /-- It was opened. -/
  | opened {d closing : Dealing} {reading : List Dealing} {handle : Bytes}
      (hrequest : d.request = .opendir path) (hhandle : d.opened? = some handle)
      (hreading : ∀ e ∈ reading, e.request = .readdir handle)
      (hclosing : closing.request = .close handle) :
      Requests path (d :: (reading ++ [closing]))

/-- How a listing ends after its requests. -/
structure Dealt (path : Text) (patience : Nat) (listing : Listing) (ds : List Dealing) : Prop where
  /-- These are the requests of a listing. -/
  requests : Requests path ds
  /-- It ends with the fault of the last that failed, or when patience is at its end. -/
  fault : listing.fault = lastFault? ds ∨
    Clear ds ∧ ∃ f, listing.fault = some f ∧ f.Overtaxed patience (totalWork ds)
  /-- All entries came in replies. -/
  entries : listing.fault = none → Brought ds listing.entries

/-- A listing is complete if it has no fault. -/
theorem complete_eq_ok_iff {listing : Listing} {entries : List FileStats} :
    listing.complete = .ok entries ↔ listing.fault = none ∧ listing.entries = entries := by
  obtain ⟨found, fault⟩ := listing
  cases fault with
  | none => exact ⟨fun h => ⟨rfl, Except.ok.inj h⟩, fun ⟨_, h⟩ => congrArg Except.ok h⟩
  | some f => exact ⟨nofun, fun ⟨h, _⟩ => nomatch h⟩

/-- Otherwise it ends with that fault. -/
theorem complete_eq_error_iff {listing : Listing} {f : Fault} :
    listing.complete = .error f ↔ listing.fault = some f := by
  obtain ⟨found, fault⟩ := listing
  cases fault with
  | none => exact ⟨nofun, nofun⟩
  | some g => exact ⟨fun h => congrArg some (Except.error.inj h), fun h => congrArg Except.error (Option.some.inj h)⟩

/-- Closing a directory that was opened and read ends the listing. -/
theorem Dealt.of_browsing {path : Text} {patience : Nat} {listing : Listing} {d closing : Dealing}
    {reading : List Dealing} {handle : Bytes} (hrequest : d.request = .opendir path)
    (hhandle : d.opened? = some handle) (hd : d.fault? = none)
    (hbrowsing : OpenDirectory.Browsing handle patience [] listing.complete reading)
    (hclosing : closing.request = .close handle) :
    Dealt path patience
      (match closing.fault? with
        | some f => { listing with fault := some f }
        | none => listing)
      (d :: (reading ++ [closing])) := by
  have hopened : Clear [d] := List.forall_mem_singleton.mpr hd
  refine ⟨.opened hrequest hhandle hbrowsing.requests hclosing, ?_, ?_⟩
  · have hlast : lastFault? (d :: (reading ++ [closing])) =
        closing.fault?.or (lastFault? (d :: reading)) := lastFault?_concat (d :: reading) closing
    rw [hlast]
    cases hfault : closing.fault? with
    | some f => exact .inl rfl
    | none =>
      rw [Option.none_or]
      show listing.fault = _ ∨ _ ∧ ∃ f, listing.fault = some f ∧ _
      have hclear : Clear reading → Clear (d :: (reading ++ [closing])) := fun h =>
        hopened.append (h.append (List.forall_mem_singleton.mpr hfault))
      generalize hresult : listing.complete = r at hbrowsing
      cases hbrowsing.ends with
      | done h =>
        refine .inl ?_
        rw [(complete_eq_ok_iff.mp hresult).1]
        exact (lastFault?_eq_none_iff.mpr (hopened.append h)).symm
      | refused h hf =>
        subst hf
        refine .inl ?_
        rw [complete_eq_error_iff.mp hresult]
        exact (h.after hopened).lastFault?.symm
      | own h hf =>
        refine .inr ⟨hclear h, _, complete_eq_error_iff.mp hresult, hf.mono ?_⟩
        rw [totalWork_cons, totalWork_append]
        omega
  · intro hnone
    cases hfault : closing.fault? with
    | some f =>
      rw [hfault] at hnone
      cases hnone
    | none =>
      rw [hfault] at hnone
      obtain ⟨found, hfound, hbrought⟩ := hbrowsing.entries _ (complete_eq_ok_iff.mpr ⟨hnone, rfl⟩)
      have hall := (brought_nil [d]).append (hbrought.append (brought_nil [closing]))
      rw [List.nil_append, List.append_nil] at hall
      rw [List.nil_append] at hfound
      show Brought _ listing.entries
      rw [hfound]
      exact hall

end Listing

namespace Client

variable {σ : Type} {c c' : Client σ} {path : Text}

/-- A path that is not opened has no entries. -/
theorem run_list_of_unopened {f : Fault} (hopening : (openDirectory path).run c = (.error f, c')) :
    (list path).run c = (.ok { entries := [], fault := some f }, c') := by
  unfold list
  rw [if_neg nofun, Step.run_bind, Step.run_attempt, hopening]
  rfl

/-- A path that is opened is read and then closed. -/
theorem run_list_of_opened {directory : OpenDirectory} {listing : Listing} {held : Held OpenDirectory σ}
    (hopening : (openDirectory path).run c = (.ok directory, c'))
    (hiterate : (OpenDirectory.iterate none).run { object := directory, client := c' } =
      (.ok listing, held)) :
    (list path).run c =
      (.ok (match faultOf (Held.close.run held).1 with
        | some f => { listing with fault := some f }
        | none => listing), (Held.close.run held).2.client) := by
  unfold list
  rw [if_neg nofun, Step.run_bind, Step.run_attempt, hopening]
  dsimp only
  rw [Step.run_within, Step.run_bind, hiterate]
  dsimp only
  rw [Step.run_bind, Step.run_attempt]
  rcases Held.close.run held with ⟨f | ⟨⟩, held'⟩
  · rfl
  · rfl

/-- **Every listing** ends with the fault of the last of its requests that failed. -/
theorem dealt_list (path : Text) (c : Client σ) :
    ∃ listing ds, ((list path).run c).1 = .ok listing ∧ c.Deals ds ((list path).run c).2 ∧
      Listing.Dealt path c.patience listing ds := by
  obtain ⟨outcome, hdeals, hresult⟩ := run_ask_deals (.opendir path) Reply.handle c
  have hread : ∀ p, (Message.opendir path).wants.read p =
      (Reply.handle p).map fun handle => .handle { kind := .directory, handle, path } := fun _ => rfl
  have hpayload := result_of_read hread outcome
  have hfault := fault?_of_read hread nofun outcome
  rw [← hresult] at hpayload hfault
  rcases hask : (ask (.opendir path) Reply.handle).run c with ⟨f | handle, c'⟩
  · have hopening : (openDirectory path).run c = (.error f, c') := by
      unfold openDirectory
      rw [Step.run_bind, hask]
    rw [hask] at hdeals hpayload hfault
    have hnone : Dealing.opened? { request := .opendir path, outcome } = none := by
      unfold Dealing.opened?
      rw [hpayload]
      rfl
    rw [run_list_of_unopened hopening]
    refine ⟨_, _, rfl, hdeals, .unopened rfl hnone, .inl ?_, nofun⟩
    exact ((lastFault?_concat [] _).trans (congrArg (Option.or · none) hfault)).symm
  · have hopening : (openDirectory path).run c =
        (.ok { base := { kind := .directory, handle, path } }, c') := by
      unfold openDirectory
      rw [Step.run_bind, hask]
      rfl
    rw [hask] at hdeals hpayload hfault
    have hhandle : Dealing.opened? { request := .opendir path, outcome } = some handle := by
      unfold Dealing.opened?
      rw [hpayload]
      rfl
    have hopen : ({ kind := .directory, handle, path } : OpenHandle).closed = false := rfl
    -- a reader may see one batch more than there may be round trips
    obtain ⟨reading, hreading, ⟨hbase, -⟩, listing, hlisting, hbrowsing⟩ :=
      OpenDirectory.asks_collect hopen
        (c'.patience + 1) [] { object := { base := { kind := .directory, handle, path } }, client := c' }
        ⟨rfl, hdeals.patience⟩
    rw [hdeals.patience, Nat.min_eq_left (Nat.le_succ c.patience)] at hbrowsing
    rcases hcollect : (OpenDirectory.collect none (c'.patience + 1) []).run
      { object := { base := { kind := .directory, handle, path } }, client := c' } with ⟨result, held⟩
    rw [hcollect] at hreading hbase hlisting
    obtain rfl := hlisting
    obtain ⟨closing, hrequest, hclosing, hclosed⟩ :=
      held.run_close_deals (congrArg OpenHandle.closed hbase)
    have hclose : closing.request = .close handle :=
      hrequest.trans (congrArg (fun base => Message.close base.handle) hbase)
    have hdealt := Listing.Dealt.of_browsing rfl hhandle hfault hbrowsing hclose
    rw [hclosed] at hdealt
    rw [run_list_of_opened hopening hcollect]
    exact ⟨_, _, rfl, hdeals.trans (hreading.trans hclosing), hdealt⟩

end Client

end Sftp
