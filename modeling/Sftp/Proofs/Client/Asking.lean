import Mathlib.Algebra.GroupWithZero.Nat
import Sftp.Proofs.Client.Dealings
import Sftp.Proofs.OpenHandle.Release

/-!
# Steps that deal

A step of which a client is a part may do a good deal, but to the client it does nothing but make requests.
How such a step ends is told by what came of them.

* `Dealing.Clear`, `Dealing.BreaksOff` — requests none of which failed, and of which only the last did;
  `Dealing.lastFault?` — the fault of the last that failed.
* `Fault.Repeats` — a fault that is passed on, perhaps with the number of confirmed bytes;
  `Fault.Overtaxed`, `Fault.IsOwn` — faults that no request has brought.
* **`Dealing.Straight`** — how a step ends that stops at the first request that fails.
* **`Step.Asks`** — a step that only deals, and how it ends after which dealings; `Step.Asks.bind` and its
  kin — it is closed under the ways in which steps are put together.
* `Client.run_ask_deals`, `Client.dealt_ask`, `Held.run_close_deals` — asking and releasing.
-/

namespace Sftp

/-! ## Ways to end -/

namespace Dealing

/-- None of the requests failed. -/
def Clear (ds : List Dealing) : Prop :=
  ∀ d ∈ ds, d.fault? = none

/-- The last request failed, and none before it. -/
def BreaksOff (ds : List Dealing) (f : Fault) : Prop :=
  ∃ before d, ds = before ++ [d] ∧ Clear before ∧ d.fault? = some f

/-- The fault of the last request that failed. -/
def lastFault? (ds : List Dealing) : Option Fault :=
  (ds.filterMap fault?).getLast?

/-- What the client was given to do in all. -/
def totalWork (ds : List Dealing) : Nat :=
  (ds.map work).sum

end Dealing

namespace Fault

/-- One fault passes another on, perhaps with the number of confirmed bytes. -/
def Repeats (f g : Fault) : Prop :=
  f = g ∨ ∃ n, f = g.withConfirmed n

/-- The server has given so much to do that patience was at its end. -/
def Overtaxed (patience work : Nat) (f : Fault) : Prop :=
  f = .outOfPatience ∧ patience ≤ work

/-- A fault of this side: the system, a value, or patience that was at its end. -/
def IsOwn (patience work : Nat) (f : Fault) : Prop :=
  (f.isSystem || f.isInvalid) = true ∨ f.Overtaxed patience work

variable {f g : Fault} {patience work more : Nat}

/-- The number of confirmed bytes is no matter of which fault it is. -/
theorem category_withConfirmed (f : Fault) (n : Nat) : (f.withConfirmed n).category = f.category := by
  cases f with
  | _ => rfl

/-- A fault that is passed on is of the same family. -/
theorem Repeats.category (h : f.Repeats g) : f.category = g.category := by
  rcases h with rfl | ⟨n, rfl⟩
  · rfl
  · exact g.category_withConfirmed n

/-- More work is not less. -/
theorem Overtaxed.mono (h : f.Overtaxed patience work) (hle : work ≤ more) : f.Overtaxed patience more :=
  ⟨h.1, Nat.le_trans h.2 hle⟩

end Fault

namespace Dealing

variable {α β : Type} {d : Dealing} {ds others : List Dealing} {f g : Fault} {r : Except Fault α}
  {passes passes' : Fault → Fault → Prop} {own own' : Nat → Fault → Prop}

/-- **How a step ends that stops at the first request that fails.** The fault of that request is passed on
in some way; a fault that no request has brought is one of the step's own, after so much work. -/
inductive Straight (passes : Fault → Fault → Prop) (own : Nat → Fault → Prop) :
    Except Fault α → List Dealing → Prop
  /-- No request failed, and there is a result. -/
  | done {x : α} {ds : List Dealing} (h : Clear ds) : Straight passes own (.ok x) ds
  /-- A request failed, and its fault is passed on. -/
  | refused {ds : List Dealing} {f g : Fault} (h : BreaksOff ds g) (hf : passes f g) :
      Straight passes own (.error f) ds
  /-- No request failed, but there is a fault. -/
  | own {ds : List Dealing} {f : Fault} (h : Clear ds) (hf : own (totalWork ds) f) :
      Straight passes own (.error f) ds

/-- No requests. -/
theorem clear_nil : Clear [] :=
  List.forall_mem_nil _

/-- Requests after requests. -/
theorem Clear.append (h : Clear ds) (h' : Clear others) : Clear (ds ++ others) :=
  List.forall_mem_append.mpr ⟨h, h'⟩

/-- A failure after requests that did not fail. -/
theorem BreaksOff.after (h : Clear ds) (h' : BreaksOff others f) : BreaksOff (ds ++ others) f := by
  obtain ⟨before, d, rfl, hbefore, hd⟩ := h'
  exact ⟨ds ++ before, d, (List.append_assoc ds before [d]).symm, h.append hbefore, hd⟩

/-- Of requests that did not fail, none was the last to. -/
theorem lastFault?_eq_none_iff : lastFault? ds = none ↔ Clear ds := by
  rw [lastFault?, List.getLast?_eq_none_iff, List.filterMap_eq_nil_iff]
  exact Iff.rfl

/-- The last of some requests, and one more. -/
theorem lastFault?_concat (ds : List Dealing) (d : Dealing) :
    lastFault? (ds ++ [d]) = d.fault?.or (lastFault? ds) := by
  unfold lastFault?
  rw [List.filterMap_append]
  cases hd : d.fault? with
  | none => rw [List.filterMap_cons_none hd, List.filterMap_nil, List.append_nil, Option.none_or]
  | some f => rw [List.filterMap_cons_some hd, List.filterMap_nil, List.getLast?_concat, Option.some_or]

/-- The fault of the last that failed is one of them. -/
theorem exists_of_lastFault? (h : lastFault? ds = some f) : ∃ d ∈ ds, d.fault? = some f :=
  List.mem_filterMap.mp (List.mem_of_getLast? h)

/-- Requests that break off fail with the last. -/
theorem BreaksOff.lastFault? (h : BreaksOff ds f) : lastFault? ds = some f := by
  obtain ⟨before, d, rfl, -, hd⟩ := h
  rw [lastFault?_concat, hd, Option.some_or]

@[simp] theorem totalWork_append (ds others : List Dealing) :
    totalWork (ds ++ others) = totalWork ds + totalWork others := by
  unfold totalWork
  rw [List.map_append, List.sum_append]

@[simp] theorem totalWork_cons (d : Dealing) (ds : List Dealing) :
    totalWork (d :: ds) = d.work + totalWork ds :=
  List.sum_cons

/-- Every request is work. -/
theorem length_le_totalWork (ds : List Dealing) : ds.length ≤ totalWork ds := by
  induction ds with
  | nil => exact Nat.le_refl 0
  | cons d ds ih =>
    rw [totalWork_cons, List.length_cons, work]
    omega

namespace Straight

/-- The faults may be told in other words. -/
theorem imp (h : Straight passes own r ds) (hpasses : ∀ f g, passes f g → passes' f g)
    (hown : ∀ f, own (totalWork ds) f → own' (totalWork ds) f) : Straight passes' own' r ds := by
  cases h with
  | done h => exact .done h
  | refused h hf => exact .refused h (hpasses _ _ hf)
  | own h hf => exact .own h (hown _ hf)

/-- **One step after another**, if the first has a result; what it was given to do counts. -/
theorem after (h : Clear ds) (h' : Straight passes own' r others)
    (hown : ∀ f, own' (totalWork others) f → own (totalWork ds + totalWork others) f) :
    Straight passes own r (ds ++ others) := by
  cases h' with
  | done h' => exact .done (h.append h')
  | refused h' hf => exact .refused (h'.after h) hf
  | own h' hf =>
    refine .own (h.append h') ?_
    rw [totalWork_append]
    exact hown _ hf

/-- Requests before a result did not fail. -/
theorem clear {x : α} (h : Straight passes own (.ok x) ds) : Clear ds := by
  cases h with
  | done h => exact h

/-- A fault is a fault of whatever type of result. -/
theorem of_error (h : Straight passes own (.error f : Except Fault α) ds) :
    Straight passes own (.error f : Except Fault β) ds := by
  cases h with
  | refused h hf => exact .refused h hf
  | own h hf => exact .own h hf

end Straight

end Dealing

/-! ## Steps -/

namespace Step

variable {S T σ α β : Type}

/-- All that a step does to a client is to deal, from states of which something holds to such states; `ends`
tells how it ends after which dealings. -/
def Asks (part : S → Client σ) (kept : S → Prop) (ends : Except Fault α → List Dealing → Prop)
    (a : Step S α) : Prop :=
  ∀ s, kept s →
    ∃ ds, (part s).Deals ds (part (a.run s).2) ∧ kept (a.run s).2 ∧ ends (a.run s).1 ds

variable {part : S → Client σ} {kept : S → Prop} {ends : Except Fault α → List Dealing → Prop}
  {a : Step S α}

/-- A step that leaves the client alone. -/
theorem asks_of_same (hsame : ∀ s, part (a.run s).2 = part s) (hkept : ∀ s, kept s → kept (a.run s).2)
    (hends : ∀ s, kept s → ends (a.run s).1 []) : a.Asks part kept ends := by
  intro s hs
  refine ⟨[], ?_, hkept s hs, hends s hs⟩
  rw [hsame]
  exact .refl _

namespace Asks

/-- How a step ends may be told in other words. -/
theorem imp {ends' : Except Fault α → List Dealing → Prop} (h : a.Asks part kept ends)
    (himp : ∀ r ds, ends r ds → ends' r ds) : a.Asks part kept ends' := by
  intro s hs
  obtain ⟨ds, hdeals, hkept, hends⟩ := h s hs
  exact ⟨ds, hdeals, hkept, himp _ _ hends⟩

/-- **One step after another.** -/
theorem bind {k : α → Step S β} {both : Except Fault β → List Dealing → Prop}
    (h : a.Asks part kept ends) (herror : ∀ f ds, ends (.error f) ds → both (.error f) ds)
    (hok : ∀ x ds, ends (.ok x) ds → (k x).Asks part kept fun r others => both r (ds ++ others)) :
    (a >>= k).Asks part kept both := by
  intro s hs
  obtain ⟨ds, hdeals, hkept, hends⟩ := h s hs
  rw [run_bind]
  generalize a.run s = outcome at hdeals hkept hends ⊢
  rcases outcome with ⟨f | x, t⟩
  · exact ⟨ds, hdeals, hkept, herror f ds hends⟩
  · obtain ⟨others, hdeals', hkept', hends'⟩ := hok x ds hends t hkept
    exact ⟨ds ++ others, hdeals.trans hdeals', hkept', hends'⟩

/-- A step on a part of the state that has the client. -/
theorem within {a : Step T α} {part : T → Client σ} {kept : T → Prop} {whole : S → Client σ}
    {held : S → Prop} {focus : S → T} {replace : S → T → S} (h : a.Asks part kept ends)
    (hfocus : ∀ s, held s → kept (focus s) ∧ part (focus s) = whole s)
    (hreplace : ∀ s t, held s → kept t → held (replace s t) ∧ whole (replace s t) = part t) :
    (Step.within focus replace a).Asks whole held ends := by
  intro s hs
  obtain ⟨hkept, hpart⟩ := hfocus s hs
  obtain ⟨ds, hdeals, hkept', hends⟩ := h _ hkept
  obtain ⟨hheld, hwhole⟩ := hreplace s _ hs hkept'
  refine ⟨ds, ?_, hheld, hends⟩
  rw [run_within, hwhole, ← hpart]
  exact hdeals

end Asks

end Step

/-! ## Asking -/

namespace Client

variable {σ α : Type} {c c' : Client σ} {ds : List Dealing} {m : Message}
  {read : Packet → Except Fault α}

/-- Dealings leave the patience of a client. -/
theorem Deals.patience (h : c.Deals ds c') : c'.patience = c.patience := by
  obtain ⟨link, rfl, -⟩ := h.keeps
  rfl

/-- Asking is one dealing. -/
theorem run_ask_deals (m : Message) (read : Packet → Except Fault α) (c : Client σ) :
    ∃ outcome, c.Deals [{ request := m, outcome }] ((ask m read).run c).2 ∧
      ((ask m read).run c).1 = outcome.bind read := by
  refine ⟨((request m).run c).1, ?_, ?_⟩
  · rw [state_ask]
    exact .one c m
  · rw [run_ask]
    rcases (request m).run c with ⟨f | reply, c'⟩
    · rfl
    · rfl

/-- What a reply brings is read as it is wanted. -/
theorem result_of_read {w : α → Payload} (hread : ∀ p, m.wants.read p = (read p).map w)
    (outcome : Except Fault Packet) :
    Dealing.result { request := m, outcome } = (outcome.bind read).map w := by
  unfold Dealing.result
  cases outcome with
  | error f => rfl
  | ok p => exact hread p

/-- A dealing whose reply is read as it is wanted fails as reading does. -/
theorem fault?_of_read {w : α → Payload} (hread : ∀ p, m.wants.read p = (read p).map w)
    (hkind : m.kind ≠ .readdir) (outcome : Except Fault Packet) :
    Dealing.fault? { request := m, outcome } = faultOf (outcome.bind read) := by
  unfold Dealing.fault?
  rw [result_of_read hread]
  cases outcome.bind read with
  | ok a => rfl
  | error f =>
    show (some f).filter _ = some f
    rw [Option.filter_some, decide_eq_false hkind]
    rfl

/-- Asking ends with the fault of its request. -/
theorem straight_of_read {w : α → Payload} (hread : ∀ p, m.wants.read p = (read p).map w)
    (hkind : m.kind ≠ .readdir) (own : Nat → Fault → Prop) (outcome : Except Fault Packet) :
    Dealing.Straight Eq own (outcome.bind read) [{ request := m, outcome }] := by
  have hfault := fault?_of_read hread hkind outcome
  cases hresult : outcome.bind read with
  | ok a =>
    rw [hresult] at hfault
    exact .done (List.forall_mem_singleton.mpr hfault)
  | error f =>
    rw [hresult] at hfault
    exact .refused ⟨[], _, rfl, Dealing.clear_nil, hfault⟩ rfl

/-- Asking is a step that deals. -/
theorem asks_ask {w : α → Payload} (hread : ∀ p, m.wants.read p = (read p).map w)
    (hkind : m.kind ≠ .readdir) (own : Nat → Fault → Prop) (patience : Nat) :
    (ask m read : Step (Client σ) α).Asks id (·.patience = patience) (Dealing.Straight Eq own) := by
  intro c hc
  obtain ⟨outcome, hdeals, hresult⟩ := run_ask_deals m read c
  refine ⟨_, hdeals, hdeals.patience.trans hc, ?_⟩
  rw [hresult]
  exact straight_of_read hread hkind own outcome

/-- To ask, and to make something of what comes, is one dealing, which fails as that does. -/
theorem dealt_ask {β : Type} {w : α → Payload} (hread : ∀ p, m.wants.read p = (read p).map w)
    (hkind : m.kind ≠ .readdir) (make : α → β) (c : Client σ) :
    ∃ d : Dealing, d.request = m ∧
      c.Deals [d] ((do return make (← ask m read) : Step (Client σ) β).run c).2 ∧
      d.fault? = faultOf ((do return make (← ask m read) : Step (Client σ) β).run c).1 := by
  obtain ⟨outcome, hdeals, hresult⟩ := run_ask_deals m read c
  have hfault := fault?_of_read hread hkind outcome
  rw [← hresult] at hfault
  refine ⟨{ request := m, outcome }, rfl, ?_⟩
  rw [Step.run_bind]
  generalize (ask m read).run c = after at hdeals hfault ⊢
  rcases after with ⟨f | a, c'⟩
  · exact ⟨hdeals, hfault⟩
  · exact ⟨hdeals, hfault⟩

end Client

/-! ## Releasing -/

/-- Closing an open object is one dealing. -/
theorem Held.run_close_deals {ρ σ : Type} [OwnsHandle ρ] {h : Held ρ σ}
    (hopen : (OwnsHandle.base h.object).closed = false) :
    ∃ d : Dealing, d.request = .close (OwnsHandle.base h.object).handle ∧
      h.client.Deals [d] (close.run h).2.client ∧ d.fault? = faultOf (close.run h).1 := by
  obtain ⟨outcome, hdeals, hresult⟩ :=
    Client.run_ask_deals (.close (OwnsHandle.base h.object).handle) Reply.ok h.client
  rw [run_close_of_open hopen]
  refine ⟨_, rfl, hdeals, ?_⟩
  show _ = faultOf ((Client.ask _ Reply.ok).run h.client).1
  rw [hresult]
  exact Client.fault?_of_read (w := fun _ => .nothing) (fun _ => rfl) (by exact nofun) outcome

end Sftp
