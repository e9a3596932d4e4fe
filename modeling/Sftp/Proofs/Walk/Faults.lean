import Sftp.Proofs.Walk.Step

/-!
# What a walker keeps of its faults

A walker keeps each fault at the moment at which it meets it, and that is before the entry that reports it is
handed out. Between the two nothing happens: the entry with the fault is always the next. So whenever the
consumer has a turn, the walker has kept the faults of the entries that were handed out, and no others, over
all iterations and wherever these were given up.

* `Walker.Keeps` — the faults that a walker has kept, and the first of them.
* `Walk.IsClear` — no entry that is still to be visited has a fault; **`Walk.accounts_next`** — one visit.
* `Walker.Use`, `Walker.InUse` — what a consumer does with a walker, and what it has of it.
* **`Walker.InUse.keeps_what_was_reported`** — at every turn of the consumer.
-/

namespace Sftp

variable {S : Type} {tree : Tree S} {w : Walker} {k : Walk} {s : S} {faults : List Fault} {f : Fault}

/-! ## Keeping faults -/

/-- A walker has kept these faults and no others. -/
structure Walker.Keeps (w : Walker) (faults : List Fault) : Prop where
  /-- They are its faults, in order. -/
  all : w.faults = faults
  /-- The first of them is the one that it has by itself, if there is one. -/
  first : w.first? = faults.head?

namespace Walker.Keeps

/-- A walker that was not used yet has kept none. -/
theorem fresh (root : Text) (stopOnFault : Bool) : Walker.Keeps { root, stopOnFault } [] :=
  ⟨rfl, rfl⟩

/-- Nothing more is kept. -/
theorem nothing (h : w.Keeps faults) : w.Keeps (faults ++ (none : Option Fault).toList) := by
  rwa [Option.toList_none, List.append_nil]

/-- One more fault is kept after the others. -/
theorem note (h : w.Keeps faults) (f : Fault) : (w.note f).Keeps (faults ++ [f]) where
  all := congrArg (· ++ [f]) h.all
  first := by
    show (if w.first?.isNone then some f else w.first?) = _
    rw [h.first]
    cases faults with
    | nil => rfl
    | cons g faults => rfl

/-- Whether a directory is left out is no fault. -/
theorem skipping (h : w.Keeps faults) (isLeftOut : Bool) :
    Walker.Keeps { w with skipping := isLeftOut } faults :=
  ⟨h.all, h.first⟩

end Walker.Keeps

/-! ## One visit -/

namespace Walk

/-- No entry that is still to be visited has a fault. -/
def IsClear (k : Walk) : Prop :=
  ∀ e ∈ k.stack, e.fault = none

/-- A visit accounts for its fault: if some faults were kept before it, the one of its entry is kept after
them, and none is still to be reported. -/
structure Accounts (faults : List Fault) (outcome : Visit × State S) : Prop where
  /-- The walker has kept the fault. -/
  keeps : outcome.2.1.Keeps (faults ++ (outcome.1.handed?.bind WalkEntry.fault).toList)
  /-- The entries that are still to be visited have none. -/
  clear : IsClear outcome.2.2.1

/-- An entry is handed out, if only it may have a fault and that was kept. -/
theorem accounts_pop_cons {e : WalkEntry} {stack : List WalkEntry} (hw : w.Keeps (faults ++ e.fault.toList))
    (hstack : k.stack = e :: stack) (hclear : ∀ e ∈ stack, e.fault = none) (s : S) :
    Accounts faults (pop w k s) := by
  obtain ⟨isLeftOut, hpop⟩ := pop_cons w hstack s
  rw [hpop]
  exact ⟨hw.skipping isLeftOut, hclear⟩

/-- What is next is handed out, if nothing that is still to be visited has a fault. -/
theorem accounts_pop (hw : w.Keeps faults) (hk : k.IsClear) (s : S) : Accounts faults (pop w k s) := by
  cases hstack : k.stack with
  | nil =>
    rw [pop_nil w hstack]
    exact ⟨hw.nothing, hk⟩
  | cons e stack =>
    have hentries : ∀ e' ∈ e :: stack, e'.fault = none := hstack ▸ hk
    obtain ⟨he, hrest⟩ := List.forall_mem_cons.mp hentries
    refine accounts_pop_cons ?_ hstack hrest s
    rw [he]
    exact hw.nothing

/-- **Every visit accounts for its fault.** -/
theorem accounts_next (tree : Tree S) (hw : w.Keeps faults) (hk : k.IsClear) (s : S) :
    Accounts faults (next tree (w, k, s)) := by
  obtain ⟨s', -, hcomes⟩ := next_comes tree w k s
  generalize next tree (w, k, s) = outcome at hcomes ⊢
  cases hcomes with
  | finishes hstack => exact ⟨hw.nothing, fun e he => hk e (hstack he)⟩
  | goes _ hstack => exact accounts_pop hw (fun e he => (hstack e he).elim (hk e) id) s'
  | @reports _ f _ _ _ he _ hstacked hstack =>
    refine accounts_pop_cons ?_ hstacked (fun e he => hk e (hstack he)) s'
    rw [he]
    exact hw.note f
  | @raises k' _ _ hstack =>
    refine ⟨hw.nothing, ?_⟩
    show ∀ e ∈ k'.stack, e.fault = none
    rw [hstack]
    exact List.forall_mem_nil _

end Walk

/-! ## Walkers in use -/

namespace Walker

/-- One thing that the consumer of a walker does. -/
inductive Use (S : Type)
  /-- It begins an iteration, wherever the one before has got to. -/
  | begin
  /-- It asks for the next entry. -/
  | next
  /-- It asks that the directory visited last be left out. -/
  | skip
  /-- It leaves the walker alone, while something happens to the tree. -/
  | wait (change : S → S)

/-- A walker in use. -/
structure InUse (S : Type) where
  /-- The walker. -/
  walker : Walker
  /-- Where the iteration stands that was begun last. -/
  walk : Walk := {}
  /-- The state of the tree. -/
  state : S
  /-- The entries that were handed out, over all iterations. -/
  entries : List WalkEntry := []

namespace InUse

/-- A walker after its consumer has done something. -/
def after (tree : Tree S) (u : InUse S) : Use S → InUse S
  | .begin => { u with walk := {} }
  | .next =>
    let (visit, walker, walk, state) := Walk.next tree (u.walker, u.walk, u.state)
    { walker, walk, state, entries := u.entries ++ visit.handed?.toList }
  | .skip => { u with walker := u.walker.skip }
  | .wait change => { u with state := change u.state }

/-- A walker after its consumer has done one thing after another. -/
def afterAll (tree : Tree S) (u : InUse S) (uses : List (Use S)) : InUse S :=
  uses.foldl (after tree) u

/-- The faults that were handed out with entries. -/
def reported (u : InUse S) : List Fault :=
  u.entries.filterMap WalkEntry.fault

/-- A walker in use has kept what was reported, and nothing is still to be reported. -/
structure IsAccounted (u : InUse S) : Prop where
  /-- It has kept what was reported. -/
  keeps : u.walker.Keeps u.reported
  /-- The entries that are still to be visited have no faults. -/
  clear : u.walk.IsClear

variable {u : InUse S}

/-- Whatever its consumer does, a walker keeps what was reported. -/
theorem IsAccounted.after (h : u.IsAccounted) (tree : Tree S) (use : Use S) :
    (u.after tree use).IsAccounted := by
  cases use with
  | begin => exact ⟨h.keeps, List.forall_mem_nil _⟩
  | skip => exact ⟨h.keeps.skipping true, h.clear⟩
  | wait change => exact ⟨h.keeps, h.clear⟩
  | next =>
    have hnext := Walk.accounts_next tree h.keeps h.clear u.state
    rcases hvisit : Walk.next tree (u.walker, u.walk, u.state) with ⟨visit, walker, walk, state⟩
    rw [hvisit] at hnext
    have hreported : (u.after tree .next).reported =
        u.reported ++ (visit.handed?.bind WalkEntry.fault).toList := by
      simp only [InUse.after, reported, hvisit]
      rw [List.filterMap_append]
      cases visit.handed? with
      | none => rfl
      | some e => cases h : e.fault <;> simp [h]
    refine ⟨?_, ?_⟩
    · rw [hreported]
      simp only [InUse.after, hvisit]
      exact hnext.keeps
    · simp only [InUse.after, hvisit]
      exact hnext.clear

/-- It does so however long it is in use. -/
theorem IsAccounted.afterAll (h : u.IsAccounted) (tree : Tree S) (uses : List (Use S)) :
    (u.afterAll tree uses).IsAccounted := by
  unfold InUse.afterAll
  induction uses generalizing u with
  | nil => exact h
  | cons use uses ih => exact ih (h.after tree use)

/-- **A walker keeps exactly what was reported.** Its consumer iterates as often as it likes, gives up
iterations at whatever entry or is thrown out of them, leaves out directories, and meanwhile anything may
happen to the tree, whatever it is. At every moment the faults of the walker are those of the entries that were
handed out, over all iterations and in order, and its first fault is the first of them, if there is one. -/
theorem keeps_what_was_reported (tree : Tree S) (root : Text) (stopOnFault : Bool) (state : S)
    (uses : List (Use S)) :
    let u := afterAll tree { walker := { root, stopOnFault }, state } uses
    u.walker.faults = u.entries.filterMap WalkEntry.fault ∧ u.walker.first? = u.walker.faults.head? ∧
      (u.walker.first? = none ↔ u.walker.faults = []) := by
  have hstart : IsAccounted ({ walker := { root, stopOnFault }, state } : InUse S) :=
    ⟨.fresh root stopOnFault, List.forall_mem_nil _⟩
  obtain ⟨⟨hall, hfirst⟩, -⟩ := hstart.afterAll tree uses
  rw [← hall] at hfirst
  exact ⟨hall, hfirst, by rw [hfirst, List.head?_eq_none_iff]⟩

end InUse

end Walker

end Sftp
