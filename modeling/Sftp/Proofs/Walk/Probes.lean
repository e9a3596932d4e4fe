import Sftp.Proofs.OpenDirectory.Requests
import Sftp.Proofs.Walk.Stack
import Sftp.Proofs.Walk.Step

/-!
# What a walk asks of a server

A walk over the tree of a client asks what the root is, and then what is in one directory after another.
Whatever the server is, each of these probes is made and over between two entries, and its fault is the
fault of the next entry.

* `Walk.Probe` — one thing that a walk asks, and its dealings; `Probe.fault?` — the fault that comes of it.
* `Walk.Reached` — the paths that a walk can get to.
* `Walk.Standing` — an invariant of where a walk stands; **`Walk.next_probes`** — one visit.
* `Walk.Told` — what the consumer is told of the faults; `Walk.Underway` — an invariant of a walk that can go
  on, and **`Walk.Underway.entry`**, that a visit keeps it; **`Walk.visit_probes`** — a whole walk, left at
  whatever entry.
-/

namespace Sftp

open Dealing

/-- What an entry reports, if it is a fault. -/
def WalkEntry.report? (e : WalkEntry) : Option (Text × Fault) :=
  e.fault.map (e.path, ·)

/-- To ask what a path is, is one dealing. -/
theorem Client.dealt_lstat {σ : Type} (path : Text) (c : Client σ) :
    ∃ d : Dealing, d.request = .lstat path ∧ c.Deals [d] ((lstat path).run c).2 ∧
      d.fault? = faultOf ((lstat path).run c).1 :=
  dealt_ask (w := .attributes) (fun _ => rfl) (by exact nofun) (FileStats.ofAttributes path.leafName) c

/-- To leave a directory out is no fault. -/
theorem Walker.Notes.skip {w w' : Walker} {faults : List Fault} (h : w.Notes faults w') :
    w.Notes faults w'.skip := by
  have hskipped := h.trans (Walker.Notes.skipping w' true)
  rwa [List.append_nil] at hskipped

namespace Walk

/-! ## Probes -/

/-- One thing that a walk asks of a server. -/
structure Probe where
  /-- The path that it is about. -/
  path : Text
  /-- The requests, and what came of them. -/
  dealings : List Dealing

namespace Probe

/-- The fault that comes of it, with the path. -/
def fault? (p : Probe) : Option (Text × Fault) :=
  (lastFault? p.dealings).map (p.path, ·)

/-- What a walk from a root asks: what the root is, and what is in a directory. -/
inductive Of (root : Text) : Probe → Prop
  /-- What the root is. -/
  | root {d : Dealing} (h : d.request = .lstat root) : Of root ⟨root, [d]⟩
  /-- What is in a directory. -/
  | listing {path : Text} {ds : List Dealing} (h : Listing.Requests path ds) : Of root ⟨path, ds⟩

end Probe

/-- All that was done for some probes. -/
def allDealings (probes : List Probe) : List Dealing :=
  probes.flatMap Probe.dealings

@[simp] theorem allDealings_append (probes others : List Probe) :
    allDealings (probes ++ others) = allDealings probes ++ allDealings others :=
  List.flatMap_append

/-- The dealings of one probe. -/
@[simp] theorem allDealings_singleton (p : Probe) : allDealings [p] = p.dealings :=
  List.append_nil _

/-- The paths that a walk from a root can get to with the names that came in replies. -/
inductive Reached (root : Text) (ds : List Dealing) : Text → Prop
  /-- The root. -/
  | root : Reached root ds root
  /-- A name below a path. -/
  | child {parent name : Text} {d : Dealing} (h : Reached root ds parent) (hd : d ∈ ds)
      (hname : name ∈ d.names) : Reached root ds (parent.joinPath name)

/-- More replies only add paths. -/
theorem Reached.mono {root path : Text} {ds : List Dealing} (h : Reached root ds path)
    (others : List Dealing) : Reached root (ds ++ others) path := by
  induction h with
  | root => exact .root
  | child _ hd hname ih => exact .child ih (List.mem_append_left others hd) hname

/-! ## One visit -/

section visit

variable {σ : Type} {root : Text} {past : List Dealing} {w w' : Walker} {k k' : Walk} {c c' : Client σ}
  {patience : Nat} {probes : List Probe} {visit : Visit}

/-- Where a walk stands: its entries are paths that it got to, and none still to be visited has a fault. -/
structure Standing (root : Text) (past : List Dealing) (k : Walk) : Prop where
  /-- What is still to be visited has no fault. -/
  stack : ∀ e ∈ k.stack, e.fault = none ∧ Reached root past e.path
  /-- The entry visited last is a path that it got to. -/
  last : ∀ e, k.last = some e → Reached root past e.path

/-- How a visit reports what was asked for it. Entries that are still to be visited came in replies. -/
inductive Reports (patience : Nat) (k : Walk) (probes : List Probe) : Visit → Walk → Prop
  /-- An entry has the fault that there was. -/
  | entry {e : WalkEntry} {k' : Walk} (hfault : probes.filterMap Probe.fault? = e.report?.toList)
      (hstack : k'.stack.length + 1 ≤ k.stack.length + totalWork (allDealings probes)) :
      Reports patience k probes (.entry e) k'
  /-- The walk is over, and there was no fault. -/
  | done {k' : Walk} (hfault : probes.filterMap Probe.fault? = []) : Reports patience k probes .done k'
  /-- A fault that is none of the system or the server ends the walk. -/
  | raised {path : Text} {f : Fault} {k' : Walk} (hfault : probes.filterMap Probe.fault? = [(path, f)])
      (hsystem : f.isSystem = false) : Reports patience k probes (.raised f) k'
  /-- Patience was at its end. -/
  | overtaxed {f : Fault} {k' : Walk} (hfault : probes.filterMap Probe.fault? = [])
      (hf : f.Overtaxed patience (totalWork (allDealings probes))) :
      Reports patience k probes (.raised f) k'

/-- One visit of a walk of a client: what was asked for it, and how it reports that. -/
structure Visited (past : List Dealing) (w : Walker) (k : Walk) (c : Client σ) (probes : List Probe)
    (outcome : Visit × State (Client σ)) : Prop where
  /-- Nothing else was done. -/
  deals : c.Deals (allDealings probes) outcome.2.2.2
  /-- The probes are those of a walk, about paths that it got to. -/
  asked : ∀ p ∈ probes, p.Of w.root ∧ Reached w.root past p.path
  /-- The walk goes on from paths that it got to. -/
  standing : Standing w.root (past ++ allDealings probes) outcome.2.2.1
  /-- The walker has the same root. -/
  root : outcome.2.1.root = w.root
  /-- It keeps the faults, unless one ends the walk. -/
  notes : (∃ f, outcome.1 = .raised f) ∨
    w.Notes (probes.filterMap fun p => p.fault?.map Prod.snd) outcome.2.1
  /-- The visit reports them. -/
  reports : Reports c.patience k probes outcome.1 outcome.2.2.1

/-- More replies only add paths. -/
theorem Standing.mono (hk : Standing root past k) (others : List Dealing) :
    Standing root (past ++ others) k :=
  ⟨fun e he => ⟨(hk.stack e he).1, (hk.stack e he).2.mono others⟩, fun e he => (hk.last e he).mono others⟩

/-- An entry is taken off the stack, and nothing is wrong with it. -/
theorem visited_pop (hdeals : c.Deals (allDealings probes) c')
    (hprobes : ∀ p ∈ probes, p.Of w.root ∧ Reached w.root past p.path)
    (hclear : probes.filterMap Probe.fault? = [])
    (hk' : Standing w.root (past ++ allDealings probes) k')
    (hstack : k'.stack.length ≤ k.stack.length + totalWork (allDealings probes)) :
    Visited past w k c probes (pop w k' c') := by
  have hnotes : probes.filterMap (fun p => p.fault?.map Prod.snd) = [] := by
    rw [← List.map_filterMap, hclear]
    rfl
  cases hentries : k'.stack with
  | nil =>
    rw [pop_nil w hentries]
    refine ⟨hdeals, hprobes, ⟨hk'.stack, ?_⟩, rfl, .inr ?_, .done hclear⟩
    · intro e he
      cases he
    · rw [hnotes]
      exact .skipping w w.skipping
  | cons e stack =>
    obtain ⟨isLeftOut, hpop⟩ := pop_cons w hentries c'
    have he := hk'.stack e (hentries ▸ List.mem_cons_self)
    have hrest : ∀ e' ∈ stack, e' ∈ k'.stack := fun e' he' => hentries ▸ List.mem_cons_of_mem e he'
    rw [hpop]
    refine ⟨hdeals, hprobes, ⟨fun e' he' => hk'.stack e' (hrest e' he'), ?_⟩, rfl, .inr ?_,
      .entry ?_ ?_⟩
    · rintro _ ⟨⟩
      exact he.2
    · rw [hnotes]
      exact .skipping w isLeftOut
    · rw [hclear, WalkEntry.report?, he.1]
      rfl
    · rw [hentries] at hstack
      exact hstack

/-- A fault is the next entry. -/
theorem visited_note {p : Probe} {f : Fault} {e : WalkEntry} {stack : List WalkEntry}
    (hdeals : c.Deals p.dealings c') (hp : p.Of w.root) (hreached : Reached w.root past p.path)
    (hfault : lastFault? p.dealings = some f) (he : e.path = p.path ∧ e.fault = some f)
    (hstack : k'.stack = e :: stack)
    (hrest : ∀ e ∈ stack, e.fault = none ∧ Reached w.root past e.path)
    (hlength : stack.length ≤ k.stack.length) :
    Visited past w k c [p] (pop (w.note f) k' c') := by
  have hreport : [p].filterMap Probe.fault? = e.report?.toList := by
    rw [List.filterMap_cons, Probe.fault?, hfault, WalkEntry.report?, he.1, he.2]
    rfl
  have hnotes : [p].filterMap (fun p => p.fault?.map Prod.snd) = [f] := by
    rw [List.filterMap_cons, Probe.fault?, hfault]
    rfl
  have hwork : 1 ≤ totalWork p.dealings := by
    obtain ⟨d, hd, -⟩ := exists_of_lastFault? hfault
    exact Nat.le_trans (List.length_pos_of_mem hd) (length_le_totalWork _)
  obtain ⟨isLeftOut, hpop⟩ := pop_cons (w.note f) hstack c'
  rw [hpop]
  refine ⟨?_, List.forall_mem_singleton.mpr ⟨hp, hreached⟩, ⟨fun e' he' => ?_, ?_⟩, rfl, .inr ?_,
    .entry hreport ?_⟩
  · rw [allDealings_singleton]
    exact hdeals
  · obtain ⟨hnone, hpath⟩ := hrest e' he'
    exact ⟨hnone, hpath.mono _⟩
  · rintro _ ⟨⟩
    rw [he.1]
    exact hreached.mono _
  · rw [hnotes]
    exact (Walker.Notes.note w f).trans (.skipping (w.note f) isLeftOut)
  · rw [allDealings_singleton]
    dsimp only
    omega

/-- A fault that is none of the system or the server ends the walk. -/
theorem visited_raised {p : Probe} {f : Fault} (hdeals : c.Deals p.dealings c') (hp : p.Of w.root)
    (hreached : Reached w.root past p.path) (hsystem : f.isSystem = false)
    (hfault : lastFault? p.dealings = some f ∨
      lastFault? p.dealings = none ∧ f.Overtaxed c.patience (totalWork p.dealings))
    (hstack : k'.stack = []) (hlast : k'.last = none) :
    Visited past w k c [p] (.raised f, w, k', c') := by
  refine ⟨?_, List.forall_mem_singleton.mpr ⟨hp, hreached⟩, ⟨?_, ?_⟩, rfl, .inl ⟨f, rfl⟩, ?_⟩
  · rw [allDealings_singleton]
    exact hdeals
  · show ∀ e ∈ k'.stack, _
    rw [hstack]
    exact List.forall_mem_nil _
  · intro e he
    cases hlast.symm.trans he
  · rcases hfault with hfault | ⟨hclear, hover⟩
    · have hlast : [p].filterMap Probe.fault? = [(p.path, f)] := by
        rw [List.filterMap_cons, Probe.fault?, hfault]
        rfl
      exact .raised hlast hsystem
    · refine .overtaxed ?_ ?_
      · rw [List.filterMap_cons, Probe.fault?, hclear]
        rfl
      · rw [allDealings_singleton]
        exact hover

/-- Nothing is asked for some visits. -/
theorem visited_nothing (hk : Standing w.root past k) : Visited past w k c [] (pop w k c) :=
  visited_pop (.refl c) (List.forall_mem_nil _) rfl (hk.mono _) (Nat.le_add_right _ _)

/-- A walk that is over stays over. -/
theorem visited_done (hk' : Standing w.root past k') : Visited past w k c [] (.done, w, k', c) :=
  ⟨.refl c, List.forall_mem_nil _, hk'.mono _, rfl, .inr (.skipping w w.skipping), .done rfl⟩

/-- Looking at the root. -/
theorem visited_enter (past : List Dealing) (w : Walker) (k : Walk) (c : Client σ) :
    ∃ probes, Visited past w k c probes (enter Client.tree w c) := by
  obtain ⟨d, hrequest, hdeals, hfault⟩ := Client.dealt_lstat w.root c
  have hlast : lastFault? [d] = d.fault? := (lastFault?_concat [] d).trans Option.or_none
  have hof : Probe.Of w.root ⟨w.root, [d]⟩ := .root hrequest
  refine ⟨[⟨w.root, [d]⟩], ?_⟩
  have htree : (Client.tree.lstat w.root).run c = (Client.lstat w.root).run c := rfl
  unfold enter
  rw [htree]
  generalize (Client.lstat w.root).run c = after at hdeals hfault ⊢
  rcases after with ⟨f | stats, c'⟩
  · dsimp only
    have hf : lastFault? [d] = some f := hlast.trans hfault
    by_cases hsystem : f.isSystem = true
    · rw [if_pos hsystem]
      exact visited_note hdeals hof .root hf ⟨rfl, rfl⟩ rfl (List.forall_mem_nil _) (Nat.zero_le _)
    · rw [if_neg hsystem]
      exact visited_raised hdeals hof .root (Bool.eq_false_iff.mpr hsystem) (.inl hf) rfl rfl
  · refine visited_pop ?_ (List.forall_mem_singleton.mpr ⟨hof, .root⟩) ?_ ⟨?_, ?_⟩ ?_
    · rw [allDealings_singleton]
      exact hdeals
    · rw [List.filterMap_cons, Probe.fault?, hlast, hfault]
      rfl
    · exact List.forall_mem_singleton.mpr ⟨rfl, .root⟩
    · intro e he
      cases he
    · rw [allDealings_singleton]
      exact Nat.le_trans (length_le_totalWork [d]) (Nat.le_add_left _ _)

/-- The children of a directory are as many as its entries. -/
theorem length_childEntries (path : Text) (children : List FileStats) :
    (childEntries path children).length = children.length := by
  unfold childEntries
  rw [List.length_map, List.length_mergeSort]

/-- They are paths that the walk gets to from there. -/
theorem standing_childEntries {path : Text} {ds : List Dealing} {children : List FileStats}
    (hreached : Reached root past path) (hbrought : Brought ds children) {e : WalkEntry}
    (he : e ∈ childEntries path children) : e.fault = none ∧ Reached root (past ++ ds) e.path := by
  obtain ⟨s, hs, rfl⟩ := mem_childEntries he
  obtain ⟨d, hd, hname⟩ := hbrought.names s hs
  exact ⟨rfl, .child (hreached.mono ds) (List.mem_append_right past hd) hname⟩

/-- Going down into a directory. -/
theorem visited_descend (hk : Standing w.root past k) {e : WalkEntry} (he : k.last = some e) (c : Client σ) :
    ∃ probes, Visited past w k c probes (descend Client.tree e w k c) := by
  obtain ⟨listing, ds, hlisting, hdeals, hdealt⟩ := Client.dealt_list e.path c
  have hreached := hk.last e he
  have hof : Probe.Of w.root ⟨e.path, ds⟩ := .listing hdealt.requests
  refine ⟨[⟨e.path, ds⟩], ?_⟩
  have htree : (Client.tree.list e.path).run c = (.ok listing, ((Client.list e.path).run c).2) :=
    Prod.ext hlisting rfl
  unfold descend
  rw [htree]
  dsimp only
  generalize ((Client.list e.path).run c).2 = c' at hdeals ⊢
  cases hcomplete : (Except.ok listing : Except Fault Listing).bind Listing.complete with
  | ok children =>
    obtain ⟨hnone, rfl⟩ := Listing.complete_eq_ok_iff.mp hcomplete
    have hbrought := hdealt.entries hnone
    have hclear : lastFault? ds = none := by
      rcases hdealt.fault with hlast | ⟨-, f, hf, -⟩
      · exact hlast.symm.trans hnone
      · cases hnone.symm.trans hf
    refine visited_pop ?_ (List.forall_mem_singleton.mpr ⟨hof, hreached⟩) ?_ ⟨?_, ?_⟩ ?_
    · rw [allDealings_singleton]
      exact hdeals
    · rw [List.filterMap_cons, Probe.fault?, hclear]
      rfl
    · rw [allDealings_singleton]
      intro e' he'
      rcases List.mem_append.mp he' with he' | he'
      · exact standing_childEntries hreached hbrought he'
      · exact (hk.mono ds).stack e' he'
    · rw [allDealings_singleton]
      exact (hk.mono ds).last
    · rw [allDealings_singleton, List.length_append, length_childEntries, Nat.add_comm]
      exact Nat.add_le_add_left hbrought.length _
  | error f =>
    have hf := Listing.complete_eq_error_iff.mp hcomplete
    dsimp only
    by_cases hsystem : f.isSystem = true
    · rw [if_pos hsystem]
      have hlast : lastFault? ds = some f := by
        rcases hdealt.fault with hlast | ⟨-, g, hg, hover⟩
        · exact hlast.symm.trans hf
        · obtain rfl := Option.some.inj (hf.symm.trans hg)
          rw [hover.1] at hsystem
          cases hsystem
      exact visited_note (e := { e with fault := some f }) hdeals hof hreached hlast ⟨rfl, rfl⟩ rfl
        hk.stack (Nat.le_refl _)
    · rw [if_neg hsystem]
      refine visited_raised hdeals hof hreached (Bool.eq_false_iff.mpr hsystem) ?_ rfl rfl
      rcases hdealt.fault with hlast | ⟨hclear, g, hg, hover⟩
      · exact .inl (hlast.symm.trans hf)
      · obtain rfl := Option.some.inj (hf.symm.trans hg)
        exact .inr ⟨lastFault?_eq_none_iff.mpr hclear, hover⟩

/-- **One visit of a walk of a client**, whatever the server is. -/
theorem next_probes (hk : Standing w.root past k) (c : Client σ) :
    ∃ probes, Visited past w k c probes (next Client.tree (w, k, c)) := by
  unfold next
  dsimp only
  split
  · exact visited_enter past w k c
  · cases hlast : k.last with
    | none => exact ⟨[], visited_done hk⟩
    | some e =>
      dsimp only
      split
      · split
        · refine ⟨[], visited_done ⟨List.forall_mem_nil _, ?_⟩⟩
          intro e he
          cases he
        · exact ⟨[], visited_nothing hk⟩
      · split
        · exact ⟨[], visited_nothing hk⟩
        · exact visited_descend hk hlast c

end visit

/-! ## A whole walk -/

/-- What the consumer of a walk is told, if these were the faults. -/
structure Told (patience work : Nat) (seen : Seen) (faults : List (Text × Fault)) : Prop where
  /-- Without a fault that ended the walk, the entries report all faults, in order. -/
  complete : seen.fault = none → faults = seen.entries.filterMap WalkEntry.report?
  /-- Only a fault that is none of the system or the server ends a walk. -/
  raised : ∀ f, seen.fault = some f →
    (∃ path, faults = seen.entries.filterMap WalkEntry.report? ++ [(path, f)] ∧ f.isSystem = false) ∨
      faults = seen.entries.filterMap WalkEntry.report? ∧ f.Overtaxed patience work
  /-- All entries came in replies. -/
  length : seen.entries.length ≤ work

/-- A walk of a client, left wherever its consumer stops: what was asked for it, and what it told. -/
structure Walked (w : Walker) (c : Client σ) (probes : List Probe) (outcome : Seen × Walker × Client σ) :
    Prop where
  /-- Nothing else was done. -/
  deals : c.Deals (allDealings probes) outcome.2.2
  /-- The probes are those of a walk, about paths that it got to. -/
  asked : ∀ p ∈ probes, p.Of w.root ∧ Reached w.root (allDealings probes) p.path
  /-- The consumer is told of the faults. -/
  told : Told c.patience (totalWork (allDealings probes)) outcome.1 (probes.filterMap Probe.fault?)
  /-- The walker keeps them, unless one ends the walk. -/
  notes : outcome.1.fault = none → w.Notes (probes.filterMap fun p => p.fault?.map Prod.snd) outcome.2.1

/-- A walk of a client that can go on: what was asked for it, what its consumer has seen, and where it
stands. -/
structure Underway (w : Walker) (c : Client σ) (probes : List Probe) (seen : List WalkEntry)
    (state : State (Client σ)) : Prop where
  /-- Nothing else was done. -/
  deals : c.Deals (allDealings probes) state.2.2
  /-- The probes are those of a walk, about paths that it got to. -/
  asked : ∀ p ∈ probes, p.Of w.root ∧ Reached w.root (allDealings probes) p.path
  /-- The walk goes on from paths that it got to. -/
  standing : Standing w.root (allDealings probes) state.2.1
  /-- The walker has the same root. -/
  root : state.1.root = w.root
  /-- It keeps the faults. -/
  notes : w.Notes (probes.filterMap fun p => p.fault?.map Prod.snd) state.1
  /-- The entries report them, in order. -/
  told : probes.filterMap Probe.fault? = seen.reverse.filterMap WalkEntry.report?
  /-- All entries came in replies, and so did those that are to come. -/
  length : seen.length + state.2.1.stack.length ≤ totalWork (allDealings probes)

namespace Underway

variable {σ : Type} {w w' : Walker} {c : Client σ} {before probes : List Probe} {seen : List WalkEntry}
  {visited : Visit} {state state' : State (Client σ)}

/-- A walk begins so. -/
theorem begin (w : Walker) (c : Client σ) : Underway w c [] [] (w, {}, c) := by
  refine ⟨.refl c, List.forall_mem_nil _, ⟨List.forall_mem_nil _, ?_⟩, rfl, .skipping w w.skipping, rfl,
    Nat.le_refl 0⟩
  intro e he
  cases he

/-- The consumer may leave it. -/
theorem leave (h : Underway w c before seen state) :
    Walked w c before ({ entries := seen.reverse, stopped := true }, state.1, state.2.2) := by
  refine ⟨h.deals, h.asked, ⟨fun _ => h.told, nofun, ?_⟩, fun _ => h.notes⟩
  rw [List.length_reverse]
  exact Nat.le_trans (Nat.le_add_right _ _) h.length

/-- Other faults come after those that the entries report. -/
theorem told_append (h : Underway w c before seen state) (probes : List Probe) :
    (before ++ probes).filterMap Probe.fault? =
      seen.reverse.filterMap WalkEntry.report? ++ probes.filterMap Probe.fault? := by
  rw [List.filterMap_append, h.told]

/-- The entries that there are came in replies, whatever else is asked. -/
theorem length_append (h : Underway w c before seen state) (probes : List Probe) :
    seen.reverse.length ≤ totalWork (allDealings (before ++ probes)) := by
  have hlength := h.length
  rw [List.length_reverse, allDealings_append, totalWork_append]
  omega

section visit

variable (h : Underway w c before seen state)
  (hvisited : Visited (allDealings before) state.1 state.2.1 state.2.2 probes (visited, state'))

include h hvisited

/-- A visit has its dealings after those that there were. -/
theorem deals_visit : c.Deals (allDealings (before ++ probes)) state'.2.2 := by
  rw [allDealings_append]
  exact h.deals.trans hvisited.deals

/-- Its probes are those of a walk. -/
theorem asked_visit :
    ∀ p ∈ before ++ probes, p.Of w.root ∧ Reached w.root (allDealings (before ++ probes)) p.path := by
  rw [allDealings_append]
  intro p hp
  rcases List.mem_append.mp hp with hp | hp
  · exact ⟨(h.asked p hp).1, (h.asked p hp).2.mono _⟩
  · have hasked := hvisited.asked p hp
    rw [h.root] at hasked
    exact ⟨hasked.1, hasked.2.mono _⟩

/-- The walker keeps them, too. -/
theorem notes_visit (hnot : ∀ f, visited ≠ .raised f) :
    w.Notes ((before ++ probes).filterMap fun p => p.fault?.map Prod.snd) state'.1 := by
  rw [List.filterMap_append]
  refine h.notes.trans (hvisited.notes.resolve_left ?_)
  rintro ⟨f, hf⟩
  exact hnot f hf

end visit

/-- **After an entry** the walk can go on, whether or not its consumer leaves the directory out. -/
theorem entry {e : WalkEntry} (h : Underway w c before seen state)
    (hvisited : Visited (allDealings before) state.1 state.2.1 state.2.2 probes (.entry e, state'))
    (hw' : w' = state'.1 ∨ w' = state'.1.skip) :
    Underway w c (before ++ probes) (e :: seen) (w', state'.2) := by
  have hdeals := h.deals_visit hvisited
  have htold := h.told_append probes
  have hnotes := h.notes_visit hvisited (fun _ => nofun)
  have hstanding := hvisited.standing
  rw [h.root, ← allDealings_append] at hstanding
  have hlength := h.length
  cases hvisited.reports with
  | @entry _ _ hfault hstack =>
    refine ⟨hdeals, h.asked_visit hvisited, hstanding, ?_, ?_, ?_, ?_⟩
    · rcases hw' with rfl | rfl
      · exact hvisited.root.trans h.root
      · exact hvisited.root.trans h.root
    · rcases hw' with rfl | rfl
      · exact hnotes
      · exact hnotes.skip
    · have hlast : [e].filterMap WalkEntry.report? = e.report?.toList := by
        rw [List.filterMap_cons]
        cases e.report? with
        | none => rfl
        | some r => rfl
      rw [htold, hfault, List.reverse_cons, List.filterMap_append, hlast]
    · rw [List.length_cons, allDealings_append, totalWork_append]
      dsimp only at hstack ⊢
      omega

/-- A walk may be over. -/
theorem finish (h : Underway w c before seen state)
    (hvisited : Visited (allDealings before) state.1 state.2.1 state.2.2 probes (.done, state')) :
    Walked w c (before ++ probes) ({ entries := seen.reverse }, state'.1, state'.2.2) := by
  have htold := h.told_append probes
  cases hvisited.reports with
  | done hfault =>
    rw [hfault, List.append_nil] at htold
    exact ⟨h.deals_visit hvisited, h.asked_visit hvisited,
      ⟨fun _ => htold, nofun, h.length_append probes⟩, fun _ => h.notes_visit hvisited (fun _ => nofun)⟩

/-- It may end with a fault. -/
theorem raise {f : Fault} (h : Underway w c before seen state)
    (hvisited : Visited (allDealings before) state.1 state.2.1 state.2.2 probes (.raised f, state')) :
    Walked w c (before ++ probes)
      ({ entries := seen.reverse, fault := some f }, state'.1, state'.2.2) := by
  have htold := h.told_append probes
  refine ⟨h.deals_visit hvisited, h.asked_visit hvisited, ⟨nofun, ?_, h.length_append probes⟩, nofun⟩
  rintro _ ⟨⟩
  cases hvisited.reports with
  | @raised path _ _ hfault hsystem =>
    rw [hfault] at htold
    exact .inl ⟨path, htold, hsystem⟩
  | overtaxed hfault hover =>
    rw [hfault, List.append_nil] at htold
    rw [h.deals.patience] at hover
    refine .inr ⟨htold, hover.mono ?_⟩
    rw [allDealings_append, totalWork_append]
    exact Nat.le_add_left _ _

end Underway

section run

variable {σ : Type} {w : Walker} {c : Client σ} {before : List Probe} {seen : List WalkEntry}
  {state : State (Client σ)}

/-- Going on with a walk. -/
theorem walked_visitMore (skipped : List Nat) (more : Nat) (h : Underway w c before seen state) :
    ∃ probes, Walked w c probes
      ((visitMore Client.tree skipped more seen state).1,
        (visitMore Client.tree skipped more seen state).2.1,
        (visitMore Client.tree skipped more seen state).2.2.2) := by
  induction more generalizing seen state before with
  | zero => exact ⟨before, h.leave⟩
  | succ more ih =>
    obtain ⟨probes, hvisited⟩ := next_probes (h.root ▸ h.standing) state.2.2
    rw [visitMore_succ]
    change Visited _ _ _ _ _ (next Client.tree state) at hvisited
    generalize next Client.tree state = outcome at hvisited ⊢
    obtain ⟨visited, w', rest⟩ := outcome
    cases visited with
    | entry e =>
      dsimp only [taking]
      refine ih (h.entry hvisited ?_)
      split
      · exact .inr rfl
      · exact .inl rfl
    | done => exact ⟨_, h.finish hvisited⟩
    | raised f => exact ⟨_, h.raise hvisited⟩

/-- **What a walk of a client asks of a server**, whatever the server is, left at whatever entry. -/
theorem visit_probes (w : Walker) (c : Client σ) (skipped : List Nat) (limit : Nat) :
    ∃ probes, Walked w c probes (visit Client.tree skipped limit w c) :=
  walked_visitMore skipped limit (.begin w c)

/-- A walk that its consumer has left has as many entries as the consumer would take. -/
theorem length_of_stopped {S : Type} (tree : Tree S) (skipped : List Nat) (more : Nat)
    (seen : List WalkEntry) (state : State S)
    (hstopped : (visitMore tree skipped more seen state).1.stopped = true) :
    (visitMore tree skipped more seen state).1.entries.length = seen.length + more := by
  induction more generalizing seen state with
  | zero => exact List.length_reverse
  | succ more ih =>
    rw [visitMore_succ] at hstopped ⊢
    generalize next tree state = outcome at hstopped ⊢
    obtain ⟨visit, w, k, s⟩ := outcome
    cases visit with
    | entry e =>
      refine (ih _ _ hstopped).trans ?_
      rw [List.length_cons]
      omega
    | done => cases hstopped
    | raised f => cases hstopped

end run

end Walk

end Sftp
