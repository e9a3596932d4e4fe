import Sftp.Proofs.Walk.Faults
import Sftp.Proofs.Walk.Stack

/-!
# Walks that stop at their first fault

A walk that is to stop at its first fault goes on exactly as one that is not, until an entry with a fault has
been handed out: the flag is looked at only then. So it is the other walk, given up after that entry.

* `Walk.visitBy` — a walk whose consumer decides by the entries so far what is left out;
  `Walk.exists_skipped` — as far as it goes, it is one that leaves out the directories at some places.
* `Walk.Takes` — the entries that such a consumer takes, one after another; `Walk.exists_takes`.
* `FileTable.exists_visitBy` — walks of a regular table end, and the bound does not depend on the consumer.
* **`Walk.next_stopping`**, `Walk.next_reported` — the flag makes no difference before there was a fault, and
  after it the walk is over; **`Walk.Takes.cut`** — the same for a whole walk.
* **`Walk.stopping_walk_is_cut`** — the entries, the inquiries and the faults of both walks.
-/

namespace Sftp

/-- A walker whose consumer has decided whether the directory visited last is left out. -/
def Walker.leaving (w : Walker) (isLeftOut : Bool) : Walker :=
  if isLeftOut then w.skip else w

namespace Walker

/-- It starts where it did. -/
@[simp] theorem root_leaving (w : Walker) (isLeftOut : Bool) : (w.leaving isLeftOut).root = w.root := by
  cases isLeftOut with
  | true => rfl
  | false => rfl

/-- It stops where it did. -/
@[simp] theorem stopOnFault_leaving (w : Walker) (isLeftOut : Bool) :
    (w.leaving isLeftOut).stopOnFault = w.stopOnFault := by
  cases isLeftOut with
  | true => rfl
  | false => rfl

/-- It has kept the faults that it had. -/
theorem Keeps.leaving {w : Walker} {faults : List Fault} (h : w.Keeps faults) (isLeftOut : Bool) :
    (w.leaving isLeftOut).Keeps faults := by
  cases isLeftOut with
  | true => exact h.skipping true
  | false => exact h

end Walker

namespace Walk

variable {S : Type} {tree : Tree S} {leaveOut : List WalkEntry → Bool} {seen entries : List WalkEntry}
  {st st' final : State S}

/-! ## Consumers that decide -/

/-- Takes up to so many more entries, and after each decides by all entries so far whether its directory is
left out; `seen` are the entries so far, latest first. -/
def visitMoreBy (tree : Tree S) (leaveOut : List WalkEntry → Bool) :
    Nat → List WalkEntry → State S → Seen × State S
  | 0, seen, state => ({ entries := seen.reverse, stopped := true }, state)
  | more + 1, seen, state =>
    match next tree state with
    | (.done, state) => ({ entries := seen.reverse }, state)
    | (.raised f, state) => ({ entries := seen.reverse, fault := some f }, state)
    | (.entry e, w, rest) =>
      visitMoreBy tree leaveOut more (e :: seen) (w.leaving (leaveOut (e :: seen).reverse), rest)

/-- Walks from the root until the walk is over or there are `limit` entries. The consumer also decides before
the first entry. -/
def visitBy (tree : Tree S) (leaveOut : List WalkEntry → Bool) (limit : Nat) (w : Walker) (s : S) :
    Seen × Walker × S :=
  let (seen, w, _, s) := visitMoreBy tree leaveOut limit [] (w.leaving (leaveOut []), {}, s)
  (seen, w, s)

/-- Only the places from the next one on count for the rest of a walk. -/
theorem visitMore_congr (tree : Tree S) {skipped others : List Nat} (more : Nat) (seen : List WalkEntry)
    (st : State S) (h : ∀ i, seen.length ≤ i → skipped.contains i = others.contains i) :
    visitMore tree skipped more seen st = visitMore tree others more seen st := by
  induction more generalizing seen st with
  | zero => rfl
  | succ more ih =>
    rw [visitMore_succ, visitMore_succ]
    rcases next tree st with ⟨e | _ | f, w, rest⟩
    · simp only [taking]
      rw [h seen.length (Nat.le_refl _)]
      exact ih _ _ fun i hi => h i (Nat.le_of_succ_le hi)
    · rfl
    · rfl

/-- **Whatever a consumer decides**, as far as it goes it leaves out the directories at some places. -/
theorem exists_skipped (tree : Tree S) (leaveOut : List WalkEntry → Bool) (more : Nat)
    (seen : List WalkEntry) (st : State S) :
    ∃ skipped, visitMoreBy tree leaveOut more seen st = visitMore tree skipped more seen st := by
  induction more generalizing seen st with
  | zero => exact ⟨[], rfl⟩
  | succ more ih =>
    rcases hnext : next tree st with ⟨e | _ | f, w, rest⟩
    · obtain ⟨later, hlater⟩ := ih (e :: seen) (w.leaving (leaveOut (e :: seen).reverse), rest)
      -- of the places for the rest only those count that come after this one
      have hthis : ∀ isLeftOut : Bool, ∃ skipped : List Nat, skipped.contains seen.length = isLeftOut ∧
          ∀ i, seen.length + 1 ≤ i → skipped.contains i = later.contains i := by
        rintro (_ | _)
        · refine ⟨later.filter (seen.length < ·), by simp, fun i hi => ?_⟩
          rw [Bool.eq_iff_iff]
          simp [Nat.lt_of_succ_le hi]
        · refine ⟨seen.length :: later, by simp, fun i hi => ?_⟩
          rw [Bool.eq_iff_iff]
          simp [Nat.ne_of_gt (Nat.lt_of_succ_le hi)]
      obtain ⟨skipped, hplace, hrest⟩ := hthis (leaveOut (e :: seen).reverse)
      refine ⟨skipped, ?_⟩
      rw [visitMoreBy, hnext, visitMore_succ, hnext]
      simp only [taking]
      rw [hlater, hplace]
      exact (visitMore_congr tree more (e :: seen) _ hrest).symm
    · refine ⟨[], ?_⟩
      rw [visitMoreBy, hnext, visitMore_succ, hnext]
      rfl
    · refine ⟨[], ?_⟩
      rw [visitMoreBy, hnext, visitMore_succ, hnext]
      rfl

/-! ## Entries that are taken -/

/-- After some entries, the consumer takes others from a walk in a state, which is then in another. -/
inductive Takes (tree : Tree S) (leaveOut : List WalkEntry → Bool) :
    List WalkEntry → State S → List WalkEntry → State S → Prop
  /-- It takes none. -/
  | nothing (seen : List WalkEntry) (st : State S) : Takes tree leaveOut seen st [] st
  /-- It takes the next one, and then others. -/
  | entry {seen entries : List WalkEntry} {st st' : State S} {e : WalkEntry} {w : Walker} {rest : Walk × S}
      (hnext : next tree st = (.entry e, w, rest))
      (h : Takes tree leaveOut (e :: seen) (w.leaving (leaveOut (e :: seen).reverse), rest) entries st') :
      Takes tree leaveOut seen st (e :: entries) st'

namespace Takes

/-- To take entries is to take some of them and then the others. -/
theorem split {others : List WalkEntry} (h : Takes tree leaveOut seen st (entries ++ others) st') :
    ∃ between, Takes tree leaveOut seen st entries between ∧
      Takes tree leaveOut (entries.reverse ++ seen) between others st' := by
  induction entries generalizing seen st with
  | nil => exact ⟨st, .nothing seen st, h⟩
  | cons e entries ih =>
    cases h with
    | entry hnext h =>
      obtain ⟨between, hfirst, hothers⟩ := ih h
      refine ⟨between, .entry hnext hfirst, ?_⟩
      rw [List.reverse_cons, List.append_assoc]
      exact hothers

/-- Entries are taken after others. -/
theorem append {others : List WalkEntry} (h : Takes tree leaveOut seen st entries st')
    (hothers : Takes tree leaveOut (entries.reverse ++ seen) st' others final) :
    Takes tree leaveOut seen st (entries ++ others) final := by
  induction h with
  | nothing => exact hothers
  | entry hnext _ ih =>
    rw [List.reverse_cons, List.append_assoc] at hothers
    exact .entry hnext (ih hothers)

/-- After entries that it takes, a walk goes on from the state in which it is then. -/
theorem run (h : Takes tree leaveOut seen st entries st') (more : Nat) :
    visitMoreBy tree leaveOut (more + entries.length) seen st =
      visitMoreBy tree leaveOut more (entries.reverse ++ seen) st' := by
  induction h with
  | nothing => rfl
  | entry hnext _ ih =>
    rw [List.length_cons, ← Nat.add_assoc, visitMoreBy, hnext]
    simp only
    rw [ih, List.reverse_cons, List.append_assoc]
    rfl

/-- If the walk is over then, that is the end. -/
theorem run_done (h : Takes tree leaveOut seen st entries st') (hdone : next tree st' = (.done, final))
    {limit : Nat} (hlimit : entries.length < limit) :
    visitMoreBy tree leaveOut limit seen st = ({ entries := seen.reverse ++ entries }, final) := by
  obtain ⟨more, rfl⟩ : ∃ more, limit = more + 1 + entries.length :=
    ⟨limit - entries.length - 1, by omega⟩
  rw [h.run, visitMoreBy, hdone]
  simp only [List.reverse_append, List.reverse_reverse]

/-- What the walker has kept are the faults of the entries. -/
theorem keeps {faults : List Fault} (h : Takes tree leaveOut seen st entries st') (hw : st.1.Keeps faults)
    (hk : st.2.1.IsClear) :
    st'.1.Keeps (faults ++ entries.filterMap WalkEntry.fault) ∧ st'.2.1.IsClear := by
  induction h generalizing faults with
  | nothing =>
    rw [List.filterMap_nil, List.append_nil]
    exact ⟨hw, hk⟩
  | @entry seen entries st st' e w rest hnext _ ih =>
    obtain ⟨hkeeps, hclear⟩ := accounts_next tree hw hk st.2.2
    rw [hnext] at hkeeps hclear
    have hfaults : (e :: entries).filterMap WalkEntry.fault =
        e.fault.toList ++ entries.filterMap WalkEntry.fault := by
      cases hfault : e.fault with
      | none => exact List.filterMap_cons_none hfault
      | some f => exact List.filterMap_cons_some hfault
    rw [hfaults, ← List.append_assoc]
    exact ih (hkeeps.leaving _) hclear

/-- If the walk is over then, the walker has kept no others. -/
theorem keeps_done (h : Takes tree leaveOut seen st entries st') (hdone : next tree st' = (.done, final))
    (hw : st.1.Keeps []) (hk : st.2.1.IsClear) : final.1.faults = entries.filterMap WalkEntry.fault := by
  obtain ⟨hw', hk'⟩ := h.keeps hw hk
  have hkeeps := (accounts_next tree hw' hk' st'.2.2).keeps
  rw [show next tree (st'.1, st'.2.1, st'.2.2) = (.done, final) from hdone] at hkeeps
  rw [hkeeps.all]
  exact List.append_nil _

end Takes

/-- What a walk hands out that comes to its end was taken. -/
theorem exists_takes {more : Nat} {all : List WalkEntry}
    (h : visitMoreBy tree leaveOut more seen st = ({ entries := all }, final)) :
    ∃ entries st', Takes tree leaveOut seen st entries st' ∧ all = seen.reverse ++ entries ∧
      entries.length < more ∧ next tree st' = (.done, final) := by
  induction more generalizing seen st with
  | zero => cases congrArg (fun r => r.1.stopped) h
  | succ more ih =>
    rw [visitMoreBy] at h
    rcases hnext : next tree st with ⟨e | _ | f, w, rest⟩
    · rw [hnext] at h
      obtain ⟨entries, st', htakes, rfl, hlength, hdone⟩ := ih h
      refine ⟨e :: entries, st', .entry hnext htakes, ?_, Nat.succ_lt_succ hlength, hdone⟩
      rw [List.reverse_cons, List.append_assoc]
      rfl
    · rw [hnext] at h
      obtain ⟨hseen, rfl⟩ := Prod.mk.inj h
      refine ⟨[], st, .nothing seen st, ?_, Nat.succ_pos more, hnext⟩
      rw [List.append_nil]
      exact (congrArg Seen.entries hseen).symm
    · rw [hnext] at h
      cases congrArg (fun r => r.1.fault) h

end Walk

/-! ## Walks end -/

namespace FileTable

open Walk

variable {t : FileTable} {skipped : List Nat}

/-- Leaving out directories only leaves out visits. -/
theorem Visits.sublist {place : Nat} {siblings : List (Text × FileStats)} {entries : List WalkEntry}
    {listed : List Text} (h : t.Visits skipped place siblings entries listed) :
    ∀ {place' : Nat} {all : List WalkEntry} {listed' : List Text},
      t.Visits [] place' siblings all listed' → entries.Sublist all := by
  induction h with
  | nil => exact fun _ => List.nil_sublist _
  | leaf _ _ ih =>
    intro place' all listed' h'
    cases h' with
    | leaf _ hothers => exact (ih hothers).cons_cons _
    | unlisted _ _ _ hothers => exact ((ih hothers).cons _).cons_cons _
    | directory _ _ _ _ _ hothers =>
      exact ((ih hothers).trans (List.sublist_append_right _ _)).cons_cons _
  | unlisted hdirectory _ hfault _ ih =>
    intro place' all listed' h'
    cases h' with
    | leaf hleaf => simp [hdirectory] at hleaf
    | unlisted _ _ hfault' hothers =>
      obtain rfl := Except.error.inj (hfault.symm.trans hfault')
      exact ((ih hothers).cons_cons _).cons_cons _
    | directory _ _ hitems => cases hfault.symm.trans hitems
  | directory hdirectory _ hitems hsorted _ _ ihinner ihothers =>
    intro place' all listed' h'
    cases h' with
    | leaf hleaf => simp [hdirectory] at hleaf
    | unlisted _ _ hfault => cases hfault.symm.trans hitems
    | directory _ _ hitems' hsorted' hinner hothers =>
      obtain rfl := Except.ok.inj (hitems.symm.trans hitems')
      obtain rfl := hsorted.unique hsorted'
      exact ((ihinner hinner).append (ihothers hothers)).cons_cons _

/-- A walk that leaves nothing out visits the most. -/
theorem Traversal.length_le {root : Text} {entries all : List WalkEntry} {asked asked' : List Inquiry}
    (h : t.Traversal skipped root entries asked) (h' : t.Traversal [] root all asked') :
    entries.length ≤ all.length := by
  cases h with
  | unseen hfault =>
    cases h' with
    | unseen _ => exact Nat.le_refl _
    | seen hstats => cases hfault.symm.trans hstats
  | seen hstats hvisits =>
    cases h' with
    | unseen hfault => cases hfault.symm.trans hstats
    | seen hstats' hvisits' =>
      obtain rfl := Except.ok.inj (hstats.symm.trans hstats')
      exact (hvisits.sublist hvisits').length_le

/-- **Walks of a regular table end**, and how many entries there can be does not depend on the consumer. -/
theorem exists_visitBy (ht : t.Regular) (root : Text) :
    ∃ most, ∀ (leaveOut : List WalkEntry → Bool) (w : Walker) (limit : Nat), w.root = root →
      w.stopOnFault = false → most < limit →
      ∃ entries final, visitMoreBy t.tree leaveOut limit [] (w, {}, []) = ({ entries }, final) := by
  obtain ⟨all, asked, hall⟩ := exists_traversal ht [] root
  refine ⟨all.length, ?_⟩
  rintro leaveOut w limit rfl hgoes hlimit
  obtain ⟨skipped, hskipped⟩ := exists_skipped t.tree leaveOut limit [] (w, {}, [])
  obtain ⟨entries, asked', htraversal⟩ := exists_traversal ht skipped w.root
  have hlength := htraversal.length_le hall
  obtain ⟨w', -, hrun⟩ := htraversal.run ht hgoes (limit - entries.length - 1)
  rw [show limit - entries.length - 1 + entries.length + 1 = limit by omega] at hrun
  exact ⟨entries, _, hskipped.trans hrun⟩

/-- Inquiries are only added. -/
theorem asked_next (t : FileTable) (st : State (List Inquiry)) : st.2.2 <+: (next t.tree st).2.2.2 := by
  obtain ⟨asked, hasked, hcomes⟩ := next_comes t.tree st.1 st.2.1 st.2.2
  have hstate : (next t.tree st).2.2.2 = asked := hcomes.state
  rw [hstate]
  cases hasked with
  | nothing => exact List.prefix_rfl
  | lstat path => exact List.prefix_append _ _
  | list path => exact List.prefix_append _ _

/-- A walk that goes on has made the inquiries of the state in which it was. -/
theorem asked_visitMoreBy (t : FileTable) (leaveOut : List WalkEntry → Bool) (more : Nat) (seen : List WalkEntry)
    (st : State (List Inquiry)) : st.2.2 <+: (visitMoreBy t.tree leaveOut more seen st).2.2.2 := by
  induction more generalizing seen st with
  | zero => exact List.prefix_rfl
  | succ more ih =>
    have hfirst := asked_next t st
    rw [visitMoreBy]
    rcases hnext : next t.tree st with ⟨e | _ | f, w, rest⟩
    · rw [hnext] at hfirst
      exact hfirst.trans (ih (e :: seen) (w.leaving (leaveOut (e :: seen).reverse), rest))
    · rw [hnext] at hfirst
      exact hfirst
    · rw [hnext] at hfirst
      exact hfirst

/-- The longer it goes on, the more inquiries it has made, and those of a shorter one come first. -/
theorem asked_visitMoreBy_mono (t : FileTable) (leaveOut : List WalkEntry → Bool) {less more : Nat}
    (hle : less ≤ more) (seen : List WalkEntry) (st : State (List Inquiry)) :
    (visitMoreBy t.tree leaveOut less seen st).2.2.2 <+: (visitMoreBy t.tree leaveOut more seen st).2.2.2 := by
  induction less generalizing more seen st with
  | zero => exact asked_visitMoreBy t leaveOut more seen st
  | succ less ih =>
    obtain ⟨more, rfl⟩ := Nat.exists_eq_add_of_le' (Nat.le_trans (Nat.le_add_left 1 less) hle)
    rw [visitMoreBy, visitMoreBy]
    rcases next t.tree st with ⟨e | _ | f, w, rest⟩
    · exact ih (Nat.le_of_succ_le_succ hle) _ _
    · exact List.prefix_rfl
    · exact List.prefix_rfl

end FileTable

/-! ## Stopping -/

namespace Walk

variable {S : Type} {tree : Tree S} {leaveOut : List WalkEntry → Bool} {seen entries : List WalkEntry}
  {st st' final : State S}

/-- A state of a walk, of a walker that stops after its first fault. -/
def stopping : State S → State S
  | (w, k, s) => ({ w with stopOnFault := true }, k, s)

/-- The entry visited last had no fault. -/
def IsSound (k : Walk) : Prop :=
  ∀ e, k.last = some e → e.fault = none

/-- A walk that has not begun has visited none. -/
theorem isSound_begin : IsSound {} := by
  intro e he
  cases he

/-- To take the next entry off the stack does not depend on whether the walk is to stop. -/
theorem pop_stopping (w : Walker) (k : Walk) (s : S) :
    pop { w with stopOnFault := true } k s = ((pop w k s).1, stopping (pop w k s).2) := by
  unfold pop stopping
  cases k.stack with
  | nil => rfl
  | cons e stack =>
    simp only
    split
    · rfl
    · rfl

/-- Neither does what comes of a fault. -/
theorem fault_stopping (w : Walker) (f : Fault) (k k' : Walk) (s : S) :
    (if f.isSystem then pop (({ w with stopOnFault := true } : Walker).note f) k s
      else (.raised f, { w with stopOnFault := true }, k', s)) =
      ((if f.isSystem then pop (w.note f) k s else (.raised f, w, k', s)).1,
        stopping (if f.isSystem then pop (w.note f) k s else (.raised f, w, k', s)).2) := by
  split
  · exact pop_stopping (w.note f) k s
  · rfl

/-- **Before there was a fault, the next visit does not depend on whether the walk is to stop.** -/
theorem next_stopping (hsound : st.2.1.IsSound) :
    next tree (stopping st) = ((next tree st).1, stopping (next tree st).2) := by
  obtain ⟨w, k, s⟩ := st
  show next tree ({ w with stopOnFault := true }, k, s) = _
  unfold next
  simp only
  split
  · unfold enter
    rcases (tree.lstat w.root).run s with ⟨f | stats, s'⟩
    · exact fault_stopping w f _ _ s'
    · exact pop_stopping w _ s'
  · split
    · rfl
    · rename_i e hlast
      rw [hsound e hlast]
      simp only [Option.isSome_none, Bool.false_eq_true, if_false]
      split
      · exact pop_stopping w k s
      · unfold descend
        rcases (tree.list e.path).run s with ⟨result, s'⟩
        simp only
        cases result.bind Listing.complete with
        | ok children => exact pop_stopping w _ s'
        | error f => exact fault_stopping w f _ _ s'

/-- After an entry with a fault, a walk that is to stop is over. -/
theorem next_reported (tree : Tree S) (s : S) {e : WalkEntry} {w : Walker} {k : Walk}
    (hstops : w.stopOnFault = true) (hlast : k.started = true ∧ k.last = some e) (he : e.fault.isSome = true) :
    next tree (w, k, s) = (.done, w, { k with last := none, stack := [] }, s) := by
  unfold next
  simp only [hlast.1, hlast.2, he, hstops]
  rfl

/-- Leaving out a directory has nothing to do with stopping. -/
theorem stopping_leaving (w : Walker) (isLeftOut : Bool) (rest : Walk × S) :
    stopping (w.leaving isLeftOut, rest) =
      (({ w with stopOnFault := true } : Walker).leaving isLeftOut, rest) := by
  cases isLeftOut with
  | true => rfl
  | false => rfl

/-- As long as there are no faults, a walk that is to stop hands out the same entries. -/
theorem Takes.stops (h : Takes tree leaveOut seen st entries st') (hsound : st.2.1.IsSound)
    (hclear : ∀ e ∈ entries, e.fault = none) :
    Takes tree leaveOut seen (stopping st) entries (stopping st') ∧ st'.2.1.IsSound := by
  induction h with
  | nothing seen st => exact ⟨.nothing seen _, hsound⟩
  | @entry seen entries st st' e w rest hnext _ ih =>
    obtain ⟨he, hothers⟩ := List.forall_mem_cons.mp hclear
    have hsound' : rest.1.IsSound := by
      intro e' he'
      rw [(last_of_next hnext).2] at he'
      exact Option.some.inj he' ▸ he
    obtain ⟨htakes, hend⟩ := ih hsound' hothers
    have hstop : next tree (stopping st) = (.entry e, stopping (w, rest)) := by
      rw [next_stopping hsound, hnext]
    rw [stopping_leaving] at htakes
    exact ⟨.entry hstop htakes, hend⟩

/-- **A walk that is to stop at its first fault is the other, given up after the first entry with a fault.**
Without such an entry it comes to its end where the other does. -/
theorem Takes.cut (h : Takes tree leaveOut seen st entries st') (hdone : next tree st' = (.done, final))
    (hsound : st.2.1.IsSound) :
    ∃ cut cutFinal,
      Takes tree leaveOut seen (stopping st) (entries.take (entries.findIdx (·.fault.isSome) + 1)) cut ∧
      next tree cut = (.done, cutFinal) ∧
      (visitMoreBy tree leaveOut (entries.findIdx (·.fault.isSome) + 1) seen st).2.2.2 = cutFinal.2.2 := by
  cases hfind : entries.find? (·.fault.isSome) with
  | none =>
    have hclear : ∀ e ∈ entries, e.fault = none := fun e he => by simpa using List.find?_eq_none.mp hfind e he
    have hfirst : entries.findIdx (·.fault.isSome) = entries.length :=
      List.findIdx_eq_length.mpr fun e he => by rw [hclear e he]; rfl
    obtain ⟨htakes, hend⟩ := h.stops hsound hclear
    refine ⟨stopping st', stopping final, ?_, ?_, ?_⟩
    · rw [hfirst, List.take_of_length_le (Nat.le_succ _)]
      exact htakes
    · rw [next_stopping hend, hdone]
    · rw [hfirst, h.run_done hdone (Nat.lt_succ_self _)]
      rfl
  | some e =>
    obtain ⟨he, earlier, later, rfl, hearlier⟩ := List.find?_eq_some_iff_append.mp hfind
    have hclear : ∀ e' ∈ earlier, e'.fault = none := fun e' he' => by simpa using hearlier e' he'
    have hfirst : (earlier ++ e :: later).findIdx (·.fault.isSome) = earlier.length := by
      have hnone : earlier.findIdx (·.fault.isSome) = earlier.length :=
        List.findIdx_eq_length.mpr fun e' he' => by rw [hclear e' he']; rfl
      rw [List.findIdx_append, hnone, if_neg (Nat.lt_irrefl _), List.findIdx_cons, he]
      exact Nat.zero_add _
    obtain ⟨between, hbefore, hrest⟩ := h.split
    obtain ⟨hstops, hsound'⟩ := hbefore.stops hsound hclear
    cases hrest with
    | @entry _ _ _ _ _ w rest hnext hrest =>
      -- the walk that is to stop takes the entry too, and is over then
      have hstop : next tree (stopping between) = (.entry e, stopping (w, rest)) := by
        rw [next_stopping hsound', hnext]
      have hcut := hstops.append (.entry hstop (.nothing _ _))
      have hlimited := hbefore.append (.entry hnext (.nothing _ _))
      have hover := next_reported tree rest.2
        (Walker.stopOnFault_leaving { w with stopOnFault := true }
          (leaveOut (e :: (earlier.reverse ++ seen)).reverse))
        (last_of_next hnext) he
      refine ⟨_, _, ?_, hover, ?_⟩
      · rw [hfirst, List.take_length_add_append]
        exact hcut
      · have hrun := hlimited.run 0
        rw [Nat.zero_add, List.length_append] at hrun
        rw [hfirst]
        exact congrArg (fun r => r.2.2.2) hrun

/-- Up to the first of them there is one fault, if there is any. -/
theorem filterMap_fault_take (entries : List WalkEntry) :
    (entries.take (entries.findIdx (·.fault.isSome) + 1)).filterMap WalkEntry.fault =
      (entries.filterMap WalkEntry.fault).take 1 := by
  induction entries with
  | nil => rfl
  | cons e entries ih =>
    cases he : e.fault with
    | none =>
      rw [List.findIdx_cons, he]
      simp only [Option.isSome_none, cond_false, List.take_succ_cons, List.filterMap_cons, he]
      exact ih
    | some f =>
      rw [List.findIdx_cons, he]
      simp [he]

/-- **Both walks**, of the same regular table from the same root, with the same consumer. -/
theorem exists_both {t : FileTable} (ht : t.Regular) (root : Text) :
    ∃ most, ∀ (leaveOut : List WalkEntry → Bool) (w : Walker) (limit : Nat), w.root = root →
      w.stopOnFault = false → w.Keeps [] → most < limit →
      ∃ entries final cutFinal,
        visitMoreBy t.tree leaveOut limit [] (w, {}, []) = ({ entries }, final) ∧
        visitMoreBy t.tree leaveOut limit [] (stopping (w, {}, [])) =
          ({ entries := entries.take (entries.findIdx (·.fault.isSome) + 1) }, cutFinal) ∧
        cutFinal.2.2 =
          (visitMoreBy t.tree leaveOut (entries.findIdx (·.fault.isSome) + 1) [] (w, {}, [])).2.2.2 ∧
        entries.findIdx (·.fault.isSome) + 1 ≤ limit ∧
        final.1.faults = entries.filterMap WalkEntry.fault ∧ cutFinal.1.faults = final.1.faults.take 1 := by
  obtain ⟨most, hends⟩ := t.exists_visitBy ht root
  refine ⟨most, fun leaveOut w limit hroot hgoes hw hlimit => ?_⟩
  obtain ⟨entries, final, hrun⟩ := hends leaveOut w limit hroot hgoes hlimit
  obtain ⟨_, last, htakes, rfl, hlength, hdone⟩ := exists_takes hrun
  obtain ⟨cut, cutFinal, hcut, hcutDone, hasked⟩ := htakes.cut hdone isSound_begin
  have hcutRun := hcut.run_done hcutDone (Nat.lt_of_le_of_lt (List.length_take_le' _ _) hlength)
  have hfaults := htakes.keeps_done hdone hw (List.forall_mem_nil _)
  have hcutFaults := hcut.keeps_done hcutDone ⟨hw.all, hw.first⟩ (List.forall_mem_nil _)
  refine ⟨_, final, cutFinal, hrun, hcutRun, hasked.symm, ?_, hfaults, ?_⟩
  · exact Nat.lt_of_le_of_lt List.findIdx_le_length hlength
  · rw [hcutFaults, filterMap_fault_take, hfaults]

end Walk

/-- **A walk that stops at its first fault is the beginning of one that does not.** Both walk a regular table
from the same root, with a consumer that decides by the entries so far what is left out. Both come to their
end, however long the consumer is ready to go on beyond a bound that does not depend on it. The entries of the
one are those of the other up to the first that has a fault, or all; its inquiries are those that the other had
made when that entry was handed out, so none comes after the fault; and it keeps one fault at most. -/
theorem Walk.stopping_walk_is_cut {t : FileTable} (ht : t.Regular) (root : Text) :
    ∃ bound, ∀ (leaveOut : List WalkEntry → Bool) (limit : Nat), bound ≤ limit →
      let whole := visitBy t.tree leaveOut limit { root } []
      let cut := visitBy t.tree leaveOut limit { root, stopOnFault := true } []
      let first := whole.1.entries.findIdx (·.fault.isSome)
      whole.1 = { entries := whole.1.entries } ∧
      cut.1 = { entries := whole.1.entries.take (first + 1) } ∧
      cut.2.2 = (visitBy t.tree leaveOut (first + 1) { root } []).2.2 ∧ cut.2.2 <+: whole.2.2 ∧
      cut.2.1.faults = whole.2.1.faults.take 1 ∧ cut.2.1.faults.length ≤ 1 := by
  obtain ⟨most, hboth⟩ := exists_both ht root
  refine ⟨most + 1, fun leaveOut limit hlimit => ?_⟩
  obtain ⟨entries, final, cutFinal, hwhole, hcut, hasked, hfirst, hfaults, hcutFaults⟩ :=
    hboth leaveOut (({ root } : Walker).leaving (leaveOut [])) limit (Walker.root_leaving _ _)
      (Walker.stopOnFault_leaving _ _) ((Walker.Keeps.fresh root false).leaving _) hlimit
  rw [stopping_leaving] at hcut
  have hwhole' : visitBy t.tree leaveOut limit { root } [] = ({ entries }, final.1, final.2.2) := by
    unfold visitBy
    rw [hwhole]
  have hcut' : visitBy t.tree leaveOut limit { root, stopOnFault := true } [] =
      ({ entries := entries.take (entries.findIdx (·.fault.isSome) + 1) }, cutFinal.1, cutFinal.2.2) := by
    unfold visitBy
    rw [hcut]
  have hasked' : cutFinal.2.2 =
      (visitBy t.tree leaveOut (entries.findIdx (·.fault.isSome) + 1) { root } []).2.2 := hasked
  have hprefix : cutFinal.2.2 <+: final.2.2 := by
    have hmono := t.asked_visitMoreBy_mono leaveOut hfirst [] (({ root } : Walker).leaving (leaveOut []), {}, [])
    rwa [hwhole, ← hasked] at hmono
  rw [hwhole', hcut']
  refine ⟨rfl, rfl, hasked', hprefix, hcutFaults, ?_⟩
  show cutFinal.1.faults.length ≤ 1
  rw [hcutFaults]
  exact List.length_take_le _ _

/-! ## A walk of a tree with gaps -/

namespace FileTable

/-- The listing of the root of a small tree: not in order. -/
def gapChildren : List FileStats :=
  [sampleDirectory "b", sampleFile "c" 3, sampleDirectory "a"]

/-- A small tree. Neither of the directories below its root can be listed. -/
def gapTree : FileTable where
  lstat path :=
    if path = "/r" then .ok (sampleDirectory "r") else .error (.localFile .missing path)
  list path :=
    if path = "/r" then .ok { entries := gapChildren } else .error (.localFile .missing path)

/-- The visits of a walk that goes on. -/
def gapVisits : List WalkEntry :=
  [⟨"/r", some (sampleDirectory "r"), none⟩,
    ⟨"/r/a", some (sampleDirectory "a"), none⟩,
    ⟨"/r/a", some (sampleDirectory "a"), some (.localFile .missing "/r/a")⟩,
    ⟨"/r/b", some (sampleDirectory "b"), none⟩,
    ⟨"/r/b", some (sampleDirectory "b"), some (.localFile .missing "/r/b")⟩,
    ⟨"/r/c", some (sampleFile "c" 3), none⟩]

/-- Only the root of the tree with gaps has children. -/
theorem children_gapTree {path : Text} {items : List FileStats} (h : gapTree.children path = .ok items) :
    path = "/r" ∧ items = gapChildren := by
  unfold children gapTree at h
  simp only at h
  split at h
  · rename_i hpath
    exact ⟨hpath, (Except.ok.inj h).symm⟩
  · cases h

/-- The tree with gaps is a tree. -/
theorem regular_gapTree : gapTree.Regular where
  finite := ⟨["/r"], fun h => List.mem_singleton.mpr (children_gapTree h).1⟩
  names := by
    intro path items h
    obtain ⟨-, rfl⟩ := children_gapTree h
    have hsample : ∀ s ∈ gapChildren,
        s.name ≠ Text.empty ∧ ∀ g ∈ s.name.glyphs, Text.isSlash g = false := by decide
    intro s hs
    obtain ⟨hne, hslash⟩ := hsample s hs
    exact ⟨hne, hslash⟩
  lstatFault := by
    intro path f h
    unfold gapTree at h
    simp only at h
    split at h
    · cases h
    · cases h
      rfl
  listFault := by
    intro path f h
    unfold children gapTree at h
    simp only at h
    split at h
    · cases h
    · cases h
      rfl

/-- The listing of the root in order. -/
theorem mergeSort_gapChildren : (gapChildren.mergeSort fun a b => a.name.le b.name) =
    [sampleDirectory "a", sampleDirectory "b", sampleFile "c" 3] := by
  have hbc : (sampleDirectory "b").name.le (sampleFile "c" 3).name = true := by decide
  have hba : (sampleDirectory "b").name.le (sampleDirectory "a").name = false := by decide
  simp [gapChildren, List.mergeSort, hbc, hba]

end FileTable

namespace Walk

open FileTable

/-- A walk goes down into the root of the tree with gaps. -/
theorem next_gapTree (root : Text) (s : List Inquiry) :
    next gapTree.tree ({ root }, ⟨true, some ⟨"/r", some (sampleDirectory "r"), none⟩, []⟩, s) =
      (.entry ⟨"/r/a", some (sampleDirectory "a"), none⟩, { root },
        ⟨true, some ⟨"/r/a", some (sampleDirectory "a"), none⟩,
          [⟨"/r/b", some (sampleDirectory "b"), none⟩, ⟨"/r/c", some (sampleFile "c" 3), none⟩]⟩,
        s ++ [.list "/r"]) := by
  show pop _ { started := true, last := _, stack := childEntries "/r" gapChildren ++ [] } _ = _
  unfold childEntries
  rw [mergeSort_gapChildren]
  rfl

/-- A walk that goes on gets beyond the first gap, and to its end. -/
theorem takes_gapTree :
    ∃ between last final,
      Takes gapTree.tree (fun _ => false) [] ({ root := "/r" }, {}, []) (gapVisits.take 3) between ∧
      between.2.2 = [.lstat "/r", .list "/r", .list "/r/a"] ∧
      Takes gapTree.tree (fun _ => false) (gapVisits.take 3).reverse between (gapVisits.drop 3) last ∧
      next gapTree.tree last = (.done, final) :=
  ⟨_, _, _, .entry rfl (.entry (next_gapTree _ _) (.entry rfl (.nothing _ _))), rfl,
    .entry rfl (.entry rfl (.entry rfl (.nothing _ _))), rfl⟩

/-- A walk of the tree with gaps stops at the first of them. -/
theorem stopping_walk_is_cut_gapTree :
    gapTree.Regular ∧ ∃ limit,
      let cut := visitBy gapTree.tree (fun _ => false) limit { root := "/r", stopOnFault := true } []
      cut.1 = { entries := gapVisits.take 3 } ∧
        cut.2.2 = [.lstat "/r", .list "/r", .list "/r/a"] := by
  refine ⟨regular_gapTree, ?_⟩
  obtain ⟨bound, h⟩ := stopping_walk_is_cut regular_gapTree "/r"
  obtain ⟨-, hcut, hasked, -, -, -⟩ := h (fun _ => false) (bound + 7) (Nat.le_add_right bound 7)
  obtain ⟨between, last, final, hfirst, hbetween, hrest, hdone⟩ := takes_gapTree
  have hwhole : (visitBy gapTree.tree (fun _ => false) (bound + 7) { root := "/r" } []).1.entries =
      gapVisits :=
    congrArg (·.1.entries) ((hfirst.append hrest).run_done hdone (Nat.le_add_left 7 bound))
  have hinquiries : (visitBy gapTree.tree (fun _ => false) 3 { root := "/r" } []).2.2 = between.2.2 :=
    congrArg (·.2.2.2) (hfirst.run 0)
  refine ⟨bound + 7, ?_, ?_⟩
  · rw [hcut, hwhole]
    rfl
  · rw [hasked, hwhole]
    exact hinquiries.trans hbetween

end Walk

end Sftp
