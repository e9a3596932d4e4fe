import Mathlib.Data.List.Basic
import Sftp.Endpoint
import Sftp.Surroundings.Script

/-!
# Closing takes four steps

Closing an endpoint takes its four steps in order, and only the first call that closes takes any. Whatever the
outside does, each step is taken at most once. But two of them keep those after them from being taken: the
write side, if closing it fails other than as the system does, and the read side, if closing it fails at all.
What carried the stream is not let go then, and no later call makes up for it.

* `ClosingStep` — the steps; `ClosingStep.act` — the act that each begins with.
* `Closing` — which steps are taken; `Closing.isPrefix`, `Closing.acts`, `Closing.all_iff` — what follows
  from that; **`Endpoint.shutDown_closing`** — nothing else happens.
* `Endpoint.Use`, `Endpoint.useAll` — calls on an endpoint; `Endpoint.ClosedInOrder` — what is said of them.
* **`Endpoint.closes_in_order`** — all endpoints, whatever is called on them.
* **`Endpoint.use_leakySocket`** — a socket that is not let go.
-/

namespace Sftp

variable {σ α β : Type}

/-! ## Steps -/

/-- One step of closing. -/
inductive ClosingStep
  /-- The write side is closed. -/
  | closeWriter
  /-- Whatever is blocked in a read is set free. -/
  | unblock
  /-- The read side is closed. -/
  | closeReader
  /-- What carried the stream is let go. -/
  | release
  deriving DecidableEq

/-- What ends a stream, or part of it: the acts with which steps of closing begin. -/
def Act.isClosing : Act → Bool
  | close _ | shutDownSocket | closeSocket | awaitExit (some _) | closeChannel | closeConnection => true
  | _ => false

namespace ClosingStep

/-- All steps, in order. -/
def all : List ClosingStep := [closeWriter, unblock, closeReader, release]

/-- What is done in a step. -/
def take (backing : Backing) : ClosingStep → Step (Surroundings σ) Unit
  | closeWriter => Surroundings.perform (.close .writer)
  | unblock => backing.unblock
  | closeReader => Surroundings.perform (.close .reader)
  | release => backing.release

/-- The act that a step begins with, if there is anything to do. -/
def act : Backing → ClosingStep → Option Act
  | _, closeWriter => some (.close .writer)
  | .files, unblock => none
  | .socket, unblock => some .shutDownSocket
  | .process _ patience, unblock => some (.awaitExit (some patience))
  | .channel _, unblock => some .closeChannel
  | _, closeReader => some (.close .reader)
  | .socket, release => some .closeSocket
  | .channel true, release => some .closeConnection
  | _, release => none

end ClosingStep

namespace Surroundings

/-- The acts so far that end a stream or part of it. -/
def closings (s : Surroundings σ) : List Act :=
  s.acts.toList.filter Act.isClosing

/-- An act counts, whatever becomes of it. -/
theorem closings_perform (a : Act) (s : Surroundings σ) :
    closings ((perform a).run s).2 = s.closings ++ [a].filter Act.isClosing := by
  rw [run_perform]
  unfold closings
  rw [Array.toList_push, List.filter_append]

/-- A step that does nothing to end the stream. -/
def Quiet (a : Step (Surroundings σ) α) : Prop :=
  ∀ s : Surroundings σ, closings (a.run s).2 = s.closings

theorem quiet_pure (x : α) : Quiet (pure x : Step (Surroundings σ) α) := fun _ => rfl

theorem quiet_throw (f : Fault) : Quiet (throw f : Step (Surroundings σ) α) := fun _ => rfl

theorem quiet_record (level : Level) (message : Text) : Quiet (σ := σ) (record level message) := fun _ => rfl

/-- An act that does not count. -/
theorem quiet_fetch {a : Act} (ha : a.isClosing = false) : Quiet (σ := σ) (fetch a) := by
  intro s
  unfold fetch closings
  rw [Step.run_ofFunction, Array.toList_push, List.filter_append, List.filter_singleton, ha]
  exact List.append_nil _

/-- One step after another. -/
theorem Quiet.bind {a : Step (Surroundings σ) α} {k : α → Step (Surroundings σ) β} (ha : Quiet a)
    (hk : ∀ x, Quiet (k x)) : Quiet (a >>= k) := by
  intro s
  have hfirst := ha s
  rw [Step.run_bind]
  rcases hrun : a.run s with ⟨f | x, s'⟩
  · rw [hrun] at hfirst
    exact hfirst
  · rw [hrun] at hfirst
    exact (hk x s').trans hfirst

/-- An act that does not count, whose answer does not matter. -/
theorem quiet_perform {a : Act} (ha : a.isClosing = false) : Quiet (σ := σ) (perform a) :=
  (quiet_fetch ha).bind fun _ => quiet_pure _

end Surroundings

open Surroundings ClosingStep

/-- After an act whose failure is dealt with quietly, only the act counts. -/
theorem closings_attempt {a : Act} {deal : Except Fault Unit → Step (Surroundings σ) α}
    (hdeal : ∀ r, Quiet (deal r)) (s : Surroundings σ) :
    closings (((perform a).attempt >>= deal).run s).2 = s.closings ++ [a].filter Act.isClosing := by
  rw [Step.run_bind, Step.run_attempt]
  exact (hdeal _ _).trans (closings_perform a s)

/-- To kill a process that does not end is no step of its own. -/
theorem Backing.closings_stopProcess (number : Nat) (patience : Seconds) (s : Surroundings σ) :
    closings ((stopProcess number patience).run s).2 = s.closings ++ [.awaitExit (some patience)] := by
  refine closings_attempt (fun r => ?_) s
  rcases r with f | _
  · simp only
    split
    · exact (quiet_record _ _).bind fun _ => (quiet_perform rfl).bind fun _ => quiet_perform rfl
    · exact quiet_throw f
  · exact quiet_pure _

/-- So it is with what is set free. -/
theorem Backing.closings_unblock (backing : Backing) (s : Surroundings σ) :
    closings (backing.unblock.run s).2 = s.closings ++ (ClosingStep.unblock.act backing).toList := by
  cases backing with
  | files => exact (List.append_nil _).symm
  | socket =>
    refine closings_attempt (fun r => ?_) s
    rcases r with f | _
    · simp only
      split
      · exact quiet_pure _
      · exact quiet_throw f
    · exact quiet_pure _
  | process number patience => exact closings_stopProcess number patience s
  | channel ownsConnection => exact closings_perform .closeChannel s

/-- And with what is let go. -/
theorem Backing.closings_release (backing : Backing) (s : Surroundings σ) :
    closings (backing.release.run s).2 = s.closings ++ (ClosingStep.release.act backing).toList := by
  cases backing with
  | files => exact (List.append_nil _).symm
  | socket => exact closings_perform .closeSocket s
  | process number patience => exact (List.append_nil _).symm
  | channel ownsConnection =>
    cases ownsConnection with
    | true => exact closings_perform .closeConnection s
    | false => exact (List.append_nil _).symm

/-- **A step begins with its act**, and does nothing else to end the stream. -/
theorem ClosingStep.closings_take (backing : Backing) (step : ClosingStep) (s : Surroundings σ) :
    closings ((step.take backing).run s).2 = s.closings ++ (step.act backing).toList := by
  cases step with
  | closeWriter => exact closings_perform (.close .writer) s
  | unblock => exact backing.closings_unblock s
  | closeReader => exact closings_perform (.close .reader) s
  | release => exact backing.closings_release s

/-! ## Closing -/

/-- Which steps closing takes, and what it leaves of the surroundings. -/
inductive Closing (backing : Backing) (s : Surroundings σ) : List ClosingStep → Surroundings σ → Prop
  /-- Closing the write side fails other than as the system does. -/
  | cutAtWriter {f : Fault} {s₁ : Surroundings σ} (hf : f.isSystem = false)
      (hwriter : (closeWriter.take backing).run s = (.error f, s₁)) : Closing backing s [closeWriter] s₁
  /-- Closing the read side fails. -/
  | cutAtReader {r₁ r₂ : Except Fault Unit} {f : Fault} {s₁ s₂ s₃ : Surroundings σ}
      (hwriter : (closeWriter.take backing).run s = (r₁, s₁))
      (hr₁ : ∀ f, r₁ = .error f → f.isSystem = true)
      (hunblock : (unblock.take backing).run s₁ = (r₂, s₂))
      (hreader : (closeReader.take backing).run s₂ = (.error f, s₃)) :
      Closing backing s [closeWriter, unblock, closeReader] s₃
  /-- All steps are taken, whatever becomes of setting free and of letting go. -/
  | whole {r₁ r₂ r₄ : Except Fault Unit} {s₁ s₂ s₃ s₄ : Surroundings σ}
      (hwriter : (closeWriter.take backing).run s = (r₁, s₁))
      (hr₁ : ∀ f, r₁ = .error f → f.isSystem = true)
      (hunblock : (unblock.take backing).run s₁ = (r₂, s₂))
      (hreader : (closeReader.take backing).run s₂ = (.ok (), s₃))
      (hrelease : (release.take backing).run s₃ = (r₄, s₄)) : Closing backing s all s₄

/-- Neither side of a stream is in the way of closing it. -/
structure Endures (backing : Backing) (s : Surroundings σ) : Prop where
  /-- If closing the write side fails, it fails as the system does. -/
  writer : ∀ f, ((closeWriter.take backing).run s).1 = .error f → f.isSystem = true
  /-- Closing the read side after that, and after what is blocked was set free, does not fail. -/
  reader : ((closeReader.take backing).run ((unblock.take backing).run
    ((closeWriter.take backing).run s).2).2).1 = .ok ()

namespace Closing

variable {backing : Backing} {s s' : Surroundings σ} {taken : List ClosingStep}

/-- Steps are taken in order, from the first one on. -/
theorem isPrefix (h : Closing backing s taken s') : taken <+: all ∧ taken ≠ [] := by
  cases h with
  | cutAtWriter => exact ⟨⟨_, rfl⟩, List.cons_ne_nil _ _⟩
  | cutAtReader => exact ⟨⟨_, rfl⟩, List.cons_ne_nil _ _⟩
  | whole => exact ⟨List.prefix_rfl, List.cons_ne_nil _ _⟩

/-- The acts that end the stream are those with which the steps begin. -/
theorem acts (h : Closing backing s taken s') :
    s'.closings = s.closings ++ taken.filterMap (act backing) := by
  have hstep : ∀ (step : ClosingStep) {t t' : Surroundings σ} {r : Except Fault Unit},
      (step.take backing).run t = (r, t') → t'.closings = t.closings ++ [step].filterMap (act backing) := by
    intro step t t' r hrun
    have htake := step.closings_take backing t
    rw [hrun] at htake
    rw [htake]
    cases hact : step.act backing <;> simp [hact]
  cases h with
  | cutAtWriter _ hwriter => exact hstep closeWriter hwriter
  | cutAtReader hwriter _ hunblock hreader =>
    rw [hstep closeReader hreader, hstep unblock hunblock, hstep closeWriter hwriter, List.append_assoc,
      List.append_assoc, ← List.filterMap_append, ← List.filterMap_append]
    rfl
  | whole hwriter _ hunblock hreader hrelease =>
    rw [hstep release hrelease, hstep closeReader hreader, hstep unblock hunblock, hstep closeWriter hwriter,
      List.append_assoc, List.append_assoc, List.append_assoc, ← List.filterMap_append,
      ← List.filterMap_append, ← List.filterMap_append]
    rfl

/-- **All steps are taken exactly if neither side is in the way**: closing the write side fails at most as
the system does, and closing the read side does not fail. -/
theorem all_iff (h : Closing backing s taken s') : taken = all ↔ Endures backing s := by
  cases h with
  | cutAtWriter hf hwriter =>
    refine ⟨nofun, fun hendures => ?_⟩
    rw [hendures.writer _ (congrArg Prod.fst hwriter)] at hf
    cases hf
  | cutAtReader hwriter hr₁ hunblock hreader =>
    refine ⟨nofun, fun hendures => ?_⟩
    have hdone := hendures.reader
    rw [hwriter, hunblock, hreader] at hdone
    cases hdone
  | whole hwriter hr₁ hunblock hreader hrelease =>
    refine ⟨fun _ => ⟨fun f hf => ?_, ?_⟩, fun _ => rfl⟩
    · rw [hwriter] at hf
      exact hr₁ f hf
    · rw [hwriter, hunblock, hreader]

end Closing

/-- **Closing is nothing but its steps.** -/
theorem Endpoint.shutDown_closing (backing : Backing) (s : Surroundings σ) :
    ∃ taken, Closing backing s taken ((shutDown backing).run s).2 := by
  rcases hwriter : (perform (.close .writer)).run s with ⟨r₁, s₁⟩
  rcases hunblock : backing.unblock.run s₁ with ⟨r₂, s₂⟩
  rcases hreader : (perform (.close .reader)).run s₂ with ⟨r₃, s₃⟩
  have hrest : (∀ f, r₁ = .error f → f.isSystem = true) →
      ∃ taken, Closing backing s taken ((backing.unblock.andFinally do
        perform (.close .reader)
        backing.release).run s₁).2 := by
    intro hr₁
    rw [Step.state_andFinally, hunblock, Step.run_bind, hreader]
    cases r₃ with
    | error f => exact ⟨_, .cutAtReader hwriter hr₁ hunblock hreader⟩
    | ok _ => exact ⟨_, .whole hwriter hr₁ hunblock hreader rfl⟩
  unfold shutDown
  rw [Step.run_bind, Step.run_attempt, hwriter]
  cases r₁ with
  | ok _ => exact hrest nofun
  | error f =>
    simp only
    cases hf : f.isSystem with
    | true => exact hrest fun _ h => Except.error.inj h ▸ hf
    | false => exact ⟨_, .cutAtWriter hf hwriter⟩

/-! ## Calls -/

namespace Endpoint

/-- A call on an endpoint. -/
inductive Use
  /-- At most so many bytes are read. -/
  | read (size : Int)
  /-- Bytes are written. -/
  | write (bytes : Bytes)
  /-- The endpoint is closed. -/
  | close
  deriving DecidableEq

/-- The step of a call, its result left out. -/
def Use.step : Use → Action σ Unit
  | read size => (fun _ => ()) <$> Endpoint.read size
  | write bytes => Endpoint.write bytes
  | close => Endpoint.close

/-- An endpoint after calls, whatever became of them. -/
def useAll (e : Attached σ) (uses : List Use) : Attached σ :=
  uses.foldl (fun e use => (use.step.run e).2) e

variable {e : Attached σ}

/-- A step on the surroundings is a step on them alone. -/
theorem run_outside (a : Step (Surroundings σ) α) (e : Attached σ) :
    (outside a).run e = ((a.run e.surroundings).1, { e with surroundings := (a.run e.surroundings).2 }) :=
  rfl

/-- Calls that do not close leave the endpoint open or closed, and do nothing to end the stream. -/
theorem use_of_ne_close {use : Use} (huse : use ≠ .close) (e : Attached σ) :
    (use.step.run e).2.endpoint = e.endpoint ∧
      (use.step.run e).2.surroundings.closings = e.surroundings.closings := by
  cases use with
  | read size =>
    rw [Use.step, Step.run_map]
    exact ⟨rfl, quiet_fetch rfl e.surroundings⟩
  | write bytes =>
    have hwrite := quiet_perform (a := .write bytes) rfl e.surroundings
    rw [Use.step, Endpoint.write, Step.run_bind, run_outside]
    rcases hrun : (perform (.write bytes)).run e.surroundings with ⟨f | _, s⟩
    · rw [hrun] at hwrite
      exact ⟨rfl, hwrite⟩
    · rw [hrun] at hwrite
      exact ⟨rfl, (quiet_perform (a := .flush) rfl s).trans hwrite⟩
  | close => exact absurd rfl huse

/-- Closing what was closed does nothing. -/
theorem run_close_of_closed (hclosed : e.endpoint.closed = true) : close.run e = (.ok (), e) := by
  unfold close
  rw [Step.run_bind, Step.run_get]
  simp only [hclosed]
  rfl

/-- Closing what is open takes the steps. -/
theorem state_close_of_open (hopen : e.endpoint.closed = false) :
    (close.run e).2 = {
      endpoint := { e.endpoint with closed := true }
      surroundings := ((shutDown e.endpoint.backing).run e.surroundings).2 } := by
  unfold close
  rw [Step.run_bind, Step.run_get]
  simp only [hopen]
  rfl

/-- After it was closed, calls do nothing to end the stream, and those that close do nothing. -/
theorem useAll_of_closed (hclosed : e.endpoint.closed = true) (uses : List Use) :
    (useAll e uses).surroundings.closings = e.surroundings.closings ∧
      useAll e uses = useAll e (uses.filter (· ≠ .close)) := by
  unfold useAll
  induction uses generalizing e with
  | nil => exact ⟨rfl, rfl⟩
  | cons use uses ih =>
    by_cases huse : use = .close
    · subst huse
      rw [List.foldl_cons, Use.step, run_close_of_closed hclosed, List.filter_cons_of_neg (by simp)]
      exact ih hclosed
    · obtain ⟨hendpoint, hclosings⟩ := use_of_ne_close huse e
      obtain ⟨hrest, hfilter⟩ := ih (hendpoint ▸ hclosed)
      rw [List.foldl_cons, List.filter_cons_of_pos (by simpa using huse), List.foldl_cons]
      exact ⟨hrest.trans hclosings, hfilter⟩

/-- Before it is closed, calls do nothing to end the stream. -/
theorem useAll_of_open {uses : List Use} (huses : .close ∉ uses) (e : Attached σ) :
    (useAll e uses).endpoint = e.endpoint ∧
      (useAll e uses).surroundings.closings = e.surroundings.closings := by
  unfold useAll
  induction uses generalizing e with
  | nil => exact ⟨rfl, rfl⟩
  | cons use uses ih =>
    obtain ⟨hendpoint, hclosings⟩ := use_of_ne_close (List.ne_of_not_mem_cons huses).symm e
    obtain ⟨hrest, hrestClosings⟩ := ih (List.not_mem_of_not_mem_cons huses) (use.step.run e).2
    exact ⟨hrest.trans hendpoint, hrestClosings.trans hclosings⟩

/-- The steps that are taken of closing an endpoint, over calls on it. -/
structure ClosedInOrder (e : Attached σ) (uses : List Use) (taken : List ClosingStep) : Prop where
  /-- Each step is taken at most once, in order, and not without those before it. -/
  inOrder : taken <+: all
  /-- Of all that was done, their acts end the stream and no others. -/
  acts : (useAll e uses).surroundings.closings =
    e.surroundings.closings ++ taken.filterMap (act e.endpoint.backing)
  /-- If no call closes, none is taken. -/
  unclosed : .close ∉ uses → taken = []
  /-- The first call that closes takes them, all exactly if neither side is in the way, and the others that
  close do nothing. -/
  first : .close ∈ uses → ∃ earlier later s, uses = earlier ++ .close :: later ∧ .close ∉ earlier ∧
    Closing e.endpoint.backing (useAll e earlier).surroundings taken s ∧
    (taken = all ↔ Endures e.endpoint.backing (useAll e earlier).surroundings) ∧
    useAll e uses = useAll ⟨{ e.endpoint with closed := true }, s⟩ (later.filter (· ≠ .close))

/-- An endpoint that is open is closed in order. -/
theorem exists_closedInOrder (hopen : e.endpoint.closed = false) (uses : List Use) :
    ∃ taken, ClosedInOrder e uses taken := by
  by_cases hclose : .close ∈ uses
  · obtain ⟨earlier, later, rfl, hearlier⟩ := List.eq_append_cons_of_mem hclose
    obtain ⟨hendpoint, hclosings⟩ := useAll_of_open hearlier e
    have hbefore : (useAll e earlier).endpoint.closed = false := hendpoint ▸ hopen
    obtain ⟨taken, hclosing⟩ := shutDown_closing e.endpoint.backing (useAll e earlier).surroundings
    -- the endpoint and its surroundings right after the call that closes
    have hafter : useAll e (earlier ++ .close :: later) = useAll {
        endpoint := { e.endpoint with closed := true }
        surroundings := ((shutDown e.endpoint.backing).run (useAll e earlier).surroundings).2 } later := by
      have hrun := state_close_of_open hbefore
      rw [hendpoint] at hrun
      rw [← hrun]
      exact List.foldl_append
    obtain ⟨hlater, hfilter⟩ := useAll_of_closed (e := {
        endpoint := { e.endpoint with closed := true }
        surroundings := ((shutDown e.endpoint.backing).run (useAll e earlier).surroundings).2 }) rfl later
    refine ⟨taken, hclosing.isPrefix.1, ?_, fun h => absurd hclose h, fun _ => ?_⟩
    · rw [hafter, hlater, hclosing.acts, hclosings]
    · exact ⟨earlier, later, _, rfl, hearlier, hclosing, hclosing.all_iff, hafter.trans hfilter⟩
  · obtain ⟨-, hclosings⟩ := useAll_of_open hclose e
    refine ⟨[], List.nil_prefix, ?_, fun _ => rfl, fun h => absurd h hclose⟩
    rw [hclosings]
    exact (List.append_nil _).symm

/-- **The steps of closing are taken in order and at most once, until one is in the way of the others.** It
does not matter what carries the stream, what its surroundings do, and which calls are made how often. -/
theorem closes_in_order (backing : Backing) (s : Surroundings σ) (uses : List Use) :
    ∃ taken, ClosedInOrder { endpoint := { backing }, surroundings := s } uses taken :=
  exists_closedInOrder rfl uses

/-- A socket whose read side cannot be closed. -/
def leakySocket : Attached ScriptedOutside where
  endpoint := { backing := .socket }
  surroundings := ScriptedOutside.surroundings {
    refusal := fun label _ => if label = "reader.close" then some (.foreign .system "os") else none }

/-- It is closed twice, and the socket is not let go. -/
theorem use_leakySocket :
    (useAll leakySocket [.close, .close]).surroundings.closings =
        [.close .writer, .shutDownSocket, .close .reader] ∧
      ClosingStep.release.act leakySocket.endpoint.backing = some .closeSocket ∧
      .closeSocket ∉ (useAll leakySocket [.close, .close]).surroundings.acts := by
  decide +kernel

end Endpoint

end Sftp
