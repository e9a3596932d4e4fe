import Sftp.Fault

/-!
# Steps

A step works on a state and either gives a result or ends with a fault. In both cases the state is
as the step left it: what was done before a fault stays done.
-/

namespace Sftp

/-- A computation on a state that may end with a fault. -/
abbrev Step (S α : Type) : Type := ExceptT Fault (StateM S) α

namespace Step

variable {S T α : Type}

/-- Takes a step from a state. -/
def run (a : Step S α) (s : S) : Except Fault α × S :=
  Id.run (StateT.run (ExceptT.run a) s)

/-- The step that goes to a given outcome and state. -/
def ofFunction (f : S → Except Fault α × S) : Step S α :=
  fun s => f s

/-- Takes a step on a part of the state. -/
def within (part : S → T) (replace : S → T → S) (a : Step T α) : Step S α :=
  ofFunction fun s =>
    let (result, t) := a.run (part s)
    (result, replace s t)

/-- Takes a step and gives its fault as a result. -/
def attempt (a : Step S α) : Step S (Except Fault α) :=
  ofFunction fun s =>
    let (result, t) := a.run s
    (.ok result, t)

/-- Gives a result or ends with a fault, the state as it is. -/
def ofExcept (r : Except Fault α) : Step S α :=
  ofFunction fun s => (r, s)

/-- Takes a step and then another, whatever became of the first. A fault of the second replaces
that of the first. -/
def andFinally (a : Step S α) (last : Step S Unit) : Step S α := do
  let result ← a.attempt
  last
  ofExcept result

/-- A step after another is taken from where the first ended, unless that ended with a fault. -/
theorem run_bind {β : Type} (a : Step S α) (k : α → Step S β) (s : S) :
    run (a >>= k) s =
      match run a s with
      | (.ok x, t) => run (k x) t
      | (.error f, t) => (.error f, t) := by
  unfold run
  rw [ExceptT.run_bind, StateT.run_bind, Id.run_bind]
  rcases Id.run (StateT.run (ExceptT.run a) s) with ⟨_ | x, t⟩ <;> rfl

/-- What is made of the result of a step leaves the state alone. -/
theorem run_map {β : Type} (f : α → β) (a : Step S α) (s : S) :
    run (f <$> a) s = ((run a s).1.map f, (run a s).2) := by
  rw [← bind_pure_comp, run_bind]
  rcases run a s with ⟨_ | x, t⟩ <;> rfl

/-- A handler is taken from where the fault left the state. -/
theorem run_tryCatch (a : Step S α) (handle : Fault → Step S α) (s : S) :
    run (tryCatch a handle) s =
      match run a s with
      | (.ok x, t) => (.ok x, t)
      | (.error f, t) => run (handle f) t := by
  unfold run
  rw [ExceptT.run_tryCatch, StateT.run_bind, Id.run_bind]
  rcases Id.run (StateT.run (ExceptT.run a) s) with ⟨_ | x, t⟩ <;> rfl

@[simp] theorem run_get (s : S) : run (get : Step S S) s = (.ok s, s) := rfl

@[simp] theorem run_set (s t : S) : run (set t : Step S PUnit) s = (.ok ⟨⟩, t) := rfl

@[simp] theorem run_modify (f : S → S) (s : S) :
    run (modify f : Step S PUnit) s = (.ok ⟨⟩, f s) := rfl

@[simp] theorem run_pure (a : α) (s : S) : run (pure a : Step S α) s = (.ok a, s) := rfl

@[simp] theorem run_throw (f : Fault) (s : S) : run (throw f : Step S α) s = (.error f, s) := rfl

@[simp] theorem run_ofFunction (f : S → Except Fault α × S) (s : S) : run (ofFunction f) s = f s :=
  rfl

@[simp] theorem run_ofExcept (r : Except Fault α) (s : S) : run (ofExcept r) s = (r, s) := rfl

@[simp] theorem run_attempt (a : Step S α) (s : S) :
    run a.attempt s = (.ok (a.run s).1, (a.run s).2) := rfl

/-- What comes last is taken from where the step left the state, and its fault counts first. -/
theorem run_andFinally (a : Step S α) (last : Step S Unit) (s : S) :
    run (a.andFinally last) s =
      match run last (run a s).2 with
      | (.ok _, t) => ((run a s).1, t)
      | (.error f, t) => (.error f, t) := by
  unfold andFinally
  rw [run_bind, run_attempt]
  simp only
  rw [run_bind]
  rcases run last (run a s).2 with ⟨_ | _, t⟩ <;> rfl

/-- The state is the one that it leaves. -/
theorem state_andFinally (a : Step S α) (last : Step S Unit) (s : S) :
    (run (a.andFinally last) s).2 = (run last (run a s).2).2 := by
  rw [run_andFinally]
  rcases run last (run a s).2 with ⟨_ | _, t⟩ <;> rfl

@[simp] theorem run_within (part : S → T) (replace : S → T → S) (a : Step T α) (s : S) :
    run (within part replace a) s = ((a.run (part s)).1, replace s (a.run (part s)).2) := rfl

end Step

end Sftp
