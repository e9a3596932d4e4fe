import Sftp.Wire.Field

/-!
# Writing fields one by one

A `Writer` appends to a body. A field that cannot be written ends it with a fault; what was appended
before stays, so that a caller who goes on after a fault knows where. `Writer.run_fields` says that
fields written one by one are those that `writeFields` writes at once.
-/

namespace Sftp

/-- A computation that appends to a body and may find something that has no encoding. -/
abbrev Writer (α : Type) : Type := ExceptT EncodeFault (StateM Bytes) α

namespace Writer

/-- Runs a writer on the body so far; the second component is the body that it left. -/
def run {α : Type} (w : Writer α) (body : Bytes) : Except EncodeFault α × Bytes :=
  StateT.run (m := Id) (ExceptT.run w) body

section

variable {α β : Type}

@[simp] theorem run_pure (a : α) (body : Bytes) : run (pure a : Writer α) body = (.ok a, body) :=
  rfl

@[simp] theorem run_throw (e : EncodeFault) (body : Bytes) :
    run (throw e : Writer α) body = (.error e, body) := rfl

@[simp] theorem run_modify (f : Bytes → Bytes) (body : Bytes) :
    run (modify f : Writer PUnit) body = (.ok ⟨⟩, f body) := rfl

/-- A writer after another starts where the first stopped, unless the first found a fault. -/
theorem run_bind (w : Writer α) (k : α → Writer β) (body : Bytes) :
    run (w >>= k) body =
      match run w body with
      | (.ok a, longer) => run (k a) longer
      | (.error e, longer) => (.error e, longer) := by
  unfold run
  rw [ExceptT.run_bind, StateT.run_bind]
  rcases (ExceptT.run w).run body with ⟨_ | a, longer⟩ <;> rfl

end

/-- Appends a field. Of a block, the fields before a fault stay. -/
def field (f : Field) : Writer Unit := do
  let w := f.write
  modify (· ++ w.bytes)
  match w.fault with
  | some e => throw e
  | none => return ()

/-- Appends fields one after another, up to the first that cannot be written. -/
def fields : List Field → Writer Unit
  | [] => return ()
  | f :: rest => do
    field f
    fields rest

/-- The body grows by what was written of the field. -/
theorem run_field (f : Field) (body : Bytes) :
    run (field f) body = (f.write.result.map fun _ => (), body ++ f.write.bytes) := by
  unfold field
  rcases f.write with ⟨bytes, _ | e⟩
  · simp only [run_bind, run_modify, run_pure, Written.result, Except.map]
  · simp only [run_bind, run_modify, run_throw, Written.result, Except.map]

/-- Fields are appended one by one as `writeFields` writes them at once. -/
theorem run_fields (fs : List Field) (body : Bytes) :
    run (fields fs) body =
      ((writeFields fs).result.map fun _ => (), body ++ (writeFields fs).bytes) := by
  induction fs generalizing body with
  | nil => exact congrArg (Prod.mk _) (List.append_nil body).symm
  | cons f fs ih =>
    -- either the field is written and the others come after it, or its fault is the last thing that happens
    rw [fields, run_bind, run_field, writeFields]
    rcases f.write with ⟨bytes, _ | e⟩
    · show run (fields fs) (body ++ bytes) = _
      rw [ih, List.append_assoc]
      rcases writeFields fs with ⟨rest, _ | e⟩ <;> rfl
    · rfl

end Writer

end Sftp
