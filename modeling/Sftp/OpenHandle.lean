import Sftp.Client

/-!
# Open handles

Files and directories that a server has opened for the client. Each owns one handle and releases
it once; after that nothing reaches the server. A step on an open object works on the object and
on the client together (`Held`).
-/

namespace Sftp

/-- A handle and what it was opened for. -/
structure OpenHandle where
  /-- What it belongs to. -/
  kind : HandleKind
  /-- The server's name for it. -/
  handle : Bytes
  /-- The path that was opened. -/
  path : Text
  /-- Whether it was released. -/
  closed : Bool := false
  deriving DecidableEq, Inhabited

/-- The name under which an open object is shown. -/
def HandleKind.typeLabel : HandleKind → String
  | file => "RemoteFile"
  | directory => "RemoteDir"

/-- The open object in one line. -/
def OpenHandle.describe (h : OpenHandle) : Text :=
  "<" ++ h.kind.typeLabel ++ " " ++ h.path.quoted ++ " "
    ++ (if h.closed then "closed" else "open") ++ ">"

/-- An open object and the client that opened it. -/
structure Held (ρ σ : Type) where
  /-- The object. -/
  object : ρ
  /-- The client. -/
  client : Client σ

/-- An object that owns a handle. -/
class OwnsHandle (ρ : Type) where
  /-- The handle. -/
  base : ρ → OpenHandle
  /-- The object with another state of its handle. -/
  withBase : ρ → OpenHandle → ρ

namespace Held

variable {ρ σ α : Type}

/-- Takes a step on the client. -/
def onClient (a : Step (Client σ) α) : Step (Held ρ σ) α :=
  a.within (·.client) fun h client => { h with client }

/-- The object. -/
def current : Step (Held ρ σ) ρ := do
  let h ← get
  return h.object

/-- Changes the object. -/
def update (f : ρ → ρ) : Step (Held ρ σ) Unit :=
  modify fun h => { h with object := f h.object }

@[simp] theorem run_onClient (a : Step (Client σ) α) (h : Held ρ σ) :
    (onClient a).run h = ((a.run h.client).1, { h with client := (a.run h.client).2 }) := rfl

@[simp] theorem run_current (h : Held ρ σ) : current.run h = (.ok h.object, h) := rfl

@[simp] theorem run_update (f : ρ → ρ) (h : Held ρ σ) :
    (update f).run h = (.ok (), { h with object := f h.object }) := rfl

variable [OwnsHandle ρ]

/-- Faults if the handle was released. -/
def ensureOpen : Step (Held ρ σ) Unit := do
  let base := OwnsHandle.base (← current)
  if base.closed then
    throw (.closedHandle base.kind base.path)

/-- An open object is open. -/
theorem run_ensureOpen {h : Held ρ σ} (hopen : (OwnsHandle.base h.object).closed = false) :
    ensureOpen.run h = (.ok (), h) := by
  unfold ensureOpen
  rw [Step.run_bind, run_current]
  simp only
  rw [hopen]
  rfl

/-- Releases the handle, unless it was released. It counts as released whatever the server says. -/
def close : Step (Held ρ σ) Unit := do
  let base := OwnsHandle.base (← current)
  if !base.closed then
    update fun o => OwnsHandle.withBase o { base with closed := true }
    onClient (Client.closeHandle base.handle)

/-- Takes a step on a client with an open object and releases the object afterwards. -/
def during (object : ρ) (a : Step (Held ρ σ) α) : Step (Client σ) α :=
  Step.within (fun client => { object, client }) (fun _ held => held.client)
    (a.andFinally close)

end Held

end Sftp
