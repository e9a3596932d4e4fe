import Sftp.LocalFiles
import Sftp.Surroundings

/-!
# Trust on first use

A host whose key of some type is not known yet is trusted, and its key is remembered, in memory and
in a file. A host that offers another key of a type than the one that is known is refused. A file
that cannot be written is no reason to refuse.
-/

namespace Sftp

/-- A key that is known: its host, its type and itself. -/
structure HostKey where
  /-- The host. -/
  host : Text
  /-- The type of the key. -/
  keyType : Text
  /-- The key. -/
  key : Text
  deriving DecidableEq, Inhabited

/-- The keys that are known, and where they are kept. -/
structure KeyRing (σ : Type) where
  /-- The keys, at most one for a host and a type. -/
  known : List HostKey
  /-- The file that they are kept in. -/
  path : LocalPath
  /-- The local files. -/
  files : LocalFiles
  /-- The surroundings. -/
  surroundings : Surroundings σ

namespace KeyRing

variable {σ α : Type}

/-- Takes a step on the surroundings. -/
def outside (a : Step (Surroundings σ) α) : Step (KeyRing σ) α :=
  a.within (·.surroundings) fun r surroundings => { r with surroundings }

/-- The key of a host and a type that is known. -/
def lookup? (r : KeyRing σ) (host keyType : Text) : Option Text :=
  (r.known.find? fun k => k.host = host && k.keyType = keyType).map (·.key)

/-- Remembers a key in memory, in place of another for its host and type. -/
def remember (k : HostKey) : Step (KeyRing σ) Unit := do
  outside (Surroundings.perform (.addKey k.host k.keyType k.key))
  modify fun r =>
    { r with known := k :: r.known.filter fun o => !(o.host = k.host && o.keyType = k.keyType) }

/-- Writes the keys to their file. -/
def save : Step (KeyRing σ) Unit := do
  let r ← get
  (LocalFiles.ensureParents r.path).within (·.files) fun r files => { r with files }
  outside (Surroundings.perform (.saveKeys r.path.toText))

/-- Decides on a key that a host offers. -/
def accept (offer : HostKey) : Step (KeyRing σ) Unit := do
  let r ← get
  if (r.lookup? offer.host offer.keyType).any (· ≠ offer.key) then
    throw (.hostKeyMismatch offer.keyType offer.host r.path.toText)
  outside (Surroundings.record .info
    ("Trusting new " ++ offer.keyType ++ " key for " ++ offer.host))
  remember offer
  match ← (save : Step (KeyRing σ) Unit).attempt with
  | .ok () => return
  | .error f =>
    if f.isSystem then
      outside (Surroundings.record .warning
        ("Could not record host key in " ++ r.path.toText ++ ": " ++ f.message))
    else
      throw f

end KeyRing

end Sftp
