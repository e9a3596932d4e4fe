import Sftp.Surroundings

/-!
# Scripted surroundings

An outside that follows a script: it has some bytes to be read, and it refuses the acts that the
script says it refuses, by their name and by how often that name has come before. It is how an
outside is written down when only its failures matter.
-/

namespace Sftp

/-- An outside that follows a script. -/
structure ScriptedOutside where
  /-- Why an act of the given name is refused, if that name has come so often before. -/
  refusal : (label : String) → (before : Nat) → Option Fault
  /-- The bytes that can be read. -/
  incoming : Bytes := []
  /-- The names of the acts so far, latest first. -/
  done : List String := []

namespace ScriptedOutside

/-- What becomes of an act that is not refused. Reading a negative number of bytes reads all. -/
def serve (o : ScriptedOutside) : Act → Bytes × ScriptedOutside
  | .read n =>
    let size := if n < 0 then o.incoming.length else n.toNat
    (o.incoming.take size, { o with incoming := o.incoming.drop size })
  | _ => ([], o)

/-- What becomes of an act. -/
def answer (a : Act) (o : ScriptedOutside) : Except Fault Bytes × ScriptedOutside :=
  let next := { o with done := a.label :: o.done }
  match o.refusal a.label (o.done.count a.label) with
  | some f => (.error f, next)
  | none =>
    let (bytes, next) := next.serve a
    (.ok bytes, next)

/-- Surroundings of which nothing has been asked yet. -/
def surroundings (o : ScriptedOutside) : Surroundings ScriptedOutside where
  answer := answer
  state := o

end ScriptedOutside

end Sftp
