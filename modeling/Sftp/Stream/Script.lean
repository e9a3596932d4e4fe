import Sftp.Stream

/-!
# Scripted far ends

A far end that follows a script: it answers the first frame with its greeting and each later one
with the next group of its replies, whatever the frames say. Replies may take the id of the
request that they answer from its frame. A script can also end the stream, break it, or make later
writes fail. It is how a server is written down when what it says matters and how it comes to say
it does not.
-/

namespace Sftp

/-- Something that a script does. -/
inductive ScriptItem
  /-- Sends a packet, made for the id of the request just taken. -/
  | packet (make : Int → Packet)
  /-- Sends bytes. -/
  | raw (bytes : Bytes)
  /-- Ends the read side. -/
  | finish
  /-- Breaks the read side. -/
  | breakRead (fault : Fault)
  /-- Makes every later write fail. -/
  | breakWrite (fault : Fault)

/-- Where a scripted far end stands. -/
structure Script where
  /-- What answers the first frame, until it has come. -/
  greeting : Option (List ScriptItem) := some []
  /-- What answers the later frames, group by group. -/
  replies : List (List ScriptItem) := []
  /-- The id of the request taken last. -/
  lastId : Int := 0
  /-- Whether bytes arrive one by one. -/
  trickle : Bool := false
  /-- What writes fail with, if they do. -/
  writeFault : Option Fault := none
  /-- What flushes fail with, if they do. -/
  flushFault : Option Fault := none
  /-- What closing fails with, if it does. -/
  closeFault : Option Fault := none

namespace Script

/-- The request id in a frame; the handshake's frame has its version there. -/
def frameId (bytes : Bytes) : Int :=
  ofBigEndian ((bytes.drop 5).take 4)

/-- Bytes as they arrive. -/
def arrivals (s : Script) (bytes : Bytes) : List Arrival :=
  if s.trickle then bytes.map fun b => .chunk [b] else [.chunk bytes]

/-- What arrives when an item is done. -/
def perform (s : Script) : ScriptItem → List Arrival × Script
  | .packet make =>
    match (make s.lastId).encode with
    | .ok bytes => (s.arrivals bytes, s)
    | .error _ => ([], s)
  | .raw bytes => (s.arrivals bytes, s)
  | .finish => ([.ending .closed], s)
  | .breakRead f => ([.ending (.broken f)], s)
  | .breakWrite f => ([], { s with writeFault := some f })

/-- What arrives when items are done one after another. -/
def performAll (s : Script) : List ScriptItem → List Arrival × Script
  | [] => ([], s)
  | item :: rest =>
    let (first, s) := s.perform item
    let (others, s) := s.performAll rest
    (first ++ others, s)

/-- Takes a frame. -/
def take (bytes : Bytes) (s : Script) : Except Fault (List Arrival) × Script :=
  match s.writeFault with
  | some f => (.error f, s)
  | none =>
    let s := { s with lastId := frameId bytes }
    match s.greeting, s.replies with
    | some items, _ =>
      let (arrived, s) := { s with greeting := none }.performAll items
      (.ok arrived, s)
    | none, items :: replies =>
      let (arrived, s) := { s with replies }.performAll items
      (.ok arrived, s)
    | none, [] => (.ok [], s)

/-- The far end of a stream that follows a script, with or without a flush. -/
def peer (flushes : Bool) : Peer Script where
  write := take
  flush := if flushes then some fun s => (s.flushFault, s) else none
  close s := (s.closeFault, s)

/-- A fresh stream to a scripted far end. -/
def line (s : Script) (flushes : Bool) : Line Script where
  peer := peer flushes
  state := s

end Script

end Sftp
