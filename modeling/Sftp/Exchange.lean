import Sftp.Stream

/-!
# Requests and their replies

Many requests can be under way on one stream. An `Exchange` keeps the table of those that wait:
each has an id of 32 bits, no two that wait have the same, and a ticket by which its caller learns
how it ended. A reply ends the request with its id; replies nobody waits for are dropped. A caller
may stop waiting, but the id stays taken until the reply comes.

The first failure of the connection is final: it ends every request that waits, and no request can
be registered afterwards.
-/

namespace Sftp

/-- How a request stands. -/
inductive Progress
  /-- No reply yet. -/
  | waiting
  /-- Its caller stopped waiting. -/
  | abandoned
  /-- Answered by a packet. -/
  | answered (reply : Packet)
  /-- Ended by the failure of the connection. -/
  | lost (message : Text)
  deriving DecidableEq, Inhabited

/-- Where the caller of a request finds how it stands. -/
abbrev Ticket : Type := Nat

/-- Whether anybody takes frames off the stream. -/
inductive ReaderState
  /-- Not yet. -/
  | idle
  /-- Every frame is taken as soon as it is there. -/
  | running
  /-- No more. -/
  | stopped
  deriving DecidableEq, Inhabited

/-- The requests under way on one stream. -/
structure Exchange where
  /-- The longest body of a frame that is accepted. -/
  limit : Int
  /-- The number from which the next id is made. -/
  counter : Int := 0
  /-- The requests that wait for a reply, by id. -/
  pending : List (Int × Ticket) := []
  /-- How each request stands, by ticket. -/
  progress : Array Progress := #[]
  /-- What made the connection fail, if it has failed. -/
  failure : Option Text := none
  /-- Whether replies are taken. -/
  reader : ReaderState := .idle
  deriving DecidableEq, Inhabited

namespace Exchange

/-- The number of ids. -/
def idCount : Int := 0x100000000

/-- Whether a request with this id waits. -/
def isPending (x : Exchange) (id : Int) : Bool :=
  x.pending.any fun e => e.1 = id

/-- The first free id among the next `tries`, and the counter after it. -/
def searchId (x : Exchange) : Nat → Int → Option Int × Int
  | 0, counter => (none, counter)
  | tries + 1, counter =>
    let id := counter % idCount
    if x.isPending id then searchId x tries (counter + 1) else (some id, counter + 1)

/-- A free id. Among one more ids than there are requests waiting, one is free, unless all are
taken. -/
def nextId (x : Exchange) : Option Int × Exchange :=
  let (id, counter) := x.searchId (x.pending.length + 1) x.counter
  (id, { x with counter })

/-- Enters a request that waits, under an id that is free. -/
def register (x : Exchange) (id : Int) : Ticket × Exchange :=
  (x.progress.size,
    { x with
      pending := x.pending ++ [(id, x.progress.size)]
      progress := x.progress.push .waiting })

/-- Takes a request off the table without ending it. -/
def withdraw (x : Exchange) (id : Int) : Exchange :=
  { x with pending := x.pending.filter fun e => e.1 ≠ id }

/-- How a request stands. -/
def standing (x : Exchange) (t : Ticket) : Progress :=
  x.progress.getD t .waiting

/-- Ends a request, unless its caller stopped waiting. -/
def settle (progress : Array Progress) (t : Ticket) (outcome : Progress) : Array Progress :=
  if progress.getD t .waiting = .waiting then progress.setIfInBounds t outcome else progress

/-- Gives a packet to the request that it answers; nothing else changes if there is none. -/
def deliver (x : Exchange) (p : Packet) : Option Exchange :=
  match p.id? with
  | none => none
  | some id =>
    match x.pending.find? fun e => e.1 = id with
    | none => none
    | some (_, t) =>
      some { x.withdraw id with progress := settle x.progress t (.answered p) }

/-- The connection fails: the first failure is kept, and every request that waits ends with it. -/
def fail (x : Exchange) (message : Text) : Exchange :=
  let first := x.failure.getD message
  { x with
    failure := some first
    pending := []
    progress := x.pending.foldl (fun progress e => settle progress e.2 (.lost first)) x.progress }

/-- The message of the failure when the connection is closed from this side. -/
def closedMessage : Text := "connection closed"

/-- No more requests: ends every request that waits. -/
def close (x : Exchange) : Exchange :=
  x.fail closedMessage

/-- Stops waiting for a request. False if it has ended already; stopping twice is no fault. -/
def abandon (x : Exchange) (t : Ticket) : Bool × Exchange :=
  match x.standing t with
  | .waiting => (true, { x with progress := x.progress.setIfInBounds t .abandoned })
  | .abandoned => (true, x)
  | _ => (false, x)

end Exchange

end Sftp
