import ReplayRegistry.Log.Broker

/-!
# Readers

A reader follows one log from its oldest record or from the moment it was opened. A read takes the
next record, fails, or has to wait; a waiting read goes on when the broker wakes it, and giving it
up loses nothing, because a reader moves on only with the record it delivers.
-/

namespace ReplayRegistry

/-- Where a new reader starts. -/
inductive StartPosition where
  /-- At the oldest record. -/
  | earliest
  /-- After the newest record. -/
  | latest
deriving DecidableEq, Repr

structure Reader where
  log : String
  /-- How often readers had been cut off when it was opened. -/
  generation : Nat
  /-- The least offset it has not passed. -/
  next : Nat
  /-- How many records it has delivered. -/
  delivered : Nat := 0
  /-- Whether it has been released. -/
  released : Bool := false
deriving DecidableEq

/-- What becomes of a read. -/
inductive ReadResult where
  /-- It delivers a record. -/
  | record (r : Record)
  /-- It fails. -/
  | failed (e : LogError)
  /-- It has to wait for a record. -/
  | waiting
deriving DecidableEq

def Broker.openReader (b : Broker) (log : String) (start : StartPosition) :
    Except LogError (Reader × Broker) :=
  if b.closed then .error .closed
  else if b.failOpens then .error (.openRejected log)
  else
    let next := match start with
      | .earliest => 0
      | .latest => (b.partition log).next
    .ok (⟨log, b.generation, next, 0, false⟩,
      { b with openReaders := b.openReaders + 1, openedTotal := b.openedTotal + 1 })

namespace Reader

/-- Why a reader cannot read, if it cannot. -/
def fault? (r : Reader) (b : Broker) : Option LogError :=
  if r.released || b.closed then some .closed
  else if b.generation ≠ r.generation then some (.connectionLost r.log)
  else if b.readLimit.any (· ≤ r.delivered) then some (.readerDropped r.log r.delivered)
  else none

def read (r : Reader) (b : Broker) : ReadResult × Reader :=
  match r.fault? b with
  | some e => (.failed e, r)
  | none =>
    match (b.partition r.log).firstFrom r.next with
    | some e => (.record e.record, { r with next := e.offset + 1, delivered := r.delivered + 1 })
    | none => (.waiting, r)

/-- Release a reader. A reader that has been released stays so. -/
def release (r : Reader) (b : Broker) : Reader × Broker :=
  if r.released then (r, b)
  else ({ r with released := true }, { b with openReaders := b.openReaders - 1 })

end Reader

/-! ## Reads that wait -/

/-- A read in progress. -/
inductive PendingRead where
  /-- It has ended. -/
  | answered (result : ReadResult) (reader : Reader)
  /-- It sleeps until the broker's count of changes is no longer `seen`. -/
  | asleep (reader : Reader) (seen : Nat)

namespace PendingRead

/-- Start a read, or look at the log again after being woken. -/
def start (r : Reader) (b : Broker) : PendingRead :=
  match r.read b with
  | (.waiting, r) => .asleep r b.changes
  | (result, r) => .answered result r

/-- Let a read go on, if it has been woken. -/
def poll (p : PendingRead) (b : Broker) : PendingRead :=
  match p with
  | answered result r => .answered result r
  | asleep r seen => if b.changes = seen then .asleep r seen else start r b

/-- What a read has come to. -/
def result : PendingRead → ReadResult
  | answered result _ => result
  | asleep _ _ => .waiting

/-- The reader of a read, which can be used again when the read is given up. -/
def reader : PendingRead → Reader
  | answered _ r => r
  | asleep r _ => r

end PendingRead

end ReplayRegistry
