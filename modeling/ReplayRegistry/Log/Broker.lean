import ReplayRegistry.KeyMap
import ReplayRegistry.Log.Partition

/-!
# The log service

A broker holds logs by name. It can be made to fail in the ways that a service in operation fails:
to refuse records or readers, to drop readers after a number of records, to cut off all readers at
once, and to be closed for good. It counts the readers that are open, and the changes that wake
readers waiting for a record.
-/

namespace ReplayRegistry

/-- A log service. -/
structure Broker where
  /-- The logs that have taken a record. -/
  partitions : KeyMap Partition := ∅
  /-- How often all readers have been cut off. -/
  generation : Nat := 0
  /-- How often waiting readers have been woken. -/
  changes : Nat := 0
  failAppends : Bool := false
  failOpens : Bool := false
  /-- How many records a reader may deliver. -/
  readLimit : Option Nat := none
  closed : Bool := false
  /-- Readers opened and not released. -/
  openReaders : Nat := 0
  /-- Readers ever opened. -/
  openedTotal : Nat := 0

namespace Broker

/-- The log of a name; one that has not taken a record is empty. -/
def partition (b : Broker) (log : String) : Partition := (b.partitions.get? log).getD .empty

def records (b : Broker) (log : String) : List Record := (b.partition log).records

/-- Wake the readers that wait for a record. -/
def notify (b : Broker) : Broker := { b with changes := b.changes + 1 }

def append (b : Broker) (log : String) (r : Record) : Except LogError Broker :=
  if b.closed then .error .closed
  else if b.failAppends then .error (.appendRejected log)
  else
    let p := (b.partition log).push r
    .ok { b with partitions := b.partitions.insert log p }.notify

/-- Compact a log. The result is the number of records removed. -/
def compact (b : Broker) (log : String) : Nat × Broker :=
  match b.partitions.get? log with
  | none => (0, b)
  | some p => (p.superseded, { b with partitions := b.partitions.insert log p.compact })

def disconnect (b : Broker) : Broker := { b with generation := b.generation + 1 }.notify

def close (b : Broker) : Broker := { b with closed := true }.notify

end Broker

end ReplayRegistry
