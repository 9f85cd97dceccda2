import ReplayRegistry.Log.Basic

/-!
# One log

The records of one log, each with its offset. Offsets count up from 0 and are never used again:
compaction drops records that a later record of the same key has replaced, and leaves the offsets
of the others as they are.
-/

namespace ReplayRegistry

/-- A record with its place in the log. -/
structure Entry where
  /-- How many records had been appended before this one. -/
  offset : Nat
  record : Record
deriving DecidableEq

/-- A log. -/
structure Partition where
  /-- The records that compaction has left, oldest first. -/
  entries : List Entry := []
  /-- How many records have been appended. -/
  next : Nat := 0
deriving DecidableEq

namespace Partition

def empty : Partition := {}

def push (p : Partition) (r : Record) : Partition where
  entries := p.entries ++ [⟨p.next, r⟩]
  next := p.next + 1

/-- The oldest entry at an offset or after it. -/
def firstFrom (p : Partition) (offset : Nat) : Option Entry :=
  p.entries.find? fun e => offset ≤ e.offset

/-- Take an entry in front of entries that have been compacted, which are kept with their keys. -/
def keepLatest (e : Entry) (kept : List String × List Entry) : List String × List Entry :=
  if e.record.key ∈ kept.1 then kept else (e.record.key :: kept.1, e :: kept.2)

/-- Drop every record whose key has a later record. -/
def compact (p : Partition) : Partition where
  entries := (p.entries.foldr keepLatest ([], [])).2
  next := p.next

/-- How many records compaction removes. -/
def superseded (p : Partition) : Nat := p.entries.length - p.compact.entries.length

def records (p : Partition) : List Record := p.entries.map (·.record)

@[simp] theorem records_push (p : Partition) (r : Record) :
    (p.push r).records = p.records ++ [r] := by simp [push, records]

end Partition

end ReplayRegistry
