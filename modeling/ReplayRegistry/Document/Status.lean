import ReplayRegistry.Json.Format
import ReplayRegistry.Text.Caseless

/-!
# Statuses

The life of a function, topic or webhook. A document that is written as deleted marks the end of
its entry: it is removed from every view instead of stored. Statuses travel as their ordinals.
-/

namespace ReplayRegistry

/-- Where an entry stands in its life. -/
inductive Status where
  /-- Known but not in use; every entry starts here. -/
  | deactivated
  | activated
  | suspended
  /-- Removed; a document with this status is a tombstone. -/
  | deleted
deriving DecidableEq, Repr, Inhabited

namespace Status

/-- The number a status travels as. -/
def ordinal : Status → Nat
  | deactivated => 0
  | activated => 1
  | suspended => 2
  | deleted => 3

def ofOrdinal? : Nat → Option Status
  | 0 => some deactivated
  | 1 => some activated
  | 2 => some suspended
  | 3 => some deleted
  | _ => none

/-- What is said of a number that is no ordinal. -/
def unknownMessage (ordinal : Nat) : String :=
  "unknown status ordinal " ++ String.ofList (Nat.toDigits 10 ordinal)

def name : Status → String
  | deactivated => "deactivated"
  | activated => "activated"
  | suspended => "suspended"
  | deleted => "deleted"

/-- The status with a name, in any case. Names that are not known count as deactivated. -/
def ofName (s : String) : Status :=
  ([activated, suspended, deleted].find? fun status => Text.isWord status.name s).getD deactivated

/-- Whether a status marks the end of an entry. -/
def isTombstone (s : Status) : Bool := s == deleted

@[simp] theorem ofOrdinal?_ordinal (s : Status) : ofOrdinal? s.ordinal = some s := by
  cases s <;> rfl

/-- A status is written as its ordinal. Whole numbers up to 255 that are no ordinal are told apart
from text that is no small whole number at all. -/
def format : Json.Format Status where
  write s := Json.writeInt s.ordinal
  read s :=
    match Json.integer? (Json.skipBlank s) with
    | some (i, s) =>
      if 0 ≤ i ∧ i ≤ 255 then
        match ofOrdinal? i.toNat with
        | some status => .ok (status, s)
        | none => .error (.unknownStatus i.toNat)
      else .error .malformed
    | none => .error .malformed

end Status

end ReplayRegistry
