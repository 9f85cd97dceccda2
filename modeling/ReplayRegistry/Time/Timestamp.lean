import ReplayRegistry.Time.Calendar

/-!
# Timestamps

An instant in universal time, to the nanosecond. A leap second is kept as the last second of its
minute with a thousand million nanoseconds or more. Instants lie in the years -262143 to 262142.
-/

namespace ReplayRegistry.Time

/-- The number of the first of January 1970. -/
def epochDay : Int := 719162

/-- The first second of the year -262143. -/
def earliest : Int := -8334601228800

/-- The last second of the year 262142. -/
def latest : Int := 8210266876799

/-- An instant. -/
structure Timestamp where
  /-- Whole seconds since the first moment of 1970, leap seconds not counted. -/
  seconds : Int
  /-- Nanoseconds since the start of the second; those of a leap second count on. -/
  nanos : Nat
  /-- The instant lies in the years that can be written. -/
  inRange : earliest ≤ seconds ∧ seconds ≤ latest
  /-- A second lasts a thousand million nanoseconds, and twice that with a leap second. -/
  nanos_lt : nanos < 2000000000
  /-- Only the last second of a minute can have a leap second. -/
  leap : 1000000000 ≤ nanos → seconds % 60 = 59
deriving DecidableEq

namespace Timestamp

/-- The instant with these coordinates, if there is one. -/
def of? (seconds : Int) (nanos : Nat) : Option Timestamp :=
  if h : (earliest ≤ seconds ∧ seconds ≤ latest) ∧ nanos < 2000000000 ∧
      (1000000000 ≤ nanos → seconds % 60 = 59) then
    some ⟨seconds, nanos, h.1, h.2.1, h.2.2⟩
  else none

theorem of?_eq_some (t : Timestamp) : of? t.seconds t.nanos = some t := by
  exact dif_pos ⟨t.inRange, t.nanos_lt, t.leap⟩

def date (t : Timestamp) : Date := Date.ofDay (t.seconds / 86400 + epochDay)

def secondOfDay (t : Timestamp) : Nat := (t.seconds % 86400).toNat

/-- Whether an instant falls into a leap second. -/
def isLeapSecond (t : Timestamp) : Bool := 1000000000 ≤ t.nanos

end Timestamp

end ReplayRegistry.Time
