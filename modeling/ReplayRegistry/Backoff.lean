/-!
# Growing delays

Between failed attempts the registry waits longer and longer: the delay starts at a least value and
doubles until it reaches a greatest value, a given number of times. Each delay is a base to which
the clock adds a random part of up to the base again.
-/

namespace ReplayRegistry

/-- What remains of a sequence of delays. -/
structure Backoff where
  /-- The first base delay, in milliseconds. -/
  least : Nat
  /-- The base delay that growing stops at. -/
  greatest : Nat
  /-- How many delays are left. -/
  left : Nat
  /-- The last base delay, if there was one. -/
  last : Option Nat := none
deriving DecidableEq, Repr

namespace Backoff

/-- The base delay after `delay`: twice as long, but not above the greatest. -/
def grow (greatest delay : Nat) : Nat :=
  if delay < greatest then min (2 * delay) greatest else greatest

/-- The next base delay and the sequence after it; none, when the sequence has run dry. The first
delay is the least value, even if that is above the greatest. -/
def next? (b : Backoff) : Option (Nat × Backoff) :=
  match b.left with
  | 0 => none
  | n + 1 =>
    let delay := match b.last with
      | none => b.least
      | some delay => grow b.greatest delay
    some (delay, { b with left := n, last := some delay })

/-- Up to `n` base delays of a sequence. -/
def take : Nat → Backoff → List Nat
  | 0, _ => []
  | n + 1, b =>
    match b.next? with
    | none => []
    | some (delay, b) => delay :: take n b

/-- All base delays of a sequence. -/
def toList (b : Backoff) : List Nat := take b.left b

end Backoff

end ReplayRegistry
