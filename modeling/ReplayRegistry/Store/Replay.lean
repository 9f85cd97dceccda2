import ReplayRegistry.Backoff
import ReplayRegistry.Log.Reader
import ReplayRegistry.Store.View

/-!
# Replay

A store follows its log with a reader that starts at the oldest record. When the reader fails, a
new one is opened after a delay, and it reads the log from the start again. Delays grow with the
failures in a row; after a given number of them the store counts as degraded, an alert is raised
once, and attempts go on at the longest delay. A reader that stayed up for the longest delay ends
the row.
-/

namespace ReplayRegistry

/-- How replay is restarted. -/
structure ReplaySettings where
  /-- The first delay, in milliseconds. -/
  minDelay : Nat := 100
  /-- The longest delay, the delay between attempts of a degraded store, and the time after which a
  reader counts as recovered. -/
  maxDelay : Nat := 30000
  /-- How many failures in a row are followed by a growing delay. -/
  maxRestarts : Nat := 10
deriving DecidableEq, Repr

/-- The delays between the attempts of a row. -/
def ReplaySettings.backoff (s : ReplaySettings) : Backoff :=
  ⟨s.minDelay, s.maxDelay, s.maxRestarts, none⟩

/-- What a store tells of its replay. -/
inductive Health where
  /-- No reader has been opened yet. -/
  | starting
  /-- A reader is open; there have been `restarts` failures so far. -/
  | tailing (restarts : Nat)
  /-- The last attempt failed, the `attempt`-th in a row. -/
  | restarting (attempt : Nat)
  /-- The last attempt failed, and there have been too many in a row. -/
  | degraded (attempt : Nat)
  /-- Replay has been stopped. -/
  | stopped
deriving DecidableEq, Repr

/-- Whether a reader is open. -/
def Health.isTailing : Health → Bool
  | .tailing _ => true
  | _ => false

/-- Where replay stands. -/
inductive Phase where
  /-- It is about to open its first reader. -/
  | starting
  /-- It reads; the reader has been up for `uptime` milliseconds. -/
  | tailing (reader : Reader) (uptime : Nat)
  /-- It waits for a delay from the growing sequence, whose base is given. -/
  | restarting (delay : Nat)
  /-- It waits for the longest delay. -/
  | degraded (delay : Nat)
  | stopped
deriving DecidableEq

/-- The alert that a row of failures has become too long. -/
structure Alert where
  /-- The number of failures in the row. -/
  attempt : Nat
  /-- The last failure. -/
  error : LogError
deriving DecidableEq

/-- The replay of a log. -/
structure Replay where
  settings : ReplaySettings
  log : String
  phase : Phase := .starting
  /-- The failures of the current row. -/
  attempt : Nat := 0
  /-- All failures so far. -/
  restarts : Nat := 0
  /-- Whether the current row has raised its alert. -/
  alerted : Bool := false
  /-- The delays left for the current row. -/
  backoff : Backoff := settings.backoff
  /-- The alerts raised, oldest first. -/
  alerts : List Alert := []

namespace Replay

/-- What is told of a replay. -/
def health (r : Replay) : Health :=
  match r.phase with
  | .starting => .starting
  | .tailing _ _ => .tailing r.restarts
  | .restarting _ => .restarting r.attempt
  | .degraded _ => .degraded r.attempt
  | .stopped => .stopped

/-- The reader of a replay, if one is open. -/
def reader? (r : Replay) : Option Reader :=
  match r.phase with
  | .tailing reader _ => some reader
  | _ => none

/-- The delay that a replay waits for. -/
def delay? (r : Replay) : Option Nat :=
  match r.phase with
  | .restarting d | .degraded d => some d
  | _ => none

/-- Start a new row of failures, if the reader had recovered from the last. -/
def recover (r : Replay) (uptime : Nat) : Replay :=
  if r.settings.maxDelay ≤ uptime then
    { r with backoff := r.settings.backoff, attempt := 0, alerted := false }
  else r

/-- Count a failure and choose the delay until the next attempt. -/
def countFailure (r : Replay) (e : LogError) : Replay :=
  let attempt := r.attempt + 1
  match r.backoff.next? with
  | some (delay, backoff) =>
    { r with phase := .restarting delay, attempt := attempt, restarts := r.restarts + 1,
             backoff := backoff }
  | none =>
    { r with phase := .degraded r.settings.maxDelay, attempt := attempt,
             restarts := r.restarts + 1, alerted := true,
             alerts := if r.alerted then r.alerts else r.alerts ++ [⟨attempt, e⟩] }

/-- A reader has failed after `uptime` milliseconds, or could not be opened, which counts as no
time at all. -/
def fail (r : Replay) (e : LogError) (uptime : Nat) : Replay := (r.recover uptime).countFailure e

/-- Try to open a reader, if replay waits to do so. -/
def attemptOpen (r : Replay) (b : Broker) : Replay × Broker :=
  match r.phase with
  | .tailing _ _ | .stopped => (r, b)
  | _ =>
    match b.openReader r.log .earliest with
    | .ok (reader, b) => ({ r with phase := .tailing reader 0 }, b)
    | .error e => (r.fail e 0, b)

/-- Time passes while a reader is up. -/
def stayUp (r : Replay) (ms : Nat) : Replay :=
  match r.phase with
  | .tailing reader uptime => { r with phase := .tailing reader (uptime + ms) }
  | _ => r

/-- Stop replay and release its reader. -/
def stop (r : Replay) (b : Broker) : Replay × Broker :=
  match r.phase with
  | .tailing reader _ => ({ r with phase := .stopped }, (reader.release b).2)
  | _ => ({ r with phase := .stopped }, b)

/-- What one read of a replay comes to. -/
inductive Delivery where
  /-- A record has been read. -/
  | record (r : Record)
  | failed (e : LogError)
  /-- There is nothing to read. -/
  | noRecord
  /-- No reader is open. -/
  | noReader
deriving DecidableEq

/-- Read once. A reader that fails is released. -/
def read (r : Replay) (b : Broker) : Delivery × Replay × Broker :=
  match r.phase with
  | .tailing reader uptime =>
    match reader.read b with
    | (.record record, reader) => (.record record, { r with phase := .tailing reader uptime }, b)
    | (.failed e, reader) => (.failed e, r.fail e uptime, (reader.release b).2)
    | (.waiting, _) => (.noRecord, r, b)
  | _ => (.noReader, r, b)

/-- Attempts whose delay is no time at all follow at once; `n` bounds their number. -/
def settle : Nat → Replay → Broker → Replay × Broker
  | 0, r, b => (r, b)
  | n + 1, r, b =>
    if r.delay? = some 0 then
      let (r, b) := r.attemptOpen b
      settle n r b
    else (r, b)

end Replay

end ReplayRegistry
