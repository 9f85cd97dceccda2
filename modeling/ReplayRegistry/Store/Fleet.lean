import ReplayRegistry.Store.Traffic

/-!
# Stores at work

The replay of a store is a task of its own. It asks the log for a reader and waits for the answer,
reads a record and then folds it, and in between everything else goes on: other stores, writes, and
the calls that close stores. A store is closed in steps as well: it counts as closed at once, then
the call waits for the write that is under way, tells the replay to stop, waits until it has, and
closes the log client. A fleet is traffic in which all this is under way.
-/

namespace ReplayRegistry

/-! ## The steps of a replay -/

/-- Whether a replay has no reader and is to open one. -/
def Replay.pausing (r : Replay) : Bool :=
  match r.phase with
  | .tailing _ _ | .stopped => false
  | _ => true

namespace Store

/-- Try once to open a reader, if the store waits to do so. -/
def attempt (s : Store) (b : Broker) : Store × Broker :=
  let (replay, b) := s.replay.attemptOpen b
  ({ s with replay }, b)

/-- Read once. A record that has been read is yet to be folded. -/
def read (s : Store) (b : Broker) : Replay.Delivery × Store × Broker :=
  let (d, replay, b) := s.replay.read b
  (d, { s with replay }, b)

def fold (s : Store) (r : Record) : Store := { s with view := (s.view.foldRecord r).2 }

theorem attemptOpen_eq (s : Store) (b : Broker) :
    s.attemptOpen b = (s.attempt b).1.settle (s.attempt b).2 := rfl

/-- What a store does at once with a read is a read, and then a fold or the attempts to open another
reader that need no delay. -/
theorem deliver_eq (s : Store) (b : Broker) :
    s.deliver b =
      match s.read b with
      | (.record r, s, b) => (.record r, s.fold r, b)
      | (d, s, b) => (d, s.settle b) := by
  unfold deliver read
  obtain ⟨d, replay, b'⟩ := s.replay.read b
  cases d <;> rfl

end Store

/-! ## What is under way in a store -/

/-- What the replay of a store is in the middle of. -/
inductive Engagement where
  /-- Nothing: it waits for a delay or for a record, has yet to run, or has stopped. -/
  | free
  /-- It has asked the log for a reader. -/
  | asking
  /-- It has read a record and is to fold it. -/
  | holding (r : Record)
deriving DecidableEq

/-- How far a call that closes a store has come. -/
inductive Closing where
  /-- The store counts as closed, and the call waits for the write that is under way. -/
  | begun
  /-- The replay has been told to stop, and the call waits until it has; no write can begin. -/
  | stopping
deriving DecidableEq

/-- What is under way in a store, besides a write. -/
structure Task where
  engaged : Engagement := .free
  /-- Whether the replay has been told to stop. -/
  told : Bool := false
  /-- The call that closes the store, until it returns. -/
  closing : Option Closing := none
deriving DecidableEq

/-- Traffic with what else is under way in its stores. -/
structure Fleet extends Traffic where
  tasks : Nat → Task := fun _ => {}

namespace Fleet

/-- What can happen. Stores are named by their numbers. -/
inductive Event where
  /-- A step of a write, a call of someone who uses the broker directly, or the passing of time, as
  in traffic. What traffic lets a store do at once is made of the other events. -/
  | traffic (e : Traffic.Event)
  /-- A store is opened; its replay has yet to run. -/
  | openStore (log : String) (settings : ReplaySettings)
  /-- A replay runs for the first time, or its delay ends: it asks for a reader, unless it has been
  told to stop. -/
  | wake (i : Nat)
  /-- The log answers a replay that has asked for a reader. -/
  | answer (i : Nat)
  /-- A replay reads. -/
  | read (i : Nat)
  /-- A replay folds the record that it has read. -/
  | fold (i : Nat)
  /-- A replay stops, because it has been told to. -/
  | halt (i : Nat)
  /-- A store is to be closed. If that has been asked before, the call returns at once. -/
  | beginClose (i : Nat)
  /-- The call that closes a store tells the replay to stop. -/
  | tell (i : Nat)
  /-- The call that closes a store closes the log client, which answers `client`, and returns with
  this answer. -/
  | endClose (i : Nat) (client : Except LogError Unit)
  /-- The user of a store lets go of it. -/
  | dropStore (i : Nat)

/-- Whether an event of traffic is one that can happen in a fleet. No write begins while a call that
closes the store waits for the replay. -/
def admits (f : Fleet) : Traffic.Event → Bool
  | .act (.call _) | .act (.stayUp _) => true
  | .act _ => false
  | .prepare i _ _ => (f.tasks i).closing ≠ some .stopping
  | .note _ | .append _ _ | .endWrite _ => true

/-- Put a store in its place again, with the broker as it is now and what is under way in the store
from now on. -/
def withTask (f : Fleet) (i : Nat) (s : Store) (b : Broker) (x : Task) : Fleet where
  toTraffic := { f.toTraffic with toCluster := f.toCluster.setStore i s b }
  tasks := fun j => if j = i then x else f.tasks j

/-- Do something with a store that has been opened. -/
def withMember (f : Fleet) (i : Nat) (g : Member → Task → Fleet) : Fleet :=
  match f.members[i]? with
  | some m => g m (f.tasks i)
  | none => f

def step (f : Fleet) : Event → Fleet
  | .traffic e => if f.admits e then { f with toTraffic := f.toTraffic.step e } else f
  | .openStore log settings =>
    { f with
      members := f.members ++ [⟨Store.opened log settings, false⟩]
      tasks := fun j => if j = f.members.length then {} else f.tasks j }
  | .wake i => f.withMember i fun m x =>
    if x.engaged = .free ∧ x.told = false ∧ m.store.replay.pausing then
      f.withTask i m.store f.broker { x with engaged := .asking }
    else f
  | .answer i => f.withMember i fun m x =>
    if x.engaged = .asking then
      let (s, b) := m.store.attempt f.broker
      f.withTask i s b { x with engaged := .free }
    else f
  | .read i => f.withMember i fun m x =>
    if x.engaged = .free then
      match m.store.read f.broker with
      | (.record r, s, b) => f.withTask i s b { x with engaged := .holding r }
      | (_, s, b) => f.withTask i s b x
    else f
  | .fold i => f.withMember i fun m x =>
    match x.engaged with
    | .holding r => f.withTask i (m.store.fold r) f.broker { x with engaged := .free }
    | _ => f
  | .halt i => f.withMember i fun m x =>
    if x.engaged = .free ∧ x.told then
      let (s, b) := m.store.release f.broker
      f.withTask i s b x
    else f
  | .beginClose i => f.withMember i fun m x =>
    if m.dropped ∨ m.store.closed then f
    else f.withTask i { m.store with closed := true } f.broker { x with closing := some .begun }
  | .tell i => f.withMember i fun m x =>
    if x.closing = some .begun ∧ (f.underWay i).isNone then
      f.withTask i m.store f.broker { x with told := true, closing := some .stopping }
    else f
  | .endClose i client => f.withMember i fun m x =>
    if x.closing = some .stopping ∧ m.store.health = .stopped then
      let b := match client with
        | .ok _ => f.broker.close
        | .error _ => f.broker
      f.withTask i m.store b { x with closing := none }
    else f
  | .dropStore i => f.withMember i fun m x =>
    if x.closing = none ∧ (f.underWay i).isNone then
      let f := f.withTask i m.store f.broker { x with told := true }
      { f with members := f.members.modify i fun m => { m with dropped := true } }
    else f

def run (f : Fleet) (es : List Event) : Fleet := es.foldl step f

/-- What a run of events leads to. -/
def Reachable (f : Fleet) : Prop := ∃ es, f = ({} : Fleet).run es

end Fleet

end ReplayRegistry
