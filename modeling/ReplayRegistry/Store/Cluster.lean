import ReplayRegistry.Log.Session
import ReplayRegistry.Store.Basic

/-!
# Stores that share a log service

A cluster is a broker with the readers and the stores opened on it; stores are numbered from 0 in
the order of opening. Its actions are the calls of the stores' users, the steps of their replays,
the passing of time, and what others do with the broker. Replay does not run by itself: one action
is one read, or the end of the delays.
-/

namespace ReplayRegistry

open Time (Timestamp)

/-- A store of a cluster. -/
structure Member where
  store : Store
  /-- Whether its user has let go of it. -/
  dropped : Bool := false

/-- A broker with its readers and its stores. -/
structure Cluster extends Session where
  /-- The stores in the order of opening. -/
  members : List Member := []

namespace Cluster

/-- What can happen to a cluster. Stores are named by their numbers. -/
inductive Action where
  /-- A call of someone who uses the broker directly. -/
  | call (c : Session.Call)
  | openStore (log : String) (settings : ReplaySettings)
  | write (i : Nat) (w : Write) (now : Timestamp)
  /-- A read of a store's replay. -/
  | deliver (i : Nat)
  /-- All delays end. -/
  | tick
  /-- Time passes while readers are open. -/
  | stayUp (ms : Nat)
  /-- A store is closed; its log client answers `client`. -/
  | closeStore (i : Nat) (client : Except LogError Unit)
  | dropStore (i : Nat)

/-- What an action answers. -/
inductive Answer where
  /-- The answer of a call to the broker. -/
  | call (a : Session.Answer)
  /-- The store of this number has been opened, and this was told of its replay at once. -/
  | opened (i : Nat) (health : Health)
  | written (result : Except StoreError RegistryKey)
  /-- What became of the reads of a replay. -/
  | delivered (ds : List Replay.Delivery)
  | closed (result : Except LogError Unit)
  | done
  /-- The store's user has let go of it. -/
  | storeDropped
  /-- No store of this number has been opened. -/
  | noStore

/-! ## Actions on one store -/

/-- Put a store in its place again, with the broker as it is now. -/
def setStore (c : Cluster) (i : Nat) (s : Store) (b : Broker) : Cluster :=
  { c with broker := b, members := c.members.modify i fun m => { m with store := s } }

/-- Do something with a store that has been opened. -/
def withMember (c : Cluster) (i : Nat) (f : Member → Answer × Cluster) : Answer × Cluster :=
  match c.members[i]? with
  | some m => f m
  | none => (.noStore, c)

/-- Do something with a store that its user has not let go of. -/
def withStore (c : Cluster) (i : Nat) (f : Store → Answer × Cluster) : Answer × Cluster :=
  c.withMember i fun m => if m.dropped then (.storeDropped, c) else f m.store

/-- Open a store. Its replay opens a reader as soon as it runs. -/
def openStore (c : Cluster) (log : String) (settings : ReplaySettings) : Answer × Cluster :=
  let s := Store.opened log settings
  let (running, b) := s.attemptOpen c.broker
  (.opened c.members.length s.health,
    { c with broker := b, members := c.members ++ [⟨running, false⟩] })

/-- Carry out a write of a store, with something happening while it is under way. -/
def writeAround (c : Cluster) (i : Nat) (w : Write) (now : Timestamp)
    (meanwhile : Store → Broker → Store × Broker) (answer : Except LogError Unit) :
    Answer × Cluster :=
  c.withStore i fun s =>
    let (result, s, b) := s.writeAround meanwhile answer c.broker w now
    (.written result, c.setStore i s b)

def write (c : Cluster) (i : Nat) (w : Write) (now : Timestamp) : Answer × Cluster :=
  c.withStore i fun s =>
    let (result, s, b) := s.write c.broker w now
    (.written result, c.setStore i s b)

/-- Let a store read once. -/
def deliver (c : Cluster) (i : Nat) : Answer × Cluster :=
  c.withMember i fun m =>
    let (d, s, b) := m.store.deliver c.broker
    (.delivered [d], c.setStore i s b)

/-- Let a store read up to `n` times, or without limit, until a read does not deliver a record. -/
def deliverMany (c : Cluster) (i : Nat) (n : Option Nat) : Answer × Cluster :=
  c.withMember i fun m =>
    let (ds, s, b) := m.store.deliverMany n c.broker
    (.delivered ds, c.setStore i s b)

def closeStore (c : Cluster) (i : Nat) (client : Except LogError Unit) : Answer × Cluster :=
  c.withStore i fun s =>
    let (result, s, b) := s.close c.broker client
    (.closed result, c.setStore i s b)

def dropStore (c : Cluster) (i : Nat) : Answer × Cluster :=
  c.withMember i fun m =>
    let (s, b) := m.store.release c.broker
    (.done, { c with broker := b, members := c.members.modify i fun _ => ⟨s, true⟩ })

/-! ## Actions on all stores -/

/-- End the delays of stores: each of them that waits tries once to open a reader. -/
def wake : List Member → Broker → List Member × Broker
  | [], b => ([], b)
  | m :: ms, b =>
    let (s, b) := m.store.attemptOpen b
    let (ms, b) := wake ms b
    ({ m with store := s } :: ms, b)

def tick (c : Cluster) : Cluster :=
  let (members, broker) := wake c.members c.broker
  { c with broker, members }

/-- Time passes while readers are open. -/
def stayUp (c : Cluster) (ms : Nat) : Cluster :=
  { c with members := c.members.map fun m => { m with store := m.store.stayUp ms } }

/-! ## Runs -/

def step (c : Cluster) : Action → Answer × Cluster
  | .call x =>
    let (a, s) := c.toSession.call x
    (.call a, { c with toSession := s })
  | .openStore log settings => c.openStore log settings
  | .write i w now => c.write i w now
  | .deliver i => c.deliver i
  | .tick => (.done, c.tick)
  | .stayUp ms => (.done, c.stayUp ms)
  | .closeStore i client => c.closeStore i client
  | .dropStore i => c.dropStore i

def run (c : Cluster) (actions : List Action) : Cluster :=
  actions.foldl (fun c a => (c.step a).2) c

end Cluster

end ReplayRegistry
