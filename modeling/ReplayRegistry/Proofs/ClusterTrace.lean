import ReplayRegistry.Proofs.Follower
import ReplayRegistry.Proofs.ReplayPlace
import ReplayRegistry.Proofs.StoreWrite
import ReplayRegistry.Store.Cluster

/-!
# Proofs: what actions are for one store

A run of a cluster is told from the point of view of one store: which records have been appended to
its log and delivered to it, and which of its writes have succeeded. Every action of the cluster is
one event for the follower that the store is, and the event says what the trace of the action says.
-/

namespace ReplayRegistry

open Time (Timestamp)

/-- The follower that a store is. -/
def Store.follower (s : Store) (b : Broker) : Follower :=
  ⟨s.view, s.replay.place, b.partition s.log⟩

/-- A store with another view and another replay of the same log. -/
theorem Store.follower_of_replay {s : Store} {b b' : Broker} {r : Replay} (hlog : r.log = s.log)
    (hpartitions : b'.partitions = b.partitions) (v : View) :
    ({ s with view := v, replay := r } : Store).follower b' =
      { s.follower b with view := v, place := r.place } := by
  have hpartition : b'.partition r.log = b.partition s.log := by
    rw [hlog, Broker.partition_congr hpartitions]
  simp only [Store.follower, Store.log, hpartition]

/-- The time `n` seconds after the start of 1970. -/
def Time.Timestamp.atSecond (n : UInt8) : Timestamp where
  seconds := n.toNat
  nanos := 0
  inRange := by
    have hn := n.toNat_lt
    unfold Time.earliest Time.latest
    omega
  nanos_lt := by decide
  leap h := absurd h (by decide)

namespace Cluster

/-- A cluster that a run leads to. -/
def Reachable (c : Cluster) : Prop := ∃ as, c = ({} : Cluster).run as

/-! ## Traces -/

/-- What a run gives, action by action. -/
def collect {α : Type} (f : Cluster → Action → List α) : Cluster → List Action → List α
  | _, [] => []
  | c, a :: as => f c a ++ collect f (c.step a).2 as

theorem collect_append {α : Type} (f : Cluster → Action → List α) :
    ∀ (c : Cluster) (as bs : List Action),
      collect f c (as ++ bs) = collect f c as ++ collect f (c.run as) bs
  | c, [], bs => rfl
  | c, a :: as, bs => by
    rw [List.cons_append, collect, collect, collect_append f _ as bs, List.append_assoc]
    rfl

/-- The records that an action appends to a log: those at the offsets that it uses. -/
def appended (log : String) (c : Cluster) (a : Action) : List Record :=
  ((c.step a).2.broker.partition log).ahead (c.broker.partition log).next

/-- Whether an action is a write of the `i`-th store, successful or not. -/
def Action.IsWrite (i : Nat) : Action → Prop
  | .write j _ _ => j = i
  | _ => False

instance (i : Nat) (a : Action) : Decidable (a.IsWrite i) := by
  unfold Action.IsWrite
  split <;> infer_instance

/-- The records that an action appends to a log, unless it is a write of the `i`-th store. -/
def foreign (i : Nat) (log : String) (c : Cluster) (a : Action) : List Record :=
  if a.IsWrite i then [] else c.appended log a

/-- What the reads of the `i`-th store come to in an action. -/
def deliveries (i : Nat) (c : Cluster) (a : Action) : List Replay.Delivery :=
  match a, (c.step a).1 with
  | .deliver j, .delivered ds => if j = i then ds else []
  | _, _ => []

/-- The record of a read that delivers one. -/
def record? : Replay.Delivery → Option Record
  | .record r => some r
  | _ => none

/-- The error of a read that fails. -/
def failure? : Replay.Delivery → Option LogError
  | .failed e => some e
  | _ => none

/-- The records that an action delivers to the `i`-th store. -/
def delivered (i : Nat) (c : Cluster) (a : Action) : List Record :=
  (c.deliveries i a).filterMap record?

/-- The failures of the reader of the `i`-th store in an action. -/
def failures (i : Nat) (c : Cluster) (a : Action) : List LogError :=
  (c.deliveries i a).filterMap failure?

/-- The keys that the `i`-th store writes in an action. -/
def written (i : Nat) (c : Cluster) (a : Action) : List RegistryKey :=
  match a, (c.step a).1 with
  | .write j _ _, .written (.ok key) => if j = i then [key] else []
  | _, _ => []

/-- Whether an action compacts a log. -/
def Action.Compacts (log : String) : Action → Prop
  | .call (.broker (.compact l)) | .call (.readAround _ (.compact l)) => l = log
  | _ => False

instance (log : String) (a : Action) : Decidable (a.Compacts log) := by
  unfold Action.Compacts
  split <;> infer_instance

/-! ## Members as followers -/

/-- The follower that a member is. -/
def follower (c : Cluster) (m : Member) : Follower := m.store.follower c.broker

/-- What is true of every cluster. -/
structure Sound (c : Cluster) : Prop where
  /-- Its logs are in order. -/
  logs : ∀ log, (c.broker.partition log).Sound
  /-- Its stores are sound followers. -/
  followers : ∀ (i : Nat) m, c.members[i]? = some m → (c.follower m).Sound
  /-- Its readers read the logs of their stores. -/
  readers : ∀ (i : Nat) m, c.members[i]? = some m → m.store.replay.Sound

/-- For the `i`-th store, which is `m` before and `m'` after it, an action is an event. -/
structure Sees (c : Cluster) (i : Nat) (m m' : Member) (a : Action) (e : Follower.Event) :
    Prop where
  /-- The store follows the same log. -/
  log : m'.store.log = m.store.log
  /-- Its reader reads this log. -/
  reader : m'.store.replay.Sound
  /-- The event makes of the follower what the action makes of the store. -/
  step : Follower.Step (c.follower m) e ((c.step a).2.follower m')
  /-- The event delivers what the action delivers. -/
  delivered : c.delivered i a = e.delivered
  /-- The log is read from its start again only after a failure. -/
  failed : e = .rewind → c.failures i a ≠ []
  /-- The event writes what the action writes. -/
  written : c.written i a = e.written
  /-- A document is written by a write of the store. -/
  write : ∀ d, e = .write d → ∃ w now, a = .write i w now ∧ m.store.prepare w now = .ok d
  /-- A record of another writer is not appended by a write of the store. -/
  append : ∀ r, e = .append r → ¬ a.IsWrite i
  /-- The log is compacted only by an action that does so. -/
  compact : e = .compact → a.Compacts m.store.log
  /-- The store is closed only by an action that does so. -/
  closed : (∀ client, a ≠ .closeStore i client) → m'.store.closed = m.store.closed

end Cluster

end ReplayRegistry
