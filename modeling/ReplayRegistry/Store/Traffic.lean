import ReplayRegistry.Store.Cluster

/-!
# Writes under way

A write of a store takes four steps. Its document is prepared, its payload is noted as being in
flight, the log is asked to take the record, and when the store hears of the answer, it shows the
document or takes the note back. In between, replay goes on, other stores write, and the broker is
used by others; only the user of the same store has to wait. Traffic is a cluster with the writes
that are under way in its stores.
-/

namespace ReplayRegistry

open Time (Timestamp)

/-! ## The steps of a write -/

namespace Store

/-- Note that the payload of a document is in flight. -/
def note (s : Store) (d : FunctionDoc) : Store :=
  { s with view := s.view.beginLocal d.id d.encode }

/-- End the write of a document, when the log has answered. -/
def endWrite (s : Store) (d : FunctionDoc) (answer : Except LogError Unit) :
    Except StoreError RegistryKey × Store :=
  match answer with
  | .error e => (.error (.log e), { s with view := s.view.abortLocal d.id d.encode })
  | .ok _ => (.ok d.id, { s with view := (s.view.commitLocal d d.encode).2 })

/-- A write takes these steps in order. -/
theorem writeAround_eq (meanwhile : Store → Broker → Store × Broker)
    (answer : Except LogError Unit) (s : Store) (b : Broker) (w : Write) (now : Timestamp) :
    s.writeAround meanwhile answer b w now =
      match s.prepare w now with
      | .error e => (.error e, s, b)
      | .ok d =>
        if s.closed then (.error (.log .closed), s, b)
        else
          let s₁ := s.note d
          match b.append s₁.log ⟨d.id, d.encode⟩ with
          | .error e => ((s₁.endWrite d (.error e)).1, (s₁.endWrite d (.error e)).2, b)
          | .ok b₁ =>
            let (s₂, b₂) := meanwhile s₁ b₁
            ((s₂.endWrite d answer).1, (s₂.endWrite d answer).2, b₂) := by
  unfold writeAround
  cases s.prepare w now with
  | error e => rfl
  | ok d =>
    simp only [appendAround, note]
    split
    · rfl
    · cases b.append (Store.log { s with view := s.view.beginLocal d.id d.encode })
          ⟨d.id, d.encode⟩ with
      | error e => rfl
      | ok b₁ => cases answer <;> rfl

end Store

/-- How far a write has come. -/
inductive Stage where
  /-- Its document is prepared. -/
  | prepared
  /-- Its payload is noted as being in flight. -/
  | noted
  /-- The log has been asked to take its record, and the store is to hear `answer`. -/
  | asked (answer : Except LogError Unit)

/-- A write that is under way. -/
structure OpenWrite where
  /-- The document that is being written. -/
  doc : FunctionDoc
  stage : Stage

/-- The number of the store whose user carries out an action. -/
def Cluster.Action.user? : Cluster.Action → Option Nat
  | .write i _ _ | .closeStore i _ | .dropStore i => some i
  | _ => none

/-- A cluster with the writes that are under way. -/
structure Traffic extends Cluster where
  /-- The write that is under way in the store of a number, if there is one. -/
  underWay : Nat → Option OpenWrite := fun _ => none

namespace Traffic

/-- What can happen. Stores are named by their numbers. -/
inductive Event where
  /-- An action of the cluster as a whole. The user of a store in which a write is under way has to
  wait with it. -/
  | act (a : Cluster.Action)
  /-- A write begins: its document is prepared. -/
  | prepare (i : Nat) (w : Write) (now : Timestamp)
  /-- The payload of a write is noted, unless the store has been closed. -/
  | note (i : Nat)
  /-- The log is asked to take the record of a write. Even if it does, its answer can be lost on the
  way; then the store hears `lost`. -/
  | append (i : Nat) (lost : Option LogError)
  /-- A write ends with what the store hears. -/
  | endWrite (i : Nat)

/-- Put a store in its place again, with the broker as it is now and the write that is under way in
the store from now on. -/
def withWrite (t : Traffic) (i : Nat) (s : Store) (b : Broker) (o : Option OpenWrite) :
    Traffic where
  toCluster := t.toCluster.setStore i s b
  underWay := fun j => if j = i then o else t.underWay j

def step (t : Traffic) : Event → Traffic
  | .act a =>
    if (a.user?.bind t.underWay).isSome then t
    else { t with toCluster := (t.toCluster.step a).2 }
  | .prepare i w now =>
    match t.underWay i, t.members[i]? with
    | none, some m =>
      if m.dropped then t
      else
        match m.store.prepare w now with
        | .error _ => t
        | .ok d => t.withWrite i m.store t.broker (some ⟨d, .prepared⟩)
    | _, _ => t
  | .note i =>
    match t.underWay i, t.members[i]? with
    | some ⟨d, .prepared⟩, some m =>
      if m.store.closed then t.withWrite i m.store t.broker none
      else t.withWrite i (m.store.note d) t.broker (some ⟨d, .noted⟩)
    | _, _ => t
  | .append i lost =>
    match t.underWay i, t.members[i]? with
    | some ⟨d, .noted⟩, some m =>
      match t.broker.append m.store.log ⟨d.id, d.encode⟩ with
      | .error e => t.withWrite i m.store t.broker (some ⟨d, .asked (.error e)⟩)
      | .ok b => t.withWrite i m.store b (some ⟨d, .asked (lost.elim (.ok ()) .error)⟩)
    | _, _ => t
  | .endWrite i =>
    match t.underWay i, t.members[i]? with
    | some ⟨d, .asked answer⟩, some m =>
      t.withWrite i (m.store.endWrite d answer).2 t.broker none
    | _, _ => t

def run (t : Traffic) (es : List Event) : Traffic := es.foldl step t

/-- What a run of events leads to. -/
def Reachable (t : Traffic) : Prop := ∃ es, t = ({} : Traffic).run es

end Traffic

end ReplayRegistry
