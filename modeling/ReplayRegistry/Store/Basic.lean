import ReplayRegistry.Store.Replay
import ReplayRegistry.Validation

/-!
# The store

A store takes a compacted log as its database. A write is checked, appended to the log as a whole
document under the key of its entry, and then shown in the view; a read is answered from the view
alone. Replay brings in what others have written, and the order of the log decides.
-/

namespace ReplayRegistry

open Time (Timestamp)

/-- Why an operation of the store fails. -/
inductive StoreError where
  /-- The key has a document already. -/
  | alreadyExists (key : RegistryKey)
  /-- The key has no document. -/
  | notFound (key : RegistryKey)
  /-- The document is not admitted. -/
  | validation (e : ValidationError)
  /-- The log cannot take the record. -/
  | log (e : LogError)
  /-- The store has no such operation, for this reason. -/
  | unsupported (reason : String)
deriving DecidableEq, Repr

/-- The text of an error. -/
def StoreError.message : StoreError → String
  | alreadyExists key => "document already exists: " ++ key
  | notFound key => "document not found: " ++ key
  | validation e => e.message
  | log e => e.message
  | unsupported reason => "unsupported operation: " ++ reason

/-- The log that a store reads unless it is told another. -/
def defaultLog : String := "hookdb-functions"

/-- A store. -/
structure Store where
  /-- What it shows. -/
  view : View := {}
  /-- Whether it has been closed. -/
  closed : Bool := false
  /-- Its replay, which also knows the name of its log. -/
  replay : Replay

/-- A write to a store. -/
inductive Write where
  /-- Add a document whose key has none. -/
  | create (d : FunctionDoc)
  /-- Replace the document of a key, or add it. -/
  | update (d : FunctionDoc)
  /-- Delete the function of a tenant. -/
  | delete (tenant name : String)
  /-- Delete the document of a key. -/
  | deleteByKey (key : RegistryKey)
deriving DecidableEq

namespace Store

/-- Open a store that has not read anything yet. -/
def opened (log : String) (settings : ReplaySettings) : Store where
  replay := { settings, log }

/-- The log of a store. -/
def log (s : Store) : String := s.replay.log

/-- What is told of the replay of a store. -/
def health (s : Store) : Health := s.replay.health

/-! ## Reads -/

/-- The document of a key. -/
def getByKey (s : Store) (key : RegistryKey) : Except StoreError FunctionDoc :=
  match s.view.get? key with
  | some d => .ok d
  | none => .error (.notFound key)

def getByName (s : Store) (tenant name : String) : Except StoreError FunctionDoc :=
  s.getByKey (deriveKey tenant name)

def load (s : Store) : List FunctionDoc := s.view.documents

def size (s : Store) : Nat := s.view.size

/-- A view that follows the log by itself has nothing to be synchronised with. -/
def sync : Except StoreError Unit :=
  .error (.unsupported "the registry view is kept in sync by log replay")

/-! ## Writes -/

/-- The document to append when `d` is added at `now`. -/
def prepareCreate (s : Store) (d : FunctionDoc) (now : Timestamp) :
    Except StoreError FunctionDoc :=
  let key := d.registryKey
  if s.view.contains key then .error (.alreadyExists key)
  else .ok { d with id := key, createdAt := some now, updatedAt := some now }

/-- The document to append for a write at `now`. -/
def prepare (s : Store) (w : Write) (now : Timestamp) : Except StoreError FunctionDoc :=
  match w with
  | .create d =>
    match Validation.function d with
    | .error e => .error (.validation e)
    | .ok _ => s.prepareCreate d now
  | .update d =>
    match Validation.function d with
    | .error e => .error (.validation e)
    | .ok _ =>
      match s.view.get? d.registryKey with
      | none => s.prepareCreate d now
      | some old =>
        .ok { d with id := old.id, createdAt := old.createdAt, updatedAt := some now }
  | .delete tenant name => prepareDelete (deriveKey tenant name)
  | .deleteByKey key => prepareDelete key
where
  /-- The tombstone of a key. -/
  prepareDelete (key : RegistryKey) : Except StoreError FunctionDoc :=
    match s.view.get? key with
    | none => .error (.notFound key)
    | some old => .ok { old with status := .deleted, deletedAt := some now, updatedAt := some now }

/-- Append a document and show it. Between the append and the moment the store hears of it,
`meanwhile` happens; `answer` is what the store then hears. -/
def appendAround (meanwhile : Store → Broker → Store × Broker) (answer : Except LogError Unit)
    (s : Store) (b : Broker) (d : FunctionDoc) : Except StoreError RegistryKey × Store × Broker :=
  if s.closed then (.error (.log .closed), s, b)
  else
    let payload := d.encode
    let s := { s with view := s.view.beginLocal d.id payload }
    let abort := fun (s : Store) => { s with view := s.view.abortLocal d.id payload }
    match b.append s.log ⟨d.id, payload⟩ with
    | .error e => (.error (.log e), abort s, b)
    | .ok b =>
      let (s, b) := meanwhile s b
      match answer with
      | .error e => (.error (.log e), abort s, b)
      | .ok _ => (.ok d.id, { s with view := (s.view.commitLocal d payload).2 }, b)

/-- Carry out a write, with something happening while it is under way. -/
def writeAround (meanwhile : Store → Broker → Store × Broker) (answer : Except LogError Unit)
    (s : Store) (b : Broker) (w : Write) (now : Timestamp) :
    Except StoreError RegistryKey × Store × Broker :=
  match s.prepare w now with
  | .error e => (.error e, s, b)
  | .ok d => appendAround meanwhile answer s b d

/-- Carry out a write. The result is the key of the entry. -/
def write (s : Store) (b : Broker) (w : Write) (now : Timestamp) :
    Except StoreError RegistryKey × Store × Broker :=
  writeAround (fun s b => (s, b)) (.ok ()) s b w now

/-! ## Replay -/

/-- Attempts to open a reader that need no delay. Each row of them ends at the latest when the
store is degraded. -/
def settle (s : Store) (b : Broker) : Store × Broker :=
  let (replay, b) := s.replay.settle (s.replay.settings.maxRestarts + 2) b
  ({ s with replay }, b)

/-- Try to open a reader, if the store waits to do so. -/
def attemptOpen (s : Store) (b : Broker) : Store × Broker :=
  let (replay, b) := s.replay.attemptOpen b
  { s with replay }.settle b

/-- Read once, and fold the record into the view. -/
def deliver (s : Store) (b : Broker) : Replay.Delivery × Store × Broker :=
  let (delivery, replay, b) := s.replay.read b
  let s := { s with replay }
  match delivery with
  | .record r => (delivery, { s with view := (s.view.foldRecord r).2 }, b)
  | _ =>
    let (s, b) := s.settle b
    (delivery, s, b)

/-- Read up to `n` times, until a read does not deliver a record. -/
def deliverUpTo (s : Store) : Nat → Broker → List Replay.Delivery × Store × Broker
  | 0, b => ([], s, b)
  | n + 1, b =>
    let (delivery, s, b) := s.deliver b
    match delivery with
    | .record _ =>
      let (more, s, b) := s.deliverUpTo n b
      (delivery :: more, s, b)
    | _ => ([delivery], s, b)

/-- Read up to `n` times, or without limit, until a read does not deliver a record. A reader
delivers each record at most once, so that the records of the log bound the reads. -/
def deliverMany (s : Store) (n : Option Nat) (b : Broker) :
    List Replay.Delivery × Store × Broker :=
  s.deliverUpTo (n.getD ((b.records s.log).length + 1)) b

/-- Time passes while a reader is open. -/
def stayUp (s : Store) (ms : Nat) : Store := { s with replay := s.replay.stayUp ms }

/-! ## Closing -/

/-- Close a store: stop its replay, then close the log client, which answers `client`. A store is
closed once. -/
def close (s : Store) (b : Broker) (client : Except LogError Unit) :
    Except LogError Unit × Store × Broker :=
  if s.closed then (.ok (), s, b)
  else
    let (replay, b) := s.replay.stop b
    let s := { s with closed := true, replay }
    match client with
    | .error e => (.error e, s, b)
    | .ok _ => (.ok (), s, b.close)

/-- Let go of a store: its replay stops, and the log stays open. -/
def release (s : Store) (b : Broker) : Store × Broker :=
  let (replay, b) := s.replay.stop b
  ({ s with replay }, b)

end Store

end ReplayRegistry
