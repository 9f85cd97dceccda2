import ReplayRegistry.Document.Format
import ReplayRegistry.KeyMap
import ReplayRegistry.Log.Basic

/-!
# The view of a log

A view holds the latest live document of every key, as far as the log has been read. Two sources
feed it: records that replay delivers, and documents that this process has written itself, which
are shown before replay comes to them. Until then their payloads are in flight, and a record that
replay delivers for such a key is older than what the view shows and is passed over.
-/

namespace ReplayRegistry

/-- What folding a record did. -/
inductive Fold where
  /-- The document of the key was stored. -/
  | upserted (key : RegistryKey)
  /-- The key was removed. -/
  | evicted (key : RegistryKey)
  /-- The record is older than a write of this process, and was passed over. -/
  | superseded (key : RegistryKey)
deriving DecidableEq, Repr

/-- What a document, once it is in the log, makes of the entry of its key: a tombstone removes
it. -/
def FunctionDoc.effect (d : FunctionDoc) : Option FunctionDoc :=
  if d.isTombstone then none else some d

/-- The key a record is filed under and what it makes of the entry; none, if the record cannot be
filed. An empty payload removes the key of the record. A document is filed under its own key, and
takes the key of the record if it has none. -/
def Record.filing? (r : Record) : Option (RegistryKey × Option FunctionDoc) :=
  if r.payload = [] then if r.key = "" then none else some (r.key, none)
  else
    match FunctionDoc.decode r.payload with
    | .error _ => none
    | .ok d =>
      if d.id ≠ "" then some (d.id, d.effect)
      else if r.key = "" then none
      else some (r.key, { d with id := r.key }.effect)

structure View where
  /-- The live documents by key. -/
  entries : KeyMap FunctionDoc := ∅
  /-- The payloads in flight by key, oldest first. -/
  inFlight : KeyMap (List Bytes) := ∅

namespace View

/-- The payloads in flight for a key. -/
def pending (v : View) (key : RegistryKey) : List Bytes := (v.inFlight.get? key).getD []

/-- Set the payloads in flight for a key; a key without any is not kept. -/
def setPending (v : View) (key : RegistryKey) (ps : List Bytes) : View :=
  { v with inFlight := if ps = [] then v.inFlight.erase key else v.inFlight.insert key ps }

theorem pending_setPending (v : View) (key key' : RegistryKey) (ps : List Bytes) :
    (v.setPending key ps).pending key' = if key' = key then ps else v.pending key' := by
  by_cases hps : ps = []
  · by_cases hk : key' = key <;> simp [setPending, pending, KeyMap.get?_erase, hps, hk]
  · by_cases hk : key' = key <;> simp [setPending, pending, KeyMap.get?_insert, hps, hk]

/-- Store the document of a key, or remove the key. -/
def put (v : View) (key : RegistryKey) : Option FunctionDoc → Fold × View
  | some d => (.upserted key, { v with entries := v.entries.insert key d })
  | none => (.evicted key, { v with entries := v.entries.erase key })

/-- Fold a document into the view. -/
def apply (v : View) (d : FunctionDoc) : Fold × View := v.put d.id d.effect

/-- The payloads still in flight once `payload` has been delivered: it is retired with all older
ones, and an unknown payload retires none. -/
def retire (payload : Bytes) (ps : List Bytes) : List Bytes :=
  match ps.idxOf? payload with
  | some i => ps.drop (i + 1)
  | none => ps

/-- Fold what a record makes of the entry of a key. While payloads are in flight for the key, the
record is passed over. -/
def foldFiling (v : View) (payload : Bytes) (key : RegistryKey) (effect : Option FunctionDoc) :
    Fold × View :=
  let ps := retire payload (v.pending key)
  let v := v.setPending key ps
  if ps = [] then v.put key effect else (.superseded key, v)

/-- Fold a record that replay has delivered; a record that cannot be filed changes nothing. -/
def foldRecord (v : View) (r : Record) : Option Fold × View :=
  match r.filing? with
  | none => (none, v)
  | some (key, effect) =>
    let (fold, v) := v.foldFiling r.payload key effect
    (some fold, v)

/-! ## Writes of this process -/

/-- Note that `payload` is about to be appended for a key. This comes before the append, so that
replay cannot deliver the record first. -/
def beginLocal (v : View) (key : RegistryKey) (payload : Bytes) : View :=
  v.setPending key (v.pending key ++ [payload])

/-- Show a document whose append has succeeded. If its payload is no longer in flight, replay has
delivered the record, and the view holds it or something newer. -/
def commitLocal (v : View) (d : FunctionDoc) (payload : Bytes) : Option Fold × View :=
  if payload ∈ v.pending d.id then
    let (fold, v) := v.apply d
    (some fold, v)
  else (none, v)

/-- Take back the note of an append that has failed: the latest of this payload. -/
def abortLocal (v : View) (key : RegistryKey) (payload : Bytes) : View :=
  v.setPending key ((v.pending key).reverse.erase payload).reverse

/-! ## Reading -/

def get? (v : View) (key : RegistryKey) : Option FunctionDoc := v.entries.get? key

def contains (v : View) (key : RegistryKey) : Bool := v.entries.contains key

def documents (v : View) : List FunctionDoc := v.entries.values

def size (v : View) : Nat := v.entries.size

end View

end ReplayRegistry
