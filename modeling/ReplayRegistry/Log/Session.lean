import ReplayRegistry.Log.Reader

/-!
# Sessions

A session is a broker with the readers opened on it, numbered from 0 in the order of opening. It is
what a sequence of calls to a log service can be told from: every call changes the session and has
an answer.
-/

namespace ReplayRegistry

/-! ## Calls that name no reader -/

/-- A call that changes the broker and names no reader. -/
inductive BrokerCall where
  | append (log : String) (r : Record)
  | compact (log : String)
  | failAppends (on : Bool)
  | failOpens (on : Bool)
  /-- Limit the records a reader may deliver, or lift the limit. -/
  | limitReads (limit : Option Nat)
  /-- Cut off all readers. -/
  | disconnect
  | close
deriving DecidableEq

/-- What such a call answers. -/
inductive BrokerAnswer where
  | done
  /-- Compaction removed this many records. -/
  | removed (count : Nat)
  | failed (e : LogError)
deriving DecidableEq

/-- Carry out a call. -/
def Broker.call (b : Broker) : BrokerCall → BrokerAnswer × Broker
  | .append log r =>
    match b.append log r with
    | .ok b => (.done, b)
    | .error e => (.failed e, b)
  | .compact log =>
    let (n, b) := b.compact log
    (.removed n, b)
  | .failAppends on => (.done, { b with failAppends := on })
  | .failOpens on => (.done, { b with failOpens := on })
  | .limitReads limit => (.done, { b with readLimit := limit })
  | .disconnect => (.done, b.disconnect)
  | .close => (.done, b.close)

/-! ## Sessions -/

/-- A broker and its readers. A reader that has been dropped leaves its number behind. -/
structure Session where
  broker : Broker := {}
  /-- The readers in the order of opening. -/
  readers : List (Option Reader) := []

namespace Session

/-- A call to a session. Readers are named by their numbers. -/
inductive Call where
  /-- A call that names no reader. -/
  | broker (c : BrokerCall)
  | openReader (log : String) (start : StartPosition)
  | read (i : Nat)
  /-- Start a read, carry out a call if the read has to wait, and look at the same read again. -/
  | readAround (i : Nat) (c : BrokerCall)
  | closeReader (i : Nat)
  /-- Drop a reader, closing it if it is open. -/
  | dropReader (i : Nat)
deriving DecidableEq

/-- What a call answers. -/
inductive Answer where
  /-- The answer of a call that names no reader. -/
  | broker (a : BrokerAnswer)
  /-- The reader of this number has been opened. -/
  | opened (i : Nat)
  /-- No reader has been opened. -/
  | refused (e : LogError)
  /-- What became of a read. -/
  | read (result : ReadResult)
  /-- The answer of the call that was made while a read had to wait, if it was made, and what became
  of the read. -/
  | readAround (a : Option BrokerAnswer) (result : ReadResult)
  | done
  | readerDropped
  /-- No reader of this number has been opened. -/
  | noReader
deriving DecidableEq

/-- Carry out a call to the broker. -/
def brokerCall (s : Session) (c : BrokerCall) : BrokerAnswer × Session :=
  let (a, b) := s.broker.call c
  (a, { s with broker := b })

def openReader (s : Session) (log : String) (start : StartPosition) : Answer × Session :=
  match s.broker.openReader log start with
  | .error e => (.refused e, s)
  | .ok (r, b) => (.opened s.readers.length, ⟨b, s.readers ++ [some r]⟩)

/-- Put a reader in its place again. -/
def setReader (s : Session) (i : Nat) (r : Reader) : Session :=
  { s with readers := s.readers.set i (some r) }

def read (s : Session) (i : Nat) (r : Reader) : Answer × Session :=
  let (result, r) := r.read s.broker
  (.read result, s.setReader i r)

/-- Start a read, carry out a call if the read has to wait, and look at the read again. -/
def readAround (s : Session) (i : Nat) (r : Reader) (c : BrokerCall) : Answer × Session :=
  match PendingRead.start r s.broker with
  | .answered result r => (.readAround none result, s.setReader i r)
  | .asleep r seen =>
    let (a, s) := s.brokerCall c
    let p := (PendingRead.asleep r seen).poll s.broker
    (.readAround (some a) p.result, s.setReader i p.reader)

def closeReader (s : Session) (i : Nat) (r : Reader) : Session :=
  let (r, b) := r.release s.broker
  ⟨b, s.readers.set i (some r)⟩

/-- Drop a reader, closing it if it is open. -/
def dropReader (s : Session) (i : Nat) (r : Reader) : Session :=
  ⟨(r.release s.broker).2, s.readers.set i none⟩

/-- Do something with a reader that is there. -/
def withReader (s : Session) (i : Nat) (f : Reader → Answer × Session) : Answer × Session :=
  match s.readers[i]? with
  | some (some r) => f r
  | some none => (.readerDropped, s)
  | none => (.noReader, s)

/-- Carry out a call. -/
def call (s : Session) : Call → Answer × Session
  | .broker c =>
    let (a, s) := s.brokerCall c
    (.broker a, s)
  | .openReader log start => s.openReader log start
  | .read i => s.withReader i (s.read i)
  | .readAround i c => s.withReader i (s.readAround i · c)
  | .closeReader i => s.withReader i fun r => (.done, s.closeReader i r)
  | .dropReader i => s.withReader i fun r => (.done, s.dropReader i r)

def run (s : Session) (calls : List Call) : Session := calls.foldl (fun s c => (s.call c).2) s

end Session

end ReplayRegistry
