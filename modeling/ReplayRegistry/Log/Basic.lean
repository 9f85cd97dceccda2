import ReplayRegistry.Bytes

/-!
# Records and log errors

A log is a sequence of keyed records. Readers follow it, and a call to it can fail: because the log
cannot be reached, because a reader has lost its connection, or because the log has been closed.
-/

namespace ReplayRegistry

structure Record where
  /-- The key that compaction goes by. -/
  key : String
  /-- What the record says; an empty payload says that its key has no value. -/
  payload : Bytes
deriving DecidableEq

/-- Why a call to the log fails. -/
inductive LogError where
  /-- The log of this name takes no records. -/
  | appendRejected (log : String)
  /-- The log of this name takes no readers. -/
  | openRejected (log : String)
  /-- A client between the caller and the log gave the call up, for this reason. -/
  | clientFailed (reason : String)
  /-- Logs of the distributed kind are not part of this build. -/
  | backendMissing
  /-- A reader of the log of this name is cut off. -/
  | connectionLost (log : String)
  /-- A reader of the log of this name has delivered as many records as it may. -/
  | readerDropped (log : String) (delivered : Nat)
  /-- The log has been closed. -/
  | closed
deriving DecidableEq, Repr

namespace LogError

/-- What a caller can do about an error. -/
inductive Kind where
  /-- Try again later. -/
  | unavailable
  /-- Open another reader. -/
  | disconnected
  /-- Nothing. -/
  | closed
deriving DecidableEq, Repr

def kind : LogError → Kind
  | appendRejected _ | openRejected _ | clientFailed _ | backendMissing => .unavailable
  | connectionLost _ | readerDropped _ _ => .disconnected
  | closed => .closed

def message : LogError → String
  | appendRejected log => "log unavailable: append to " ++ log ++ " rejected"
  | openRejected log => "log unavailable: cannot open reader on " ++ log
  | clientFailed reason => "log unavailable: " ++ reason
  | backendMissing =>
    "log unavailable: Kafka support requires the 'kafka' feature. Rebuild with --features kafka"
  | connectionLost log => "reader disconnected: reader on " ++ log ++ " lost its connection"
  | readerDropped log delivered =>
    "reader disconnected: reader on " ++ log ++ " dropped after " ++
      String.ofList (Nat.toDigits 10 delivered) ++ " records"
  | closed => "log client closed"

end LogError

end ReplayRegistry
