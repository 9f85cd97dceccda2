import ReplayRegistry.Settings.Load
import ReplayRegistry.Store.Cluster

/-!
# The registry node

The command line of the registry: it loads its settings, opens a store on the log that they name,
and tells every half minute how many entries the store shows and how its replay is. The only
argument, which may be left out, names a settings file.
-/

namespace ReplayRegistry.Node

/-- The variables of the environment that give settings one by one. -/
def settingNames : List String :=
  let kafka := ["BOOTSTRAP_SERVERS", "APPEND_TIMEOUT_MS", "SASL_USERNAME", "SASL_PASSWORD",
    "SASL_MECHANISM", "SECURITY_PROTOCOL", "SSL_CA_LOCATION"]
  let log := ["TYPE", "NAME"] ++ kafka.map ("KAFKA__" ++ ·)
  let replay := ["MIN_DELAY_MS", "MAX_DELAY_MS", "MAX_RESTARTS"]
  log.map ("HOOKDB__LOG__" ++ ·) ++ replay.map ("HOOKDB__REPLAY__" ++ ·)

/-- How often the node tells of its store, in milliseconds. -/
def interval : UInt32 := 30000

/-- What the node tells of its store. -/
def statusLine (s : Store) : String :=
  let health := match s.health with
    | .starting => "starting"
    | .tailing _ => "tailing"
    | .restarting n => "restarting, attempt " ++ toString n
    | .degraded n => "degraded, attempt " ++ toString n
    | .stopped => "stopped"
  "registry: " ++ toString s.size ++ " entries, " ++ health

/-- Read the variables that are set. -/
def readEnvironment : IO Settings.Texts := do
  let mut env := []
  for name in Settings.fileVariable :: settingNames do
    if let some text ← IO.getEnv name then env := env ++ [(name, text)]
  return env

/-- Read the files that are there, of those that names may stand for. -/
def readFiles (names : List String) : IO Settings.Texts := do
  let mut files := []
  for name in names.flatMap Settings.candidates do
    try files := files ++ [(name, ← IO.FS.readFile name)] catch _ => pure ()
  return files

/-- Follow the log and tell of the store, until the process is ended. -/
partial def follow (c : Cluster) : IO Unit := do
  let (_, c) := c.deliverMany 0 none
  for m in c.members do IO.println (statusLine m.store)
  (← IO.getStdout).flush
  IO.sleep interval
  follow (c.stayUp interval.toNat).tick

end ReplayRegistry.Node

open ReplayRegistry in
/-- Run the node. -/
def main (args : List String) : IO UInt32 := do
  let env ← Node.readEnvironment
  let named := args.head?.toList ++ (env.get? Settings.fileVariable).toList
  let files ← Node.readFiles (Settings.usualFile :: named)
  match Settings.load files env args.head? with
  | .error e =>
    IO.eprintln e.message
    return 1
  | .ok settings =>
    match settings.log.connect with
    | .error e =>
      IO.eprintln e.message
      return 1
    | .ok broker =>
      let (_, c) := { broker : Cluster }.openStore settings.log.name settings.replay
      Node.follow c
      return 0
