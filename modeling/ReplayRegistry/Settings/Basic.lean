import ReplayRegistry.Settings.Value
import ReplayRegistry.Store.Basic

/-!
# Settings

The settings of a registry say which log it uses and how replay is restarted. Each group of settings
is read from a table by the names of its settings, or from a list in the order of declaration. A
setting that is not given keeps its default, and names that are not known are passed over.
-/

namespace ReplayRegistry

/-- Where logs are kept. -/
inductive Backend where
  /-- In the memory of the process. -/
  | memory
  /-- On the brokers of a Kafka cluster. -/
  | kafka
deriving DecidableEq, Repr

/-- How a Kafka cluster is reached. -/
structure KafkaSettings where
  /-- The brokers to ask first. -/
  bootstrapServers : String := "localhost:9092"
  /-- How long an append may take, in milliseconds. -/
  appendTimeout : Nat := 5000
  /-- The name to sign in with. -/
  saslUsername : Option String := none
  /-- The password to sign in with. -/
  saslPassword : Option String := none
  /-- The mechanism to sign in by. -/
  saslMechanism : Option String := none
  /-- How connections are secured. -/
  securityProtocol : Option String := none
  /-- The file with the certificates to trust. -/
  sslCaLocation : Option String := none
deriving DecidableEq, Repr

/-- The settings of the log. -/
structure LogSettings where
  /-- Where it is kept. -/
  backend : Backend := .memory
  /-- Its name. -/
  name : String := defaultLog
  /-- How a Kafka cluster is reached. -/
  kafka : KafkaSettings := {}
deriving DecidableEq, Repr

/-- The settings of a registry. -/
structure Settings where
  /-- The log. -/
  log : LogSettings := {}
  /-- The replay of the log. -/
  replay : ReplaySettings := {}
deriving DecidableEq, Repr

namespace Settings

/-- A setting of a group: its name, and how a value for it changes the group. -/
structure Item (σ : Type) where
  /-- The name. -/
  name : String
  /-- Give it a value; fails if the value cannot be converted. -/
  set : Value → σ → Option σ

/-- A setting whose value is converted by `of?`. -/
def Item.of {σ α : Type} (name : String) (of? : Value → Option α) (put : σ → α → σ) : Item σ :=
  ⟨name, fun v s => (of? v).map (put s)⟩

/-- Read a group of settings, from what its settings are by default. -/
def group? {σ : Type} (items : List (Item σ)) (default : σ) : Value → Option σ
  | .table ms =>
    items.foldlM (fun s item =>
      match Value.lookup? item.name ms with
      | some v => item.set v s
      | none => some s) default
  | .list vs => (items.zip vs).foldlM (fun s iv => iv.1.set iv.2 s) default
  | _ => none

/-- Read how a Kafka cluster is reached. -/
def kafka? : Value → Option KafkaSettings :=
  group? [
    .of "bootstrap_servers" Value.text? fun s v => { s with bootstrapServers := v },
    .of "append_timeout_ms" Value.nat? fun s v => { s with appendTimeout := v },
    .of "sasl_username" Value.optionalText? fun s v => { s with saslUsername := v },
    .of "sasl_password" Value.optionalText? fun s v => { s with saslPassword := v },
    .of "sasl_mechanism" Value.optionalText? fun s v => { s with saslMechanism := v },
    .of "security_protocol" Value.optionalText? fun s v => { s with securityProtocol := v },
    .of "ssl_ca_location" Value.optionalText? fun s v => { s with sslCaLocation := v }] {}

/-- Read the settings of the log. -/
def log? : Value → Option LogSettings :=
  group? [
    .of "type" (Value.word? [("memory", .memory), ("kafka", .kafka)])
      fun s v => { s with backend := v },
    .of "name" Value.text? fun s v => { s with name := v },
    .of "kafka" kafka? fun s v => { s with kafka := v }] {}

/-- Read the settings of replay. -/
def replay? : Value → Option ReplaySettings :=
  group? [
    .of "min_delay_ms" Value.nat? fun s v => { s with minDelay := v },
    .of "max_delay_ms" Value.nat? fun s v => { s with maxDelay := v },
    .of "max_restarts" Value.nat? fun s v => { s with maxRestarts := v }] {}

/-- Read the settings of a registry. -/
def ofValue? : Value → Option Settings :=
  group? [
    .of "log" log? fun s v => { s with log := v },
    .of "replay" replay? fun s v => { s with replay := v }] {}

end Settings

/-- A log service of the kind that the settings ask for, with no records. -/
def LogSettings.connect (s : LogSettings) : Except LogError Broker :=
  match s.backend with
  | .memory => .ok {}
  | .kafka => .error .backendMissing

end ReplayRegistry
