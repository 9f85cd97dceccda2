import ReplayRegistry.Document.Status
import ReplayRegistry.Key
import ReplayRegistry.Text.Blank
import ReplayRegistry.Time.Timestamp

/-!
# Documents

What the registry keeps: functions with the topics they read and write, and topics with the
webhooks subscribed to them. A document replaces the entry of its key as a whole.
-/

namespace ReplayRegistry

open Time (Timestamp)

/-- The connection settings of one topic that a function reads or writes. -/
structure TopicSlot where
  /-- The full name of the topic; a slot without one is not in use. -/
  topicName : String := ""
  /-- Where the topic's broker is. -/
  serviceUrl : String := ""
  token : String := ""
  tenant : String := ""
  key : String := ""
  subscription : String := ""
  subscriptionType : String := "exclusive"
  /-- How keys are spread over the consumers of a shared subscription. -/
  keySharedPolicy : String := ""
  initialPosition : String := "latest"
deriving DecidableEq

/-- Whether a slot is in use. -/
def TopicSlot.isConfigured (t : TopicSlot) : Bool := !Text.blank t.topicName

/-- A slot is in use just if the name of its topic is more than white space. -/
theorem TopicSlot.isConfigured_iff {t : TopicSlot} :
    t.isConfigured ↔ Text.trimStart t.topicName.toList ≠ [] := by
  rw [Ne, ← Text.blank_iff]
  simp [isConfigured]

/-- A function: the document that the registry's store is about. -/
structure FunctionDoc where
  /-- The name of the function, unique within its tenant. -/
  name : String := ""
  /-- The key of the entry; the store fills it in. -/
  id : RegistryKey := ""
  tenant : String := ""
  /-- Where the function stands in its life. -/
  status : Status := .deactivated
  /-- Where the code of the function is. -/
  filePath : String := ""
  /-- The runtime that the function needs. -/
  languagePack : String := ""
  parallelism : Int32 := 0
  /-- Whom the function's results are sent to. -/
  webhookUrls : List String := []
  inputTopic : TopicSlot := {}
  outputTopic : TopicSlot := {}
  logTopic : TopicSlot := {}
  triggerType : String := ""
  /-- When the function starts, if a clock starts it. -/
  cron : String := ""
  createdAt : Option Timestamp := none
  updatedAt : Option Timestamp := none
  deletedAt : Option Timestamp := none
deriving DecidableEq

namespace FunctionDoc

/-- The key that the names of a function determine. -/
def registryKey (d : FunctionDoc) : RegistryKey := deriveKey d.tenant d.name

/-- The slots in use, in the order input, output, log. -/
def topics (d : FunctionDoc) : List TopicSlot :=
  [d.inputTopic, d.outputTopic, d.logTopic].filter (·.isConfigured)

/-- Whether a document removes its entry. -/
def isTombstone (d : FunctionDoc) : Bool := d.status.isTombstone

end FunctionDoc

/-- A webhook subscribed to a topic. -/
structure WebhookDoc where
  url : String := ""
  headers : List String := []
  subscription : String := ""
  subscriptionType : String := "exclusive"
  initialPosition : String := "latest"
  status : Status := .deactivated
  createdAt : Option Timestamp := none
  updatedAt : Option Timestamp := none
  deletedAt : Option Timestamp := none
deriving DecidableEq

/-- The prefix of generated subscription names: such a subscription does not resume. -/
def nonResumable : String := "NonResumable"

/-- A random number of 128 bits, as bytes. -/
structure Token where
  bytes : Bytes
  length_eq : bytes.length = 16
deriving DecidableEq

/-- A generated subscription name: a random token in 32 hexadecimal digits, then the nanoseconds
since 1970. -/
def generatedSubscription (token : Token) (nanos : Nat) : String :=
  nonResumable ++ token.bytes.hex ++ String.ofList (Nat.toDigits 10 nanos)

/-- An activated webhook with a subscription of its own. -/
def WebhookDoc.generate (url : String) (token : Token) (nanos : Nat) (now : Timestamp) :
    WebhookDoc where
  url := url
  subscription := generatedSubscription token nanos
  status := .activated
  createdAt := some now
  updatedAt := some now

/-- A topic and the webhooks subscribed to it. -/
structure TopicDoc where
  topicName : String := ""
  serviceUrl : String := ""
  token : String := ""
  tenant : String := ""
  /-- The key of the entry. -/
  key : RegistryKey := ""
  notes : String := ""
  status : Status := .deactivated
  webhooks : List WebhookDoc := []
  createdAt : Option Timestamp := none
  updatedAt : Option Timestamp := none
deriving DecidableEq

/-- A topic without webhooks, keyed by its tenant and name. -/
def TopicDoc.create (tenant topicName serviceUrl token : String) (now : Timestamp) : TopicDoc where
  topicName := topicName
  serviceUrl := serviceUrl
  token := token
  tenant := tenant
  key := deriveKey tenant topicName
  createdAt := some now
  updatedAt := some now

end ReplayRegistry
