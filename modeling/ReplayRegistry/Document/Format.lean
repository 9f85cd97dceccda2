import ReplayRegistry.Document.Basic
import ReplayRegistry.Time.Text

/-!
# The written form of documents

One table per kind of document gives the order and the names of its members. A member that a text
leaves out has the value of a blank document.
-/

namespace ReplayRegistry

open Json (Format Member)

/-- A timestamp, or `null` for none. -/
def Time.Timestamp.format : Format (Option Time.Timestamp) :=
  .optional (.viaText Time.Timestamp.print Time.Timestamp.parse?)

def TopicSlot.members : List (Member TopicSlot) := [
  Format.text.member "topicFullName" (·.topicName) fun d v => { d with topicName := v },
  Format.text.member "pulsarURL" (·.serviceUrl) fun d v => { d with serviceUrl := v },
  Format.text.member "token" (·.token) fun d v => { d with token := v },
  Format.text.member "tenant" (·.tenant) fun d v => { d with tenant := v },
  Format.text.member "key" (·.key) fun d v => { d with key := v },
  Format.text.member "subscription" (·.subscription) fun d v => { d with subscription := v },
  Format.text.member "subscriptionType" (·.subscriptionType)
    fun d v => { d with subscriptionType := v },
  Format.text.member "keySharedPolicy" (·.keySharedPolicy)
    fun d v => { d with keySharedPolicy := v },
  Format.text.member "initialPosition" (·.initialPosition)
    fun d v => { d with initialPosition := v }]

def TopicSlot.format : Format TopicSlot := .record members {}

def FunctionDoc.members : List (Member FunctionDoc) := [
  Format.text.member "name" (·.name) fun d v => { d with name := v },
  Format.text.member "id" (·.id) fun d v => { d with id := v },
  Format.text.member "tenant" (·.tenant) fun d v => { d with tenant := v },
  Status.format.member "functionStatus" (·.status) fun d v => { d with status := v },
  Format.text.member "functionFilePath" (·.filePath) fun d v => { d with filePath := v },
  Format.text.member "languagePack" (·.languagePack) fun d v => { d with languagePack := v },
  Format.int32.member "parallelism" (·.parallelism) fun d v => { d with parallelism := v },
  (Format.list .text).member "webhookURLs" (·.webhookUrls)
    fun d v => { d with webhookUrls := v },
  TopicSlot.format.member "inputTopics" (·.inputTopic) fun d v => { d with inputTopic := v },
  TopicSlot.format.member "outputTopics" (·.outputTopic) fun d v => { d with outputTopic := v },
  TopicSlot.format.member "logTopic" (·.logTopic) fun d v => { d with logTopic := v },
  Format.text.member "triggerType" (·.triggerType) fun d v => { d with triggerType := v },
  Format.text.member "cron" (·.cron) fun d v => { d with cron := v },
  Time.Timestamp.format.member "createdAt" (·.createdAt) fun d v => { d with createdAt := v },
  Time.Timestamp.format.member "updatedAt" (·.updatedAt) fun d v => { d with updatedAt := v },
  Time.Timestamp.format.member "deletedAt" (·.deletedAt) fun d v => { d with deletedAt := v }]

def FunctionDoc.format : Format FunctionDoc := .record members {}

def WebhookDoc.members : List (Member WebhookDoc) := [
  Format.text.member "url" (·.url) fun d v => { d with url := v },
  (Format.list .text).member "headers" (·.headers) fun d v => { d with headers := v },
  Format.text.member "subscription" (·.subscription) fun d v => { d with subscription := v },
  Format.text.member "subscriptionType" (·.subscriptionType)
    fun d v => { d with subscriptionType := v },
  Format.text.member "initialPosition" (·.initialPosition)
    fun d v => { d with initialPosition := v },
  Status.format.member "webhookStatus" (·.status) fun d v => { d with status := v },
  Time.Timestamp.format.member "createdAt" (·.createdAt) fun d v => { d with createdAt := v },
  Time.Timestamp.format.member "updatedAt" (·.updatedAt) fun d v => { d with updatedAt := v },
  Time.Timestamp.format.member "deletedAt" (·.deletedAt) fun d v => { d with deletedAt := v }]

def WebhookDoc.format : Format WebhookDoc := .record members {}

/-- The written form of a set of webhooks. -/
def WebhookDoc.setFormat : Format (List WebhookDoc) := .array format

def TopicDoc.members : List (Member TopicDoc) := [
  Format.text.member "topicFullName" (·.topicName) fun d v => { d with topicName := v },
  Format.text.member "pulsarURL" (·.serviceUrl) fun d v => { d with serviceUrl := v },
  Format.text.member "token" (·.token) fun d v => { d with token := v },
  Format.text.member "tenant" (·.tenant) fun d v => { d with tenant := v },
  Format.text.member "key" (·.key) fun d v => { d with key := v },
  Format.text.member "notes" (·.notes) fun d v => { d with notes := v },
  Status.format.member "topicStatus" (·.status) fun d v => { d with status := v },
  (Format.list WebhookDoc.format).member "webhooks" (·.webhooks)
    fun d v => { d with webhooks := v },
  Time.Timestamp.format.member "createdAt" (·.createdAt) fun d v => { d with createdAt := v },
  Time.Timestamp.format.member "updatedAt" (·.updatedAt) fun d v => { d with updatedAt := v }]

def TopicDoc.format : Format TopicDoc := .record members {}

/-- The payload under which a function is appended to the log. -/
def FunctionDoc.encode (d : FunctionDoc) : Bytes := format.write d

/-- The function that a payload holds. -/
def FunctionDoc.decode (payload : Bytes) : Except Json.DecodeError FunctionDoc :=
  format.decode payload

end ReplayRegistry
