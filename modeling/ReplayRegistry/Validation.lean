import ReplayRegistry.Document.Basic
import ReplayRegistry.Document.Subscription
import ReplayRegistry.Url.Basic

/-!
# Validation

A document is checked before the store admits it. Every rule names the value that breaks it, and
of several broken rules the first one counts.
-/

namespace ReplayRegistry

/-- Why a document is not admitted. -/
inductive ValidationError where
  /-- A webhook is not reached under an absolute URL. -/
  | invalidUrl (url : String)
  /-- The webhook with this URL has no subscription. -/
  | missingSubscription (url : String)
  /-- No subscription type goes by this word. -/
  | unsupportedSubscriptionType (word : String)
  /-- No initial position goes by this word. -/
  | invalidInitialPosition (word : String)
  /-- Two webhooks claim this subscription for themselves. -/
  | duplicateExclusiveSubscription (name : String)
  | missingName
  | missingTenant
deriving DecidableEq, Repr

namespace ValidationError

def message : ValidationError → String
  | invalidUrl url => "not a URL " ++ url
  | missingSubscription url => "subscription name is missing for webhook " ++ url
  | unsupportedSubscriptionType word => "unsupported subscription type " ++ word
  | invalidInitialPosition word => "invalid subscription initial position " ++ word
  | duplicateExclusiveSubscription name =>
    "exclusive subscription " ++ name ++ " cannot be shared between multiple webhooks"
  | missingName => "function name is missing"
  | missingTenant => "tenant is missing"

end ValidationError

namespace Validation

/-- The subscription type of a document. -/
def subscriptionType (word : String) : Except ValidationError SubscriptionType :=
  match SubscriptionType.parse? word with
  | some t => .ok t
  | none => .error (.unsupportedSubscriptionType word)

/-- The initial position of a document. -/
def initialPosition (word : String) : Except ValidationError InitialPosition :=
  match InitialPosition.parse? word with
  | some p => .ok p
  | none => .error (.invalidInitialPosition word)

/-- Check one webhook; `taken` holds the subscriptions claimed by exclusive webhooks before it. The
result holds those claimed after it. -/
def checkWebhook (taken : List String) (w : WebhookDoc) : Except ValidationError (List String) :=
  if !isUrl w.url then .error (.invalidUrl w.url)
  else if Text.blank w.subscription then .error (.missingSubscription w.url)
  else
    match subscriptionType w.subscriptionType with
    | .error e => .error e
    | .ok type =>
      if type = .exclusive ∧ w.subscription ∈ taken then
        .error (.duplicateExclusiveSubscription w.subscription)
      else
        match initialPosition w.initialPosition with
        | .error e => .error e
        | .ok _ => .ok (if type = .exclusive then w.subscription :: taken else taken)

/-- Check webhooks in order. -/
def checkWebhooks : List String → List WebhookDoc → Except ValidationError Unit
  | _, [] => .ok ()
  | taken, w :: ws =>
    match checkWebhook taken w with
    | .error e => .error e
    | .ok taken => checkWebhooks taken ws

def webhooks (ws : List WebhookDoc) : Except ValidationError Unit := checkWebhooks [] ws

/-- Check a topic; the result is the key of its entry. -/
def topic (t : TopicDoc) : Except ValidationError RegistryKey :=
  (webhooks t.webhooks).map fun _ => deriveKey t.tenant t.topicName

def topicSlot (t : TopicSlot) : Except ValidationError Unit :=
  match subscriptionType t.subscriptionType with
  | .error e => .error e
  | .ok _ => (initialPosition t.initialPosition).map fun _ => ()

/-- Check the settings of topic slots in order. -/
def topicSlots : List TopicSlot → Except ValidationError Unit
  | [] => .ok ()
  | t :: ts =>
    match topicSlot t with
    | .error e => .error e
    | .ok _ => topicSlots ts

/-- Check a function. Slots that are not in use may hold anything. -/
def function (d : FunctionDoc) : Except ValidationError Unit :=
  if Text.blank d.tenant then .error .missingTenant
  else if Text.blank d.name then .error .missingName
  else
    match d.webhookUrls.find? fun url => !isUrl url with
    | some url => .error (.invalidUrl url)
    | none => topicSlots d.topics

end Validation

end ReplayRegistry
