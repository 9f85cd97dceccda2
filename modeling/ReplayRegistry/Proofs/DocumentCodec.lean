import ReplayRegistry.Document.Format
import ReplayRegistry.Proofs.Formats
import ReplayRegistry.Proofs.TimestampText
import ReplayRegistry.Store.View

/-!
# Proofs: documents and their payloads

A document is read field by field: each member adds its field to those that have been read, and the
other ones are blank. So the formats of documents are lawful, a document can be read back from the
payload that a store appends for it, and its record is filed under its own key.
-/

namespace ReplayRegistry

open Json (Format Member)

theorem Status.format_lawful : Status.format.Lawful where
  read_write s rest h := by
    have hread := Json.integer?_writeInt s.ordinal h
    have hbound : s.ordinal ≤ 255 := by cases s <;> decide
    have hrange : 0 ≤ (s.ordinal : Int) ∧ (s.ordinal : Int) ≤ 255 := ⟨by omega, by omega⟩
    simp only [Status.format, Json.skipBlank_append (Json.writeInt_opening _), hread,
      if_pos hrange, Int.toNat_natCast, Status.ofOrdinal?_ordinal]
  opening s := Json.writeInt_opening (s.ordinal : Int)

theorem Time.Timestamp.format_lawful : Time.Timestamp.format.Lawful :=
  Json.optional_lawful (Json.viaText_lawful Time.parse?_print) fun t => by
    simp [Format.viaText, Json.writeText, Json.quote]

/-! ## The settings of a topic -/

/-- The settings that agree with `d` on the fields `names` and are blank in every other one. -/
def TopicSlot.only (d : TopicSlot) (names : List String) : TopicSlot where
  topicName := if "topicFullName" ∈ names then d.topicName else ""
  serviceUrl := if "pulsarURL" ∈ names then d.serviceUrl else ""
  token := if "token" ∈ names then d.token else ""
  tenant := if "tenant" ∈ names then d.tenant else ""
  key := if "key" ∈ names then d.key else ""
  subscription := if "subscription" ∈ names then d.subscription else ""
  subscriptionType := if "subscriptionType" ∈ names then d.subscriptionType else "exclusive"
  keySharedPolicy := if "keySharedPolicy" ∈ names then d.keySharedPolicy else ""
  initialPosition := if "initialPosition" ∈ names then d.initialPosition else "latest"

theorem TopicSlot.takes_write (d : TopicSlot) : ∀ m ∈ members, m.Takes d.only (m.write d) := by
  have htext := Json.text_lawful.reads
  simp only [members, List.forall_mem_cons, List.not_mem_nil, false_imp_iff, implies_true, and_true]
  refine ⟨?_, ?_, ?_, ?_, ?_, ?_, ?_, ?_, ?_⟩ <;>
    exact Json.member_takes (htext _) fun names => by simp [only]

theorem TopicSlot.format_lawful : TopicSlot.format.Lawful :=
  Json.record_lawful takes_write (by decide) (fun _ => rfl) fun _ => rfl

/-! ## Webhooks -/

/-- The webhook that agrees with `d` on the fields `names` and is blank in every other one. -/
def WebhookDoc.only (d : WebhookDoc) (names : List String) : WebhookDoc where
  url := if "url" ∈ names then d.url else ""
  headers := if "headers" ∈ names then d.headers else []
  subscription := if "subscription" ∈ names then d.subscription else ""
  subscriptionType := if "subscriptionType" ∈ names then d.subscriptionType else "exclusive"
  initialPosition := if "initialPosition" ∈ names then d.initialPosition else "latest"
  status := if "webhookStatus" ∈ names then d.status else .deactivated
  createdAt := if "createdAt" ∈ names then d.createdAt else none
  updatedAt := if "updatedAt" ∈ names then d.updatedAt else none
  deletedAt := if "deletedAt" ∈ names then d.deletedAt else none

theorem WebhookDoc.takes_write (d : WebhookDoc) : ∀ m ∈ members, m.Takes d.only (m.write d) := by
  have htext := Json.text_lawful.reads
  have hlist := (Json.list_lawful Json.text_lawful).reads
  have hstatus := Status.format_lawful.reads
  have htime := Time.Timestamp.format_lawful.reads
  simp only [members, List.forall_mem_cons, List.not_mem_nil, false_imp_iff, implies_true, and_true]
  refine ⟨Json.member_takes (htext _) ?_, Json.member_takes (hlist _) ?_,
    Json.member_takes (htext _) ?_, Json.member_takes (htext _) ?_, Json.member_takes (htext _) ?_,
    Json.member_takes (hstatus _) ?_, Json.member_takes (htime _) ?_,
    Json.member_takes (htime _) ?_, Json.member_takes (htime _) ?_⟩ <;>
    exact fun names => by simp [only]

theorem WebhookDoc.format_lawful : WebhookDoc.format.Lawful :=
  Json.record_lawful takes_write (by decide) (fun _ => rfl) fun _ => rfl

/-! ## Topics -/

/-- The topic that agrees with `d` on the fields `names` and is blank in every other one. -/
def TopicDoc.only (d : TopicDoc) (names : List String) : TopicDoc where
  topicName := if "topicFullName" ∈ names then d.topicName else ""
  serviceUrl := if "pulsarURL" ∈ names then d.serviceUrl else ""
  token := if "token" ∈ names then d.token else ""
  tenant := if "tenant" ∈ names then d.tenant else ""
  key := if "key" ∈ names then d.key else ""
  notes := if "notes" ∈ names then d.notes else ""
  status := if "topicStatus" ∈ names then d.status else .deactivated
  webhooks := if "webhooks" ∈ names then d.webhooks else []
  createdAt := if "createdAt" ∈ names then d.createdAt else none
  updatedAt := if "updatedAt" ∈ names then d.updatedAt else none

theorem TopicDoc.takes_write (d : TopicDoc) : ∀ m ∈ members, m.Takes d.only (m.write d) := by
  have htext := Json.text_lawful.reads
  have hlist := (Json.list_lawful WebhookDoc.format_lawful).reads
  have hstatus := Status.format_lawful.reads
  have htime := Time.Timestamp.format_lawful.reads
  simp only [members, List.forall_mem_cons, List.not_mem_nil, false_imp_iff, implies_true, and_true]
  refine ⟨Json.member_takes (htext _) ?_, Json.member_takes (htext _) ?_,
    Json.member_takes (htext _) ?_, Json.member_takes (htext _) ?_, Json.member_takes (htext _) ?_,
    Json.member_takes (htext _) ?_, Json.member_takes (hstatus _) ?_,
    Json.member_takes (hlist _) ?_, Json.member_takes (htime _) ?_,
    Json.member_takes (htime _) ?_⟩ <;>
    exact fun names => by simp [only]

theorem TopicDoc.format_lawful : TopicDoc.format.Lawful :=
  Json.record_lawful takes_write (by decide) (fun _ => rfl) fun _ => rfl

/-! ## Functions -/

/-- The function that agrees with `d` on the fields `names` and is blank in every other one. -/
def FunctionDoc.only (d : FunctionDoc) (names : List String) : FunctionDoc where
  name := if "name" ∈ names then d.name else ""
  id := if "id" ∈ names then d.id else ""
  tenant := if "tenant" ∈ names then d.tenant else ""
  status := if "functionStatus" ∈ names then d.status else .deactivated
  filePath := if "functionFilePath" ∈ names then d.filePath else ""
  languagePack := if "languagePack" ∈ names then d.languagePack else ""
  parallelism := if "parallelism" ∈ names then d.parallelism else 0
  webhookUrls := if "webhookURLs" ∈ names then d.webhookUrls else []
  inputTopic := if "inputTopics" ∈ names then d.inputTopic else {}
  outputTopic := if "outputTopics" ∈ names then d.outputTopic else {}
  logTopic := if "logTopic" ∈ names then d.logTopic else {}
  triggerType := if "triggerType" ∈ names then d.triggerType else ""
  cron := if "cron" ∈ names then d.cron else ""
  createdAt := if "createdAt" ∈ names then d.createdAt else none
  updatedAt := if "updatedAt" ∈ names then d.updatedAt else none
  deletedAt := if "deletedAt" ∈ names then d.deletedAt else none

theorem FunctionDoc.takes_write (d : FunctionDoc) : ∀ m ∈ members, m.Takes d.only (m.write d) := by
  have htext := Json.text_lawful.reads
  have hlist := (Json.list_lawful Json.text_lawful).reads
  have hint := Json.int32_lawful.reads
  have hslot := TopicSlot.format_lawful.reads
  have hstatus := Status.format_lawful.reads
  have htime := Time.Timestamp.format_lawful.reads
  simp only [members, List.forall_mem_cons, List.not_mem_nil, false_imp_iff, implies_true, and_true]
  refine ⟨Json.member_takes (htext _) ?_, Json.member_takes (htext _) ?_,
    Json.member_takes (htext _) ?_, Json.member_takes (hstatus _) ?_,
    Json.member_takes (htext _) ?_, Json.member_takes (htext _) ?_, Json.member_takes (hint _) ?_,
    Json.member_takes (hlist _) ?_, Json.member_takes (hslot _) ?_, Json.member_takes (hslot _) ?_,
    Json.member_takes (hslot _) ?_, Json.member_takes (htext _) ?_, Json.member_takes (htext _) ?_,
    Json.member_takes (htime _) ?_, Json.member_takes (htime _) ?_,
    Json.member_takes (htime _) ?_⟩ <;>
    exact fun names => by simp [only]

theorem FunctionDoc.format_lawful : FunctionDoc.format.Lawful :=
  Json.record_lawful takes_write (by decide) (fun _ => rfl) fun _ => rfl

/-! ## All documents -/

/-- Every document is read back from its written form, and every text that holds a document is
written back as one that holds the same document and is written back as it is. -/
theorem documents_round_trip :
    FunctionDoc.format.RoundTrips ∧ TopicSlot.format.RoundTrips ∧ TopicDoc.format.RoundTrips ∧
      WebhookDoc.format.RoundTrips :=
  ⟨FunctionDoc.format_lawful.roundTrips, TopicSlot.format_lawful.roundTrips,
    TopicDoc.format_lawful.roundTrips, WebhookDoc.format_lawful.roundTrips⟩

/-- A topic whose members stand in another order, with blanks, a member that topics do not have, a
control character, a webhook that is written as a list of its values, a leap second off universal
time, and a year of five digits. -/
def foreignTopic : Bytes :=
  Bytes.ofText " \x7b\"topicStatus\" : 2, \"notes\": \"\\u0001\\/é\", \"extra\": [1, null],
    \"webhooks\": [[\"u\", null, \"\", \"\", \"\", 1, null, null, null]],
    \"createdAt\": \"2016-12-31T18:59:60.5-05:00\",
    \"updatedAt\": \"+12345-01-01T00:00:00.2500Z\"\x7d "

/-- It is written back as another text, which holds the same topic. -/
theorem documents_round_trip_foreignTopic :
    ∃ t, TopicDoc.format.rewrite foreignTopic = .ok t ∧ t ≠ foreignTopic ∧
      TopicDoc.format.decode t = TopicDoc.format.decode foreignTopic ∧
        TopicDoc.format.rewrite t = .ok t := by
  have hreads : (TopicDoc.format.rewrite foreignTopic).isOk := by decide +kernel
  have hchanges : TopicDoc.format.rewrite foreignTopic ≠ .ok foreignTopic := by decide +kernel
  cases h : TopicDoc.format.rewrite foreignTopic with
  | error e =>
    rw [h] at hreads
    cases hreads
  | ok t =>
    obtain ⟨-, -, htopic, -⟩ := documents_round_trip
    refine ⟨t, rfl, ?_, htopic.rewrite foreignTopic t h⟩
    intro hsame
    rw [hsame] at h
    exact hchanges h

/-! ## Payloads -/

/-- A document is what its payload holds. -/
@[simp] theorem FunctionDoc.decode_encode (d : FunctionDoc) : FunctionDoc.decode d.encode = .ok d :=
  FunctionDoc.format_lawful.decode_write d

@[simp] theorem FunctionDoc.encode_ne_nil (d : FunctionDoc) : d.encode ≠ [] := by
  obtain ⟨b, s, h, -⟩ := FunctionDoc.format_lawful.opening d
  have hencode : d.encode = b :: s := h
  simp [hencode]

/-- A document that has a key is filed under it, whatever record carries its payload. -/
theorem Record.filing?_encode {d : FunctionDoc} (h : d.id ≠ "") (key : String) :
    (⟨key, d.encode⟩ : Record).filing? = some (d.id, d.effect) := by
  simp [Record.filing?, h]

/-- A record that can be filed has a key, and what it makes of the entry of this key is nothing or
what some document under this key makes of it. -/
theorem Record.filing?_cases {r : Record} {key : RegistryKey} {effect : Option FunctionDoc}
    (h : r.filing? = some (key, effect)) :
    key ≠ "" ∧ (effect = none ∨ ∃ d : FunctionDoc, d.id = key ∧ d.effect = effect) := by
  unfold Record.filing? at h
  split at h
  · split at h
    · cases h
    · rename_i hkey
      cases h
      exact ⟨hkey, .inl rfl⟩
  · split at h
    · cases h
    · rename_i d _
      split at h
      · rename_i hid
        cases h
        exact ⟨hid, .inr ⟨d, rfl, rfl⟩⟩
      · split at h
        · cases h
        · rename_i hkey
          cases h
          exact ⟨hkey, .inr ⟨{ d with id := r.key }, rfl, rfl⟩⟩

/-- What a document makes of its entry is itself, unless it is a tombstone. -/
theorem FunctionDoc.eq_of_effect {d d' : FunctionDoc} (h : d.effect = some d') : d' = d := by
  unfold FunctionDoc.effect at h
  split at h
  · cases h
  · exact (Option.some.inj h).symm

/-- A document that a record puts into an entry carries the key of the entry. -/
theorem Record.filing?_id {r : Record} {key : RegistryKey} {d : FunctionDoc}
    (h : r.filing? = some (key, some d)) : d.id = key := by
  obtain ⟨-, hnone | ⟨d', hid, heffect⟩⟩ := Record.filing?_cases h
  · cases hnone
  · rw [FunctionDoc.eq_of_effect heffect, hid]

end ReplayRegistry
