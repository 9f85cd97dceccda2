import ReplayRegistry.Proofs.DocumentCodec
import ReplayRegistry.Proofs.SkippedValues

/-!
# Proofs: documents are decoded tolerantly

An object that holds a document need not be one that its format writes. It may give some of the
fields only, in any order, an empty list may be written as `null`, and members that the document
does not have may stand anywhere. Such an object decodes to the document that has the given fields
and is blank in every other one.
-/

namespace ReplayRegistry.Json

/-! ## Objects -/

/-- The text of the object with the members `ts`. -/
def objectText (ts : List Bytes) : Bytes := openBrace :: List.intercalate [comma] ts ++ [closeBrace]

/-- A member with a name that is not in `known`, and with any value. Its name may be spelled in any
way, and blanks may stand between its tokens. -/
inductive Foreign (known : List String) : Bytes → Prop
  | intro {name : String} {s v w₁ w₂ w₃ w₄ : Bytes} (hname : name ∉ known)
      (hs : Spells s (Bytes.ofText name)) (hv : Derives .value v) (hw₁ : Blank w₁) (hw₂ : Blank w₂)
      (hw₃ : Blank w₃) (hw₄ : Blank w₄) :
      Foreign known (w₁ ++ quote :: (s ++ quote :: (w₂ ++ colon :: (w₃ ++ (v ++ w₄)))))

variable {α : Type} {members : List (Member α)} {Form : α → String → Bytes → Prop}
  {only : α → List String → α} {w : Bytes}

/-- The objects that hold a record: they give some of its fields, in the forms that `Form` allows,
and the record is blank in every other one. -/
inductive ObjectOf (members : List (Member α)) (Form : α → String → Bytes → Prop)
    (only : α → List String → α) : α → Bytes → Prop
  | intro {a : α} {names : List String} {ts : List Bytes}
      (h : Gives (Foreign (members.map (·.name))) (Form a) names ts) :
      ObjectOf members Form only (only a names) (objectText ts)

/-- A format of records that decodes every object which gives some of the fields. -/
def Format.Tolerant (f : Format α) (members : List (Member α)) (Form : α → String → Bytes → Prop)
    (only : α → List String → α) : Prop :=
  ∀ a names ts, Gives (Foreign (members.map (·.name))) (Form a) names ts →
    f.decode (objectText ts) = .ok (only a names)

/-! ## Members that a record does not have -/

theorem turn?_blank (hw : Blank w) (closing : UInt8) (first : Bool) (s : Bytes) :
    turn? closing first (w ++ s) = turn? closing first s := by
  simp only [turn?, skipBlank_blank hw]

theorem turn?_comma_blank (hw : Blank w) {closing : UInt8} (hne : comma ≠ closing) (s : Bytes) :
    turn? closing false (comma :: (w ++ s)) = turn? closing false (comma :: s) := by
  have hcomma : isBlank comma = false := by decide
  simp only [turn?, skipBlank_cons hcomma, skipBlank_blank hw, if_neg hne, Bool.false_eq_true,
    if_false, if_true]

theorem readNamed_blank (hw : Blank w) (n : Nat) (seen : List String) (x : α) (s : Bytes) :
    readNamed members n false seen x (w ++ s) = readNamed members n false seen x s := by
  cases n with
  | zero => rfl
  | succ n => simp only [readNamed, turn?_blank hw]

theorem colon?_blank (hw : Blank w) (s : Bytes) : colon? (w ++ colon :: s) = some s := by
  have hb : isBlank colon = false := by decide
  simp [colon?, skipBlank_blank hw, skipBlank_cons hb]

/-- A member that the record does not have leaves the record as it is. -/
theorem passes_foreign {t : Bytes} (h : Foreign (members.map (·.name)) t) (seen : List String)
    (x : α) : Passes members t seen x seen x := by
  cases h with
  | @intro name s v w₁ w₂ w₃ w₄ hname hs hv hw₁ hw₂ hw₃ hw₄ =>
    have hopen : Opening quote := by decide
    have hne : quote ≠ closeBrace := by decide
    have hcomma : comma ≠ closeBrace := by decide
    have hfind : members.find? (fun m => m.name == name) = none := by
      rw [List.find?_eq_none]
      intro m hm heq
      exact hname (List.mem_map.2 ⟨m, hm, eq_of_beq heq⟩)
    have hread : ∀ r, name? (quote :: (s ++ quote :: r)) = some (name, r) := fun r => by
      simp [name?, textBody?_append hs]
    have hskip : ∀ rest, Boundary rest →
        (colon? (w₂ ++ colon :: (w₃ ++ (v ++ (w₄ ++ rest))))).bind skipValue? =
          some (w₄ ++ rest) := by
      intro rest hrest
      rw [colon?_blank hw₂, Option.bind_some, skipValue?_append hv hw₃ (hrest.ends.blank hw₄)]
    constructor
    · intro n rest hrest
      simp only [List.append_assoc, List.cons_append, readNamed, turn?_blank hw₁,
        turn?_first hopen hne, hread, hfind, hskip rest hrest, readNamed_blank hw₄]
    · intro n rest hrest
      simp only [List.append_assoc, List.cons_append, readNamed, turn?_comma_blank hw₁ hcomma,
        turn?_comma hopen hne hcomma, hread, hfind, hskip rest hrest, readNamed_blank hw₄]

/-! ## Records -/

theorem ObjectOf.reads {a blank : α} {t : Bytes} (h : ObjectOf members Form only a t)
    (htaken : ∀ a name v, Form a name v → Taken members (only a) name v)
    (hblank : ∀ a, only a [] = blank) : (Format.record members blank).Reads t a := by
  cases h with
  | @intro a names ts h =>
    have hreads := h.reads (fun _ => passes_foreign) (htaken a)
    rw [hblank] at hreads
    exact hreads

/-- A record is decoded tolerantly if its members take the fields in all their forms. -/
theorem record_tolerant {blank : α}
    (htaken : ∀ a name v, Form a name v → Taken members (only a) name v)
    (hblank : ∀ a, only a [] = blank) : (Format.record members blank).Tolerant members Form only :=
  fun _ _ _ h => ((ObjectOf.intro h).reads htaken hblank).decode

end ReplayRegistry.Json

namespace ReplayRegistry

open Json (Format Member)

/-! ## The settings of a topic -/

/-- The fields of a slot are written as its format writes them. -/
inductive TopicSlot.Form (d : TopicSlot) : String → Bytes → Prop
  | written {m : Member TopicSlot} (hm : m ∈ members) : Form d m.name (m.write d)

/-- The objects that hold a slot. -/
def TopicSlot.Text : TopicSlot → Bytes → Prop := Json.ObjectOf members Form only

theorem TopicSlot.Form.taken {d : TopicSlot} {name : String} {v : Bytes} (h : d.Form name v) :
    Json.Taken members d.only name v := by
  cases h with
  | written hm => exact Json.taken_of_mem (by decide) hm (d.takes_write _ hm)

theorem TopicSlot.Text.reads {d : TopicSlot} {t : Bytes} (h : Text d t) : format.Reads t d :=
  Json.ObjectOf.reads h (fun _ _ _ => Form.taken) fun _ => rfl

/-! ## Webhooks -/

/-- The fields of a webhook are written as its format writes them, or no headers as `null`. -/
inductive WebhookDoc.Form (d : WebhookDoc) : String → Bytes → Prop
  | written {m : Member WebhookDoc} (hm : m ∈ members) : Form d m.name (m.write d)
  | noHeaders (h : d.headers = []) : Form d "headers" Json.nullWord

/-- The objects that hold a webhook. -/
def WebhookDoc.Text : WebhookDoc → Bytes → Prop := Json.ObjectOf members Form only

theorem WebhookDoc.Form.taken {d : WebhookDoc} {name : String} {v : Bytes} (h : d.Form name v) :
    Json.Taken members d.only name v := by
  cases h with
  | written hm => exact Json.taken_of_mem (by decide) hm (d.takes_write _ hm)
  | noHeaders h =>
    exact ⟨_, rfl, rfl, Json.member_takes Json.list_reads_null fun names => by simp [only, h]⟩

theorem WebhookDoc.Text.reads {d : WebhookDoc} {t : Bytes} (h : Text d t) : format.Reads t d :=
  Json.ObjectOf.reads h (fun _ _ _ => Form.taken) fun _ => rfl

/-! ## Topics -/

/-- The fields of a topic are written as its format writes them, no webhooks as `null`, or the
webhooks as any objects that hold them. -/
inductive TopicDoc.Form (d : TopicDoc) : String → Bytes → Prop
  | written {m : Member TopicDoc} (hm : m ∈ members) : Form d m.name (m.write d)
  | noWebhooks (h : d.webhooks = []) : Form d "webhooks" Json.nullWord
  | webhooks {ts : List Bytes} (h : List.Forall₂ WebhookDoc.Text d.webhooks ts) :
      Form d "webhooks"
        (Json.openBracket :: List.intercalate [Json.comma] ts ++ [Json.closeBracket])

theorem TopicDoc.Form.taken {d : TopicDoc} {name : String} {v : Bytes} (h : d.Form name v) :
    Json.Taken members d.only name v := by
  cases h with
  | written hm => exact Json.taken_of_mem (by decide) hm (d.takes_write _ hm)
  | noWebhooks h =>
    exact ⟨_, rfl, rfl, Json.member_takes Json.list_reads_null fun names => by simp [only, h]⟩
  | @webhooks ts h =>
    have hreads : List.Forall₂ WebhookDoc.format.Reads ts d.webhooks :=
      (h.imp fun _ _ => WebhookDoc.Text.reads).flip
    have hlist := Json.list_reads (Json.array_reads hreads) (by simp [Json.openBracket])
    exact ⟨_, rfl, rfl, Json.member_takes hlist fun names => by simp [only]⟩

/-! ## Functions -/

/-- The fields of a function are written as its format writes them, no webhooks as `null`, or a slot
as any object that holds it. -/
inductive FunctionDoc.Form (d : FunctionDoc) : String → Bytes → Prop
  | written {m : Member FunctionDoc} (hm : m ∈ members) : Form d m.name (m.write d)
  | noWebhooks (h : d.webhookUrls = []) : Form d "webhookURLs" Json.nullWord
  | inputTopic {t : Bytes} (h : d.inputTopic.Text t) : Form d "inputTopics" t
  | outputTopic {t : Bytes} (h : d.outputTopic.Text t) : Form d "outputTopics" t
  | logTopic {t : Bytes} (h : d.logTopic.Text t) : Form d "logTopic" t

theorem FunctionDoc.Form.taken {d : FunctionDoc} {name : String} {v : Bytes} (h : d.Form name v) :
    Json.Taken members d.only name v := by
  cases h with
  | written hm => exact Json.taken_of_mem (by decide) hm (d.takes_write _ hm)
  | noWebhooks h =>
    exact ⟨_, rfl, rfl, Json.member_takes Json.list_reads_null fun names => by simp [only, h]⟩
  | inputTopic h => exact ⟨_, rfl, rfl, Json.member_takes h.reads fun names => by simp [only]⟩
  | outputTopic h => exact ⟨_, rfl, rfl, Json.member_takes h.reads fun names => by simp [only]⟩
  | logTopic h => exact ⟨_, rfl, rfl, Json.member_takes h.reads fun names => by simp [only]⟩

/-! ## All documents -/

/-- Every object that gives some of the fields of a document decodes to the document that has these
fields and is blank in every other one. -/
theorem documents_decode_tolerantly :
    FunctionDoc.format.Tolerant FunctionDoc.members FunctionDoc.Form FunctionDoc.only ∧
      TopicSlot.format.Tolerant TopicSlot.members TopicSlot.Form TopicSlot.only ∧
      TopicDoc.format.Tolerant TopicDoc.members TopicDoc.Form TopicDoc.only ∧
      WebhookDoc.format.Tolerant WebhookDoc.members WebhookDoc.Form WebhookDoc.only :=
  ⟨Json.record_tolerant (fun _ _ _ => FunctionDoc.Form.taken) fun _ => rfl,
    Json.record_tolerant (fun _ _ _ => TopicSlot.Form.taken) fun _ => rfl,
    Json.record_tolerant (fun _ _ _ => TopicDoc.Form.taken) fun _ => rfl,
    Json.record_tolerant (fun _ _ _ => WebhookDoc.Form.taken) fun _ => rfl⟩

/-- A function that gives four of its fields in another order, among them no webhooks as `null` and
a slot that has its topic only, and a member that functions do not have. -/
def sparseFunction : Bytes :=
  Bytes.ofText "\x7b\"tenant\":\"t1\",\"x\": \x7b\"y\":[true]\x7d ,\"webhookURLs\":null," ++
    Bytes.ofText "\"inputTopics\":\x7b\"topicFullName\":\"in\"\x7d,\"name\":\"fn1\"\x7d"

theorem documents_decode_tolerantly_sparseFunction :
    FunctionDoc.format.decode sparseFunction =
      .ok { name := "fn1", tenant := "t1", inputTopic := { topicName := "in" } } := by
  let d : FunctionDoc :=
    { name := "fn1", tenant := "t1", cron := "daily", inputTopic := { topicName := "in" } }
  have hblank : Json.Blank [0x20] := by simp [Json.Blank, Json.isBlank]
  have hx : Json.Spells [0x78] (Bytes.ofText "x") :=
    .cons (.plain (by decide) (by decide) (by decide)) .nil
  have hy : Json.Chars [0x79] := .plain (by decide) (by decide) (by decide) .nil
  have htrue : Json.Derives .value Json.trueWord := .word (by simp)
  have harray := Json.Derives.container .array
    (.last Json.blank_nil .array Json.blank_nil htrue Json.blank_nil)
  have hobject := Json.Derives.container .object
    (.last Json.blank_nil (.object hy Json.blank_nil) Json.blank_nil harray Json.blank_nil)
  have hforeign := Json.Foreign.intro (by decide : "x" ∉ FunctionDoc.members.map (·.name)) hx
    hobject Json.blank_nil Json.blank_nil hblank hblank
  have hslot := @Json.ObjectOf.intro _ TopicSlot.members TopicSlot.Form TopicSlot.only d.inputTopic
    ["topicFullName"] _ (.field (.written List.mem_cons_self) List.not_mem_nil .nil)
  have htenant : FunctionDoc.members[2] ∈ FunctionDoc.members := List.getElem_mem _
  have hgives : Json.Gives (Json.Foreign (FunctionDoc.members.map (·.name))) d.Form
      ["tenant", "webhookURLs", "inputTopics", "name"] _ :=
    .field (.written htenant) (by decide)
    (.foreign hforeign
    (.field (.noWebhooks rfl) (by decide)
    (.field (.inputTopic hslot) (by decide)
    (.field (.written List.mem_cons_self) (by decide) .nil))))
  exact documents_decode_tolerantly.1 d _ _ hgives

end ReplayRegistry
