import Mathlib.Data.List.Basic
import ReplayRegistry.Validation

/-!
# Proofs: the rules for functions

The values of a function are checked in one order: the tenant, the name, the URLs, and then the
settings of the input, the output and the log slot, the type of a slot before its position. The
check accepts just those functions that break no rule, and otherwise it names the first value in
this order that breaks one. Of a slot that is not in use no setting is looked at.
-/

namespace ReplayRegistry.Validation

/-- A rule for a function, with what it is asked of. -/
inductive FunctionRule where
  | tenant (value : String)
  | name (value : String)
  | url (value : String)
  | type (slot : TopicSlot)
  | position (slot : TopicSlot)

namespace FunctionRule

/-- Whether a rule is broken. Only a slot that is in use can break one. -/
def broken : FunctionRule → Bool
  | tenant value => Text.blank value
  | name value => Text.blank value
  | url value => !isUrl value
  | type slot => slot.isConfigured && (SubscriptionType.parse? slot.subscriptionType).isNone
  | position slot => slot.isConfigured && (InitialPosition.parse? slot.initialPosition).isNone

/-- The error that names the value by which a rule is broken. -/
def error : FunctionRule → ValidationError
  | tenant _ => .missingTenant
  | name _ => .missingName
  | url value => .invalidUrl value
  | type slot => .unsupportedSubscriptionType slot.subscriptionType
  | position slot => .invalidInitialPosition slot.initialPosition

/-- The rules for the settings of slots. -/
def ofSlots (slots : List TopicSlot) : List FunctionRule :=
  slots.flatMap fun slot => [type slot, position slot]

/-- The rules for a function, in the order in which they are checked. -/
def inOrder (d : FunctionDoc) : List FunctionRule :=
  tenant d.tenant :: name d.name ::
    (d.webhookUrls.map url ++ ofSlots [d.inputTopic, d.outputTopic, d.logTopic])

/-- What is reported of the first broken rule, if there is one. -/
def report : Option FunctionRule → Except ValidationError Unit
  | none => .ok ()
  | some rule => .error rule.error

theorem broken_type {slot : TopicSlot} (h : slot.isConfigured = true) :
    (type slot).broken = (SubscriptionType.parse? slot.subscriptionType).isNone := by
  simp [broken, h]

theorem broken_position {slot : TopicSlot} (h : slot.isConfigured = true) :
    (position slot).broken = (InitialPosition.parse? slot.initialPosition).isNone := by
  simp [broken, h]

end FunctionRule

open FunctionRule

/-! ## The check reports the first broken rule -/

/-- A slot in use is reported by its type, or else by its position. -/
theorem topicSlot_eq_report {slot : TopicSlot} (h : slot.isConfigured = true) :
    topicSlot slot = report ([type slot, position slot].find? broken) := by
  have htype := broken_type h
  have hposition := broken_position h
  unfold topicSlot subscriptionType initialPosition
  cases ht : SubscriptionType.parse? slot.subscriptionType with
  | none =>
    have hbroken : (type slot).broken = true := by simp [htype, ht]
    rw [List.find?_cons_of_pos hbroken]
    rfl
  | some t =>
    have hkept : ¬ (type slot).broken = true := by simp [htype, ht]
    rw [List.find?_cons_of_neg hkept]
    cases hp : InitialPosition.parse? slot.initialPosition with
    | none =>
      have hbroken : (position slot).broken = true := by simp [hposition, hp]
      rw [List.find?_cons_of_pos hbroken]
      rfl
    | some p =>
      have hkept : ¬ (position slot).broken = true := by simp [hposition, hp]
      rw [List.find?_cons_of_neg hkept]
      rfl

theorem topicSlots_eq_report (slots : List TopicSlot) :
    topicSlots (slots.filter (·.isConfigured)) = report ((ofSlots slots).find? broken) := by
  induction slots with
  | nil => rfl
  | cons slot slots ih =>
    have hsplit : ofSlots (slot :: slots) = [type slot, position slot] ++ ofSlots slots := rfl
    rw [hsplit, List.find?_append]
    by_cases h : slot.isConfigured = true
    · rw [List.filter_cons_of_pos h, topicSlots, topicSlot_eq_report h, ih]
      cases [type slot, position slot].find? broken <;> rfl
    · have hfree : slot.isConfigured = false := Bool.not_eq_true _ ▸ h
      have hnone : [type slot, position slot].find? broken = none := by
        simp [broken, hfree]
      rw [List.filter_cons_of_neg h, hnone, ih]
      rfl

theorem function_eq_report (d : FunctionDoc) :
    function d = report ((inOrder d).find? broken) := by
  unfold function inOrder
  by_cases htenant : Text.blank d.tenant = true
  · have hbroken : (tenant d.tenant).broken = true := htenant
    rw [if_pos htenant, List.find?_cons_of_pos hbroken]
    rfl
  have hkept : ¬ (tenant d.tenant).broken = true := htenant
  rw [if_neg htenant, List.find?_cons_of_neg hkept]
  by_cases hname : Text.blank d.name = true
  · have hbroken : (name d.name).broken = true := hname
    rw [if_pos hname, List.find?_cons_of_pos hbroken]
    rfl
  have hkept : ¬ (name d.name).broken = true := hname
  rw [if_neg hname, List.find?_cons_of_neg hkept, List.find?_append, List.find?_map]
  have hurls : d.webhookUrls.find? (broken ∘ url) = d.webhookUrls.find? fun u => !isUrl u := rfl
  rw [hurls]
  cases d.webhookUrls.find? fun u => !isUrl u with
  | none => exact topicSlots_eq_report [d.inputTopic, d.outputTopic, d.logTopic]
  | some u => rfl

theorem function_eq_ok_iff {d : FunctionDoc} :
    function d = .ok () ↔ ∀ rule ∈ inOrder d, rule.broken = false := by
  rw [function_eq_report]
  cases hfind : (inOrder d).find? broken with
  | none =>
    refine iff_of_true rfl ?_
    intro rule hrule
    exact Bool.not_eq_true _ ▸ List.find?_eq_none.1 hfind rule hrule
  | some rule =>
    refine iff_of_false (by simp [report]) ?_
    intro hall
    have hbroken := List.find?_some hfind
    rw [hall rule (List.mem_of_find?_eq_some hfind)] at hbroken
    cases hbroken

theorem function_eq_error_iff {d : FunctionDoc} {e : ValidationError} :
    function d = .error e ↔ ∃ earlier rule later, inOrder d = earlier ++ rule :: later ∧
      (∀ rule' ∈ earlier, rule'.broken = false) ∧ rule.broken = true ∧ e = rule.error := by
  rw [function_eq_report]
  constructor
  · intro h
    cases hfind : (inOrder d).find? broken with
    | none =>
      rw [hfind] at h
      cases h
    | some rule =>
      rw [hfind] at h
      cases h
      obtain ⟨hbroken, earlier, later, hsplit, hkept⟩ := List.find?_eq_some_iff_append.1 hfind
      exact ⟨earlier, rule, later, hsplit, by simpa using hkept, hbroken, rfl⟩
  · rintro ⟨earlier, rule, later, hsplit, hkept, hbroken, rfl⟩
    have hfind : (inOrder d).find? broken = some rule :=
      List.find?_eq_some_iff_append.2 ⟨hbroken, earlier, later, hsplit, by simpa using hkept⟩
    rw [hfind]
    rfl

/-! ## Functions in order -/

/-- A slot whose settings do not stand in the way: it is not in use, or its words are known. -/
def SlotInOrder (slot : TopicSlot) : Prop :=
  slot.isConfigured = true → (∃ t, SubscriptionType.parse? slot.subscriptionType = some t) ∧
    ∃ p, InitialPosition.parse? slot.initialPosition = some p

theorem slotInOrder_iff {slot : TopicSlot} :
    SlotInOrder slot ↔ (type slot).broken = false ∧ (position slot).broken = false := by
  unfold SlotInOrder
  by_cases h : slot.isConfigured = true
  · rw [broken_type h, broken_position h, Option.isNone_eq_false_iff, Option.isNone_eq_false_iff,
      Option.isSome_iff_exists, Option.isSome_iff_exists]
    exact ⟨fun hsettings => hsettings h, fun hsettings _ => hsettings⟩
  · have hfree : slot.isConfigured = false := Bool.not_eq_true _ ▸ h
    simp [broken, hfree]

theorem forall_inOrder_iff {d : FunctionDoc} : (∀ rule ∈ inOrder d, rule.broken = false) ↔
    Text.blank d.tenant = false ∧ Text.blank d.name = false ∧
      (∀ u ∈ d.webhookUrls, isUrl u = true) ∧ SlotInOrder d.inputTopic ∧
        SlotInOrder d.outputTopic ∧ SlotInOrder d.logTopic := by
  have hurls : (∀ rule ∈ d.webhookUrls.map url, rule.broken = false) ↔
      ∀ u ∈ d.webhookUrls, isUrl u = true := by
    simp [broken]
  have hslots : (∀ rule ∈ ofSlots [d.inputTopic, d.outputTopic, d.logTopic],
      rule.broken = false) ↔
      SlotInOrder d.inputTopic ∧ SlotInOrder d.outputTopic ∧ SlotInOrder d.logTopic := by
    simp only [slotInOrder_iff, ofSlots]
    simp [and_assoc]
  rw [inOrder, List.forall_mem_cons, List.forall_mem_cons, List.forall_mem_append, hurls, hslots]
  rfl

/-! ## Slots that are not in use -/

/-- Two slots of which the check sees the same: one slot, or two that are not in use. -/
def SeenAlike (slot slot' : TopicSlot) : Prop :=
  slot = slot' ∨ slot.isConfigured = false ∧ slot'.isConfigured = false

theorem SeenAlike.filter {slot slot' : TopicSlot} (h : SeenAlike slot slot')
    {slots slots' : List TopicSlot}
    (hslots : slots.filter (·.isConfigured) = slots'.filter (·.isConfigured)) :
    (slot :: slots).filter (·.isConfigured) = (slot' :: slots').filter (·.isConfigured) := by
  rcases h with rfl | ⟨hfree, hfree'⟩
  · rw [List.filter_cons, List.filter_cons, hslots]
  · rw [List.filter_cons_of_neg (by simp [hfree]), List.filter_cons_of_neg (by simp [hfree']),
      hslots]

theorem function_congr {d d' : FunctionDoc} (htenant : d.tenant = d'.tenant)
    (hname : d.name = d'.name) (hurls : d.webhookUrls = d'.webhookUrls)
    (htopics : d.topics = d'.topics) : function d = function d' := by
  unfold function
  rw [htenant, hname, hurls, htopics]

/-- A function is accepted just if its tenant and its name are not blank, every URL is one, and each
slot in use names a type and a position that are known; otherwise the error names the first value
that is not in order, and what stands in a slot that is not in use makes no difference. -/
theorem function_decides_rules (d : FunctionDoc) :
    (function d = .ok () ↔ Text.blank d.tenant = false ∧ Text.blank d.name = false ∧
      (∀ u ∈ d.webhookUrls, isUrl u = true) ∧
      ∀ slot ∈ [d.inputTopic, d.outputTopic, d.logTopic], slot.isConfigured = true →
        (∃ t, SubscriptionType.parse? slot.subscriptionType = some t) ∧
          ∃ p, InitialPosition.parse? slot.initialPosition = some p) ∧
    (∀ e, function d = .error e ↔ ∃ earlier rule later, inOrder d = earlier ++ rule :: later ∧
      (∀ rule' ∈ earlier, rule'.broken = false) ∧ rule.broken = true ∧ e = rule.error) ∧
    ∀ input output log, SeenAlike d.inputTopic input → SeenAlike d.outputTopic output →
      SeenAlike d.logTopic log →
      function { d with inputTopic := input, outputTopic := output, logTopic := log } =
        function d := by
  refine ⟨?_, fun e => function_eq_error_iff, ?_⟩
  · rw [function_eq_ok_iff, forall_inOrder_iff]
    simp only [SlotInOrder, List.forall_mem_cons, List.not_mem_nil, false_implies, implies_true,
      and_true]
  · intro input output log hinput houtput hlog
    symm
    refine function_congr ?_ ?_ ?_ ?_
    iterate 3 · rfl
    exact hinput.filter (houtput.filter (hlog.filter rfl))

/-- Of a position that is not known, a type that is not known in a later slot, and any words in a
slot that is not in use, the position is reported. -/
example :
    function { tenant := "a", name := "f", webhookUrls := ["a://b"]
               inputTopic := { topicName := " ", subscriptionType := "?", initialPosition := "?" }
               outputTopic := { topicName := "out", initialPosition := "middle" }
               logTopic := { topicName := "log", subscriptionType := "broadcast" } } =
      .error (.invalidInitialPosition "middle") := by
  decide +kernel

end ReplayRegistry.Validation
