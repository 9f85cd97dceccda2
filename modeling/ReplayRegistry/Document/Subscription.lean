import ReplayRegistry.Text.Caseless

/-!
# Subscription settings

How the consumers of a subscription share it and where a new one starts to read. Documents carry
both as words in any case, and the empty text stands for the first choice.
-/

namespace ReplayRegistry

/-- How consumers share a subscription. -/
inductive SubscriptionType where
  /-- One consumer at a time. -/
  | exclusive
  /-- Records go round among the consumers. -/
  | shared
  /-- Records of one key go to one consumer. -/
  | keyShared
  /-- One consumer at a time, with others in reserve. -/
  | failover
deriving DecidableEq, Repr

/-- Where a new subscription starts. -/
inductive InitialPosition where
  /-- After the newest record. -/
  | latest
  /-- At the oldest record. -/
  | earliest
deriving DecidableEq, Repr

namespace SubscriptionType

/-- The word for a subscription type, in small letters. -/
def word : SubscriptionType → String
  | exclusive => "exclusive"
  | shared => "shared"
  | keyShared => "keyshared"
  | failover => "failover"

/-- The subscription type that a word stands for. -/
def parse? (s : String) : Option SubscriptionType :=
  if s.isEmpty || Text.isWord "exclusive" s then some .exclusive
  else if Text.isWord "shared" s then some .shared
  else if Text.isWord "keyshared" s then some .keyShared
  else if Text.isWord "failover" s then some .failover
  else none

theorem word_injective (t t' : SubscriptionType) (h : t.word = t'.word) : t = t' := by
  revert h
  cases t <;> cases t' <;> decide

theorem parse?_eq_find? {s : String} (h : s ≠ "") :
    parse? s = [exclusive, shared, keyShared, failover].find? fun t => Text.isWord t.word s := by
  have hempty : s.isEmpty = false := by simpa using h
  rw [parse?, hempty, Bool.false_or]
  simp only [List.find?_cons, List.find?_nil, word]
  cases Text.isWord "exclusive" s <;> cases Text.isWord "shared" s <;>
    cases Text.isWord "keyshared" s <;> cases Text.isWord "failover" s <;> rfl

/-- A text stands for a subscription type if it is the word for it, in any case. The empty text
stands for the first one, and no other text for any. -/
theorem parse?_eq_some_iff {s : String} {t : SubscriptionType} :
    parse? s = some t ↔ Text.isWord t.word s ∨ s = "" ∧ t = exclusive := by
  by_cases h : s = ""
  · subst h
    cases t <;> decide
  · have hmem : t ∈ [exclusive, shared, keyShared, failover] := by cases t <;> simp
    rw [parse?_eq_find? h, Text.find?_isWord_eq_some_iff word_injective]
    simp [h, hmem]

theorem parse?_word (t : SubscriptionType) : parse? t.word = some t := by
  have hself : Text.isWord t.word t.word := by cases t <;> decide
  exact parse?_eq_some_iff.2 (.inl hself)

end SubscriptionType

namespace InitialPosition

/-- The word for an initial position, in small letters. -/
def word : InitialPosition → String
  | latest => "latest"
  | earliest => "earliest"

/-- The initial position that a word stands for. -/
def parse? (s : String) : Option InitialPosition :=
  if s.isEmpty || Text.isWord "latest" s then some .latest
  else if Text.isWord "earliest" s then some .earliest
  else none

theorem word_injective (p p' : InitialPosition) (h : p.word = p'.word) : p = p' := by
  revert h
  cases p <;> cases p' <;> decide

theorem parse?_eq_find? {s : String} (h : s ≠ "") :
    parse? s = [latest, earliest].find? fun p => Text.isWord p.word s := by
  have hempty : s.isEmpty = false := by simpa using h
  rw [parse?, hempty, Bool.false_or]
  simp only [List.find?_cons, List.find?_nil, word]
  cases Text.isWord "latest" s <;> cases Text.isWord "earliest" s <;> rfl

/-- A text stands for an initial position if it is the word for it, in any case. The empty text
stands for the first one, and no other text for any. -/
theorem parse?_eq_some_iff {s : String} {p : InitialPosition} :
    parse? s = some p ↔ Text.isWord p.word s ∨ s = "" ∧ p = latest := by
  by_cases h : s = ""
  · subst h
    cases p <;> decide
  · have hmem : p ∈ [latest, earliest] := by cases p <;> simp
    rw [parse?_eq_find? h, Text.find?_isWord_eq_some_iff word_injective]
    simp [h, hmem]

theorem parse?_word (p : InitialPosition) : parse? p.word = some p := by
  have hself : Text.isWord p.word p.word := by cases p <;> decide
  exact parse?_eq_some_iff.2 (.inl hself)

end InitialPosition

end ReplayRegistry
