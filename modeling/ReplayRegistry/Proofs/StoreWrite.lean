import ReplayRegistry.Proofs.ViewFold
import ReplayRegistry.Store.Basic

/-!
# Proofs: writes of a store

A write names the key of one entry, and what it appends is a document under this key. It succeeds as
a whole, and then the document is in the log and in the view, or it fails and leaves no trace.
-/

namespace ReplayRegistry

open Time (Timestamp)

/-! ## Keys -/

theorem wordBytes_ne_nil (w : UInt32) : Sha1.wordBytes w ≠ [] := by simp [Sha1.wordBytes]

theorem hex_ne_empty {b : Bytes} (h : b ≠ []) : b.hex ≠ "" := by
  obtain ⟨x, xs, rfl⟩ := List.exists_cons_of_ne_nil h
  simp [Bytes.hex]

theorem deriveKey_ne_empty (tenant name : String) : deriveKey tenant name ≠ "" := by
  refine hex_ne_empty ?_
  simp [Sha1.digest, wordBytes_ne_nil]

/-- The key of the entry that a write is about. -/
def Write.key : Write → RegistryKey
  | .create d | .update d => d.registryKey
  | .delete tenant name => deriveKey tenant name
  | .deleteByKey key => key

namespace Store

variable {s : Store} {b : Broker}

/-- Documents are shown under their own keys. -/
def Keyed (s : Store) : Prop := ∀ key d, s.view.get? key = some d → d.id = key ∧ key ≠ ""

theorem prepareCreate_id {d d' : FunctionDoc} {now : Timestamp}
    (h : s.prepareCreate d now = .ok d') : d'.id = d.registryKey := by
  simp only [prepareCreate] at h
  split at h
  · cases h
  · cases h
    rfl

theorem prepareDelete_id (hs : s.Keyed) {key : RegistryKey} {d : FunctionDoc} {now : Timestamp}
    (h : prepare.prepareDelete s now key = .ok d) : d.id = key ∧ key ≠ "" := by
  unfold prepare.prepareDelete at h
  split at h
  · cases h
  · rename_i old hold
    cases h
    exact hs key old hold

/-- A write appends a document under the key that it is about. -/
theorem prepare_id (hs : s.Keyed) {w : Write} {d : FunctionDoc} {now : Timestamp}
    (h : s.prepare w now = .ok d) : d.id = w.key ∧ d.id ≠ "" := by
  have hderived : ∀ d : FunctionDoc, d.registryKey ≠ "" := fun d =>
    deriveKey_ne_empty d.tenant d.name
  cases w with
  | create d₀ =>
    simp only [prepare] at h
    split at h
    · cases h
    · have hid := prepareCreate_id h
      exact ⟨hid, hid ▸ hderived d₀⟩
  | update d₀ =>
    simp only [prepare] at h
    split at h
    · cases h
    · split at h
      · have hid := prepareCreate_id h
        exact ⟨hid, hid ▸ hderived d₀⟩
      · rename_i old hold
        cases h
        obtain ⟨hid, hne⟩ := hs _ old hold
        exact ⟨hid, hid ▸ hne⟩
  | delete tenant name =>
    obtain ⟨hid, hne⟩ := prepareDelete_id hs h
    exact ⟨hid, hid ▸ hne⟩
  | deleteByKey key =>
    obtain ⟨hid, hne⟩ := prepareDelete_id hs h
    exact ⟨hid, hid ▸ hne⟩

/-! ## The outcome of a write -/

theorem append_partition {b b' : Broker} {log : String} {r : Record}
    (h : b.append log r = .ok b') (log' : String) :
    b'.partition log' = if log' = log then (b.partition log).push r else b.partition log' := by
  unfold Broker.append at h
  split at h
  · cases h
  · split at h
    · cases h
    · cases h
      by_cases hlog : log' = log <;>
        simp [Broker.partition, Broker.notify, KeyMap.get?_insert, hlog]

/-- A write fails and changes nothing, or it appends its document and shows it. -/
theorem write_eq (hs : s.view.Tidy) (b : Broker) (w : Write) (now : Timestamp) :
    s.write b w now =
      match s.prepare w now with
      | .error e => (.error e, s, b)
      | .ok d =>
        if s.closed then (.error (.log .closed), s, b)
        else
          match b.append s.log ⟨d.id, d.encode⟩ with
          | .error e => (.error (.log e), s, b)
          | .ok b' => (.ok d.id, { s with view := s.view.install d }, b') := by
  unfold write writeAround
  cases hprepare : s.prepare w now with
  | error e => rfl
  | ok d =>
    simp only [appendAround]
    split
    · rfl
    · have hlog : Store.log { s with view := s.view.beginLocal d.id d.encode } = s.log := rfl
      rw [hlog]
      cases b.append s.log ⟨d.id, d.encode⟩ with
      | error e => simp only [hs.abortLocal_beginLocal]
      | ok b' => rfl

theorem write_cases (hs : s.view.Tidy) (b : Broker) (w : Write) (now : Timestamp) :
    (∃ e, s.write b w now = (.error e, s, b)) ∨
      ∃ d b', s.prepare w now = .ok d ∧ b.append s.log ⟨d.id, d.encode⟩ = .ok b' ∧
        s.write b w now = (.ok d.id, { s with view := s.view.install d }, b') := by
  rw [write_eq hs]
  cases hprepare : s.prepare w now with
  | error e => exact .inl ⟨e, rfl⟩
  | ok d =>
    by_cases hclosed : s.closed
    · exact .inl ⟨.log .closed, by simp [hclosed]⟩
    · cases happend : b.append s.log ⟨d.id, d.encode⟩ with
      | error e => exact .inl ⟨.log e, by simp [hclosed, happend]⟩
      | ok b' => exact .inr ⟨d, b', rfl, happend, by simp [hclosed, happend]⟩

end Store

end ReplayRegistry
