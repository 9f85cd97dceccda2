import ReplayRegistry.Proofs.LogOrder
import ReplayRegistry.Proofs.ViewFold

/-!
# Proofs: a view that follows a log

What matters of a store is its view, the log it reads, and its place in this log. An action of a
cluster is one of a few events for such a follower, and most of what is true of stores is an
invariant of these events.
-/

namespace ReplayRegistry

/-- A view, its place in a log, and the log. -/
structure Follower where
  /-- The view. -/
  view : View
  /-- The least offset that it has yet to pass; none, if it reads no more. -/
  place : Option Nat
  /-- The log. -/
  log : Partition

namespace Follower

/-- What can happen to a follower. -/
inductive Event where
  /-- Nothing. -/
  | idle
  /-- Another writer appends a record to the log. -/
  | append (r : Record)
  /-- The log is compacted. -/
  | compact
  /-- A document is appended to the log and shown. -/
  | write (d : FunctionDoc)
  /-- The record of an entry is delivered. -/
  | deliver (e : Entry)
  /-- The log is read from its start again. -/
  | rewind
  /-- The log is read no more. -/
  | stop

/-- The records that an event appends. -/
def Event.appended : Event → List Record
  | .append r => [r]
  | .write d => [⟨d.id, d.encode⟩]
  | _ => []

/-- The records that an event delivers. -/
def Event.delivered : Event → List Record
  | .deliver e => [e.record]
  | _ => []

/-- The keys that an event writes. -/
def Event.written : Event → List RegistryKey
  | .write d => [d.id]
  | _ => []

/-- What an event makes of a follower. -/
inductive Step : Follower → Event → Follower → Prop
  | idle (x : Follower) : Step x .idle x
  | append (x : Follower) (r : Record) : Step x (.append r) { x with log := x.log.push r }
  | compact (x : Follower) : Step x .compact { x with log := x.log.compact }
  | write (x : Follower) (d : FunctionDoc) (hid : d.id ≠ "") :
      Step x (.write d)
        { x with view := x.view.install d, log := x.log.push ⟨d.id, d.encode⟩ }
  | deliver (x : Follower) {n : Nat} {e : Entry} (hplace : x.place = some n)
      (hfirst : x.log.firstFrom n = some e) :
      Step x (.deliver e)
        { x with view := (x.view.foldRecord e.record).2, place := some (e.offset + 1) }
  | rewind (x : Follower) {n : Nat} (hplace : x.place = some n) :
      Step x .rewind { x with place := some 0 }
  | stop (x : Follower) : Step x .stop { x with place := none }

/-- What is true of every follower. -/
structure Sound (x : Follower) : Prop where
  /-- Its log is in order. -/
  log : x.log.Sound
  /-- It has passed no offset that has not been used. -/
  place_le : ∀ n, x.place = some n → n ≤ x.log.next
  /-- It keeps no key without payloads in flight among those that have some. -/
  tidy : x.view.Tidy
  /-- A document is shown under its own key. -/
  keyed : ∀ key d, x.view.get? key = some d → d.id = key ∧ key ≠ ""
  /-- While payloads are in flight for a key, the view shows the document of the last of them. -/
  installed : ∀ key, x.view.pending key ≠ [] → ∃ d : FunctionDoc, d.id = key ∧ d.id ≠ "" ∧
    (x.view.pending key).getLast? = some d.encode ∧ x.view.get? key = d.effect

variable {x y : Follower} {e : Event}

theorem Step.of_write {d : FunctionDoc} (hs : Step x (.write d) y) : d.id ≠ "" ∧
    y = { x with view := x.view.install d, log := x.log.push ⟨d.id, d.encode⟩ } := by
  cases hs with
  | write _ hid => exact ⟨hid, rfl⟩

/-- What a write does to a view. -/
theorem Sound.install (h : x.Sound) {d : FunctionDoc} (hid : d.id ≠ "") :
    (x.view.install d).Keyed := by
  rw [View.install_eq]
  have hkeyed : (x.view.beginLocal d.id d.encode).Keyed := h.keyed
  exact hkeyed.apply hid

/-- Events keep followers sound. -/
theorem Step.sound (hs : Step x e y) (h : x.Sound) : y.Sound := by
  cases hs with
  | idle => exact h
  | append r =>
    exact { h with
      log := h.log.push r
      place_le := fun n hn => Nat.le_succ_of_le (h.place_le n hn) }
  | compact => exact { h with log := h.log.compact, place_le := h.place_le }
  | write d hid =>
    refine ⟨h.log.push _, fun n hn => Nat.le_succ_of_le (h.place_le n hn), h.tidy.install d,
      h.install hid, ?_⟩
    intro key hne
    simp only [View.pending_install, View.get?_install] at hne ⊢
    split
    · rename_i hkey
      exact ⟨d, hkey.symm, hid, List.getLast?_concat, rfl⟩
    · rename_i hkey
      rw [if_neg hkey] at hne
      exact h.installed key hne
  | @deliver n e hplace hfirst =>
    obtain ⟨-, hmem, -, -⟩ := h.log.firstFrom_some hfirst
    refine ⟨h.log, ?_, h.tidy.foldRecord _,
      View.Keyed.foldRecord h.keyed _, ?_⟩
    · intro n hn
      cases hn
      exact h.log.below_next e hmem
    · intro key hne
      cases hx : e.record.version? key with
      | none =>
        obtain ⟨hpending, hget⟩ := View.foldRecord_of_none (v := x.view) hx
        simp only [hpending, hget] at hne ⊢
        exact h.installed key hne
      | some v =>
        obtain ⟨hpending, hget⟩ := View.foldRecord_of_some (v := x.view) hx
        simp only [hpending, hget] at hne ⊢
        rw [View.getLast?_retire hne, if_neg hne]
        refine h.installed key fun hnil => hne ?_
        rw [hnil]
        rfl
  | rewind =>
    have hplace : ∀ n, some 0 = some n → n ≤ x.log.next := by
      intro n hn
      cases hn
      exact Nat.zero_le _
    exact { h with place_le := hplace }
  | stop => exact { h with place_le := fun n hn => by cases hn }

/-- A view that has not read anything yet. -/
theorem sound_opened {p : Partition} (h : p.Sound) : Sound ⟨{}, some 0, p⟩ where
  log := h
  place_le n hn := by
    cases hn
    exact Nat.zero_le _
  tidy := View.tidy_empty ∅
  keyed _ _ hget := by cases hget
  installed _ hne := absurd rfl hne

/-- The records that an event appends are those at the offsets that it uses. -/
theorem Step.appended (hs : Step x e y) (h : x.Sound) : y.log.ahead x.log.next = e.appended := by
  cases hs with
  | append r => rw [Partition.ahead_push (Nat.le_refl _), h.log.ahead_next]; rfl
  | write d hid => rw [Partition.ahead_push (Nat.le_refl _), h.log.ahead_next]; rfl
  | compact => exact h.log.compact.ahead_next
  | _ => exact h.log.ahead_next

end Follower

end ReplayRegistry
