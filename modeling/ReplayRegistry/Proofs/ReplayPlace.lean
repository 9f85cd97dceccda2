import ReplayRegistry.Store.Replay

/-!
# Proofs: the place of a replay in its log

Whatever a replay goes through, it is at some offset of its log: where its reader is, or at the
start, where its next reader will begin. Only a read moves it, to the offset after the record that
it delivers, or back to the start if the reader fails.
-/

namespace ReplayRegistry

theorem Broker.partition_congr {b b' : Broker} (h : b'.partitions = b.partitions) (log : String) :
    b'.partition log = b.partition log := by
  rw [Broker.partition, Broker.partition, h]

@[simp] theorem Reader.release_partitions (r : Reader) (b : Broker) :
    (r.release b).2.partitions = b.partitions := by
  unfold Reader.release
  split <;> rfl

theorem Broker.openReader_ok {b b' : Broker} {log : String} {start : StartPosition} {r : Reader}
    (h : b.openReader log start = .ok (r, b')) :
    b'.partitions = b.partitions ∧ r.log = log ∧ (start = .earliest → r.next = 0) := by
  unfold Broker.openReader at h
  split at h
  · cases h
  · split at h
    · cases h
    · cases h
      refine ⟨rfl, rfl, ?_⟩
      rintro rfl
      rfl

namespace Replay

/-- The least offset that a replay has yet to pass; none, if it has been stopped. -/
def place (r : Replay) : Option Nat :=
  match r.phase with
  | .tailing reader _ => some reader.next
  | .stopped => none
  | _ => some 0

/-- The reader of a replay reads the log of the replay. -/
def Sound (r : Replay) : Prop :=
  ∀ reader uptime, r.phase = .tailing reader uptime → reader.log = r.log

theorem sound_of_not_tailing {r : Replay} (h : ∀ reader uptime, r.phase ≠ .tailing reader uptime) :
    r.Sound := fun reader uptime hphase => absurd hphase (h reader uptime)

/-- Replay goes on without reading. -/
structure Keeps (r r' : Replay) (b b' : Broker) : Prop where
  /-- It reads the same log. -/
  log : r'.log = r.log
  /-- It is at the same place. -/
  place : r'.place = r.place
  /-- No log changes. -/
  partitions : b'.partitions = b.partitions
  /-- Its reader reads this log. -/
  sound : r.Sound → r'.Sound

theorem Keeps.refl (r : Replay) (b : Broker) : r.Keeps r b b := ⟨rfl, rfl, rfl, id⟩

theorem Keeps.trans {r r' r'' : Replay} {b b' b'' : Broker} (h : r.Keeps r' b b')
    (h' : r'.Keeps r'' b' b'') : r.Keeps r'' b b'' where
  log := h'.log.trans h.log
  place := h'.place.trans h.place
  partitions := h'.partitions.trans h.partitions
  sound := h'.sound ∘ h.sound

/-- After a failure, replay is at the start of the same log, without a reader. -/
theorem fail_spec (r : Replay) (e : LogError) (uptime : Nat) :
    (r.fail e uptime).log = r.log ∧ (r.fail e uptime).place = some 0 ∧
      (r.fail e uptime).Sound := by
  have hlog : (r.recover uptime).log = r.log := by
    unfold recover
    split <;> rfl
  rw [← hlog]
  unfold fail countFailure
  split
  · exact ⟨rfl, rfl, sound_of_not_tailing (by simp)⟩
  · exact ⟨rfl, rfl, sound_of_not_tailing (by simp)⟩

/-- A reader is opened at the start, where a replay without reader already is. -/
theorem attemptOpen_keeps (r : Replay) (b : Broker) :
    r.Keeps (r.attemptOpen b).1 b (r.attemptOpen b).2 := by
  generalize hres : r.attemptOpen b = res
  unfold attemptOpen at hres
  split at hres
  · rw [← hres]
    exact Keeps.refl r b
  · rw [← hres]
    exact Keeps.refl r b
  · rename_i htailing hstopped
    have hplace : r.place = some 0 := by
      unfold place
      split
      · rename_i reader uptime hphase
        exact absurd hphase (htailing reader uptime)
      · rename_i hphase
        exact absurd hphase hstopped
      · rfl
    split at hres
    · rename_i reader b' hopen
      obtain ⟨hpartitions, hlog, hnext⟩ := Broker.openReader_ok hopen
      rw [← hres]
      refine ⟨rfl, ?_, hpartitions, fun _ reader' uptime hphase => ?_⟩
      · rw [hplace, ← hnext rfl]
        rfl
      · cases hphase
        exact hlog
    · rename_i e hopen
      obtain ⟨hlog, hzero, hsound⟩ := r.fail_spec e 0
      rw [← hres]
      exact ⟨hlog, hzero.trans hplace.symm, rfl, fun _ => hsound⟩

theorem settle_keeps : ∀ (n : Nat) (r : Replay) (b : Broker),
    r.Keeps (r.settle n b).1 b (r.settle n b).2
  | 0, r, b => Keeps.refl r b
  | n + 1, r, b => by
    unfold settle
    split
    · exact (attemptOpen_keeps r b).trans (settle_keeps n _ _)
    · exact Keeps.refl r b

theorem stayUp_keeps (r : Replay) (ms : Nat) (b : Broker) : r.Keeps (r.stayUp ms) b b := by
  unfold stayUp
  cases hphase : r.phase with
  | tailing reader uptime =>
    refine ⟨rfl, by simp [place, hphase], rfl, ?_⟩
    intro h reader' uptime' hphase'
    cases hphase'
    exact h reader uptime hphase
  | _ => exact Keeps.refl r b

theorem stop_spec (r : Replay) (b : Broker) :
    (r.stop b).1.log = r.log ∧ (r.stop b).1.place = none ∧ (r.stop b).1.Sound ∧
      (r.stop b).2.partitions = b.partitions := by
  unfold stop
  cases r.phase with
  | tailing reader uptime =>
    exact ⟨rfl, rfl, sound_of_not_tailing (by simp), Reader.release_partitions reader b⟩
  | _ => exact ⟨rfl, rfl, sound_of_not_tailing (by simp), rfl⟩

/-! ## Reads -/

/-- What a read of a replay comes to, and where the replay is afterwards. -/
inductive Reads (r r' : Replay) (b b' : Broker) : Delivery → Prop
  | record {n : Nat} {e : Entry} (hplace : r.place = some n)
      (hfirst : (b.partition r.log).firstFrom n = some e)
      (hplace' : r'.place = some (e.offset + 1)) :
      Reads r r' b b' (.record e.record)
  | failed {n : Nat} (err : LogError) (hplace : r.place = some n) (hplace' : r'.place = some 0) :
      Reads r r' b b' (.failed err)
  | noRecord (hplace' : r'.place = r.place) : Reads r r' b b' .noRecord
  | noReader (hplace' : r'.place = r.place) : Reads r r' b b' .noReader

theorem read_spec {r : Replay} (h : r.Sound) (b : Broker) :
    Reads r (r.read b).2.1 b (r.read b).2.2 (r.read b).1 ∧ (r.read b).2.1.log = r.log ∧
      (r.read b).2.1.Sound ∧ (r.read b).2.2.partitions = b.partitions := by
  cases hphase : r.phase with
  | tailing reader uptime =>
    have hlog := h reader uptime hphase
    have hplace : r.place = some reader.next := by simp [place, hphase]
    cases hfault : reader.fault? b with
    | some e =>
      have hread : r.read b = (.failed e, r.fail e uptime, (reader.release b).2) := by
        simp [read, hphase, Reader.read, hfault]
      rw [hread]
      obtain ⟨hlog', hzero, hsound⟩ := r.fail_spec e uptime
      exact ⟨.failed e hplace hzero, hlog', hsound, Reader.release_partitions reader b⟩
    | none =>
      cases hfirst : (b.partition reader.log).firstFrom reader.next with
      | none =>
        have hread : r.read b = (.noRecord, r, b) := by
          simp [read, hphase, Reader.read, hfault, hfirst]
        rw [hread]
        exact ⟨.noRecord rfl, rfl, h, rfl⟩
      | some e =>
        have hread : r.read b = (.record e.record, { r with
            phase := .tailing { reader with
              next := e.offset + 1, delivered := reader.delivered + 1 } uptime }, b) := by
          simp [read, hphase, Reader.read, hfault, hfirst]
        rw [hread]
        rw [hlog] at hfirst
        refine ⟨.record hplace hfirst rfl, rfl, fun reader' uptime' hphase' => ?_, rfl⟩
        cases hphase'
        exact hlog
  | _ =>
    have hread : r.read b = (.noReader, r, b) := by simp [read, hphase]
    rw [hread]
    exact ⟨.noReader rfl, rfl, h, rfl⟩

end Replay

end ReplayRegistry
