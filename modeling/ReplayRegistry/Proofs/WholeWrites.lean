import ReplayRegistry.Proofs.TrafficSteps

/-!
# Proofs: whole writes

A store in which no write is under way carries out a write as a whole or not at all, and it shows
the documents that it has in flight, however its writes have overlapped with deliveries so far.
-/

namespace ReplayRegistry

open Time (Timestamp)

theorem FunctionDoc.effect_eq (d : FunctionDoc) :
    d.effect = if d.status = .deleted then none else some d := by
  simp [effect, isTombstone, Status.isTombstone]

theorem Broker.append_records {b b' : Broker} {log : String} {r : Record}
    (h : b.append log r = .ok b') (log' : String) :
    b'.records log' = if log' = log then b.records log ++ [r] else b.records log' := by
  unfold records
  rw [Store.append_partition h]
  split
  · exact Partition.records_push _ r
  · rfl

/-- What is in flight once a document has been appended and shown. -/
theorem View.Tidy.inFlight_install {v : View} (h : v.Tidy) (d : FunctionDoc) (key : RegistryKey) :
    (v.install d).inFlight.get? key =
      if key = d.id then some (v.pending key ++ [d.encode]) else v.inFlight.get? key := by
  rw [(h.install d).inFlight_eq, pending_install]
  by_cases hkey : key = d.id
  · simp [hkey]
  · simp only [if_neg hkey, h.inFlight_eq]

namespace Traffic

variable {t : Traffic} {i : Nat} {m : Member}

/-- A store carries out a write as a whole or not at all. If the write fails, the store and the logs
are as before. If it succeeds, a record with its document is at the end of the log of the store, the
document is shown and its payload is in flight, and of the other keys and in the other logs nothing
has changed. -/
theorem write_whole_or_nothing (h : t.Reachable) (hm : t.members[i]? = some m)
    (hidle : t.underWay i = none) (w : Write) (now : Timestamp) :
    (∀ e s b, m.store.write t.broker w now = (.error e, s, b) → s = m.store ∧ b = t.broker) ∧
    (∀ key s b, m.store.write t.broker w now = (.ok key, s, b) → ∃ d : FunctionDoc,
      d.id = key ∧
      b.records m.store.log = t.broker.records m.store.log ++ [⟨key, d.encode⟩] ∧
      (∀ log, log ≠ m.store.log → b.records log = t.broker.records log) ∧
      s = { m.store with view := s.view } ∧
      s.view.get? key = d.effect ∧
      s.view.inFlight.get? key = some (m.store.view.pending key ++ [d.encode]) ∧
      ∀ k, k ≠ key → s.view.get? k = m.store.view.get? k ∧
        s.view.inFlight.get? k = m.store.view.inFlight.get? k) := by
  have htidy : m.store.view.Tidy := (h.betweenWrites hm hidle).reachable.tidy
  rcases Store.write_cases htidy t.broker w now with ⟨e, hfail⟩ | ⟨d, b, -, happend, hok⟩
  · rw [hfail]
    constructor
    · rintro e s b ⟨⟩
      exact ⟨rfl, rfl⟩
    · rintro key s b ⟨⟩
  · rw [hok]
    constructor
    · rintro e s b ⟨⟩
    · rintro key s b ⟨⟩
      have hrecords := Broker.append_records happend
      have hshown := m.store.view.get?_install d
      have hflight := htidy.inFlight_install d
      refine ⟨d, rfl, ?_, ?_, rfl, ?_, ?_, ?_⟩
      · rw [hrecords, if_pos rfl]
      · intro log hlog
        rw [hrecords, if_neg hlog]
      · rw [hshown, if_pos rfl]
      · rw [hflight, if_pos rfl]
      · intro k hk
        exact ⟨by rw [hshown, if_neg hk], by rw [hflight, if_neg hk]⟩

/-- A function is created, and suspended while the record of its creation is delivered. -/
def overlapping : Traffic :=
  ({} : Traffic).run [.act (.openStore "l" {}),
    .act (.write 0 (.create { tenant := "a", name := "f" }) (.atSecond 0)),
    .prepare 0 (.update { tenant := "a", name := "f", status := .suspended }) (.atSecond 1),
    .note 0, .act (.deliver 0), .append 0 none, .endWrite 0]

/-- The same, and then the log takes no more records. -/
def refusing : Traffic := overlapping.step (.act (.call (.broker (.failAppends true))))

theorem overlapping_reachable : overlapping.Reachable := ⟨_, rfl⟩

theorem refusing_reachable : refusing.Reachable := overlapping_reachable.step _

theorem overlapping_idle : overlapping.underWay 0 = none :=
  Option.isNone_iff_eq_none.1 (by decide +kernel)

theorem refusing_idle : refusing.underWay 0 = none := by
  rw [refusing, step_act_underWay]
  exact overlapping_idle

/-- The function can be deleted as long as the log takes records. -/
theorem write_whole_or_nothing_delete :
    (∃ m s b, ∃ d : FunctionDoc, overlapping.members[0]? = some m ∧
      m.store.write overlapping.broker (.delete "a" "f") (.atSecond 2) = (.ok d.id, s, b) ∧
        b.records m.store.log = overlapping.broker.records m.store.log ++ [⟨d.id, d.encode⟩]) ∧
    ∃ m e, refusing.members[0]? = some m ∧
      m.store.write refusing.broker (.delete "a" "f") (.atSecond 2) =
        (.error e, m.store, refusing.broker) := by
  constructor
  · obtain ⟨m, hm, hok⟩ : ∃ m ∈ overlapping.members[0]?,
        (m.store.write overlapping.broker (.delete "a" "f") (.atSecond 2)).1.isOk := by
      decide +kernel
    rcases hwrite : m.store.write overlapping.broker (.delete "a" "f") (.atSecond 2)
      with ⟨_ | key, s, b⟩
    · rw [hwrite] at hok
      cases hok
    · obtain ⟨-, hall⟩ := write_whole_or_nothing overlapping_reachable hm overlapping_idle
        (.delete "a" "f") (.atSecond 2)
      obtain ⟨d, rfl, hrecords, -⟩ := hall key s b hwrite
      exact ⟨m, s, b, d, hm, hwrite, hrecords⟩
  · obtain ⟨m, hm, hfail⟩ : ∃ m ∈ refusing.members[0]?,
        ¬ (m.store.write refusing.broker (.delete "a" "f") (.atSecond 2)).1.isOk := by
      decide +kernel
    rcases hwrite : m.store.write refusing.broker (.delete "a" "f") (.atSecond 2)
      with ⟨e | key, s, b⟩
    · obtain ⟨hnothing, -⟩ := write_whole_or_nothing refusing_reachable hm refusing_idle
        (.delete "a" "f") (.atSecond 2)
      obtain ⟨rfl, rfl⟩ := hnothing e s b hwrite
      exact ⟨m, e, hm, hwrite⟩
    · rw [hwrite] at hfail
      exact absurd rfl hfail

/-- If payloads are in flight for a key, the newest of them is that of a document, and the store
shows this document, or nothing if it is a tombstone. No key is kept without payloads in flight. -/
theorem newest_in_flight_shown (h : t.Reachable) (hm : t.members[i]? = some m)
    (hidle : t.underWay i = none) (key : RegistryKey) :
    m.store.view.inFlight.get? key ≠ some [] ∧
    ∀ older p, m.store.view.inFlight.get? key = some (older ++ [p]) → ∃ d : FunctionDoc,
      FunctionDoc.decode p = .ok d ∧ d.id = key ∧
        m.store.view.get? key = if d.status = .deleted then none else some d := by
  have hview := h.betweenWrites hm hidle
  refine ⟨hview.reachable.tidy key, ?_⟩
  intro older p hflight
  have hpending : m.store.view.pending key = older ++ [p] := by
    rw [View.pending, hflight]
    rfl
  obtain ⟨d, hid, hlast, hshown⟩ := hview.installed key (by simp [hpending])
  rw [hpending, List.getLast?_concat] at hlast
  cases hlast
  exact ⟨d, FunctionDoc.decode_encode d, hid, hshown.trans d.effect_eq⟩

/-- The suspended function is in flight and shown. -/
theorem newest_in_flight_shown_suspended :
    ∃ m p, ∃ d : FunctionDoc, overlapping.members[0]? = some m ∧
      m.store.view.inFlight.get? (deriveKey "a" "f") = some [p] ∧
        FunctionDoc.decode p = .ok d ∧ d.status = .suspended ∧
          m.store.view.get? (deriveKey "a" "f") = some d := by
  obtain ⟨m, hm, ps, hps, hlength, hall⟩ : ∃ m ∈ overlapping.members[0]?,
      ∃ ps ∈ m.store.view.inFlight.get? (deriveKey "a" "f"), ps.length = 1 ∧
        ∀ p ∈ ps, (FunctionDoc.decode p).map (·.status) = .ok .suspended := by
    decide +kernel
  obtain ⟨p, rfl⟩ := List.length_eq_one_iff.1 hlength
  obtain ⟨-, hnewest⟩ := newest_in_flight_shown overlapping_reachable hm overlapping_idle
    (deriveKey "a" "f")
  obtain ⟨d, hdecode, -, hshown⟩ := hnewest [] p hps
  have hstatus : d.status = .suspended := by
    have hp := hall p List.mem_cons_self
    rw [hdecode] at hp
    exact Except.ok.inj hp
  refine ⟨m, p, d, hm, hps, hdecode, hstatus, ?_⟩
  rw [hshown, hstatus]
  rfl

end Traffic

end ReplayRegistry
