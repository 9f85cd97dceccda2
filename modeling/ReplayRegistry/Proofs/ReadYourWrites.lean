import ReplayRegistry.Proofs.InFlight

/-!
# Proofs: reading one's own writes

A store reads a document that it has written as long as the payload of the write has not returned.
After that it reads the version that was delivered last, which is an older one for a while when a
reader fails and the log is read from its start again.
-/

namespace ReplayRegistry

open Time (Timestamp)

namespace Store

/-- What a store answers to a read of a key that it shows so. -/
theorem getByKey_eq_iff {s : Store} {d : FunctionDoc} :
    s.getByKey d.id = (if d.isTombstone then .error (.notFound d.id) else .ok d) ↔
      s.view.get? d.id = d.effect := by
  unfold getByKey FunctionDoc.effect
  cases s.view.get? d.id <;> cases d.isTombstone <;> simp

end Store

namespace Cluster

variable {c : Cluster} {i : Nat} {m m' : Member}

/-- A store that has written a document, and to whose log no version of the key has been appended
since, reads what it has written just if the payload has not returned, or the version that was
delivered last says the same. -/
theorem getByKey_eq_written_iff (h : c.Reachable) (hm : c.members[i]? = some m) {w : Write}
    {now : Timestamp} {d : FunctionDoc} (hprepare : m.store.prepare w now = .ok d)
    (hwrite : d.id ∈ c.written i (.write i w now)) {bs : List Action}
    (hquiet : versions d.id
      ((c.step (.write i w now)).2.collect (appended m.store.log) bs) = [])
    (hm' : ((c.step (.write i w now)).2.run bs).members[i]? = some m') :
    m'.store.getByKey d.id = (if d.isTombstone then .error (.notFound d.id) else .ok d) ↔
      ¬ View.Returned (m.store.view.pending d.id) d.encode
          (versions d.id ((c.step (.write i w now)).2.collect (delivered i) bs)) ∨
        (versions d.id ((c.step (.write i w now)).2.collect (delivered i) bs)).getLast?.map
          (·.effect) = some d.effect := by
  obtain ⟨m₁, hm₁, hlog, -⟩ := h.sound.wrote hm hprepare hwrite
  have hkey : d.id ∉ (c.step (.write i w now)).2.collect (written i) bs := fun hkey =>
    (h.sound.step _).versions_ne_nil hm₁ hkey (by rw [hlog]; exact hquiet)
  obtain ⟨-, hget⟩ := h.sound.after_write hm hprepare hwrite hkey hm'
  rw [Store.getByKey_eq_iff, hget, ← View.retireAll_eq_nil_iff]
  generalize versions d.id ((c.step (.write i w now)).2.collect (delivered i) bs) = vs
  unfold View.shownAfter
  by_cases hnil : View.retireAll (m.store.view.pending d.id ++ [d.encode]) vs = []
  · cases hlast : vs.getLast? with
    | none =>
      rw [List.getLast?_eq_none_iff.1 hlast] at hnil
      exact absurd hnil (by simp [View.retireAll])
    | some v => simp [hnil]
  · simp [hnil]

/-- A store that has created a function. -/
def created : Cluster :=
  ({} : Cluster).run [.openStore "l" {},
    .write 0 (.create { tenant := "a", name := "f" }) (.atSecond 0)]

/-- The write that comes next: the function is suspended. -/
def suspension : Write := .update { tenant := "a", name := "f", status := .suspended }

/-- When it comes. -/
def later : Timestamp := .atSecond 1

/-- Both records are delivered, then the reader is cut off and the log is read from its start. -/
def restart : List Action :=
  [.deliver 0, .deliver 0, .call (.broker .disconnect), .deliver 0, .tick, .deliver 0]

/-- Once the log has been read to its end again, the store reads what it has written. -/
theorem getByKey_eq_written_after_restart :
    ∃ m' d, ((created.step (.write 0 suspension later)).2.run
        (restart ++ [.deliver 0])).members[0]? = some m' ∧
      d.status = .suspended ∧ m'.store.getByKey d.id = .ok d := by
  obtain ⟨m, hm, d, hd, hlive, hstatus, hlog, hwrite, hquiet, hreturned⟩ :
      ∃ m ∈ created.members[0]?, ∃ d ∈ (m.store.prepare suspension later).toOption,
        d.isTombstone = false ∧ d.status = .suspended ∧ m.store.log = "l" ∧
          d.id ∈ created.written 0 (.write 0 suspension later) ∧
            versions d.id ((created.step (.write 0 suspension later)).2.collect (appended "l")
              (restart ++ [.deliver 0])) = [] ∧
            (versions d.id ((created.step (.write 0 suspension later)).2.collect (delivered 0)
              (restart ++ [.deliver 0]))).getLast?.map (·.effect) = some d.effect := by
    decide +kernel
  obtain ⟨m', hm', -⟩ : ∃ m' ∈ ((created.step (.write 0 suspension later)).2.run
      (restart ++ [.deliver 0])).members[0]?, True := by decide +kernel
  have hprepare : m.store.prepare suspension later = .ok d := by
    cases h : m.store.prepare suspension later with
    | error e => rw [h] at hd; cases hd
    | ok d' => rw [h] at hd; cases hd; rfl
  have hread := (getByKey_eq_written_iff ⟨_, rfl⟩ hm hprepare hwrite (hlog.symm ▸ hquiet) hm').2
    (.inr hreturned)
  rw [hlive] at hread
  exact ⟨m', d, hm', hstatus, hread⟩

/-- While the log is read again, the store reads an older version than the one that it has written,
which is the last one in the log. -/
theorem older_version_after_restart :
    ∃ m ∈ created.members[0]?, ∃ d ∈ (m.store.prepare suspension later).toOption,
      d.id ∈ created.written 0 (.write 0 suspension later) ∧
        versions d.id
          ((created.step (.write 0 suspension later)).2.collect (appended "l") restart) = [] ∧
        ∃ m' ∈ ((created.step (.write 0 suspension later)).2.run restart).members[0]?,
          ¬ m'.store.getByKey d.id = if d.isTombstone then .error (.notFound d.id) else .ok d := by
  simp only [Store.getByKey_eq_iff]
  decide +kernel

end Cluster

end ReplayRegistry
