import ReplayRegistry.Proofs.ClusterSteps

/-!
# Proofs: convergence

A store that has caught up with its log shows what the plain fold of the log gives, in which the
last record of every key decides, and nothing is in flight any more. This holds although the store
passes over records while its own writes are in flight, and reads the log again after each failure.
It needs that the log is not compacted.
-/

namespace ReplayRegistry

/-! ## The plain fold of a log -/

/-- Fold a record into entries: it decides about the entry of its key. -/
def lastWins (entries : KeyMap FunctionDoc) (r : Record) : KeyMap FunctionDoc :=
  match r.filing? with
  | some (key, some d) => entries.insert key d
  | some (key, none) => entries.erase key
  | none => entries

/-- The plain fold of records: the last record of every key decides. -/
def replayed (rs : List Record) : KeyMap FunctionDoc := rs.foldl lastWins ∅

theorem get?_lastWins (entries : KeyMap FunctionDoc) (r : Record) (key : RegistryKey) :
    (lastWins entries r).get? key =
      ((r.version? key).map (·.effect)).getD (entries.get? key) := by
  unfold lastWins Record.version?
  cases r.filing? with
  | none => rfl
  | some f =>
    obtain ⟨k, effect⟩ := f
    by_cases hk : k = key
    · cases effect <;> simp [hk]
    · have hk' : ¬ key = k := fun h => hk h.symm
      cases effect <;> simp [hk, hk', KeyMap.get?_insert, KeyMap.get?_erase]

theorem get?_foldl_lastWins (key : RegistryKey) :
    ∀ (rs : List Record) (entries : KeyMap FunctionDoc), (rs.foldl lastWins entries).get? key =
      ((versions key rs).getLast?.map (·.effect)).getD (entries.get? key)
  | [], entries => rfl
  | r :: rs, entries => by
    rw [List.foldl_cons, get?_foldl_lastWins key rs, get?_lastWins, versions_cons]
    cases versions key rs with
    | nil => cases r.version? key <;> rfl
    | cons v vs =>
      rw [List.getLast?_append, List.getLast?_eq_some_getLast (List.cons_ne_nil v vs)]
      rfl

/-- The plain fold gives of a key what its last version makes of the entry. -/
theorem get?_replayed (rs : List Record) (key : RegistryKey) :
    (replayed rs).get? key = ((versions key rs).getLast?.map (·.effect)).getD none :=
  get?_foldl_lastWins key rs ∅

/-! ## The invariant -/

namespace Follower

/-- What is true of a follower as long as its log is not compacted. -/
structure Converging (x : Follower) : Prop where
  /-- Of every payload in flight a record stands ahead, in the same order. -/
  ahead : ∀ n, x.place = some n → ∀ key,
    (x.view.pending key).Sublist (payloads key (x.log.ahead n))
  /-- If nothing is in flight for a key, the view shows the last version that it has passed. -/
  shown : ∀ n, x.place = some n → ∀ key v, x.view.pending key = [] →
    (versions key (x.log.behind n)).getLast? = some v → x.view.get? key = v.effect
  /-- The view shows only keys that the log knows. -/
  known : ∀ key, x.view.get? key ≠ none → versions key x.log.records ≠ []

variable {x y : Follower} {e : Event}

theorem converging_opened (p : Partition) : Converging ⟨{}, some 0, p⟩ where
  ahead _ _ _ := List.nil_sublist _
  shown n hn key v _ hv := by
    cases hn
    rw [Partition.behind_zero] at hv
    cases hv
  known _ hne := absurd rfl hne

theorem Converging.append (h : x.Sound) (hc : x.Converging) (r : Record) :
    Converging { x with log := x.log.push r } where
  ahead n hn key := by
    rw [Partition.ahead_push (h.place_le n hn), payloads_append]
    exact (hc.ahead n hn key).trans (List.sublist_append_left _ _)
  shown n hn key v hpending hv := by
    rw [Partition.behind_push (h.place_le n hn)] at hv
    exact hc.shown n hn key v hpending hv
  known key hne := by
    rw [Partition.records_push, versions_append]
    exact fun hnil => hc.known key hne (List.append_eq_nil_iff.1 hnil).1

theorem Converging.write (h : x.Sound) (hc : x.Converging) {d : FunctionDoc} (hid : d.id ≠ "") :
    Converging { x with view := x.view.install d, log := x.log.push ⟨d.id, d.encode⟩ } where
  ahead n hn key := by
    rw [View.pending_install, Partition.ahead_push (h.place_le n hn), payloads_append]
    split
    · rename_i hkey
      have hpayload : payloads key [⟨d.id, d.encode⟩] = [d.encode] := by
        simp [payloads, versions, Record.version?_encode hid, hkey]
      rw [hpayload]
      exact (hc.ahead n hn key).append_right _
    · exact (hc.ahead n hn key).trans (List.sublist_append_left _ _)
  shown n hn key v hpending hv := by
    rw [View.pending_install] at hpending
    rw [Partition.behind_push (h.place_le n hn)] at hv
    rw [View.get?_install]
    split at hpending
    · exact absurd hpending (by simp)
    · rename_i hkey
      rw [if_neg hkey]
      exact hc.shown n hn key v hpending hv
  known key hne := by
    rw [View.get?_install] at hne
    rw [Partition.records_push, versions_append]
    split at hne
    · rename_i hkey
      simp [versions, Record.version?_encode hid, hkey]
    · exact fun hnil => hc.known key hne (List.append_eq_nil_iff.1 hnil).1

theorem Converging.deliver (h : x.Sound) (hc : x.Converging) {n : Nat} {f : Entry}
    (hplace : x.place = some n) (hfirst : x.log.firstFrom n = some f) :
    Converging { x with view := (x.view.foldRecord f.record).2, place := some (f.offset + 1) } := by
  obtain ⟨-, hmem, hahead, hbehind⟩ := h.log.firstFrom_some hfirst
  refine ⟨?_, ?_, ?_⟩
  · intro n' hn' key
    cases hn'
    have hsub := hc.ahead n hplace key
    rw [hahead, payloads_cons] at hsub
    cases hx : f.record.version? key with
    | none =>
      rw [hx] at hsub
      rw [(View.foldRecord_of_none hx).1]
      exact hsub
    | some v =>
      rw [(View.foldRecord_of_some hx).1]
      rw [hx] at hsub
      exact View.retire_sublist hsub
  · intro n' hn' key v hpending hv
    cases hn'
    rw [hbehind, versions_append, versions_singleton] at hv
    cases hx : f.record.version? key with
    | none =>
      obtain ⟨hpending', hget⟩ := View.foldRecord_of_none (v := x.view) hx
      rw [hget]
      rw [hpending'] at hpending
      rw [hx, Option.toList_none, List.append_nil] at hv
      exact hc.shown n hplace key v hpending hv
    | some v' =>
      obtain ⟨hpending', hget⟩ := View.foldRecord_of_some (v := x.view) hx
      rw [hpending'] at hpending
      rw [hx, Option.toList_some, List.getLast?_concat] at hv
      rw [hget, if_pos hpending, Option.some.inj hv]
  · intro key hne
    cases hx : f.record.version? key with
    | none =>
      rw [(View.foldRecord_of_none hx).2] at hne
      exact hc.known key hne
    | some v =>
      have hv : v ∈ versions key x.log.records :=
        List.mem_filterMap.2 ⟨f.record, List.mem_map.2 ⟨f, hmem, rfl⟩, hx⟩
      exact List.ne_nil_of_mem hv

theorem Converging.rewind (hc : x.Converging) {n : Nat} (hplace : x.place = some n) :
    Converging { x with place := some 0 } where
  ahead n' hn' key := by
    cases hn'
    rw [Partition.ahead_zero]
    exact (hc.ahead n hplace key).trans (payloads_sublist (x.log.ahead_sublist n) key)
  shown n' hn' key v _ hv := by
    cases hn'
    rw [Partition.behind_zero] at hv
    cases hv
  known := hc.known

/-- Every event but compaction keeps a follower converging. -/
theorem Step.converging (hs : Step x e y) (h : x.Sound) (hc : x.Converging)
    (hcompact : e ≠ .compact) : y.Converging := by
  cases hs with
  | idle => exact hc
  | append r => exact hc.append h r
  | compact => exact absurd rfl hcompact
  | write d hid => exact hc.write h hid
  | deliver hplace hfirst => exact hc.deliver h hplace hfirst
  | rewind hplace => exact hc.rewind hplace
  | stop => exact ⟨by simp, by simp, hc.known⟩

/-- A converging follower that has passed every entry shows the plain fold of its log. -/
theorem Converging.caughtUp (h : x.Sound) (hc : x.Converging) {n : Nat} (hplace : x.place = some n)
    (hall : ∀ f ∈ x.log.entries, f.offset < n) :
    x.view = { entries := replayed x.log.records } := by
  obtain ⟨hahead, hbehind⟩ := Partition.passed_all hall
  have hpending : ∀ key, x.view.pending key = [] := fun key => by
    have hsub := hc.ahead n hplace key
    rw [hahead] at hsub
    exact List.sublist_nil.1 hsub
  refine View.Tidy.ext h.tidy (View.tidy_empty _) (fun key => ?_) hpending
  have hreplayed : (⟨replayed x.log.records, ∅⟩ : View).get? key =
      ((versions key x.log.records).getLast?.map (·.effect)).getD none := get?_replayed _ key
  rw [hreplayed]
  cases hlast : (versions key x.log.records).getLast? with
  | none =>
    have hunknown : versions key x.log.records = [] := List.getLast?_eq_none_iff.1 hlast
    exact Classical.not_not.1 fun hne => hc.known key hne hunknown
  | some v =>
    rw [← hbehind] at hlast
    exact hc.shown n hplace key v (hpending key) hlast

end Follower

namespace Cluster

variable {c : Cluster} {i : Nat} {m : Member} {log : String}

/-- Whether the reader of a store is open and has passed every record of the log. It starts at the
oldest record and moves only by deliveries, so what it has passed it has delivered. -/
def CaughtUp (c : Cluster) (m : Member) : Prop :=
  ∃ reader ∈ m.store.replay.reader?,
    ∀ e ∈ (c.broker.partition m.store.log).entries, e.offset < reader.next

instance (c : Cluster) (m : Member) : Decidable (c.CaughtUp m) := by
  unfold CaughtUp
  infer_instance

theorem CaughtUp.place (h : c.CaughtUp m) :
    ∃ n, (c.follower m).place = some n ∧ ∀ e ∈ (c.follower m).log.entries, e.offset < n := by
  obtain ⟨reader, hreader, hall⟩ := h
  refine ⟨reader.next, ?_, hall⟩
  simp only [follower, Store.follower, Replay.place]
  unfold Replay.reader? at hreader
  split at hreader
  · rename_i reader' uptime hphase
    cases hreader
    simp [hphase]
  · cases hreader

/-- The stores that follow a log converge. -/
def Converging (c : Cluster) (log : String) : Prop :=
  ∀ (i : Nat) m, c.members[i]? = some m → m.store.log = log → (c.follower m).Converging

theorem Converging.step (h : c.Sound) (hc : c.Converging log) {a : Action}
    (hcompact : ¬ a.Compacts log) : (c.step a).2.Converging log := by
  intro i m' hm' hlog
  cases hm : c.members[i]? with
  | none =>
    obtain ⟨-, -, hfollower⟩ := opened_spec hm hm'
    rw [hfollower]
    exact Follower.converging_opened _
  | some m =>
    obtain ⟨e, hsees⟩ := h.sees_after hm hm'
    have hlog' : m.store.log = log := hsees.log.symm.trans hlog
    refine hsees.step.converging (h.followers i m hm) (hc i m hm hlog') fun he => hcompact ?_
    rw [← hlog']
    exact hsees.compact he

theorem Converging.run (h : c.Sound) (hc : c.Converging log) {as : List Action}
    (hcompact : ∀ a ∈ as, ¬ a.Compacts log) : (c.run as).Converging log := by
  induction as generalizing c with
  | nil => exact hc
  | cons a as ih =>
    exact ih (h.step a) (hc.step h (hcompact a List.mem_cons_self)) fun a' ha' =>
      hcompact a' (List.mem_cons_of_mem a ha')

/-- In a run that does not compact a log, a store that has caught up with it shows the plain fold of
the log and has nothing in flight, so that all stores that have caught up show the same. -/
theorem caughtUp_view {as : List Action} (hm : (({} : Cluster).run as).members[i]? = some m)
    (hcompact : ∀ a ∈ as, ¬ a.Compacts m.store.log) (hcaught : (({} : Cluster).run as).CaughtUp m) :
    m.store.view =
        { entries := replayed ((({} : Cluster).run as).broker.records m.store.log)
          inFlight := ∅ } ∧
      ∀ (j : Nat) m', (({} : Cluster).run as).members[j]? = some m' → m'.store.log = m.store.log →
        (({} : Cluster).run as).CaughtUp m' → m'.store.view = m.store.view := by
  have hsound := sound_empty.run as
  have hconverging : (({} : Cluster).run as).Converging m.store.log :=
    Converging.run sound_empty (fun _ _ hm => by cases hm) hcompact
  have hfold : ∀ (j : Nat) m', (({} : Cluster).run as).members[j]? = some m' →
      m'.store.log = m.store.log → (({} : Cluster).run as).CaughtUp m' → m'.store.view =
        { entries := replayed ((({} : Cluster).run as).broker.records m.store.log) } := by
    intro j m' hm' hlog hcaught'
    obtain ⟨n, hplace, hall⟩ := hcaught'.place
    rw [← hlog]
    exact (hconverging j m' hm' hlog).caughtUp (hsound.followers j m' hm') hplace hall
  refine ⟨hfold i m hm rfl hcaught, ?_⟩
  intro j m' hm' hlog hcaught'
  rw [hfold j m' hm' hlog hcaught', hfold i m hm rfl hcaught]

/-- Two stores write a function, someone else appends a record that is no document, and all readers
are cut off and start again. -/
def mixedRun : List Action :=
  let f : FunctionDoc := { tenant := "a", name := "f" }
  [.openStore "l" {}, .openStore "l" {},
    .write 0 (.create f) (.atSecond 0), .deliver 1,
    .write 1 (.update { f with status := .suspended }) (.atSecond 1),
    .call (.broker (.append "l" ⟨"k", [0]⟩)), .deliver 0, .call (.broker .disconnect),
    .deliver 0, .deliver 1, .tick, .deliver 0, .deliver 0, .deliver 0, .deliver 1, .deliver 1,
    .deliver 1]

theorem caughtUp_view_mixedRun :
    ∃ m m', (({} : Cluster).run mixedRun).members[0]? = some m ∧
      (({} : Cluster).run mixedRun).members[1]? = some m' ∧ m.store.view.size = 1 ∧
        m.store.view = { entries := replayed ((({} : Cluster).run mixedRun).broker.records "l") } ∧
          m'.store.view = m.store.view := by
  obtain ⟨m, hm, hlog, hcaught, hsize⟩ : ∃ m ∈ (({} : Cluster).run mixedRun).members[0]?,
      m.store.log = "l" ∧ (({} : Cluster).run mixedRun).CaughtUp m ∧ m.store.view.size = 1 := by
    decide +kernel
  obtain ⟨m', hm', hlog', hcaught'⟩ : ∃ m ∈ (({} : Cluster).run mixedRun).members[1]?,
      m.store.log = "l" ∧ (({} : Cluster).run mixedRun).CaughtUp m := by decide +kernel
  have hcompact : ∀ a ∈ mixedRun, ¬ a.Compacts m.store.log := by
    rw [hlog]
    decide +kernel
  obtain ⟨hview, hsame⟩ := caughtUp_view hm hcompact hcaught
  refine ⟨m, m', hm, hm', hsize, ?_, hsame 1 m' hm' (hlog'.trans hlog.symm) hcaught'⟩
  rw [hview, hlog]

end Cluster

end ReplayRegistry
