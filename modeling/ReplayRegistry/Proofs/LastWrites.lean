import Mathlib.Data.List.Induction
import ReplayRegistry.Proofs.Convergence
import ReplayRegistry.Proofs.InFlight

/-!
# Proofs: writes that stay in flight

The last write of a key by a store stays in flight until its payload returns. Compaction can take
the record of the write away before it is delivered; then the payload stays in flight for good, and
the store passes over what others write under the key.
-/

namespace ReplayRegistry

open Time (Timestamp)

/-! ## The record of a write -/

namespace Follower

/-- The record `r` at an offset is the only one there, and if the follower has passed the offset
while the log still holds the record, it has been delivered, which `seen` says. -/
structure Recalls (x : Follower) (offset : Nat) (r : Record) (seen : Prop) : Prop where
  /-- The offset has been used. -/
  used : offset < x.log.next
  /-- No other record stands there. -/
  unique : ∀ e ∈ x.log.entries, e.offset = offset → e.record = r
  /-- If the record has been passed, it has been delivered. -/
  passed : ∀ e ∈ x.log.entries, e.offset = offset → ∀ n, x.place = some n → offset < n → seen

variable {x y : Follower} {e : Event} {offset : Nat} {r : Record} {seen : Prop}

theorem Recalls.push (h : x.Recalls offset r seen) (view : View) (r' : Record) :
    Recalls { x with view := view, log := x.log.push r' } offset r seen := by
  have hold : ∀ f ∈ (x.log.push r').entries, f.offset = offset → f ∈ x.log.entries := by
    intro f hf hoffset
    rcases List.mem_append.1 hf with hf | hf
    · exact hf
    · have hused := h.used
      rw [← hoffset, List.mem_singleton.1 hf] at hused
      exact absurd hused (Nat.lt_irrefl _)
  exact ⟨Nat.lt_succ_of_lt h.used, fun f hf ho => h.unique f (hold f hf ho) ho,
    fun f hf ho => h.passed f (hold f hf ho) ho⟩

/-- Events keep the record of a write in mind. -/
theorem Step.recalls (hs : Step x e y) (h : x.Sound) (hr : x.Recalls offset r seen) :
    y.Recalls offset r (seen ∨ r ∈ e.delivered) := by
  have himp : x.Recalls offset r (seen ∨ r ∈ e.delivered) :=
    ⟨hr.used, hr.unique, fun f hf ho n hn hlt => .inl (hr.passed f hf ho n hn hlt)⟩
  cases hs with
  | idle => exact himp
  | append r' => exact himp.push x.view r'
  | write d hid => exact himp.push (x.view.install d) _
  | compact =>
    have hsub := (Partition.compact_sublist x.log).subset
    exact ⟨himp.used, fun f hf => himp.unique f (hsub hf), fun f hf => himp.passed f (hsub hf)⟩
  | @deliver n f hplace hfirst =>
    refine ⟨himp.used, himp.unique, ?_⟩
    intro g hg ho n' hn' hlt
    cases hn'
    by_cases hn : n ≤ offset
    · -- the delivered entry is the first from `n` on, so it stands at the offset itself
      have hle : f.offset ≤ offset := by
        rw [← ho]
        exact h.log.firstFrom_le hfirst hg (by rw [ho]; exact hn)
      have hfoffset : f.offset = offset := by omega
      obtain ⟨-, hmem, -, -⟩ := h.log.firstFrom_some hfirst
      refine .inr (List.mem_singleton.2 ?_)
      exact (hr.unique f hmem hfoffset).symm
    · exact himp.passed g hg ho n hplace (by omega)
  | rewind => exact ⟨himp.used, himp.unique, fun g hg ho n hn hlt => by cases hn; omega⟩
  | stop => exact ⟨himp.used, himp.unique, by simp⟩

/-- A record that has just been appended. -/
theorem Sound.recalls_push (h : x.Sound) (view : View) (r : Record) :
    Recalls { x with view := view, log := x.log.push r } x.log.next r False where
  used := Nat.lt_succ_self _
  unique f hf ho := by
    rcases List.mem_append.1 hf with hf | hf
    · exact absurd ho (Nat.ne_of_lt (h.log.below_next f hf))
    · rw [List.mem_singleton.1 hf]
  passed f _ _ n hn hlt := absurd (h.place_le n hn) (Nat.not_le.2 hlt)

end Follower

namespace Cluster

variable {c : Cluster} {i : Nat} {m : Member} {as : List Action}

theorem Sound.recalls (h : c.Sound) (hm : c.members[i]? = some m) {offset : Nat} {r : Record}
    {seen : Prop} (hr : (c.follower m).Recalls offset r seen) (as : List Action) :
    ∃ m', (c.run as).members[i]? = some m' ∧
      ((c.run as).follower m').Recalls offset r (seen ∨ r ∈ c.collect (delivered i) as) := by
  induction as generalizing c m seen with
  | nil =>
    refine ⟨m, hm, hr.used, hr.unique, ?_⟩
    intro e he ho n hn hlt
    exact .inl (hr.passed e he ho n hn hlt)
  | cons a as ih =>
    obtain ⟨m₁, e, hm₁, hsees⟩ := h.sees hm a
    obtain ⟨m', hm', hr'⟩ := ih (h.step a) hm₁ (hsees.step.recalls (h.followers i m hm) hr)
    refine ⟨m', hm', hr'.used, hr'.unique, ?_⟩
    intro f hf ho n hn hlt
    rw [collect, hsees.delivered, List.mem_append]
    rcases hr'.passed f hf ho n hn hlt with (hseen | hfirst) | hrest
    · exact .inl hseen
    · exact .inr (.inl hfirst)
    · exact .inr (.inr hrest)

/-! ## Last writes -/

/-- In a run, the `i`-th store writes `d` while `before` is in flight for the key, and does not
write the key again. The record of the write gets the offset, and `vs` are the versions of the key
that are delivered to the store after the write. -/
def LastWrite (i : Nat) (as : List Action) (d : FunctionDoc) (before : List Bytes) (offset : Nat)
    (vs : List Version) : Prop :=
  ∃ as₁ w now bs m, as = as₁ ++ .write i w now :: bs ∧
    (({} : Cluster).run as₁).members[i]? = some m ∧ m.store.prepare w now = .ok d ∧
    d.id ∈ (({} : Cluster).run as₁).written i (.write i w now) ∧
    d.id ∉ ((({} : Cluster).run as₁).step (.write i w now)).2.collect (written i) bs ∧
    before = m.store.view.pending d.id ∧
    offset = ((({} : Cluster).run as₁).broker.partition m.store.log).next ∧
    vs = versions d.id
      (((({} : Cluster).run as₁).step (.write i w now)).2.collect (delivered i) bs)

theorem run_append (c : Cluster) (as bs : List Action) : c.run (as ++ bs) = (c.run as).run bs :=
  List.foldl_append

theorem collect_singleton {α : Type} (f : Cluster → Action → List α) (c : Cluster) (a : Action) :
    c.collect f [a] = f c a := List.append_nil _

/-- A last write stays the last one with an action that does not write the key. -/
theorem LastWrite.concat {d : FunctionDoc} {before : List Bytes} {offset : Nat} {vs : List Version}
    (h : LastWrite i as d before offset vs) {a : Action}
    (ha : d.id ∉ (({} : Cluster).run as).written i a) :
    LastWrite i (as ++ [a]) d before offset
      (vs ++ versions d.id ((({} : Cluster).run as).delivered i a)) := by
  obtain ⟨as₁, w, now, bs, m, rfl, hm, hprepare, hwrite, hlast, hbefore, hoffset, rfl⟩ := h
  have hrun : ({} : Cluster).run (as₁ ++ .write i w now :: bs) =
      ((({} : Cluster).run as₁).step (.write i w now)).2.run bs := run_append _ _ _
  rw [hrun] at ha ⊢
  refine ⟨as₁, w, now, bs ++ [a], m, by simp, hm, hprepare, hwrite, ?_, hbefore, hoffset, ?_⟩
  · rw [collect_append, collect_singleton]
    exact fun hmem => (List.mem_append.1 hmem).elim hlast ha
  · rw [collect_append, collect_singleton, versions_append]

/-- What is in flight for a key comes from a last write of the key. -/
theorem exists_lastWrite (hm : (({} : Cluster).run as).members[i]? = some m) {key : RegistryKey}
    (hpending : m.store.view.pending key ≠ []) :
    ∃ d before offset vs, LastWrite i as d before offset vs ∧ d.id = key := by
  induction as using List.reverseRecOn generalizing m with
  | nil => cases hm
  | append_singleton as a ih =>
    have hsound := sound_empty.run as
    rw [run_append] at hm
    have hstep : ((({} : Cluster).run as).run [a]) = ((({} : Cluster).run as).step a).2 := rfl
    rw [hstep] at hm
    cases hm₀ : (({} : Cluster).run as).members[i]? with
    | none =>
      obtain ⟨-, -, hfollower⟩ := opened_spec hm₀ hm
      have hview : m.store.view = {} := congrArg Follower.view hfollower
      rw [hview] at hpending
      exact absurd rfl hpending
    | some m₀ =>
      obtain ⟨e, hsees⟩ := hsound.sees_after hm₀ hm
      by_cases hkey : key ∈ e.written
      · cases e with
        | write d =>
          have hid := List.mem_singleton.1 hkey
          obtain ⟨w, now, rfl, hprepare⟩ := hsees.write d rfl
          have hwrite : d.id ∈ (({} : Cluster).run as).written i (.write i w now) := by
            rw [hsees.written]
            exact List.mem_singleton_self _
          exact ⟨d, _, _, _, ⟨as, w, now, [], m₀, rfl, hm₀, hprepare, hwrite, List.not_mem_nil, rfl,
            rfl, rfl⟩, hid.symm⟩
        | _ => cases hkey
      · obtain ⟨hretire, -⟩ := hsees.step.since hkey
        have hpending₀ : m₀.store.view.pending key ≠ [] := by
          intro hnil
          have hnil' : m.store.view.pending key = [] := by
            refine hretire.trans ?_
            have hview : ((({} : Cluster).run as).follower m₀).view.pending key = [] := hnil
            rw [hview, View.retireAll_nil]
          exact hpending hnil'
        obtain ⟨d, before, offset, vs, hlast, rfl⟩ := ih hm₀ hpending₀
        exact ⟨d, before, offset, _, hlast.concat (by rw [hsees.written]; exact hkey), rfl⟩

/-- What is in flight for the key of a last write. -/
theorem LastWrite.pending {d : FunctionDoc} {before : List Bytes} {offset : Nat} {vs : List Version}
    (h : LastWrite i as d before offset vs)
    (hm : (({} : Cluster).run as).members[i]? = some m) :
    m.store.view.pending d.id = View.retireAll (before ++ [d.encode]) vs := by
  obtain ⟨as₁, w, now, bs, m₁, rfl, hm₁, hprepare, hwrite, hlast, rfl, -, rfl⟩ := h
  rw [run_append] at hm
  exact ((sound_empty.run as₁).after_write hm₁ hprepare hwrite hlast hm).1

/-- If a store has caught up, and the payload of a last write has not returned to it, then the log
does not hold the record of the write any more. -/
theorem LastWrite.compacted {d : FunctionDoc} {before : List Bytes} {offset : Nat}
    {vs : List Version} (h : LastWrite i as d before offset vs)
    (hm : (({} : Cluster).run as).members[i]? = some m)
    (hcaught : (({} : Cluster).run as).CaughtUp m)
    (hfresh : d.encode ∉ before) (hreturned : ¬ View.Returned before d.encode vs) :
    ∀ e ∈ ((({} : Cluster).run as).broker.partition m.store.log).entries, e.offset ≠ offset := by
  obtain ⟨as₁, w, now, bs, m₁, rfl, hm₁, hprepare, hwrite, -, rfl, rfl, rfl⟩ := h
  have hsound := sound_empty.run as₁
  obtain ⟨m₂, hm₂, -, hstep⟩ := hsound.wrote hm₁ hprepare hwrite
  obtain ⟨hid, hfollower⟩ := hstep.of_write
  have hrecalls := (hsound.followers i m₁ hm₁).recalls_push
    ((({} : Cluster).run as₁).follower m₁ |>.view.install d) ⟨d.id, d.encode⟩
  rw [← hfollower] at hrecalls
  obtain ⟨m', hm', hr⟩ := (hsound.step (.write i w now)).recalls hm₂ hrecalls bs
  rw [run_append] at hm hcaught ⊢
  have hsame : m' = m := Option.some.inj (hm'.symm.trans hm)
  subst hsame
  obtain ⟨n, hplace, hall⟩ := hcaught.place
  intro e he hoffset
  refine hreturned ((View.returned_iff_of_not_mem hfresh).2 ?_)
  rcases hr.passed e he hoffset n hplace (hoffset ▸ hall e he) with hfalse | hdelivered
  · exact hfalse.elim
  · refine ⟨⟨d.encode, d.effect⟩, List.mem_filterMap.2 ⟨_, hdelivered, ?_⟩, rfl⟩
    rw [Record.version?_encode hid, if_pos rfl]

/-- A store that has caught up has nothing in flight just if the payloads of all its last writes
have returned to it, and then it passes over no record. A payload that has not returned is one whose
record has been compacted away. -/
theorem inFlight_eq_empty_iff (hm : (({} : Cluster).run as).members[i]? = some m)
    (hcaught : (({} : Cluster).run as).CaughtUp m) :
    (m.store.view.inFlight = ∅ ↔ ∀ d before offset vs, LastWrite i as d before offset vs →
      View.Returned before d.encode vs) ∧
    (m.store.view.inFlight = ∅ → ∀ r key, (m.store.view.foldRecord r).1 ≠ some (.superseded key)) ∧
    ∀ d before offset vs, LastWrite i as d before offset vs → d.encode ∉ before →
      ¬ View.Returned before d.encode vs →
        ∀ e ∈ ((({} : Cluster).run as).broker.partition m.store.log).entries,
          e.offset ≠ offset := by
  have htidy : m.store.view.Tidy := ((sound_empty.run as).followers i m hm).tidy
  rw [htidy.inFlight_eq_empty]
  refine ⟨⟨?_, ?_⟩, View.foldRecord_ne_superseded, fun d before offset vs hlast =>
    hlast.compacted hm hcaught⟩
  · intro hnone d before offset vs hlast
    rw [← View.retireAll_eq_nil_iff, ← hlast.pending hm]
    exact hnone d.id
  · intro hreturned key
    apply Classical.byContradiction
    intro hpending
    obtain ⟨d, before, offset, vs, hlast, rfl⟩ := exists_lastWrite hm hpending
    refine hpending ?_
    rw [hlast.pending hm]
    exact View.retireAll_eq_nil_iff.2 (hreturned d before offset vs hlast)

/-- A store creates a function, another one suspends it, and compaction takes the first record away
before it is delivered to the store that has written it. -/
def frozenRun : List Action :=
  let f : FunctionDoc := { tenant := "a", name := "f" }
  [.openStore "l" {}, .openStore "l" {},
    .write 0 (.create f) (.atSecond 0), .deliver 1,
    .write 1 (.update { f with status := .suspended }) (.atSecond 1),
    .call (.broker (.compact "l")), .deliver 0]

/-- A payload stays in flight in a store that has delivered every record of the log. -/
theorem inFlight_after_compaction :
    ∃ m, (({} : Cluster).run frozenRun).members[0]? = some m ∧
      (({} : Cluster).run frozenRun).CaughtUp m ∧ m.store.view.inFlight ≠ ∅ := by
  obtain ⟨m, hm, hcaught, hsize⟩ : ∃ m ∈ (({} : Cluster).run frozenRun).members[0]?,
      (({} : Cluster).run frozenRun).CaughtUp m ∧ m.store.view.inFlight.size = 1 := by
    decide +kernel
  refine ⟨m, hm, hcaught, ?_⟩
  intro hempty
  rw [hempty] at hsize
  cases hsize

/-- Of the two stores, the first has a last write that has not returned, and the second has none. -/
theorem not_returned_frozenRun :
    (∃ d before offset vs, LastWrite 0 frozenRun d before offset vs ∧
      ¬ View.Returned before d.encode vs) ∧
    ∀ d before offset vs, LastWrite 1 (frozenRun ++ [.deliver 1]) d before offset vs →
      View.Returned before d.encode vs := by
  obtain ⟨m, hm, hcaught, hsize⟩ : ∃ m ∈ (({} : Cluster).run frozenRun).members[0]?,
      (({} : Cluster).run frozenRun).CaughtUp m ∧ m.store.view.inFlight.size = 1 := by
    decide +kernel
  obtain ⟨m', hm', hcaught', hsize'⟩ :
      ∃ m ∈ (({} : Cluster).run (frozenRun ++ [.deliver 1])).members[1]?,
        (({} : Cluster).run (frozenRun ++ [.deliver 1])).CaughtUp m ∧
          m.store.view.inFlight.entries = [] := by decide +kernel
  constructor
  · have hne : m.store.view.inFlight ≠ ∅ := fun hempty => by
      rw [hempty] at hsize
      cases hsize
    simpa using mt (inFlight_eq_empty_iff hm hcaught).1.2 hne
  · have hempty : m'.store.view.inFlight = ∅ := by
      cases h : m'.store.view.inFlight with
      | mk es hes =>
        rw [h] at hsize'
        subst hsize'
        rfl
    exact (inFlight_eq_empty_iff hm' hcaught').1.1 hempty

end Cluster

end ReplayRegistry
