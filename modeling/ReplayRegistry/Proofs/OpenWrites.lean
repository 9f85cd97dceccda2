import Mathlib.Data.List.Induction
import ReplayRegistry.Proofs.TrafficSteps

/-!
# Proofs: writes under way

What an event can do to a store and to the write that is under way in it is said once. From this
follows that a write that is under way has been begun with a document that the store has prepared,
under the key that the write is about, and that it keeps this document until it ends.
-/

namespace ReplayRegistry

open Time (Timestamp)

namespace Traffic

/-- The store in which an event takes a step of a write. -/
def Event.writer? : Event → Option Nat
  | .act _ => none
  | .prepare i _ _ => some i
  | .note i => some i
  | .append i _ => some i
  | .endWrite i => some i

/-- What an event can do to the store `i` and to the write that is under way in it. -/
inductive Progress (i : Nat) (s : Store) :
    Option OpenWrite → Event → Store → Option OpenWrite → Prop
  | reads (o : Option OpenWrite) (e : Event) {s' : Store} (h : s.view.Reads s'.view) :
      Progress i s o e s' o
  | write {w : Write} {now : Timestamp} {d : FunctionDoc} (h : s.prepare w now = .ok d)
      {s' : Store} (hview : s'.view = s.view.install d) :
      Progress i s none (.act (.write i w now)) s' none
  | prepare {w : Write} {now : Timestamp} {d : FunctionDoc} (h : s.prepare w now = .ok d) :
      Progress i s none (.prepare i w now) s (some ⟨d, .prepared⟩)
  | refuse (d : FunctionDoc) : Progress i s (some ⟨d, .prepared⟩) (.note i) s none
  | note (d : FunctionDoc) :
      Progress i s (some ⟨d, .prepared⟩) (.note i) (s.note d) (some ⟨d, .noted⟩)
  | append (d : FunctionDoc) (lost : Option LogError) (answer : Except LogError Unit) :
      Progress i s (some ⟨d, .noted⟩) (.append i lost) s (some ⟨d, .asked answer⟩)
  | endWrite (d : FunctionDoc) (answer : Except LogError Unit) :
      Progress i s (some ⟨d, .asked answer⟩) (.endWrite i) (s.endWrite d answer).2 none

variable {t : Traffic} {i : Nat} {m : Member}

theorem withWrite_of_ne {j : Nat} (hj : j ≠ i) (s : Store) (b : Broker) (o : Option OpenWrite) :
    (t.withWrite j s b o).members[i]? = t.members[i]? ∧
      (t.withWrite j s b o).underWay i = t.underWay i :=
  ⟨by rw [withWrite_members, if_neg hj], if_neg (Ne.symm hj)⟩

/-- A step of a write in one store does nothing to the others. -/
theorem step_of_ne {e : Event} {j : Nat} (he : e.writer? = some j) (hj : j ≠ i) :
    (t.step e).members[i]? = t.members[i]? ∧ (t.step e).underWay i = t.underWay i := by
  cases e with
  | act a => cases he
  | prepare k w now =>
    cases he
    simp only [step]
    split
    · split
      · exact ⟨rfl, rfl⟩
      · split
        · exact ⟨rfl, rfl⟩
        · exact withWrite_of_ne hj _ _ _
    · exact ⟨rfl, rfl⟩
  | note k =>
    cases he
    simp only [step]
    split
    · split <;> exact withWrite_of_ne hj _ _ _
    · exact ⟨rfl, rfl⟩
  | append k lost =>
    cases he
    simp only [step]
    split
    · split <;> exact withWrite_of_ne hj _ _ _
    · exact ⟨rfl, rfl⟩
  | endWrite k =>
    cases he
    simp only [step]
    split
    · exact withWrite_of_ne hj _ _ _
    · exact ⟨rfl, rfl⟩

/-- A step of a write does nothing if its store is not there. -/
theorem step_of_absent {e : Event} (he : e.writer? = some i) (hnone : t.members[i]? = none) :
    t.step e = t := by
  cases e with
  | act a => cases he
  | _ =>
    cases he
    simp [step, hnone]

/-- What the event `e` does to the store `i`, which is that of the member `m`, is progress. -/
def Progresses (t : Traffic) (i : Nat) (m : Member) (e : Event) : Prop :=
  ∃ m', (t.step e).members[i]? = some m' ∧
    Progress i m.store (t.underWay i) e m'.store ((t.step e).underWay i)

theorem progresses_of_same {e : Event} (hmembers : (t.step e).members[i]? = some m)
    (hopen : (t.step e).underWay i = t.underWay i) : t.Progresses i m e := by
  refine ⟨m, hmembers, ?_⟩
  rw [hopen]
  exact .reads _ _ (.inl rfl)

theorem progresses_of_withWrite (hm : t.members[i]? = some m) {e : Event} {s : Store} {b : Broker}
    {o : Option OpenWrite} (hstep : t.step e = t.withWrite i s b o)
    (h : Progress i m.store (t.underWay i) e s o) : t.Progresses i m e := by
  refine ⟨{ m with store := s }, ?_, ?_⟩
  · rw [hstep, withWrite_member hm]
  · rw [hstep, withWrite_underWay]
    exact h

/-- A whole write that the log takes prepares a document, appends it and shows it. -/
theorem step_write_cases (ht : t.Orderly) (i : Nat) (w : Write) (now : Timestamp) :
    t.step (.act (.write i w now)) = t ∨
      ∃ m d b, t.underWay i = none ∧ t.members[i]? = some m ∧ m.store.prepare w now = .ok d ∧
        t.broker.append m.store.log ⟨d.id, d.encode⟩ = .ok b ∧
        t.step (.act (.write i w now)) =
          t.withWrite i { m.store with view := m.store.view.install d } b none := by
  cases hidle : t.underWay i with
  | some o => exact .inl (by simp [step, Cluster.Action.user?, hidle])
  | none =>
    have hstep : t.step (.act (.write i w now)) =
        { t with toCluster := (t.toCluster.step (.write i w now)).2 } := by
      simp [step, Cluster.Action.user?, hidle]
    rw [hstep]
    rcases Cluster.write_setStore t.toCluster i w now with hsame | ⟨m, hm, hset⟩
    · exact .inl (by rw [hsame])
    · have horder := ht.views i m hm
      rw [hidle] at horder
      rcases Store.write_cases (View.BetweenWrites.reachable horder).tidy t.broker w now
        with ⟨e, hfail⟩ | ⟨d, b, hprepare, happend, hok⟩
      · rw [hset, hfail, setStore_eq_withWrite hidle]
        exact .inl (withWrite_self hm hidle)
      · rw [hset, hok, setStore_eq_withWrite hidle]
        exact .inr ⟨m, d, b, rfl, hm, hprepare, happend, rfl⟩

theorem act_progresses (ht : t.Orderly) (hm : t.members[i]? = some m) (a : Cluster.Action) :
    t.Progresses i m (.act a) := by
  by_cases hwrite : a.IsWrite i
  · cases a with
    | write j w now =>
      have hj : j = i := hwrite
      subst hj
      rcases step_write_cases ht j w now with hsame | ⟨m₀, d, b, hidle, hm₀, hprepare, -, hstep⟩
      · exact progresses_of_same (by rw [hsame, hm]) (by rw [hsame])
      · rw [hm] at hm₀
        cases hm₀
        refine progresses_of_withWrite hm hstep ?_
        rw [hidle]
        exact .write hprepare rfl
    | _ => exact absurd hwrite id
  · unfold Progresses
    rw [step_act_underWay]
    simp only [step]
    split
    · exact ⟨m, hm, .reads _ _ (.inl rfl)⟩
    · obtain ⟨m', hm', hreads⟩ := Cluster.step_view hm hwrite
      exact ⟨m', hm', .reads _ _ hreads⟩

theorem prepare_progresses (hm : t.members[i]? = some m) (w : Write) (now : Timestamp) :
    t.Progresses i m (.prepare i w now) := by
  cases hopen : t.underWay i with
  | some o => exact progresses_of_same (by simp [step, hopen, hm]) (by simp [step, hopen])
  | none =>
    by_cases hdropped : m.dropped
    · exact progresses_of_same (by simp [step, hopen, hm, hdropped])
        (by simp [step, hopen, hm, hdropped])
    · cases hprepare : m.store.prepare w now with
      | error e =>
        exact progresses_of_same (by simp [step, hopen, hm, hprepare])
          (by simp [step, hopen, hm, hprepare])
      | ok d =>
        have hstep : t.step (.prepare i w now) =
            t.withWrite i m.store t.broker (some ⟨d, .prepared⟩) := by
          simp [step, hopen, hm, hdropped, hprepare]
        refine progresses_of_withWrite hm hstep ?_
        rw [hopen]
        exact .prepare hprepare

theorem note_progresses (hm : t.members[i]? = some m) : t.Progresses i m (.note i) := by
  rcases hopen : t.underWay i with _ | ⟨d, _ | _ | answer⟩
  case some.prepared =>
    by_cases hclosed : m.store.closed
    · have hstep : t.step (.note i) = t.withWrite i m.store t.broker none := by
        simp [step, hopen, hm, hclosed]
      refine progresses_of_withWrite hm hstep ?_
      rw [hopen]
      exact .refuse d
    · have hstep : t.step (.note i) =
          t.withWrite i (m.store.note d) t.broker (some ⟨d, .noted⟩) := by
        simp [step, hopen, hm, hclosed]
      refine progresses_of_withWrite hm hstep ?_
      rw [hopen]
      exact .note d
  all_goals exact progresses_of_same (by simp [step, hopen, hm]) (by simp [step, hopen])

theorem step_append_error (hm : t.members[i]? = some m) {d : FunctionDoc}
    (hopen : t.underWay i = some ⟨d, .noted⟩) {e : LogError}
    (happend : t.broker.append m.store.log ⟨d.id, d.encode⟩ = .error e) (lost : Option LogError) :
    t.step (.append i lost) =
      t.withWrite i m.store t.broker (some ⟨d, .asked (.error e)⟩) := by
  simp [step, hopen, hm, happend]

theorem step_append_ok (hm : t.members[i]? = some m) {d : FunctionDoc}
    (hopen : t.underWay i = some ⟨d, .noted⟩) {b : Broker}
    (happend : t.broker.append m.store.log ⟨d.id, d.encode⟩ = .ok b) (lost : Option LogError) :
    t.step (.append i lost) =
      t.withWrite i m.store b (some ⟨d, .asked (lost.elim (.ok ()) .error)⟩) := by
  simp [step, hopen, hm, happend]

theorem append_progresses (hm : t.members[i]? = some m) (lost : Option LogError) :
    t.Progresses i m (.append i lost) := by
  rcases hopen : t.underWay i with _ | ⟨d, _ | _ | answer⟩
  case some.noted =>
    cases happend : t.broker.append m.store.log ⟨d.id, d.encode⟩ with
    | error e =>
      refine progresses_of_withWrite hm (step_append_error hm hopen happend lost) ?_
      rw [hopen]
      exact .append d lost _
    | ok b =>
      refine progresses_of_withWrite hm (step_append_ok hm hopen happend lost) ?_
      rw [hopen]
      exact .append d lost _
  all_goals exact progresses_of_same (by simp [step, hopen, hm]) (by simp [step, hopen])

theorem step_endWrite (hm : t.members[i]? = some m) {d : FunctionDoc}
    {answer : Except LogError Unit} (hopen : t.underWay i = some ⟨d, .asked answer⟩) :
    t.step (.endWrite i) = t.withWrite i (m.store.endWrite d answer).2 t.broker none := by
  simp [step, hopen, hm]

theorem endWrite_progresses (hm : t.members[i]? = some m) : t.Progresses i m (.endWrite i) := by
  rcases hopen : t.underWay i with _ | ⟨d, _ | _ | answer⟩
  case some.asked =>
    refine progresses_of_withWrite hm (step_endWrite hm hopen) ?_
    rw [hopen]
    exact .endWrite d answer
  all_goals exact progresses_of_same (by simp [step, hopen, hm]) (by simp [step, hopen])

/-- A step of a write is progress of its store. -/
theorem writer_progresses (hm : t.members[i]? = some m) {e : Event} (he : e.writer? = some i) :
    t.Progresses i m e := by
  cases e with
  | act a => cases he
  | prepare j w now =>
    cases he
    exact prepare_progresses hm w now
  | note j =>
    cases he
    exact note_progresses hm
  | append j lost =>
    cases he
    exact append_progresses hm lost
  | endWrite j =>
    cases he
    exact endWrite_progresses hm

theorem step_progresses (ht : t.Orderly) (hm : t.members[i]? = some m) (e : Event) :
    t.Progresses i m e := by
  cases hwriter : e.writer? with
  | none =>
    cases e with
    | act a => exact act_progresses ht hm a
    | _ => cases hwriter
  | some j =>
    by_cases hj : j = i
    · subst hj
      exact writer_progresses hm hwriter
    · obtain ⟨hmembers, hopen⟩ := step_of_ne (t := t) hwriter hj
      exact progresses_of_same (hmembers.trans hm) hopen

/-- A store that is not there yet has nothing to show when it is opened, and no write is under way
in it. -/
theorem step_absent (ht : t.Orderly) (hnone : t.members[i]? = none) (e : Event) :
    (t.step e).underWay i = none ∧
      ∀ m', (t.step e).members[i]? = some m' → m'.store.view = {} := by
  have hidle := ht.known i hnone
  have hsame : ∀ m', t.members[i]? = some m' → m'.store.view = {} := by
    intro m' hm'
    rw [hnone] at hm'
    cases hm'
  cases hwriter : e.writer? with
  | some j =>
    by_cases hj : j = i
    · subst hj
      rw [step_of_absent hwriter hnone]
      exact ⟨hidle, hsame⟩
    · obtain ⟨hmembers, hopen⟩ := step_of_ne (t := t) hwriter hj
      rw [hmembers, hopen]
      exact ⟨hidle, hsame⟩
  | none =>
    cases e with
    | act a =>
      rw [step_act_underWay]
      refine ⟨hidle, ?_⟩
      intro m' hm'
      simp only [step] at hm'
      split at hm'
      · exact hsame m' hm'
      · obtain ⟨-, -, hfollower⟩ := Cluster.opened_spec hnone hm'
        exact congrArg Follower.view hfollower
    | _ => cases hwriter

/-- If a write is under way after an event, the store was there before it. -/
theorem exists_progress (ht : t.Orderly) {e : Event} {x : OpenWrite}
    (hopen : (t.step e).underWay i = some x) :
    ∃ m m', t.members[i]? = some m ∧ (t.step e).members[i]? = some m' ∧
      Progress i m.store (t.underWay i) e m'.store (some x) := by
  cases hm : t.members[i]? with
  | none =>
    rw [(step_absent ht hm e).1] at hopen
    cases hopen
  | some m =>
    obtain ⟨m', hm', hprogress⟩ := step_progresses ht hm e
    rw [hopen] at hprogress
    exact ⟨m, m', rfl, hm', hprogress⟩

/-! ## Keys -/

/-- Documents are shown under their own keys, and those that are being written have keys. -/
structure Keyed (t : Traffic) : Prop where
  views : ∀ (i : Nat) m, t.members[i]? = some m → m.store.view.Keyed
  docs : ∀ (i : Nat) o, t.underWay i = some o → o.doc.id ≠ ""

theorem Progress.keyed {s s' : Store} {o o' : Option OpenWrite} {e : Event}
    (h : Progress i s o e s' o') (hs : s.view.Keyed) (ho : ∀ x, o = some x → x.doc.id ≠ "") :
    s'.view.Keyed ∧ ∀ x, o' = some x → x.doc.id ≠ "" := by
  cases h with
  | reads o e hreads =>
    rcases hreads with hsame | ⟨r, hfold⟩
    · rw [hsame]
      exact ⟨hs, ho⟩
    · rw [hfold]
      exact ⟨hs.foldRecord r, ho⟩
  | write hprepare hview =>
    rename_i d
    have hid : d.id ≠ "" := (Store.prepare_id hs hprepare).2
    rw [hview, View.install_eq]
    have hnoted : (s.view.beginLocal d.id d.encode).Keyed := hs
    exact ⟨hnoted.apply hid, ho⟩
  | prepare hprepare =>
    refine ⟨hs, ?_⟩
    rintro x ⟨⟩
    exact (Store.prepare_id hs hprepare).2
  | refuse d => exact ⟨hs, fun x hx => by cases hx⟩
  | note d =>
    refine ⟨hs, ?_⟩
    rintro x ⟨⟩
    exact ho ⟨d, .prepared⟩ rfl
  | append d lost answer =>
    refine ⟨hs, ?_⟩
    rintro x ⟨⟩
    exact ho ⟨d, .noted⟩ rfl
  | endWrite d answer =>
    refine ⟨?_, fun x hx => by cases hx⟩
    cases answer with
    | error e => exact hs
    | ok _ =>
      have hview : (s.endWrite d (.ok ())).2.view = (s.view.commitLocal d d.encode).2 := rfl
      rw [hview]
      unfold View.commitLocal
      split
      · exact hs.apply (ho ⟨d, .asked (.ok ())⟩ rfl)
      · exact hs

theorem Keyed.step (h : t.Keyed) (ht : t.Orderly) (e : Event) : (t.step e).Keyed := by
  have hboth : ∀ i : Nat, (∀ m', (t.step e).members[i]? = some m' → m'.store.view.Keyed) ∧
      ∀ o, (t.step e).underWay i = some o → o.doc.id ≠ "" := by
    intro i
    cases hm : t.members[i]? with
    | none =>
      obtain ⟨hidle, hempty⟩ := step_absent ht hm e
      constructor
      · intro m' hm'
        rw [hempty m' hm']
        exact View.keyed_empty
      · intro o ho
        rw [hidle] at ho
        cases ho
    | some m =>
      obtain ⟨m₁, hm₁, hprogress⟩ := step_progresses ht hm e
      obtain ⟨hview, hdoc⟩ := hprogress.keyed (h.views i m hm) (h.docs i)
      refine ⟨?_, hdoc⟩
      intro m' hm'
      rw [hm₁] at hm'
      cases hm'
      exact hview
  exact ⟨fun i => (hboth i).1, fun i => (hboth i).2⟩

theorem Keyed.run (h : t.Keyed) (ht : t.Orderly) (es : List Event) : (t.run es).Keyed := by
  induction es generalizing t with
  | nil => exact h
  | cons e es ih => exact ih (h.step ht e) (ht.step e)

theorem keyed_run (es : List Event) : (({} : Traffic).run es).Keyed := by
  have hempty : ({} : Traffic).Keyed := by
    constructor
    · intro i m hm
      cases hm
    · intro i o ho
      cases ho
  exact hempty.run orderly_empty es

/-! ## From the beginning of a write on -/

theorem run_concat (t : Traffic) (es : List Event) (e : Event) :
    t.run (es ++ [e]) = (t.run es).step e := by
  rw [run, run, List.foldl_append]
  rfl

/-- A write is under way in the store `i` all along. -/
def StaysOpen (t : Traffic) (i : Nat) (es : List Event) : Prop :=
  ∀ es', es' <+: es → (t.run es').underWay i ≠ none

theorem staysOpen_nil (h : t.underWay i ≠ none) : t.StaysOpen i [] := by
  intro es' hes'
  rw [List.prefix_nil.1 hes']
  exact h

theorem StaysOpen.concat {es : List Event} (h : t.StaysOpen i es) {e : Event}
    (hopen : (t.run (es ++ [e])).underWay i ≠ none) : t.StaysOpen i (es ++ [e]) := by
  intro es' hes'
  rcases List.prefix_concat_iff.1 hes' with rfl | hprefix
  · exact hopen
  · exact h es' hprefix

/-- The write that is under way in the store `i` after a run is the write `w`, which the store has
begun with the document `d`. -/
def Begun (es : List Event) (i : Nat) (w : Write) (d : FunctionDoc) : Prop :=
  ∃ es₁ es₂ now m, es = es₁ ++ .prepare i w now :: es₂ ∧
    (({} : Traffic).run es₁).underWay i = none ∧
    (({} : Traffic).run es₁).members[i]? = some m ∧ m.store.prepare w now = .ok d ∧
    (({} : Traffic).run (es₁ ++ [.prepare i w now])).StaysOpen i es₂

theorem Progress.doc {s s' : Store} {o o' : OpenWrite} {e : Event}
    (h : Progress i s (some o) e s' (some o')) : o'.doc = o.doc := by
  cases h <;> rfl

theorem Progress.begins {s s' : Store} {o : OpenWrite} {e : Event}
    (h : Progress i s none e s' (some o)) :
    ∃ w now, e = .prepare i w now ∧ s.prepare w now = .ok o.doc := by
  cases h with
  | prepare hprepare => exact ⟨_, _, rfl, hprepare⟩

/-- Every write that is under way has been begun. -/
theorem exists_begun {es : List Event} {o : OpenWrite}
    (h : (({} : Traffic).run es).underWay i = some o) : ∃ w, Begun es i w o.doc := by
  induction es using List.reverseRecOn generalizing o with
  | nil => cases h
  | append_singleton es e ih =>
    have hopen : (({} : Traffic).run (es ++ [e])).underWay i ≠ none := by
      rw [h]
      exact Option.some_ne_none o
    rw [run_concat] at h
    obtain ⟨m, m', hm, -, hprogress⟩ := exists_progress (orderly_empty.run es) h
    cases hbefore : (({} : Traffic).run es).underWay i with
    | none =>
      rw [hbefore] at hprogress
      obtain ⟨w, now, rfl, hprepare⟩ := hprogress.begins
      exact ⟨w, es, [], now, m, rfl, hbefore, hm, hprepare, staysOpen_nil hopen⟩
    | some o₀ =>
      rw [hbefore] at hprogress
      obtain ⟨w, es₁, es₂, now, m₁, rfl, hidle, hm₁, hprepare, hstays⟩ := ih hbefore
      rw [← hprogress.doc] at hprepare
      have hrun : (({} : Traffic).run (es₁ ++ [.prepare i w now])).run (es₂ ++ [e]) =
          ({} : Traffic).run ((es₁ ++ .prepare i w now :: es₂) ++ [e]) := by
        simp [run]
      rw [← hrun] at hopen
      exact ⟨w, es₁, es₂ ++ [e], now, m₁, by simp, hidle, hm₁, hprepare, hstays.concat hopen⟩

/-- The document of a write has the key that the write is about. -/
theorem Begun.key {es : List Event} {w : Write} {d : FunctionDoc} (h : Begun es i w d) :
    d.id = w.key ∧ d.id ≠ "" := by
  obtain ⟨es₁, es₂, now, m, -, -, hm, hprepare, -⟩ := h
  exact Store.prepare_id ((keyed_run es₁).views i m hm) hprepare

end Traffic

end ReplayRegistry
