import ReplayRegistry.Proofs.ClosedStores
import ReplayRegistry.Proofs.OtherLogs

/-!
# Proofs: stores of one log

A fleet is compared with what is left of it if other logs than one take no records. The stores of
this log are the same in both. A store of another log reads nothing where its log is empty, so the
two can part in what they show and in their readers; but they are closed, told to stop and let go of
together, and their replays have stopped together.
-/

namespace ReplayRegistry

open Time (Timestamp)

/-! ## Replays -/

namespace Replay

variable {log : String} {b b' : Broker} {r : Replay}

theorem counted_attemptOpen (r : Replay) (b : Broker) : b.Counted (r.attemptOpen b).2 := by
  unfold attemptOpen
  split
  · exact .refl b
  · exact .refl b
  · split
    · rename_i hopen
      exact Broker.counted_openReader hopen
    · exact .refl b

theorem counted_read (r : Replay) (b : Broker) : b.Counted (r.read b).2.2 := by
  unfold Replay.read
  split
  · split
    · exact .refl b
    · exact Broker.counted_release _ b
    · exact .refl b
  · exact .refl b

theorem counted_stop (r : Replay) (b : Broker) : b.Counted (r.stop b).2 := by
  unfold stop
  split
  · exact Broker.counted_release _ b
  · exact .refl b

theorem read_log (r : Replay) (b : Broker) : (r.read b).2.1.log = r.log := by
  unfold Replay.read
  split
  · split
    · rfl
    · exact (r.fail_spec _ _).1
    · rfl
  · rfl

theorem stop_eq (r : Replay) (b : Broker) : (r.stop b).1 = { r with phase := .stopped } := by
  unfold stop
  split <;> rfl

/-- A replay of the log is answered the same. -/
theorem attemptOpen_here (hb : b.Pared log b') (hlog : r.log = log) :
    (r.attemptOpen b').1 = (r.attemptOpen b).1 := by
  unfold attemptOpen
  split
  · rfl
  · rfl
  · rcases hb.openReader r.log .earliest with
      ⟨e, hfail, hfail'⟩ | ⟨x, x', b₁, b₁', hok, hok', hx, -⟩
    · rw [hfail, hfail']
    · have hreads : x.log = log := (Broker.openReader_ok hok).2.1.trans hlog
      rw [hok, hok', hx.same hreads]

/-- A replay of the log reads the same. -/
theorem read_here (hb : b.Pared log b') (hsound : r.Sound) (hlog : r.log = log) :
    (r.read b').1 = (r.read b).1 ∧ (r.read b').2.1 = (r.read b).2.1 := by
  unfold Replay.read
  cases hphase : r.phase with
  | tailing reader uptime =>
    have hreads : reader.log = log := (hsound reader uptime hphase).trans hlog
    simp only [Reader.read_here hb hreads]
    split <;> exact ⟨rfl, rfl⟩
  | _ => exact ⟨rfl, rfl⟩

/-- A replay reads nothing from a log that has taken no record. -/
theorem read_of_absent (hsound : r.Sound) (h : b.partitions.get? r.log = none) (x : Record) :
    (r.read b).1 ≠ .record x := by
  unfold Replay.read
  cases hphase : r.phase with
  | tailing reader uptime =>
    have habsent : b.partitions.get? reader.log = none := hsound reader uptime hphase ▸ h
    rcases Reader.read_of_absent habsent with ⟨e, -, hread⟩ | ⟨-, hread⟩ <;> simp [hread]
  | _ => simp

theorem attemptOpen_stopped_iff (r : Replay) (b : Broker) :
    (r.attemptOpen b).1.health = .stopped ↔ r.health = .stopped := by
  refine ⟨attemptOpen_stopped, fun h => ?_⟩
  rw [attemptOpen_of_stopped (health_eq_stopped.1 h)]
  exact h

theorem read_stopped_iff (r : Replay) (b : Broker) :
    (r.read b).2.1.health = .stopped ↔ r.health = .stopped := by
  refine ⟨read_stopped, fun h => ?_⟩
  rw [read_of_stopped (health_eq_stopped.1 h)]
  exact h

theorem stayUp_stopped_iff (r : Replay) (ms : Nat) :
    (r.stayUp ms).health = .stopped ↔ r.health = .stopped := by
  unfold stayUp
  split
  · rename_i hphase
    simp [Replay.health, hphase]
  · rfl

end Replay

/-- A store of the log reads the same. -/
theorem Store.read_here {log : String} {b b' : Broker} {s : Store} (hb : b.Pared log b')
    (hsound : s.replay.Sound) (hlog : s.log = log) :
    (s.read b').1 = (s.read b).1 ∧ (s.read b').2.1 = (s.read b).2.1 := by
  obtain ⟨hd, hr⟩ := Replay.read_here hb hsound hlog
  refine ⟨hd, ?_⟩
  show { s with replay := (s.replay.read b').2.1 } = { s with replay := (s.replay.read b).2.1 }
  rw [hr]

namespace Fleet

/-! ## Two fleets, store by store -/

/-- What a store of another log, the member `m` with the task `x`, has in common with the store that
is left of it. -/
structure Apart (log : String) (m : Member) (x : Task) (m' : Member) (x' : Task) : Prop where
  other : m.store.log ≠ log
  log_eq : m'.store.log = m.store.log
  sound : m'.store.replay.Sound
  closed : m'.store.closed = m.store.closed
  dropped : m'.dropped = m.dropped
  stopped : m'.store.health = .stopped ↔ m.store.health = .stopped
  told : x'.told = x.told
  closing : x'.closing = x.closing
  /-- Nothing holds up the replay that is left for longer. -/
  engaged : x'.engaged = .free ∨ x'.engaged = .asking ∧ x.engaged = .asking

/-- A store with its task and the write that is under way in it, and what is left of it if other
logs than one take no records. -/
inductive Beside (log : String) : Option Member → Task → Option OpenWrite →
    Option Member → Task → Option OpenWrite → Prop
  /-- A store of the log is the same. -/
  | here {m : Member} (x : Task) (o : Option OpenWrite) (hlog : m.store.log = log)
      (hsound : m.store.replay.Sound) : Beside log (some m) x o (some m) x o
  /-- No write is left in a store of another log. -/
  | apart {m m' : Member} {x x' : Task} (o : Option OpenWrite) (h : Apart log m x m' x') :
      Beside log (some m) x o (some m') x' none
  | unborn (x x' : Task) : Beside log none x none none x' none

/-- The fleet `g` is what is left of `f` if other logs than one take no records. -/
structure Pared (log : String) (f g : Fleet) : Prop where
  session : f.toSession.Pared log g.toSession
  length : g.members.length = f.members.length
  stores : ∀ i : Nat, Beside log f.members[i]? (f.tasks i) (f.underWay i)
    g.members[i]? (g.tasks i) (g.underWay i)

variable {log : String} {f f₁ g g₁ : Fleet} {i : Nat} {m m' : Member}

theorem pared_empty (log : String) : ({} : Fleet).Pared log {} where
  session := Session.pared_empty log
  length := rfl
  stores _ := .unborn {} {}

theorem Pared.broker (h : f.Pared log g) : f.broker.Pared log g.broker := h.session.broker

theorem Pared.here (h : f.Pared log g) (hm : f.members[i]? = some m) (hlog : m.store.log = log) :
    g.members[i]? = some m ∧ g.tasks i = f.tasks i ∧ g.underWay i = f.underWay i ∧
      m.store.replay.Sound := by
  have hbeside := h.stores i
  rw [hm] at hbeside
  generalize f.tasks i = x, f.underWay i = o, g.tasks i = x', g.underWay i = o',
    g.members[i]? = y at hbeside
  cases hbeside with
  | here x o hlog hsound => exact ⟨rfl, rfl, rfl, hsound⟩
  | apart o hapart => exact absurd hlog hapart.other

theorem Pared.apart (h : f.Pared log g) (hm : f.members[i]? = some m) (hlog : m.store.log ≠ log) :
    ∃ m', g.members[i]? = some m' ∧ Apart log m (f.tasks i) m' (g.tasks i) ∧
      g.underWay i = none := by
  have hbeside := h.stores i
  rw [hm] at hbeside
  generalize f.tasks i = x, f.underWay i = o, g.tasks i = x', g.underWay i = o',
    g.members[i]? = y at hbeside
  cases hbeside with
  | here x o hhere hsound => exact absurd hhere hlog
  | apart o hapart => exact ⟨_, rfl, hapart, rfl⟩

theorem Pared.absent (h : f.Pared log g) (hnone : f.members[i]? = none) :
    g.members[i]? = none := by
  rw [List.getElem?_eq_none_iff] at hnone ⊢
  rw [h.length]
  exact hnone

/-! ## Changes at one store -/

/-- The broker may be another, and one store with what is under way in it; all else stays. -/
structure OnlyAt (i : Nat) (f f₁ : Fleet) : Prop where
  readers : f₁.readers = f.readers
  length : f₁.members.length = f.members.length
  others : ∀ j, i ≠ j → f₁.members[j]? = f.members[j]? ∧ f₁.tasks j = f.tasks j ∧
    f₁.underWay j = f.underWay j

theorem OnlyAt.refl (i : Nat) (f : Fleet) : OnlyAt i f f := ⟨rfl, rfl, fun _ _ => ⟨rfl, rfl, rfl⟩⟩

theorem Frame.onlyAt (h : f.Frame f₁ i) : OnlyAt i f f₁ where
  readers := h.readers
  length := h.length
  others j hj := ⟨(h.others j hj).1, (h.others j hj).2, congrFun h.underWay j⟩

theorem onlyAt_withWrite (f : Fleet) (i : Nat) (s : Store) (b : Broker) (o : Option OpenWrite) :
    OnlyAt i f { f with toTraffic := f.toTraffic.withWrite i s b o } where
  readers := rfl
  length := List.length_modify ..
  others _ hj :=
    ⟨(Traffic.withWrite_of_ne hj s b o).1, rfl, (Traffic.withWrite_of_ne hj s b o).2⟩

theorem Pared.of_onlyAt (h : f.Pared log g) (hf : OnlyAt i f f₁) (hg : OnlyAt i g g₁)
    (hb : f₁.broker.Pared log g₁.broker)
    (hstore : Beside log f₁.members[i]? (f₁.tasks i) (f₁.underWay i)
      g₁.members[i]? (g₁.tasks i) (g₁.underWay i)) : f₁.Pared log g₁ where
  session := by
    refine ⟨hb, ?_, ?_⟩
    · rw [hf.readers, hg.readers, h.session.length]
    · rw [hf.readers, hg.readers]
      exact h.session.readers
  length := by rw [hf.length, hg.length, h.length]
  stores j := by
    by_cases hij : i = j
    · exact hij ▸ hstore
    · obtain ⟨hmember, htask, hopen⟩ := hf.others j hij
      obtain ⟨hmember', htask', hopen'⟩ := hg.others j hij
      rw [hmember, htask, hopen, hmember', htask', hopen']
      exact h.stores j

theorem Pared.withTask (h : f.Pared log g) (hm : f.members[i]? = some m)
    (hm' : g.members[i]? = some m') {s s' : Store} {b b' : Broker} {x x' : Task}
    (hb : b.Pared log b')
    (hstore : Beside log (some { m with store := s }) x (f.underWay i)
      (some { m' with store := s' }) x' (g.underWay i)) :
    (f.withTask i s b x).Pared log (g.withTask i s' b' x') := by
  refine h.of_onlyAt (frame_withTask f i s b x).onlyAt (frame_withTask g i s' b' x').onlyAt hb ?_
  rw [withTask_member hm, withTask_member hm', withTask_tasks, withTask_tasks]
  exact hstore

/-- One fleet goes on alone. -/
theorem Pared.withTask_left (h : f.Pared log g) (hm : f.members[i]? = some m) {s : Store}
    {b : Broker} {x : Task} (hb : b.Pared log g.broker)
    (hstore : Beside log (some { m with store := s }) x (f.underWay i)
      g.members[i]? (g.tasks i) (g.underWay i)) : (f.withTask i s b x).Pared log g := by
  refine h.of_onlyAt (frame_withTask f i s b x).onlyAt (.refl i g) hb ?_
  rw [withTask_member hm, withTask_tasks]
  exact hstore

/-- A store is let go of, if nothing holds up its user. -/
theorem step_dropStore_at (hm : f.members[i]? = some m) (hclosing : (f.tasks i).closing = none)
    (hidle : f.underWay i = none) :
    (f.step (.dropStore i)).members[i]? = some { m with dropped := true } ∧
      (f.step (.dropStore i)).tasks i = { f.tasks i with told := true } ∧
      (f.step (.dropStore i)).underWay i = none ∧ (f.step (.dropStore i)).broker = f.broker := by
  have hstep := step_dropStore hm hclosing hidle
  refine ⟨?_, ?_, ?_, ?_⟩
  · rw [hstep]
    simp only [List.getElem?_modify, withTask_member hm]
    rfl
  · rw [hstep, withTask_tasks]
  · rw [hstep]
    exact hidle
  · rw [hstep, withTask_broker]

/-! ## Stores of the log -/

/-- What is done with a store of the log is done with it in both fleets. -/
theorem Pared.withTask_here (h : f.Pared log g) (hm : f.members[i]? = some m)
    (hlog : m.store.log = log) {s s' : Store} {b b' : Broker} {x : Task} (hs : s' = s)
    (hslog : s.log = log) (hsound : s.replay.Sound) (hb : b.Pared log b') :
    (f.withTask i s b x).Pared log (g.withTask i s' b' x) := by
  obtain ⟨hm', -, ho, -⟩ := h.here hm hlog
  refine h.withTask hm hm' hb ?_
  rw [hs, ho]
  exact .here x _ hslog hsound

theorem Pared.step_here (h : f.Pared log g) (hm : f.members[i]? = some m)
    (hlog : m.store.log = log) {e : Event} (he : e.store? = some i) :
    (f.step e).Pared log (g.step e) := by
  obtain ⟨hm', hx, ho, hsound⟩ := h.here hm hlog
  have hstay : ∀ {s : Store} {x : Task}, s.replay = m.store.replay →
      (f.withTask i s f.broker x).Pared log (g.withTask i s g.broker x) := by
    intro s x hs
    have hslog : s.log = log := by rw [Store.log, hs]; exact hlog
    exact h.withTask_here hm hlog rfl hslog (hs ▸ hsound) h.broker
  cases e with
  | traffic e => cases he
  | openStore log' settings => cases he
  | wake j =>
    cases he
    simp only [step, withMember_eq hm, withMember_eq hm', hx]
    split
    · exact hstay rfl
    · exact h
  | answer j =>
    cases he
    simp only [step, withMember_eq hm, withMember_eq hm', hx]
    split
    · have hkeeps := m.store.replay.attemptOpen_keeps f.broker
      refine h.withTask_here hm hlog ?_ (hkeeps.log.trans hlog) (hkeeps.sound hsound) ?_
      · simp only [Store.attempt, Replay.attemptOpen_here h.broker hlog]
      · exact h.broker.counted (m.store.replay.counted_attemptOpen _)
          (m.store.replay.counted_attemptOpen _)
    · exact h
  | read j =>
    cases he
    simp only [step, withMember_eq hm, withMember_eq hm', hx]
    split
    · obtain ⟨hd, hs⟩ := Store.read_here h.broker hsound hlog
      have hspec := Replay.read_spec hsound f.broker
      have hb : (m.store.read f.broker).2.2.Pared log (m.store.read g.broker).2.2 :=
        h.broker.counted (m.store.replay.counted_read _) (m.store.replay.counted_read _)
      have hslog : (m.store.read f.broker).2.1.log = log := hspec.2.1.trans hlog
      have hssound : (m.store.read f.broker).2.1.replay.Sound := hspec.2.2.1
      rcases hf : m.store.read f.broker with ⟨d, s, b⟩
      rcases hg : m.store.read g.broker with ⟨d', s', b'⟩
      rw [hf, hg] at hd hs hb
      rw [hf] at hslog hssound
      cases hd
      cases d <;> exact h.withTask_here hm hlog hs hslog hssound hb
    · exact h
  | fold j =>
    cases he
    simp only [step, withMember_eq hm, withMember_eq hm', hx]
    split
    · exact hstay rfl
    · exact h
  | halt j =>
    cases he
    simp only [step, withMember_eq hm, withMember_eq hm', hx]
    split
    · have hstop := m.store.replay.stop_spec f.broker
      refine h.withTask_here hm hlog ?_ (hstop.1.trans hlog) hstop.2.2.1 ?_
      · simp only [Store.release, Replay.stop_eq]
      · exact h.broker.counted (m.store.replay.counted_stop _) (m.store.replay.counted_stop _)
    · exact h
  | beginClose j =>
    cases he
    simp only [step, withMember_eq hm, withMember_eq hm', hx]
    split
    · exact h
    · exact hstay rfl
  | tell j =>
    cases he
    simp only [step, withMember_eq hm, withMember_eq hm', hx, ho]
    split
    · exact hstay rfl
    · exact h
  | endClose j client =>
    cases he
    simp only [step, withMember_eq hm, withMember_eq hm', hx]
    split
    · refine h.withTask_here hm hlog rfl hlog hsound ?_
      cases client with
      | ok _ => exact h.broker.close
      | error _ => exact h.broker
    · exact h
  | dropStore j =>
    cases he
    by_cases hfree : (f.tasks i).closing = none ∧ f.underWay i = none
    · obtain ⟨hmember, htask, hopen, hbroker⟩ := step_dropStore_at hm hfree.1 hfree.2
      obtain ⟨hmember', htask', hopen', hbroker'⟩ :=
        step_dropStore_at hm' (hx ▸ hfree.1) (ho.trans hfree.2)
      refine h.of_onlyAt (step_frame rfl).onlyAt (step_frame rfl).onlyAt ?_ ?_
      · rw [hbroker, hbroker']
        exact h.broker
      · rw [hmember, hmember', htask, htask', hopen, hopen', hx]
        exact .here _ none hlog hsound
    · have hfree' : ¬ ((g.tasks i).closing = none ∧ g.underWay i = none) := by rwa [hx, ho]
      have hf : f.step (.dropStore i) = f := by simp [step, withMember_eq hm, hfree]
      have hg : g.step (.dropStore i) = g := by simp [step, withMember_eq hm', hfree']
      rw [hf, hg]
      exact h

/-! ## Stores of other logs -/

/-- Whether an event that moves a store takes place. -/
def occurs (f : Fleet) : Event → Bool
  | .traffic _ | .openStore _ _ => true
  | .wake i => f.members[i]?.any fun m =>
    (f.tasks i).engaged = .free ∧ (f.tasks i).told = false ∧ m.store.replay.pausing
  | .answer i => (f.tasks i).engaged = .asking
  | .read i => (f.tasks i).engaged = .free
  | .fold i =>
    match (f.tasks i).engaged with
    | .holding _ => true
    | _ => false
  | .halt i => (f.tasks i).engaged = .free ∧ (f.tasks i).told
  | .beginClose i => f.members[i]?.any fun m => ¬ (m.dropped ∨ m.store.closed)
  | .tell i => (f.tasks i).closing = some .begun ∧ (f.underWay i).isNone
  | .endClose i _ => f.members[i]?.any fun m =>
    (f.tasks i).closing = some .stopping ∧ m.store.health = .stopped
  | .dropStore i => (f.tasks i).closing = none ∧ (f.underWay i).isNone

/-- An event that does not take place does nothing. -/
theorem step_of_not_occurs {e : Event} (he : e.store? = some i) (h : f.occurs e = false) :
    f.step e = f := by
  cases hm : f.members[i]? with
  | none => exact step_absent hm he
  | some m =>
    cases e with
    | traffic e => cases he
    | openStore log' settings => cases he
    | fold j =>
      cases he
      simp only [occurs] at h
      simp only [step, withMember_eq hm]
      split
      · rename_i r hholding
        simp [hholding] at h
      · rfl
    | _ =>
      cases he
      simp only [occurs, hm, Option.any_some, decide_eq_false_iff_not, not_not] at h
      simp only [step, withMember_eq hm]
      first | exact if_neg h | exact if_pos h

/-! ## What becomes of stores of other logs -/

variable {x x' : Task}

theorem Apart.engaged_of_free (h : Apart log m x m' x') (hfree : x.engaged = .free) :
    x'.engaged = .free := by
  rcases h.engaged with hfree' | ⟨-, hasking⟩
  · exact hfree'
  · rw [hfree] at hasking
    cases hasking

/-- What is shown does not matter, nor what the replay does next, as long as it does not stop. -/
theorem Apart.replay (h : Apart log m x m' x') {s : Store} {e : Engagement}
    (hlog : s.log = m.store.log) (hclosed : s.closed = m.store.closed)
    (hstopped : s.health = .stopped ↔ m.store.health = .stopped)
    (hengaged : x'.engaged = .free ∨ x'.engaged = .asking ∧ e = .asking) :
    Apart log { m with store := s } { x with engaged := e } m' x' where
  other := hlog ▸ h.other
  log_eq := h.log_eq.trans hlog.symm
  sound := h.sound
  closed := h.closed.trans hclosed.symm
  dropped := h.dropped
  stopped := h.stopped.trans hstopped.symm
  told := h.told
  closing := h.closing
  engaged := hengaged

/-- The same for the store that is left. -/
theorem Apart.replay_left (h : Apart log m x m' x') {s : Store} {e : Engagement}
    (hlog : s.log = m'.store.log) (hclosed : s.closed = m'.store.closed)
    (hstopped : s.health = .stopped ↔ m'.store.health = .stopped) (hsound : s.replay.Sound)
    (hengaged : e = .free ∨ e = .asking ∧ x.engaged = .asking) :
    Apart log m x { m' with store := s } { x' with engaged := e } where
  other := h.other
  log_eq := hlog.trans h.log_eq
  sound := hsound
  closed := hclosed.trans h.closed
  dropped := h.dropped
  stopped := hstopped.trans h.stopped
  told := h.told
  closing := h.closing
  engaged := hengaged

theorem Pared.wake_apart (h : f.Pared log g) (hm : f.members[i]? = some m)
    (hother : m.store.log ≠ log) (hoccurs : f.occurs (.wake i) = true) :
    (f.step (.wake i)).Pared log (g.step (.wake i)) := by
  obtain ⟨m', hm', hapart, ho'⟩ := h.apart hm hother
  obtain ⟨hfree, htold, hpausing⟩ : (f.tasks i).engaged = .free ∧ (f.tasks i).told = false ∧
      m.store.replay.pausing := by simpa [occurs, hm] using hoccurs
  have hfree' := hapart.engaged_of_free hfree
  have hasking : Apart log { m with store := m.store } { f.tasks i with engaged := .asking }
      m' (g.tasks i) := hapart.replay rfl rfl Iff.rfl (.inl hfree')
  rw [step_wake hm hfree htold hpausing]
  by_cases hpausing' : m'.store.replay.pausing
  · rw [step_wake hm' hfree' (hapart.told.trans htold) hpausing']
    refine h.withTask hm hm' h.broker ?_
    rw [ho']
    exact .apart _ (hasking.replay_left rfl rfl Iff.rfl hasking.sound (.inr ⟨rfl, rfl⟩))
  · have hg : g.step (.wake i) = g := by simp [step, withMember_eq hm', hpausing']
    rw [hg]
    refine h.withTask_left hm h.broker ?_
    rw [hm', ho']
    exact .apart _ hasking

theorem Pared.answer_apart (h : f.Pared log g) (hm : f.members[i]? = some m)
    (hother : m.store.log ≠ log) (hoccurs : f.occurs (.answer i) = true) :
    (f.step (.answer i)).Pared log (g.step (.answer i)) := by
  obtain ⟨m', hm', hapart, ho'⟩ := h.apart hm hother
  have hasking : (f.tasks i).engaged = .asking := by simpa [occurs] using hoccurs
  have hlog : (m.store.attempt f.broker).1.log = m.store.log :=
    (m.store.replay.attemptOpen_keeps f.broker).log
  have hstopped : (m.store.attempt f.broker).1.health = .stopped ↔ m.store.health = .stopped :=
    m.store.replay.attemptOpen_stopped_iff f.broker
  rw [step_answer hm hasking]
  rcases hapart.engaged with hfree' | ⟨hasking', -⟩
  · have hg : g.step (.answer i) = g := by simp [step, withMember_eq hm', hfree']
    rw [hg]
    refine h.withTask_left hm (h.broker.counted (m.store.replay.counted_attemptOpen _) (.refl _)) ?_
    rw [hm', ho']
    exact .apart _ (hapart.replay hlog rfl hstopped (.inl hfree'))
  · have hkeeps' := m'.store.replay.attemptOpen_keeps g.broker
    have hstopped' : (m'.store.attempt g.broker).1.health = .stopped ↔
        m'.store.health = .stopped := m'.store.replay.attemptOpen_stopped_iff g.broker
    have hanswered : Apart log m (f.tasks i) { m' with store := (m'.store.attempt g.broker).1 }
        { g.tasks i with engaged := .free } :=
      hapart.replay_left hkeeps'.log rfl hstopped' (hkeeps'.sound hapart.sound) (.inl rfl)
    rw [step_answer hm' hasking']
    refine h.withTask hm hm' (h.broker.counted (m.store.replay.counted_attemptOpen _)
      (m'.store.replay.counted_attemptOpen _)) ?_
    rw [ho']
    exact .apart _ (hanswered.replay hlog rfl hstopped (.inl rfl))

theorem Pared.read_apart (h : f.Pared log g) (hm : f.members[i]? = some m)
    (hother : m.store.log ≠ log) (hoccurs : f.occurs (.read i) = true) :
    (f.step (.read i)).Pared log (g.step (.read i)) := by
  obtain ⟨m', hm', hapart, ho'⟩ := h.apart hm hother
  have hfree : (f.tasks i).engaged = .free := by simpa [occurs] using hoccurs
  have hfree' := hapart.engaged_of_free hfree
  -- the log is empty for the store that is left
  have habsent : g.broker.partitions.get? m'.store.replay.log = none :=
    h.broker.others _ fun heq => hother (hapart.log_eq.symm.trans heq)
  have hnone : ∀ r, (m'.store.read g.broker).1 ≠ .record r :=
    Replay.read_of_absent hapart.sound habsent
  obtain ⟨-, hlog', hsound', -⟩ := Replay.read_spec hapart.sound g.broker
  have hleft : Apart log m (f.tasks i) { m' with store := (m'.store.read g.broker).2.1 }
      { g.tasks i with engaged := (g.tasks i).engaged } :=
    hapart.replay_left hlog' rfl (m'.store.replay.read_stopped_iff g.broker) hsound' (.inl hfree')
  have hread : ∀ x, Apart log { m with store := (m.store.read f.broker).2.1 }
      { f.tasks i with engaged := x } { m' with store := (m'.store.read g.broker).2.1 }
      (g.tasks i) := by
    intro x
    have hlog : (m.store.read f.broker).2.1.log = m.store.log := m.store.replay.read_log _
    exact hleft.replay hlog rfl (m.store.replay.read_stopped_iff f.broker) (.inl hfree')
  have hb : (m.store.read f.broker).2.2.Pared log (m'.store.read g.broker).2.2 :=
    h.broker.counted (m.store.replay.counted_read _) (m'.store.replay.counted_read _)
  rw [step_read hm' hfree' hnone]
  by_cases hrecord : ∃ r, (m.store.read f.broker).1 = .record r
  · obtain ⟨r, hr⟩ := hrecord
    rw [step_take hm hfree (Prod.ext hr rfl)]
    refine h.withTask hm hm' hb ?_
    rw [ho']
    exact .apart _ (hread _)
  · rw [step_read hm hfree (not_exists.1 hrecord)]
    refine h.withTask hm hm' hb ?_
    rw [ho']
    exact .apart _ (hread (f.tasks i).engaged)

/-- An event that takes place in a store of another log takes place in what is left of it, as far as
it makes a difference. -/
theorem Pared.step_apart (h : f.Pared log g) (hm : f.members[i]? = some m)
    (hother : m.store.log ≠ log) {e : Event} (he : e.store? = some i)
    (hoccurs : f.occurs e = true) : (f.step e).Pared log (g.step e) := by
  obtain ⟨m', hm', hapart, ho'⟩ := h.apart hm hother
  cases e with
  | traffic e => cases he
  | openStore log' settings => cases he
  | wake j => cases he; exact h.wake_apart hm hother hoccurs
  | answer j => cases he; exact h.answer_apart hm hother hoccurs
  | read j => cases he; exact h.read_apart hm hother hoccurs
  | fold j =>
    cases he
    cases hengaged : (f.tasks i).engaged with
    | holding r =>
      have hfree' : (g.tasks i).engaged = .free := by
        rcases hapart.engaged with hfree' | ⟨-, hasking⟩
        · exact hfree'
        · rw [hengaged] at hasking
          cases hasking
      have hg : g.step (.fold i) = g := by simp [step, withMember_eq hm', hfree']
      rw [step_fold hm hengaged, hg]
      refine h.withTask_left hm h.broker ?_
      rw [hm', ho']
      exact .apart _ (hapart.replay rfl rfl Iff.rfl (.inl hfree'))
    | _ => simp [occurs, hengaged] at hoccurs
  | halt j =>
    cases he
    obtain ⟨hfree, htold⟩ : (f.tasks i).engaged = .free ∧ (f.tasks i).told := by
      simpa [occurs] using hoccurs
    have hfree' := hapart.engaged_of_free hfree
    rw [step_halt hm hfree htold, step_halt hm' hfree' (hapart.told.trans htold)]
    obtain ⟨hlog, -⟩ := m.store.replay.stop_spec f.broker
    obtain ⟨hlog', -, hsound', -⟩ := m'.store.replay.stop_spec g.broker
    refine h.withTask hm hm' (h.broker.counted (m.store.replay.counted_stop _)
      (m'.store.replay.counted_stop _)) ?_
    rw [ho']
    refine .apart _ ⟨?_, ?_, hsound', hapart.closed, hapart.dropped, ?_, hapart.told,
      hapart.closing, .inl hfree'⟩
    · exact fun heq => hother (hlog.symm.trans heq)
    · exact hlog'.trans (hapart.log_eq.trans hlog.symm)
    · exact iff_of_true (m'.store.replay.stop_health _) (m.store.replay.stop_health _)
  | beginClose j =>
    cases he
    obtain ⟨hheld, hopen⟩ : m.dropped = false ∧ m.store.closed = false := by
      simpa [occurs, hm] using hoccurs
    rw [step_beginClose hm hheld hopen,
      step_beginClose hm' (hapart.dropped.trans hheld) (hapart.closed.trans hopen)]
    refine h.withTask hm hm' h.broker ?_
    rw [ho']
    exact .apart _ ⟨hapart.other, hapart.log_eq, hapart.sound, rfl, hapart.dropped,
      hapart.stopped, hapart.told, rfl, hapart.engaged⟩
  | tell j =>
    cases he
    obtain ⟨hclosing, hidle⟩ : (f.tasks i).closing = some .begun ∧ f.underWay i = none := by
      simpa [occurs] using hoccurs
    rw [step_tell hm hclosing hidle, step_tell hm' (hapart.closing.trans hclosing) ho']
    refine h.withTask hm hm' h.broker ?_
    rw [ho']
    exact .apart _ ⟨hapart.other, hapart.log_eq, hapart.sound, hapart.closed, hapart.dropped,
      hapart.stopped, rfl, rfl, hapart.engaged⟩
  | endClose j client =>
    cases he
    obtain ⟨hclosing, hstopped⟩ : (f.tasks i).closing = some .stopping ∧
        m.store.health = .stopped := by simpa [occurs, hm] using hoccurs
    rw [step_endClose hm hclosing hstopped,
      step_endClose hm' (hapart.closing.trans hclosing) (hapart.stopped.2 hstopped)]
    refine h.withTask hm hm' ?_ ?_
    · cases client with
      | ok _ => exact h.broker.close
      | error _ => exact h.broker
    · rw [ho']
      exact .apart _ ⟨hapart.other, hapart.log_eq, hapart.sound, hapart.closed, hapart.dropped,
        hapart.stopped, hapart.told, rfl, hapart.engaged⟩
  | dropStore j =>
    cases he
    obtain ⟨hclosing, hidle⟩ : (f.tasks i).closing = none ∧ f.underWay i = none := by
      simpa [occurs] using hoccurs
    obtain ⟨hmember, htask, hopen, hbroker⟩ := step_dropStore_at hm hclosing hidle
    obtain ⟨hmember', htask', hopen', hbroker'⟩ :=
      step_dropStore_at hm' (hapart.closing.trans hclosing) ho'
    refine h.of_onlyAt (step_frame rfl).onlyAt (step_frame rfl).onlyAt ?_ ?_
    · rw [hbroker, hbroker']
      exact h.broker
    · rw [hmember, hmember', htask, htask', hopen, hopen']
      exact .apart _ ⟨hapart.other, hapart.log_eq, hapart.sound, hapart.closed, rfl,
        hapart.stopped, rfl, hapart.closing, hapart.engaged⟩

end Fleet

end ReplayRegistry
