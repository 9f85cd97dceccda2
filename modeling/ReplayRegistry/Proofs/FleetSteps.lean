import ReplayRegistry.Proofs.OpenWrites
import ReplayRegistry.Proofs.Streaks
import ReplayRegistry.Store.Fleet

/-!
# Proofs: the events of a fleet

What an event can do to a store is said once: it is a move of the store itself, or the store stands
by while its user writes, time passes or something happens elsewhere.
-/

namespace ReplayRegistry

namespace Replay

variable {r : Replay}

theorem stayUp_zero (r : Replay) : r.stayUp 0 = r := by
  unfold stayUp
  split
  · rename_i hphase
    rw [Nat.add_zero, ← hphase]
  · rfl

/-! ## Replays that have stopped -/

theorem health_eq_stopped : r.health = .stopped ↔ r.phase = .stopped := by
  unfold health
  split <;> simp_all

theorem attemptOpen_of_stopped (h : r.phase = .stopped) (b : Broker) :
    r.attemptOpen b = (r, b) := by
  unfold attemptOpen
  rw [h]

theorem read_of_stopped (h : r.phase = .stopped) (b : Broker) : r.read b = (.noReader, r, b) := by
  unfold read
  rw [h]

theorem stop_of_stopped (h : r.phase = .stopped) (b : Broker) : r.stop b = (r, b) := by
  cases r
  cases h
  rfl

theorem stop_health (r : Replay) (b : Broker) : (r.stop b).1.health = .stopped := by
  unfold stop
  split <;> rfl

theorem fail_health_ne_stopped (r : Replay) (e : LogError) (uptime : Nat) :
    (r.fail e uptime).health ≠ .stopped := by
  unfold fail countFailure
  split <;> simp [Replay.health]

/-- Attempts do not stop a replay. -/
theorem attemptOpen_stopped {b : Broker} (h : (r.attemptOpen b).1.health = .stopped) :
    r.health = .stopped := by
  unfold Replay.attemptOpen at h
  split at h
  · exact h
  · exact h
  · split at h
    · cases h
    · exact absurd h (fail_health_ne_stopped r _ _)

theorem read_stopped {b : Broker} (h : (r.read b).2.1.health = .stopped) :
    r.health = .stopped := by
  unfold Replay.read at h
  split at h
  · split at h
    · cases h
    · exact absurd h (fail_health_ne_stopped r _ _)
    · exact h
  · exact h

/-! ## Replays that pause -/

theorem attemptOpen_of_not_pausing (h : r.pausing = false) (b : Broker) :
    r.attemptOpen b = (r, b) := by
  unfold pausing at h
  unfold attemptOpen
  cases hphase : r.phase with
  | tailing reader uptime => rfl
  | stopped => rfl
  | _ => simp [hphase] at h

theorem pausing_of_delay {d : Nat} (h : r.delay? = some d) : r.pausing := by
  unfold delay? at h
  unfold pausing
  cases hphase : r.phase with
  | restarting d => rfl
  | degraded d => rfl
  | _ => simp [hphase] at h

theorem not_stopped_of_pausing (h : r.pausing) : r.health ≠ .stopped := by
  intro hstopped
  rw [pausing, health_eq_stopped.1 hstopped] at h
  cases h

theorem fail_pausing (r : Replay) (e : LogError) (uptime : Nat) :
    (r.fail e uptime).pausing ∧ (r.fail e uptime).log = r.log := by
  refine ⟨?_, (fail_spec r e uptime).1⟩
  unfold fail countFailure
  split <;> rfl

theorem attemptOpen_of_refused {b : Broker} {e : LogError} (hpausing : r.pausing)
    (hrefused : b.openReader r.log .earliest = .error e) :
    r.attemptOpen b = (r.fail e 0, b) ∧ r.attemptTurns b = [.failed ⟨e, 0⟩] := by
  unfold Replay.attemptOpen attemptTurns
  unfold pausing at hpausing
  cases hphase : r.phase with
  | tailing reader uptime => simp [hphase] at hpausing
  | stopped => simp [hphase] at hpausing
  | _ => simp [hrefused]

end Replay

/-! ## Steps of writes in traffic -/

namespace Traffic

variable {t : Traffic} {i : Nat} {m : Member}

/-- A step of a write puts back the store with another view, and the broker as it is or with one
more record in the log of the store. -/
theorem step_writer {e : Event} {j : Nat} (he : e.writer? = some j) :
    t.step e = t ∨ ∃ m v b o, t.members[j]? = some m ∧
      t.step e = t.withWrite j { m.store with view := v } b o ∧
      (b = t.broker ∨ ∃ r, t.broker.append m.store.log r = .ok b) := by
  cases e with
  | act a => cases he
  | prepare k w now =>
    cases he
    simp only [step]
    split
    · rename_i m _ hm
      split
      · exact .inl rfl
      · split
        · exact .inl rfl
        · exact .inr ⟨m, m.store.view, _, _, hm, rfl, .inl rfl⟩
    · exact .inl rfl
  | note k =>
    cases he
    simp only [step]
    split
    · rename_i d m _ hm
      split
      · exact .inr ⟨m, m.store.view, _, _, hm, rfl, .inl rfl⟩
      · exact .inr ⟨m, (m.store.note d).view, _, _, hm, rfl, .inl rfl⟩
    · exact .inl rfl
  | append k lost =>
    cases he
    simp only [step]
    split
    · rename_i d m _ hm
      split
      · exact .inr ⟨m, m.store.view, _, _, hm, rfl, .inl rfl⟩
      · rename_i b happend
        exact .inr ⟨m, m.store.view, _, _, hm, rfl, .inr ⟨_, happend⟩⟩
    · exact .inl rfl
  | endWrite k =>
    cases he
    simp only [step]
    split
    · rename_i d answer m _ hm
      refine .inr ⟨m, (m.store.endWrite d answer).2.view, _, none, hm, ?_, .inl rfl⟩
      cases answer <;> rfl
    · exact .inl rfl

/-- All that a step of a write changes of a store is its view. -/
theorem step_writer_member {e : Event} (he : e.writer?.isSome) (hm : t.members[i]? = some m) :
    ∃ v, (t.step e).members[i]? = some { m with store := { m.store with view := v } } := by
  obtain ⟨j, hj⟩ := Option.isSome_iff_exists.1 he
  by_cases hji : j = i
  · subst hji
    rcases step_writer (t := t) hj with hsame | ⟨m₀, v, b, o, hm₀, hstep, -⟩
    · exact ⟨m.store.view, by rw [hsame, hm]⟩
    · rw [hm] at hm₀
      cases hm₀
      exact ⟨v, by rw [hstep, withWrite_member hm]⟩
  · exact ⟨m.store.view, by rw [(step_of_ne hj hji).1, hm]⟩

theorem step_writer_length {e : Event} (he : e.writer?.isSome) :
    (t.step e).members.length = t.members.length := by
  obtain ⟨j, hj⟩ := Option.isSome_iff_exists.1 he
  rcases step_writer (t := t) hj with hsame | ⟨m₀, v, b, o, -, hstep, -⟩
  · rw [hsame]
  · rw [hstep]
    simp [withWrite, Cluster.setStore]

end Traffic

namespace Fleet

variable {f : Fleet} {i : Nat} {m : Member}

/-! ## Runs -/

theorem run_append (f : Fleet) (es es' : List Event) : f.run (es ++ es') = (f.run es).run es' :=
  List.foldl_append

theorem run_concat (f : Fleet) (es : List Event) (e : Event) :
    f.run (es ++ [e]) = (f.run es).step e := run_append f es [e]

/-- What a run gives, event by event. -/
def collect {α : Type} (g : Fleet → Event → List α) : Fleet → List Event → List α
  | _, [] => []
  | f, e :: es => g f e ++ collect g (f.step e) es

theorem collect_append {α : Type} (g : Fleet → Event → List α) (f : Fleet)
    (es es' : List Event) :
    collect g f (es ++ es') = collect g f es ++ collect g (f.run es) es' := by
  induction es generalizing f with
  | nil => rfl
  | cons e es ih =>
    show g f e ++ collect g (f.step e) (es ++ es') = _
    rw [ih, ← List.append_assoc]
    rfl

/-! ## Moves of a store -/

/-- The store that an event moves by itself. -/
def Event.store? : Event → Option Nat
  | .traffic _ | .openStore _ _ => none
  | .wake i | .answer i | .read i | .fold i | .halt i | .beginClose i | .tell i | .endClose i _
  | .dropStore i => some i

/-- The turns that the replay of a store takes in an event. -/
def turns (i : Nat) (f : Fleet) (e : Event) : List Turn :=
  match e, f.members[i]? with
  | .answer j, some m =>
    if j = i ∧ (f.tasks i).engaged = .asking then m.store.replay.attemptTurns f.broker else []
  | .read j, some m =>
    if j = i ∧ (f.tasks i).engaged = .free then m.store.replay.readTurns f.broker else []
  | _, _ => []

/-- How a store moves while the broker is `b` and `o` is the write that is under way in it: from `m`
with the task `x`, through turns of its replay, to another state of it, of the broker and of the
task. -/
inductive Moves (b : Broker) (o : Option OpenWrite) (m : Member) (x : Task) :
    List Turn → Member → Broker → Task → Prop
  | idle : Moves b o m x [] m b x
  | wake (hengaged : x.engaged = .free) (htold : x.told = false)
      (hpausing : m.store.replay.pausing) :
      Moves b o m x [] m b { x with engaged := .asking }
  | answer (hengaged : x.engaged = .asking) :
      Moves b o m x (m.store.replay.attemptTurns b) { m with store := (m.store.attempt b).1 }
        (m.store.attempt b).2 { x with engaged := .free }
  | read (hengaged : x.engaged = .free) (hr : ∀ r, (m.store.read b).1 ≠ .record r) :
      Moves b o m x (m.store.replay.readTurns b) { m with store := (m.store.read b).2.1 }
        (m.store.read b).2.2 x
  | take (r : Record) (hengaged : x.engaged = .free) (hr : (m.store.read b).1 = .record r) :
      Moves b o m x (m.store.replay.readTurns b) { m with store := (m.store.read b).2.1 }
        (m.store.read b).2.2 { x with engaged := .holding r }
  | fold (r : Record) (hengaged : x.engaged = .holding r) :
      Moves b o m x [] { m with store := m.store.fold r } b { x with engaged := .free }
  | halt (hengaged : x.engaged = .free) (htold : x.told) :
      Moves b o m x [] { m with store := (m.store.release b).1 } (m.store.release b).2 x
  | beginClose (hopen : m.store.closed = false) :
      Moves b o m x [] { m with store := { m.store with closed := true } } b
        { x with closing := some .begun }
  | tell (hclosing : x.closing = some .begun) (hidle : o = none) :
      Moves b o m x [] m b { x with told := true, closing := some .stopping }
  | endClose (b' : Broker) (hclosing : x.closing = some .stopping)
      (hstopped : m.store.health = .stopped) (hb' : b' = b ∨ b' = b.close) :
      Moves b o m x [] m b' { x with closing := none }
  | dropStore (hclosing : x.closing = none) (hidle : o = none) :
      Moves b o m x [] { m with dropped := true } b { x with told := true }

/-- The store `i` of the member `m` moves in an event. -/
def MovesBy (f : Fleet) (i : Nat) (m : Member) (e : Event) : Prop :=
  ∃ m', (f.step e).members[i]? = some m' ∧
    Moves f.broker (f.underWay i) m (f.tasks i) (f.turns i e) m' (f.step e).broker
      ((f.step e).tasks i)

theorem withTask_members (j : Nat) (s : Store) (b : Broker) (x : Task) :
    (f.withTask j s b x).members[i]? =
      if j = i then (f.members[i]?).map fun m => { m with store := s } else f.members[i]? :=
  Cluster.setStore_members j s b

@[simp] theorem withTask_broker (f : Fleet) (i : Nat) (s : Store) (b : Broker) (x : Task) :
    (f.withTask i s b x).broker = b := rfl

@[simp] theorem withTask_tasks (f : Fleet) (i : Nat) (s : Store) (b : Broker) (x : Task) :
    (f.withTask i s b x).tasks i = x := if_pos rfl

theorem withTask_member (hm : f.members[i]? = some m) (s : Store) (b : Broker) (x : Task) :
    (f.withTask i s b x).members[i]? = some { m with store := s } := by
  rw [withTask_members, if_pos rfl, hm]
  rfl

theorem member_of_withTask (hm : f.members[i]? = some m) {g : Fleet} {s : Store} {b : Broker}
    {x : Task} (hg : g = f.withTask i s b x) :
    g.members[i]? = some { m with store := s } := by
  rw [hg, withTask_member hm]

theorem withTask_withTask (f : Fleet) (i : Nat) (s s' : Store) (b b' : Broker) (x x' : Task) :
    (f.withTask i s b x).withTask i s' b' x' = f.withTask i s' b' x' := by
  have hmembers : (f.members.modify i fun m => { m with store := s }).modify i
      (fun m => { m with store := s' }) = f.members.modify i fun m => { m with store := s' } :=
    List.modify_modify_eq ..
  have htasks : (fun j => if j = i then x' else if j = i then x else f.tasks j) =
      fun j => if j = i then x' else f.tasks j := by
    funext j
    split <;> rfl
  simp only [withTask, Cluster.setStore, hmembers, htasks]

theorem withMember_eq (hm : f.members[i]? = some m) (g : Member → Task → Fleet) :
    f.withMember i g = g m (f.tasks i) := by
  simp only [withMember, hm]

/-- Nothing happens. -/
theorem movesBy_of_eq (hm : f.members[i]? = some m) {e : Event} (hturns : f.turns i e = [])
    (hstep : f.step e = f) : f.MovesBy i m e := by
  refine ⟨m, by rw [hstep, hm], ?_⟩
  rw [hturns, hstep]
  exact .idle

theorem movesBy_of_withTask (hm : f.members[i]? = some m) {e : Event} {s : Store} {b : Broker}
    {x : Task} (hstep : f.step e = f.withTask i s b x)
    (h : Moves f.broker (f.underWay i) m (f.tasks i) (f.turns i e) { m with store := s } b x) :
    f.MovesBy i m e := by
  refine ⟨{ m with store := s }, by rw [hstep, withTask_member hm], ?_⟩
  rw [hstep, withTask_tasks]
  exact h

theorem step_wake (hm : f.members[i]? = some m) (hengaged : (f.tasks i).engaged = .free)
    (htold : (f.tasks i).told = false) (hpausing : m.store.replay.pausing) :
    f.step (.wake i) = f.withTask i m.store f.broker { f.tasks i with engaged := .asking } := by
  simp [step, withMember_eq hm, hengaged, htold, hpausing]

theorem movesBy_wake (hm : f.members[i]? = some m) : f.MovesBy i m (.wake i) := by
  by_cases h : (f.tasks i).engaged = .free ∧ (f.tasks i).told = false ∧ m.store.replay.pausing
  · exact movesBy_of_withTask hm (step_wake hm h.1 h.2.1 h.2.2) (.wake h.1 h.2.1 h.2.2)
  · exact movesBy_of_eq hm rfl (by simp [step, withMember_eq hm, h])

theorem step_answer (hm : f.members[i]? = some m) (hengaged : (f.tasks i).engaged = .asking) :
    f.step (.answer i) = f.withTask i (m.store.attempt f.broker).1 (m.store.attempt f.broker).2
      { f.tasks i with engaged := .free } := by
  simp [step, withMember_eq hm, hengaged]

theorem movesBy_answer (hm : f.members[i]? = some m) : f.MovesBy i m (.answer i) := by
  by_cases h : (f.tasks i).engaged = .asking
  · have hturns : f.turns i (.answer i) = m.store.replay.attemptTurns f.broker := by
      simp [turns, hm, h]
    exact movesBy_of_withTask hm (step_answer hm h) (hturns ▸ .answer h)
  · exact movesBy_of_eq hm (by simp [turns, hm, h]) (by simp [step, withMember_eq hm, h])

theorem step_take (hm : f.members[i]? = some m) (hengaged : (f.tasks i).engaged = .free)
    {r : Record} {s : Store} {b : Broker} (hread : m.store.read f.broker = (.record r, s, b)) :
    f.step (.read i) = f.withTask i s b { f.tasks i with engaged := .holding r } := by
  simp [step, withMember_eq hm, hengaged, hread]

theorem step_read (hm : f.members[i]? = some m) (hengaged : (f.tasks i).engaged = .free)
    (hr : ∀ r, (m.store.read f.broker).1 ≠ .record r) :
    f.step (.read i) = f.withTask i (m.store.read f.broker).2.1 (m.store.read f.broker).2.2
      (f.tasks i) := by
  rcases hread : m.store.read f.broker with ⟨d, s, b⟩
  cases d with
  | record r => exact absurd (congrArg Prod.fst hread) (hr r)
  | _ => simp [step, withMember_eq hm, hengaged, hread]

theorem movesBy_read (hm : f.members[i]? = some m) : f.MovesBy i m (.read i) := by
  by_cases h : (f.tasks i).engaged = .free
  · have hturns : f.turns i (.read i) = m.store.replay.readTurns f.broker := by
      simp [turns, hm, h]
    by_cases hrecord : ∃ r, (m.store.read f.broker).1 = .record r
    · obtain ⟨r, hr⟩ := hrecord
      exact movesBy_of_withTask hm (step_take hm h (Prod.ext hr rfl)) (hturns ▸ .take r h hr)
    · have hr := not_exists.1 hrecord
      exact movesBy_of_withTask hm (step_read hm h hr) (hturns ▸ .read h hr)
  · exact movesBy_of_eq hm (by simp [turns, hm, h]) (by simp [step, withMember_eq hm, h])

theorem step_fold (hm : f.members[i]? = some m) {r : Record}
    (hengaged : (f.tasks i).engaged = .holding r) :
    f.step (.fold i) =
      f.withTask i (m.store.fold r) f.broker { f.tasks i with engaged := .free } := by
  simp [step, withMember_eq hm, hengaged]

theorem movesBy_fold (hm : f.members[i]? = some m) : f.MovesBy i m (.fold i) := by
  cases h : (f.tasks i).engaged with
  | holding r => exact movesBy_of_withTask hm (step_fold hm h) (.fold r h)
  | _ => exact movesBy_of_eq hm rfl (by simp [step, withMember_eq hm, h])

theorem step_halt (hm : f.members[i]? = some m) (hengaged : (f.tasks i).engaged = .free)
    (htold : (f.tasks i).told) :
    f.step (.halt i) = f.withTask i (m.store.release f.broker).1 (m.store.release f.broker).2
      (f.tasks i) := by
  simp [step, withMember_eq hm, hengaged, htold]

theorem movesBy_halt (hm : f.members[i]? = some m) : f.MovesBy i m (.halt i) := by
  by_cases h : (f.tasks i).engaged = .free ∧ (f.tasks i).told
  · exact movesBy_of_withTask hm (step_halt hm h.1 h.2) (.halt h.1 h.2)
  · exact movesBy_of_eq hm rfl (by simp [step, withMember_eq hm, h])

theorem step_beginClose (hm : f.members[i]? = some m) (hheld : m.dropped = false)
    (hopen : m.store.closed = false) :
    f.step (.beginClose i) = f.withTask i { m.store with closed := true } f.broker
      { f.tasks i with closing := some .begun } := by
  simp [step, withMember_eq hm, hheld, hopen]

theorem movesBy_beginClose (hm : f.members[i]? = some m) : f.MovesBy i m (.beginClose i) := by
  by_cases h : m.dropped ∨ m.store.closed
  · exact movesBy_of_eq hm rfl (by simp only [step, withMember_eq hm, if_pos h])
  · obtain ⟨hheld, hopen⟩ : m.dropped = false ∧ m.store.closed = false := by simpa using h
    exact movesBy_of_withTask hm (step_beginClose hm hheld hopen) (.beginClose hopen)

theorem step_tell (hm : f.members[i]? = some m) (hclosing : (f.tasks i).closing = some .begun)
    (hidle : f.underWay i = none) :
    f.step (.tell i) = f.withTask i m.store f.broker
      { f.tasks i with told := true, closing := some .stopping } := by
  simp [step, withMember_eq hm, hclosing, hidle]

theorem movesBy_tell (hm : f.members[i]? = some m) : f.MovesBy i m (.tell i) := by
  by_cases h : (f.tasks i).closing = some .begun ∧ f.underWay i = none
  · exact movesBy_of_withTask hm (step_tell hm h.1 h.2) (.tell h.1 h.2)
  · exact movesBy_of_eq hm rfl (by simp [step, withMember_eq hm, h])

theorem step_endClose (hm : f.members[i]? = some m)
    (hclosing : (f.tasks i).closing = some .stopping) (hstopped : m.store.health = .stopped)
    (client : Except LogError Unit) :
    f.step (.endClose i client) = f.withTask i m.store
      (match client with
        | .ok _ => f.broker.close
        | .error _ => f.broker) { f.tasks i with closing := none } := by
  cases client <;> simp [step, withMember_eq hm, hclosing, hstopped]

theorem movesBy_endClose (hm : f.members[i]? = some m) (client : Except LogError Unit) :
    f.MovesBy i m (.endClose i client) := by
  by_cases h : (f.tasks i).closing = some .stopping ∧ m.store.health = .stopped
  · refine movesBy_of_withTask hm (step_endClose hm h.1 h.2 client) (.endClose _ h.1 h.2 ?_)
    cases client with
    | ok _ => exact .inr rfl
    | error _ => exact .inl rfl
  · exact movesBy_of_eq hm rfl (by simp only [step, withMember_eq hm, if_neg h])

theorem step_dropStore (hm : f.members[i]? = some m) (hclosing : (f.tasks i).closing = none)
    (hidle : f.underWay i = none) :
    f.step (.dropStore i) =
      { f.withTask i m.store f.broker { f.tasks i with told := true } with
        members := (f.withTask i m.store f.broker { f.tasks i with told := true }).members.modify i
          fun m => { m with dropped := true } } := by
  simp [step, withMember_eq hm, hclosing, hidle]

theorem movesBy_dropStore (hm : f.members[i]? = some m) : f.MovesBy i m (.dropStore i) := by
  by_cases h : (f.tasks i).closing = none ∧ f.underWay i = none
  · have hstep := step_dropStore hm h.1 h.2
    refine ⟨{ m with dropped := true }, ?_, ?_⟩
    · rw [hstep]
      simp only [List.getElem?_modify, withTask_member hm]
      rfl
    · rw [hstep, withTask_tasks]
      exact .dropStore h.1 h.2
  · exact movesBy_of_eq hm rfl (by simp [step, withMember_eq hm, h])

theorem step_moves (hm : f.members[i]? = some m) {e : Event} (he : e.store? = some i) :
    f.MovesBy i m e := by
  cases e with
  | traffic e => cases he
  | openStore log settings => cases he
  | wake j => cases he; exact movesBy_wake hm
  | answer j => cases he; exact movesBy_answer hm
  | read j => cases he; exact movesBy_read hm
  | fold j => cases he; exact movesBy_fold hm
  | halt j => cases he; exact movesBy_halt hm
  | beginClose j => cases he; exact movesBy_beginClose hm
  | tell j => cases he; exact movesBy_tell hm
  | endClose j client => cases he; exact movesBy_endClose hm client
  | dropStore j => cases he; exact movesBy_dropStore hm

/-- A replay that asks for a reader and has its answer at once. -/
theorem run_attempt (hm : f.members[i]? = some m) (hengaged : (f.tasks i).engaged = .free)
    (htold : (f.tasks i).told = false) (hpausing : m.store.replay.pausing) :
    f.run [.wake i, .answer i] =
        f.withTask i (m.store.attempt f.broker).1 (m.store.attempt f.broker).2 (f.tasks i) ∧
      f.collect (turns i) [.wake i, .answer i] = m.store.replay.attemptTurns f.broker := by
  have hwake := step_wake hm hengaged htold hpausing
  have hm₁ : (f.step (.wake i)).members[i]? = some m := member_of_withTask hm hwake
  have hasking : ((f.step (.wake i)).tasks i).engaged = .asking := by rw [hwake, withTask_tasks]
  have hfree : { f.tasks i with engaged := .free } = f.tasks i := by rw [← hengaged]
  constructor
  · show (f.step (.wake i)).step (.answer i) = _
    rw [step_answer hm₁ hasking, hwake, withTask_tasks, withTask_broker, withTask_withTask]
    exact congrArg _ hfree
  · show f.turns i (.wake i) ++ ((f.step (.wake i)).turns i (.answer i) ++ []) = _
    have hanswer : (f.step (.wake i)).turns i (.answer i) =
        m.store.replay.attemptTurns (f.step (.wake i)).broker := by
      simp only [turns, hm₁, hasking, true_and, if_true]
    rw [hanswer, hwake, withTask_broker, List.append_nil]
    rfl

/-! ## Stores that stand by -/

theorem withTask_of_ne {j : Nat} (hj : j ≠ i) (s : Store) (b : Broker) (x : Task) :
    (f.withTask j s b x).members[i]? = f.members[i]? ∧
      (f.withTask j s b x).tasks i = f.tasks i :=
  ⟨by rw [withTask_members, if_neg hj], if_neg (Ne.symm hj)⟩

/-- What a move of one store leaves as it is: the writes, the readers of others, the number of
stores, and the other stores with what is under way in them. -/
structure Frame (f g : Fleet) (j : Nat) : Prop where
  underWay : g.underWay = f.underWay
  readers : g.readers = f.readers
  length : g.members.length = f.members.length
  others : ∀ i, j ≠ i → g.members[i]? = f.members[i]? ∧ g.tasks i = f.tasks i

theorem Frame.refl (f : Fleet) (j : Nat) : f.Frame f j := ⟨rfl, rfl, rfl, fun _ _ => ⟨rfl, rfl⟩⟩

theorem Frame.trans {g k : Fleet} {j : Nat} (h : f.Frame g j) (h' : g.Frame k j) :
    f.Frame k j where
  underWay := h'.underWay.trans h.underWay
  readers := h'.readers.trans h.readers
  length := h'.length.trans h.length
  others i hj := ⟨(h'.others i hj).1.trans (h.others i hj).1,
    (h'.others i hj).2.trans (h.others i hj).2⟩

theorem frame_withTask (f : Fleet) (j : Nat) (s : Store) (b : Broker) (x : Task) :
    f.Frame (f.withTask j s b x) j where
  underWay := rfl
  readers := rfl
  length := List.length_modify ..
  others _ hj := withTask_of_ne hj s b x

/-- A move of a store changes nothing else. -/
theorem step_frame {e : Event} {j : Nat} (he : e.store? = some j) : f.Frame (f.step e) j := by
  cases e with
  | traffic e => cases he
  | openStore log settings => cases he
  | dropStore k =>
    cases he
    simp only [step, withMember]
    split
    · split
      · rename_i m hm _
        have hframe := f.frame_withTask j m.store f.broker { f.tasks j with told := true }
        refine ⟨hframe.underWay, hframe.readers, ?_, fun i hj => ⟨?_, (hframe.others i hj).2⟩⟩
        · rw [← hframe.length]
          exact List.length_modify ..
        · rw [← (hframe.others i hj).1]
          exact List.getElem?_modify_ne _ _ hj
      · exact .refl f j
    · exact .refl f j
  | _ =>
    cases he
    simp only [step, withMember]
    split
    · repeat' split
      all_goals first | exact .refl f j | exact frame_withTask f j _ _ _
    · exact .refl f j

theorem step_members_set (hm : f.members[i]? = some m) {e : Event} (he : e.store? = some i)
    {m' : Member} (hm' : (f.step e).members[i]? = some m') :
    (f.step e).members = f.members.set i m' := by
  have hi : i < f.members.length := (List.getElem?_eq_some_iff.1 hm).1
  refine List.ext_getElem? fun j => ?_
  by_cases hj : i = j
  · subst hj
    rw [hm', List.getElem?_set_self hi]
  · rw [((step_frame he).others j hj).1, List.getElem?_set_ne hj]

/-- A store that has not been opened does not move. -/
theorem step_absent (hnone : f.members[i]? = none) {e : Event} (he : e.store? = some i) :
    f.step e = f := by
  cases e with
  | traffic e => cases he
  | openStore log settings => cases he
  | _ =>
    cases he
    simp only [step, withMember, hnone]

/-- The store of the member `m` stands by: it is `m'` afterwards. -/
structure StandsBy (m m' : Member) : Prop where
  closed : m'.store.closed = m.store.closed
  dropped : m'.dropped = m.dropped
  /-- All that replay notices is the passing of time. -/
  replay : ∃ ms, m'.store.replay = m.store.replay.stayUp ms

theorem StandsBy.refl (m : Member) : StandsBy m m := ⟨rfl, rfl, 0, (Replay.stayUp_zero _).symm⟩

theorem StandsBy.health {m' : Member} (h : StandsBy m m') : m'.store.health = m.store.health := by
  obtain ⟨ms, hreplay⟩ := h.replay
  show m'.store.replay.health = m.store.replay.health
  rw [hreplay]
  unfold Replay.stayUp
  split
  · rename_i hphase
    simp [Replay.health, hphase]
  · rfl

theorem admits_cases {e : Traffic.Event} (h : f.admits e) :
    (∃ x, e = .act (.call x)) ∨ (∃ ms, e = .act (.stayUp ms)) ∨ e.writer?.isSome := by
  cases e with
  | act a =>
    cases a with
    | call x => exact .inl ⟨x, rfl⟩
    | stayUp ms => exact .inr (.inl ⟨ms, rfl⟩)
    | _ => exact absurd h Bool.false_ne_true
  | _ => exact .inr (.inr rfl)

theorem step_traffic_member (hm : f.members[i]? = some m) (e : Traffic.Event) :
    ∃ m', (f.step (.traffic e)).members[i]? = some m' ∧ StandsBy m m' := by
  simp only [step]
  split
  · rename_i hadmits
    rcases admits_cases hadmits with ⟨x, rfl⟩ | ⟨ms, rfl⟩ | hwriter
    · exact ⟨m, hm, .refl m⟩
    · refine ⟨{ m with store := m.store.stayUp ms }, ?_, rfl, rfl, ms, rfl⟩
      have hmembers : (f.toTraffic.step (.act (.stayUp ms))).members =
          f.members.map fun m => { m with store := m.store.stayUp ms } := rfl
      rw [hmembers, List.getElem?_map, hm]
      rfl
    · obtain ⟨v, hv⟩ := Traffic.step_writer_member hwriter hm
      exact ⟨_, hv, rfl, rfl, 0, (Replay.stayUp_zero _).symm⟩
  · exact ⟨m, hm, .refl m⟩

theorem step_traffic_length (f : Fleet) (e : Traffic.Event) :
    (f.step (.traffic e)).members.length = f.members.length := by
  simp only [step]
  split
  · rename_i hadmits
    rcases admits_cases hadmits with ⟨x, rfl⟩ | ⟨ms, rfl⟩ | hwriter
    · rfl
    · exact List.length_map ..
    · exact Traffic.step_writer_length hwriter
  · rfl

theorem step_traffic_tasks (f : Fleet) (e : Traffic.Event) :
    (f.step (.traffic e)).tasks = f.tasks := by
  simp only [step]
  split <;> rfl

theorem turns_of_elsewhere {e : Event} (he : e.store? ≠ some i) : f.turns i e = [] := by
  unfold turns
  split
  · split
    · rename_i h
      exact absurd (congrArg some h.1) he
    · rfl
  · split
    · rename_i h
      exact absurd (congrArg some h.1) he
    · rfl
  · rfl

/-- A store stands by while something else happens. -/
theorem step_standsBy (hm : f.members[i]? = some m) {e : Event} (he : e.store? ≠ some i) :
    ∃ m', (f.step e).members[i]? = some m' ∧ StandsBy m m' ∧ (f.step e).tasks i = f.tasks i := by
  cases hstore : e.store? with
  | some j =>
    have hj : j ≠ i := by
      rintro rfl
      exact he hstore
    obtain ⟨hmember, htask⟩ := (step_frame (f := f) hstore).others i hj
    exact ⟨m, hmember.trans hm, .refl m, htask⟩
  | none =>
    cases e with
    | traffic e =>
      obtain ⟨m', hm', hstands⟩ := step_traffic_member hm e
      exact ⟨m', hm', hstands, congrFun (f.step_traffic_tasks e) i⟩
    | openStore log settings =>
      obtain ⟨hi, rfl⟩ := List.getElem?_eq_some_iff.1 hm
      refine ⟨_, (List.getElem?_append_left hi).trans hm, .refl _, if_neg ?_⟩
      exact Nat.ne_of_lt hi
    | _ => cases hstore

/-- A store is there from the event on that opens it. -/
theorem step_born (hnone : f.members[i]? = none) {e : Event} {m' : Member}
    (hm' : (f.step e).members[i]? = some m') :
    ∃ log settings, e = .openStore log settings ∧ i = f.members.length ∧
      m' = ⟨Store.opened log settings, false⟩ := by
  have hlength := List.getElem?_eq_none_iff.1 hnone
  have hi := (List.getElem?_eq_some_iff.1 hm').1
  cases hstore : e.store? with
  | some j =>
    have hsame := (step_frame (f := f) hstore).length
    omega
  | none =>
    cases e with
    | traffic e =>
      have hsame := f.step_traffic_length e
      omega
    | openStore log settings =>
      have hmembers : (f.step (.openStore log settings)).members =
          f.members ++ [⟨Store.opened log settings, false⟩] := rfl
      rw [hmembers, List.length_append, List.length_singleton] at hi
      obtain rfl : i = f.members.length := by omega
      rw [hmembers, List.getElem?_concat_length] at hm'
      exact ⟨log, settings, rfl, rfl, (Option.some.inj hm').symm⟩
    | _ => cases hstore

end Fleet

end ReplayRegistry
