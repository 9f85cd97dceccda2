import ReplayRegistry.Proofs.OpenReaders

/-!
# Proofs: closed stores

A call that closes a store waits for the write that is under way and for the replay. When it has
returned, nothing that happens to the store or around it changes what the store shows, and the store
appends nothing.
-/

namespace ReplayRegistry

open Time (Timestamp)

/-! ## Writes of closed stores -/

/-- A closed store refuses its writes, and leaves the log alone. -/
theorem Store.write_of_closed {s : Store} (h : s.closed) (b : Broker) (w : Write)
    (now : Timestamp) : ∃ e, s.write b w now = (.error e, s, b) := by
  unfold write writeAround
  cases s.prepare w now with
  | error e => exact ⟨e, rfl⟩
  | ok d => exact ⟨.log .closed, if_pos h⟩

namespace Traffic

/-- No payload of a store is on its way to the log: if a write is under way, it has not come further
than its document. -/
def Quiet (o : Option OpenWrite) : Prop := o = none ∨ ∃ d, o = some ⟨d, .prepared⟩

variable {t : Traffic} {i : Nat} {m : Member}

/-- The writes of a closed store end before they append. -/
theorem step_of_closed (hm : t.members[i]? = some m) (hclosed : m.store.closed)
    (hquiet : Quiet (t.underWay i)) {e : Event} (he : e.writer? = some i) :
    (t.step e).members[i]? = some m ∧ (t.step e).broker = t.broker ∧
      Quiet ((t.step e).underWay i) := by
  cases e with
  | act a => cases he
  | prepare j w now =>
    cases he
    simp only [step]
    split
    · rename_i m₀ hidle hm₀
      rw [hm] at hm₀
      cases hm₀
      split
      · exact ⟨hm, rfl, hquiet⟩
      · split
        · exact ⟨hm, rfl, hquiet⟩
        · rename_i d _
          refine ⟨withWrite_member hm _ _ _, rfl, ?_⟩
          rw [withWrite_underWay]
          exact .inr ⟨d, rfl⟩
    · exact ⟨hm, rfl, hquiet⟩
  | note j =>
    cases he
    rcases hquiet with hidle | ⟨d, hprepared⟩
    · have hstep : t.step (.note i) = t := by simp [step, hidle]
      rw [hstep]
      exact ⟨hm, rfl, .inl hidle⟩
    · have hstep : t.step (.note i) = t.withWrite i m.store t.broker none := by
        simp [step, hprepared, hm, hclosed]
      rw [hstep, withWrite_underWay]
      exact ⟨withWrite_member hm _ _ _, rfl, .inl rfl⟩
  | append j lost =>
    cases he
    have hstep : t.step (.append i lost) = t := by
      rcases hquiet with hidle | ⟨d, hprepared⟩
      · simp [step, hidle]
      · simp [step, hprepared]
    rw [hstep]
    exact ⟨hm, rfl, hquiet⟩
  | endWrite j =>
    cases he
    have hstep : t.step (.endWrite i) = t := by
      rcases hquiet with hidle | ⟨d, hprepared⟩
      · simp [step, hidle]
      · simp [step, hprepared]
    rw [hstep]
    exact ⟨hm, rfl, hquiet⟩

/-- Only the user of a store begins a write in it. -/
theorem step_idle (hidle : t.underWay i = none) {e : Event}
    (he : ∀ w now, e ≠ .prepare i w now) : (t.step e).underWay i = none := by
  cases hwriter : e.writer? with
  | none =>
    cases e with
    | act a => exact (congrFun (step_act_underWay t a) i).trans hidle
    | _ => cases hwriter
  | some j =>
    by_cases hji : j = i
    · subst hji
      cases e with
      | act a => cases hwriter
      | prepare k w now =>
        cases hwriter
        exact absurd rfl (he w now)
      | _ =>
        cases hwriter
        simp [step, hidle]
    · exact (step_of_ne hwriter hji).2.trans hidle

end Traffic

namespace Fleet

variable {f : Fleet} {i : Nat} {m : Member}

/-- The store in which an event takes a step of a write. -/
def Event.writer? : Event → Option Nat
  | .traffic e => e.writer?
  | _ => none

/-- The keys that writes of the store `i` return in an event. -/
def written (i : Nat) (f : Fleet) (e : Event) : List RegistryKey :=
  match e, f.underWay i, f.members[i]? with
  | .traffic (.endWrite j), some ⟨d, .asked answer⟩, some m =>
    match (m.store.endWrite d answer).1 with
    | .ok key => if j = i then [key] else []
    | .error _ => []
  | _, _, _ => []

theorem written_of_quiet (h : Traffic.Quiet (f.underWay i)) (e : Event) : f.written i e = [] := by
  unfold written
  rcases h with hidle | ⟨d, hprepared⟩
  · simp [hidle]
  · simp [hprepared]

/-- What a store shows changes only in its own moves and in steps of its writes, and its writes go
on only in such steps. -/
theorem step_elsewhere (hm : f.members[i]? = some m) {e : Event} (he : e.store? ≠ some i)
    (hwriter : e.writer? ≠ some i) :
    ∃ m', (f.step e).members[i]? = some m' ∧ m'.store.view = m.store.view ∧
      (f.step e).underWay i = f.underWay i := by
  cases hstore : e.store? with
  | some j =>
    have hj : j ≠ i := by
      rintro rfl
      exact he hstore
    have hframe := step_frame (f := f) hstore
    exact ⟨m, (hframe.others i hj).1.trans hm, rfl, congrFun hframe.underWay i⟩
  | none =>
    cases e with
    | traffic e =>
      simp only [step]
      split
      · rename_i hadmits
        rcases admits_cases hadmits with ⟨x, rfl⟩ | ⟨ms, rfl⟩ | hsome
        · exact ⟨m, hm, rfl, rfl⟩
        · refine ⟨{ m with store := m.store.stayUp ms }, ?_, rfl, rfl⟩
          have hmembers : (f.toTraffic.step (.act (.stayUp ms))).members =
              f.members.map fun m => { m with store := m.store.stayUp ms } := rfl
          rw [hmembers, List.getElem?_map, hm]
          rfl
        · obtain ⟨j, hj⟩ := Option.isSome_iff_exists.1 hsome
          have hji : j ≠ i := by
            rintro rfl
            exact hwriter hj
          obtain ⟨hmembers, hopen⟩ := Traffic.step_of_ne (t := f.toTraffic) hj hji
          exact ⟨m, hmembers.trans hm, rfl, hopen⟩
      · exact ⟨m, hm, rfl, rfl⟩
    | openStore log settings =>
      obtain ⟨hi, rfl⟩ := List.getElem?_eq_some_iff.1 hm
      exact ⟨_, (List.getElem?_append_left hi).trans hm, rfl, rfl⟩
    | _ => cases hstore

/-! ## Closing -/

/-- The call that closes the store `i` returns in an event. -/
def CloseReturns (i : Nat) (f : Fleet) (e : Event) : Prop :=
  (f.tasks i).closing.isSome ∧ ((f.step e).tasks i).closing = none

/-- How far the call that closes a store has come says what it has waited for. -/
structure Waited (m : Member) (o : Option OpenWrite) (x : Task) : Prop where
  closed : x.closing.isSome → m.store.closed
  /-- No write is under way once the replay has been told to stop. -/
  writes : x.closing = some .stopping → o = none
  /-- A replay that has stopped is not in the middle of anything. -/
  engaged : m.store.health = .stopped → x.engaged = .free

theorem Moves.waited {b b' : Broker} {o : Option OpenWrite} {m' : Member} {x x' : Task}
    {ts : List Turn} (hmove : Moves b o m x ts m' b' x') (h : Waited m o x) : Waited m' o x' := by
  cases hmove with
  | idle => exact h
  | wake hengaged htold hpausing =>
    refine ⟨h.closed, h.writes, fun hstopped => ?_⟩
    have hphase := Replay.health_eq_stopped.1 hstopped
    simp [Replay.pausing, hphase] at hpausing
  | answer => exact ⟨h.closed, h.writes, fun _ => rfl⟩
  | read hengaged => exact ⟨h.closed, h.writes, fun _ => hengaged⟩
  | take r hengaged hr =>
    refine ⟨h.closed, h.writes, fun hstopped => ?_⟩
    have hphase := Replay.health_eq_stopped.1 (Replay.read_stopped hstopped)
    rw [Store.read, Replay.read_of_stopped hphase] at hr
    cases hr
  | fold => exact ⟨h.closed, h.writes, fun _ => rfl⟩
  | halt hengaged => exact ⟨h.closed, h.writes, fun _ => hengaged⟩
  | beginClose => exact ⟨fun _ => rfl, fun hclosing => (by cases hclosing), h.engaged⟩
  | tell hclosing hidle =>
    exact ⟨fun _ => h.closed (by rw [hclosing]; rfl), fun _ => hidle, h.engaged⟩
  | endClose =>
    exact ⟨fun hclosing => (by cases hclosing), fun hclosing => (by cases hclosing), h.engaged⟩
  | dropStore => exact ⟨h.closed, h.writes, h.engaged⟩

/-- No write begins in a store while the call that closes it waits for its replay. -/
theorem writes_stay_none (hclosing : (f.tasks i).closing = some .stopping)
    (hidle : f.underWay i = none) {e : Event} (he : e.store? ≠ some i) :
    (f.step e).underWay i = none := by
  cases hstore : e.store? with
  | some j => exact (congrFun (step_frame (f := f) hstore).underWay i).trans hidle
  | none =>
    cases e with
    | traffic e =>
      simp only [step]
      split
      · rename_i hadmits
        refine Traffic.step_idle hidle ?_
        rintro w now rfl
        simp [admits, hclosing] at hadmits
      · exact hidle
    | openStore log settings => exact hidle
    | _ => cases hstore

theorem step_keeps_member (hm : f.members[i]? = some m) (e : Event) :
    ∃ m', (f.step e).members[i]? = some m' := by
  by_cases he : e.store? = some i
  · obtain ⟨m', hm', -⟩ := step_moves hm he
    exact ⟨m', hm'⟩
  · obtain ⟨m', hm', -⟩ := step_standsBy hm he
    exact ⟨m', hm'⟩

theorem step_absent_closing (hnone : f.members[i]? = none) (hclosing : (f.tasks i).closing = none)
    (e : Event) : ((f.step e).tasks i).closing = none := by
  cases hstore : e.store? with
  | some j =>
    by_cases hj : j = i
    · subst hj
      rw [step_absent hnone hstore]
      exact hclosing
    · rw [((step_frame hstore).others i hj).2]
      exact hclosing
  | none =>
    cases e with
    | traffic e =>
      rw [step_traffic_tasks]
      exact hclosing
    | openStore log settings =>
      simp only [step]
      split
      · rfl
      · exact hclosing
    | _ => cases hstore

/-- What is true of the closing of all stores. -/
structure Patient (f : Fleet) : Prop where
  waited : ∀ (i : Nat) m, f.members[i]? = some m → Waited m (f.underWay i) (f.tasks i)
  /-- Only stores that are there are being closed. -/
  known : ∀ i : Nat, f.members[i]? = none → (f.tasks i).closing = none

theorem patient_empty : ({} : Fleet).Patient where
  waited _ _ hm := by cases hm
  known _ _ := rfl

theorem Waited.standsBy {o o' : Option OpenWrite} {x : Task} {m' : Member} (h : Waited m o x)
    (hstands : StandsBy m m') (ho : x.closing = some .stopping → o' = none) : Waited m' o' x where
  closed hclosing := hstands.closed.trans (h.closed hclosing)
  writes := ho
  engaged hstopped := h.engaged (hstands.health ▸ hstopped)

theorem Patient.step (h : f.Patient) (e : Event) : (f.step e).Patient := by
  constructor
  · intro i m' hm'
    cases hm : f.members[i]? with
    | none =>
      obtain ⟨log, settings, rfl, rfl, rfl⟩ := step_born hm hm'
      have htask : (f.step (.openStore log settings)).tasks f.members.length = {} := if_pos rfl
      rw [htask]
      exact ⟨fun hclosing => (by cases hclosing), fun hclosing => (by cases hclosing), fun _ => rfl⟩
    | some m =>
      have hwaited := h.waited i m hm
      by_cases he : e.store? = some i
      · obtain ⟨m₁, hm₁, hmove⟩ := step_moves hm he
        rw [hm'] at hm₁
        cases hm₁
        rw [(step_frame he).underWay]
        exact hmove.waited hwaited
      · obtain ⟨m₁, hm₁, hstands, htask⟩ := step_standsBy hm he
        rw [hm'] at hm₁
        cases hm₁
        rw [htask]
        refine hwaited.standsBy hstands fun hclosing => ?_
        exact writes_stay_none hclosing (hwaited.writes hclosing) he
  · intro i hnone'
    have hnone : f.members[i]? = none := by
      cases hm : f.members[i]? with
      | none => rfl
      | some m =>
        obtain ⟨m', hm'⟩ := step_keeps_member hm e
        rw [hnone'] at hm'
        cases hm'
    exact step_absent_closing hnone (h.known i hnone) e

theorem Patient.run (h : f.Patient) (es : List Event) : (f.run es).Patient := by
  induction es generalizing f with
  | nil => exact h
  | cons e es ih => exact ih (h.step e)

/-! ## Calls return

Nothing holds up a call that closes a store for good: the write that is under way can end, and the
replay can finish what it is doing and stop.
-/

theorem step_withWrite (hm : f.members[i]? = some m) {e : Traffic.Event} (hadmits : f.admits e)
    {s : Store} {b : Broker} {o : Option OpenWrite}
    (hstep : f.toTraffic.step e = f.withWrite i s b o) :
    (f.step (.traffic e)).members[i]? = some { m with store := s } ∧
      (f.step (.traffic e)).underWay i = o ∧ (f.step (.traffic e)).tasks = f.tasks := by
  have htraffic : f.step (.traffic e) = { f with toTraffic := f.withWrite i s b o } := by
    rw [← hstep]
    exact if_pos hadmits
  rw [htraffic]
  exact ⟨Traffic.withWrite_member hm s b o, Traffic.withWrite_underWay f.toTraffic i s b o, rfl⟩

theorem exists_write_ended (hm : f.members[i]? = some m) (hclosed : m.store.closed) :
    ∃ es m', (f.run es).members[i]? = some m' ∧ (f.run es).underWay i = none ∧
      (f.run es).tasks = f.tasks := by
  rcases hopen : f.underWay i with _ | ⟨d, _ | _ | answer⟩
  case none => exact ⟨[], m, hm, hopen, rfl⟩
  case some.prepared =>
    have hstep : f.toTraffic.step (.note i) = f.withWrite i m.store f.broker none := by
      simp [Traffic.step, hopen, hm, hclosed]
    exact ⟨[.traffic (.note i)], _, step_withWrite hm rfl hstep⟩
  case some.noted =>
    obtain ⟨b, answer, hstep⟩ : ∃ b answer, f.toTraffic.step (.append i none) =
        f.withWrite i m.store b (some ⟨d, .asked answer⟩) := by
      cases happend : f.broker.append m.store.log ⟨d.id, d.encode⟩ with
      | error e => exact ⟨_, _, Traffic.step_append_error hm hopen happend none⟩
      | ok b => exact ⟨_, _, Traffic.step_append_ok hm hopen happend none⟩
    obtain ⟨hm₁, hopen₁, htasks₁⟩ := step_withWrite hm rfl hstep
    obtain ⟨hm', hidle, htasks⟩ := step_withWrite hm₁ rfl (Traffic.step_endWrite hm₁ hopen₁)
    exact ⟨[.traffic (.append i none), .traffic (.endWrite i)], _, hm', hidle,
      htasks.trans htasks₁⟩
  case some.asked =>
    exact ⟨[.traffic (.endWrite i)], _,
      step_withWrite hm rfl (Traffic.step_endWrite hm hopen)⟩

theorem exists_engagement_ended (hm : f.members[i]? = some m) :
    ∃ es m', (f.run es).members[i]? = some m' ∧
      (f.run es).tasks i = { f.tasks i with engaged := .free } := by
  cases hengaged : (f.tasks i).engaged with
  | free => exact ⟨[], m, hm, by rw [← hengaged]; rfl⟩
  | asking =>
    have hstep := step_answer hm hengaged
    refine ⟨[.answer i], _, member_of_withTask hm hstep, ?_⟩
    exact (congrArg (·.tasks i) hstep).trans (withTask_tasks ..)
  | holding r =>
    have hstep := step_fold hm hengaged
    refine ⟨[.fold i], _, member_of_withTask hm hstep, ?_⟩
    exact (congrArg (·.tasks i) hstep).trans (withTask_tasks ..)

/-- Whatever is under way in a store, a call that closes it can go on until it returns. -/
theorem exists_closeReturns (hm : f.members[i]? = some m) (hheld : m.dropped = false)
    (hopen : m.store.closed = false) (client : Except LogError Unit) :
    ∃ es, CloseReturns i (f.run (.beginClose i :: es)) (.endClose i client) := by
  -- the store counts as closed, and the write under way ends
  have hbegin := step_beginClose hm hheld hopen
  have hm₁ := member_of_withTask hm hbegin
  have hclosing₁ : ((f.step (.beginClose i)).tasks i).closing = some .begun := by
    rw [hbegin, withTask_tasks]
  obtain ⟨writes, m₂, hm₂, hidle₂, htasks₂⟩ := exists_write_ended hm₁ rfl
  -- the replay is told to stop, and finishes what it is doing
  let f₂ := (f.step (.beginClose i)).run writes
  have htell := step_tell hm₂ (by rw [htasks₂, hclosing₁]) hidle₂
  have hm₃ : (f₂.step (.tell i)).members[i]? = some m₂ := member_of_withTask hm₂ htell
  have htask₃ : (f₂.step (.tell i)).tasks i =
      { f₂.tasks i with told := true, closing := some .stopping } := by
    rw [htell, withTask_tasks]
  obtain ⟨engagement, m₄, hm₄, htask₄⟩ := exists_engagement_ended hm₃
  rw [htask₃] at htask₄
  -- the replay stops
  let f₄ := (f₂.step (.tell i)).run engagement
  have hhalt := step_halt hm₄ (by rw [htask₄]) (by rw [htask₄])
  have hm₅ := member_of_withTask hm₄ hhalt
  have hclosing₅ : ((f₄.step (.halt i)).tasks i).closing = some .stopping := by
    rw [hhalt, withTask_tasks, htask₄]
  have hend := step_endClose hm₅ hclosing₅ (Replay.stop_health _ _) client
  have hrun : f.run (.beginClose i :: (writes ++ [.tell i] ++ engagement ++ [.halt i])) =
      f₄.step (.halt i) := by
    show (f.step (.beginClose i)).run _ = _
    rw [run_append, run_append, run_append]
    rfl
  refine ⟨writes ++ [.tell i] ++ engagement ++ [.halt i], ?_⟩
  rw [hrun]
  constructor
  · rw [hclosing₅]
    rfl
  · rw [hend, withTask_tasks]

/-! ## After the call has returned -/

/-- The store `i`, which shows `v`, is closed, its replay has stopped, and none of its writes has
come to the log. -/
structure Inert (f : Fleet) (i : Nat) (v : View) (m : Member) : Prop where
  member : f.members[i]? = some m
  view : m.store.view = v
  closed : m.store.closed
  stopped : m.store.health = .stopped
  engaged : (f.tasks i).engaged = .free
  quiet : Traffic.Quiet (f.underWay i)

theorem Moves.closing_none {b b' : Broker} {o : Option OpenWrite} {m' : Member} {x x' : Task}
    {ts : List Turn} (hmove : Moves b o m x ts m' b' x') (hbefore : x.closing.isSome)
    (hafter : x'.closing = none) :
    x.closing = some .stopping ∧ m.store.health = .stopped ∧ m' = m ∧ x'.engaged = x.engaged := by
  cases hmove with
  | endClose b' hclosing hstopped => exact ⟨hclosing, hstopped, rfl, rfl⟩
  | beginClose => cases hafter
  | tell => cases hafter
  | _ =>
    have hnone : x.closing = none := hafter
    rw [hnone] at hbefore
    cases hbefore

/-- A store is inert when the call that closes it returns. -/
theorem Patient.inert (h : f.Patient) {e : Event} (hreturns : CloseReturns i f e) :
    ∃ m, (f.step e).Inert i m.store.view m := by
  obtain ⟨hbefore, hafter⟩ := hreturns
  cases hm : f.members[i]? with
  | none =>
    rw [h.known i hm] at hbefore
    cases hbefore
  | some m =>
    have hwaited := h.waited i m hm
    have he : e.store? = some i := by
      by_contra he
      obtain ⟨-, -, -, htask⟩ := step_standsBy hm he
      rw [htask] at hafter
      rw [hafter] at hbefore
      cases hbefore
    obtain ⟨m', hm', hmove⟩ := step_moves hm he
    obtain ⟨hclosing, hstopped, rfl, hengaged⟩ := hmove.closing_none hbefore hafter
    refine ⟨m', hm', rfl, hwaited.closed hbefore, hstopped, ?_, .inl ?_⟩
    · exact hengaged.trans (hwaited.engaged hstopped)
    · rw [(step_frame he).underWay]
      exact hwaited.writes hclosing

theorem Moves.inert {b b' : Broker} {o : Option OpenWrite} {m' : Member} {x x' : Task}
    {ts : List Turn} (hmove : Moves b o m x ts m' b' x') (hclosed : m.store.closed)
    (hstopped : m.store.health = .stopped) (hengaged : x.engaged = .free) :
    m'.store = m.store ∧ x'.engaged = .free := by
  have hphase := Replay.health_eq_stopped.1 hstopped
  cases hmove with
  | wake _ _ hpausing => simp [Replay.pausing, hphase] at hpausing
  | answer hasking =>
    rw [hengaged] at hasking
    cases hasking
  | read =>
    rw [Store.read, Replay.read_of_stopped hphase]
    exact ⟨rfl, hengaged⟩
  | take r _ hr =>
    rw [Store.read, Replay.read_of_stopped hphase] at hr
    cases hr
  | fold r hholding =>
    rw [hengaged] at hholding
    cases hholding
  | halt =>
    rw [Store.release, Replay.stop_of_stopped hphase]
    exact ⟨rfl, hengaged⟩
  | beginClose hopen =>
    rw [hclosed] at hopen
    cases hopen
  | _ => exact ⟨rfl, hengaged⟩

/-- The writes of an inert store do nothing but end. -/
theorem Inert.write {v : View} (h : f.Inert i v m) {e : Traffic.Event} (he : e.writer? = some i) :
    (f.step (.traffic e)).members[i]? = some m ∧ (f.step (.traffic e)).broker = f.broker ∧
      Traffic.Quiet ((f.step (.traffic e)).underWay i) := by
  simp only [Fleet.step]
  split
  · exact Traffic.step_of_closed h.member h.closed h.quiet he
  · exact ⟨h.member, rfl, h.quiet⟩

theorem Inert.step {v : View} (h : f.Inert i v m) (e : Event) :
    ∃ m', (f.step e).Inert i v m' := by
  by_cases he : e.store? = some i
  · obtain ⟨m', hm', hmove⟩ := step_moves h.member he
    obtain ⟨hstore, hengaged⟩ := hmove.inert h.closed h.stopped h.engaged
    refine ⟨m', hm', ?_, ?_, ?_, hengaged, ?_⟩
    · rw [hstore, h.view]
    · rw [hstore, h.closed]
    · rw [hstore, h.stopped]
    · rw [(step_frame he).underWay]
      exact h.quiet
  · obtain ⟨m', hm', hstands, htask⟩ := step_standsBy h.member he
    have hview : m'.store.view = m.store.view ∧ Traffic.Quiet ((f.step e).underWay i) := by
      by_cases hwriter : e.writer? = some i
      · cases e with
        | traffic e =>
          obtain ⟨hsame, -, hquiet⟩ := h.write hwriter
          rw [hm'] at hsame
          cases hsame
          exact ⟨rfl, hquiet⟩
        | _ => cases hwriter
      · obtain ⟨m₁, hm₁, hview, hopen⟩ := step_elsewhere h.member he hwriter
        rw [hm'] at hm₁
        cases hm₁
        rw [hopen]
        exact ⟨hview, h.quiet⟩
    exact ⟨m', hm', hview.1.trans h.view, hstands.closed.trans h.closed,
      hstands.health.trans h.stopped, htask ▸ h.engaged, hview.2⟩

theorem Inert.run {v : View} (h : f.Inert i v m) (es : List Event) :
    ∃ m', (f.run es).Inert i v m' := by
  induction es generalizing f m with
  | nil => exact ⟨m, h⟩
  | cons e es ih =>
    obtain ⟨m₁, h₁⟩ := h.step e
    exact ih h₁

/-- Once the first call that closes a store has returned, whatever the log client has answered and
whatever happens later: the replay has stopped and has given its reader back, what the store shows
is as it was, and none of its writes succeeds or changes the logs, neither at once nor step by
step. -/
theorem closed_store_stays_as_it_is {es : List Event} {i : Nat} {e : Event}
    (hreturns : CloseReturns i (({} : Fleet).run es) e) (later : List Event) :
    let closed := ({} : Fleet).run (es ++ [e])
    let f := closed.run later
    ∃ m m', closed.members[i]? = some m ∧ f.members[i]? = some m' ∧
      m'.store.health = .stopped ∧
      ({} : Fleet).takenIn i (es ++ [e] ++ later) = 0 ∧
      m'.store.view = m.store.view ∧
      (∀ b w now, ∃ err, m'.store.write b w now = (.error err, m'.store, b)) ∧
      ∀ x : Traffic.Event, x.writer? = some i →
        (f.step (.traffic x)).broker = f.broker ∧ f.written i (.traffic x) = [] := by
  intro closed f
  have hclosed : closed = (({} : Fleet).run es).step e := run_concat {} es e
  obtain ⟨m, hm⟩ := (patient_empty.run es).inert hreturns
  rw [← hclosed] at hm
  obtain ⟨m', h⟩ := hm.run later
  refine ⟨m, m', hm.member, h.member, h.stopped, ?_, h.view, ?_, fun x hx => ?_⟩
  · rw [balanced_empty.takenIn i, run_append]
    show ((f.heldBy i : Nat) : Int) - 0 = 0
    rw [heldBy_eq h.member, Replay.held_of_stopped h.stopped]
    rfl
  · exact fun b w now => Store.write_of_closed h.closed b w now
  · exact ⟨(h.write hx).2.1, written_of_quiet h.quiet _⟩

/-- A degraded store is closed, although its log client cannot be. -/
theorem closed_store_stays_as_it_is_degraded :
    let before : List Event :=
      [.traffic (.act (.call (.broker (.failOpens true)))), .openStore "registry" ⟨5, 10, 0⟩,
        .wake 0, .answer 0]
    let es := before ++ [.beginClose 0, .tell 0, .halt 0]
    let e : Event := .endClose 0 (.error .closed)
    (({} : Fleet).run before).members.map (·.store.health) = [.degraded 1] ∧
      CloseReturns 0 (({} : Fleet).run es) e ∧
      ∀ later, ∃ m', ((({} : Fleet).run (es ++ [e])).run later).members[0]? = some m' ∧
        m'.store.health = .stopped := by
  intro before es e
  have hreturns : CloseReturns 0 (({} : Fleet).run es) e := ⟨rfl, rfl⟩
  refine ⟨rfl, hreturns, fun later => ?_⟩
  obtain ⟨m, m', -, hm', hstopped, -⟩ := closed_store_stays_as_it_is hreturns later
  exact ⟨m', hm', hstopped⟩

end Fleet

end ReplayRegistry
