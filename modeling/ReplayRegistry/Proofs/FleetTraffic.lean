import ReplayRegistry.Proofs.OpenReaders

/-!
# Proofs: traffic in a fleet

What traffic and clusters let a store do at once is done by a fleet in steps: to open a reader, to
read and fold, to close. So whatever is true of all fleets when nothing but writes is under way is
true of traffic and of clusters.
-/

namespace ReplayRegistry

open Time (Timestamp)

theorem modify_append_cons {α : Type} (before : List α) (x : α) (after : List α) (g : α → α) :
    (before ++ x :: after).modify before.length g = before ++ g x :: after := by
  induction before with
  | nil => rfl
  | cons y ys ih => exact congrArg (y :: ·) ih

namespace Fleet

variable {f : Fleet} {i : Nat} {m : Member}

/-- Nothing is under way in the stores of a fleet but writes. Replays that have been told to stop
have stopped, and no call that closes a store waits. -/
structure Settled (f : Fleet) : Prop where
  engaged : ∀ i : Nat, (f.tasks i).engaged = .free
  closing : ∀ i : Nat, (f.tasks i).closing = none
  told : ∀ (i : Nat) m, f.members[i]? = some m → (f.tasks i).told → m.store.health = .stopped

theorem settled_empty : ({} : Fleet).Settled where
  engaged _ := rfl
  closing _ := rfl
  told _ _ hm := by cases hm

/-- Events that leave the tasks of the stores as they were leave a settled fleet settled. -/
theorem Settled.of_tasks (h : f.Settled) {es : List Event} (htasks : (f.run es).tasks = f.tasks)
    (hlength : (f.run es).members.length = f.members.length) : (f.run es).Settled where
  engaged i := by rw [htasks, h.engaged]
  closing i := by rw [htasks, h.closing]
  told i m' hm' htold := by
    have hi := (List.getElem?_eq_some_iff.1 hm').1
    have hm := List.getElem?_eq_getElem (hlength ▸ hi)
    rw [htasks] at htold
    obtain ⟨m₁, hm₁, hstopped⟩ := stopped_run hm (h.told i _ hm htold) es
    rw [hm'] at hm₁
    cases hm₁
    exact hstopped

theorem withTask_eq_tasks (f : Fleet) (i : Nat) (s : Store) (b : Broker) :
    (f.withTask i s b (f.tasks i)).tasks = f.tasks := by
  funext j
  simp only [withTask]
  split
  · rename_i hj
    rw [hj]
  · rfl

theorem withTask_self (hm : f.members[i]? = some m) :
    f.withTask i m.store f.broker (f.tasks i) = f := by
  have htasks := withTask_eq_tasks f i m.store f.broker
  have hcluster := Cluster.setStore_self (c := f.toCluster) hm
  show (⟨⟨f.toCluster.setStore i m.store f.broker, f.underWay⟩,
    (f.withTask i m.store f.broker (f.tasks i)).tasks⟩ : Fleet) = f
  rw [htasks, hcluster]

theorem Settled.of_withTask (h : f.Settled) {es : List Event} {s : Store} {b : Broker}
    (hrun : f.run es = f.withTask i s b (f.tasks i)) : (f.run es).Settled := by
  refine h.of_tasks ?_ ?_
  · rw [hrun, withTask_eq_tasks]
  · rw [hrun]
    exact (f.frame_withTask i s b _).length

/-! ## Opening readers -/

theorem Settled.told_eq_false (h : f.Settled) (hm : f.members[i]? = some m)
    (hpausing : m.store.replay.pausing) : (f.tasks i).told = false := by
  cases htold : (f.tasks i).told with
  | false => rfl
  | true => exact absurd (h.told i m hm htold) (Replay.not_stopped_of_pausing hpausing)

/-- Attempts that need no delay are made one after another. -/
theorem Settled.exists_settle (h : f.Settled) (hm : f.members[i]? = some m) (n : Nat) :
    ∃ es, f.run es =
      f.withTask i { m.store with replay := (m.store.replay.settle n f.broker).1 }
        (m.store.replay.settle n f.broker).2 (f.tasks i) := by
  induction n generalizing f m with
  | zero => exact ⟨[], (withTask_self hm).symm⟩
  | succ n ih =>
    unfold Replay.settle
    split
    · rename_i hdelay
      have hpausing := Replay.pausing_of_delay hdelay
      obtain ⟨hrun, -⟩ := run_attempt hm (h.engaged i) (h.told_eq_false hm hpausing) hpausing
      have h₁ := h.of_withTask hrun
      have hm₁ := member_of_withTask hm hrun
      obtain ⟨es, hes⟩ := ih h₁ hm₁
      refine ⟨[.wake i, .answer i] ++ es, ?_⟩
      rw [run_append, hes, hrun, withTask_withTask, withTask_tasks]
      rfl
    · exact ⟨[], (withTask_self hm).symm⟩

theorem Settled.exists_attemptOpen (h : f.Settled) (hm : f.members[i]? = some m) :
    ∃ es, f.run es =
      f.withTask i (m.store.attemptOpen f.broker).1 (m.store.attemptOpen f.broker).2
        (f.tasks i) := by
  rw [Store.attemptOpen_eq]
  cases hpausing : m.store.replay.pausing with
  | false =>
    have hsame : m.store.attempt f.broker = (m.store, f.broker) := by
      rw [Store.attempt, Replay.attemptOpen_of_not_pausing hpausing]
    rw [hsame]
    exact h.exists_settle hm (m.store.replay.settings.maxRestarts + 2)
  | true =>
    obtain ⟨hrun, -⟩ := run_attempt hm (h.engaged i) (h.told_eq_false hm hpausing) hpausing
    have hm₁ := member_of_withTask hm hrun
    obtain ⟨es, hes⟩ := (h.of_withTask hrun).exists_settle hm₁
      ((m.store.attempt f.broker).1.replay.settings.maxRestarts + 2)
    refine ⟨[.wake i, .answer i] ++ es, ?_⟩
    rw [run_append, hes, hrun, withTask_withTask, withTask_tasks]
    rfl

/-! ## Traffic step by step -/

/-- From the fleet one can come to the traffic `t` with nothing else under way. -/
def Reaches (f : Fleet) (t : Traffic) : Prop :=
  ∃ es, (f.run es).toTraffic = t ∧ (f.run es).Settled

theorem Settled.reaches (h : f.Settled) : f.Reaches f.toTraffic := ⟨[], rfl, h⟩

theorem Settled.reaches_of_eq (h : f.Settled) {t : Traffic} (hsame : t = f.toTraffic) :
    f.Reaches t := by
  rw [hsame]
  exact h.reaches

theorem Reaches.after {es : List Event} {t : Traffic} (h : (f.run es).Reaches t) : f.Reaches t := by
  obtain ⟨later, hlater⟩ := h
  rw [← run_append] at hlater
  exact ⟨es ++ later, hlater⟩

theorem Settled.reaches_withTask (h : f.Settled) {es : List Event} {s : Store} {b : Broker}
    (hrun : f.run es = f.withTask i s b (f.tasks i)) :
    f.Reaches { f.toTraffic with toCluster := f.toCluster.setStore i s b } :=
  ⟨es, congrArg Fleet.toTraffic hrun, h.of_withTask hrun⟩

theorem Settled.reaches_traffic (h : f.Settled) {e : Traffic.Event} (hadmits : f.admits e) :
    f.Reaches (f.toTraffic.step e) := by
  have hstep : f.run [.traffic e] = { f with toTraffic := f.toTraffic.step e } := if_pos hadmits
  refine ⟨[.traffic e], congrArg Fleet.toTraffic hstep, h.of_tasks ?_ ?_⟩
  · exact f.step_traffic_tasks e
  · exact f.step_traffic_length e

/-- The steps of writes are admitted when no call that closes a store waits. -/
theorem Settled.admits_writer (h : f.Settled) {e : Traffic.Event} (he : e.writer?.isSome) :
    f.admits e := by
  cases e with
  | act a => cases he
  | prepare i w now => simp [admits, h.closing i]
  | _ => rfl

theorem Settled.reaches_run (h : f.Settled) {es : List Traffic.Event}
    (hes : ∀ e ∈ es, e.writer?.isSome) : f.Reaches (f.toTraffic.run es) := by
  induction es generalizing f with
  | nil => exact h.reaches
  | cons e es ih =>
    obtain ⟨first, htraffic, h₁⟩ := h.reaches_traffic (h.admits_writer (hes e (by simp)))
    have hrest := ih h₁ fun e he => hes e (List.mem_cons_of_mem _ he)
    rw [htraffic] at hrest
    exact hrest.after

theorem Settled.reaches_write (h : f.Settled) (i : Nat) (w : Write) (now : Timestamp) :
    f.Reaches (f.toTraffic.step (.act (.write i w now))) := by
  cases hidle : f.underWay i with
  | some o => exact h.reaches_of_eq (by simp [Traffic.step, Cluster.Action.user?, hidle])
  | none =>
    cases hm : f.members[i]? with
    | none =>
      exact h.reaches_of_eq (by simp [Traffic.step, Cluster.Action.user?, hidle, Cluster.step,
        Cluster.write, Cluster.withStore, Cluster.withMember, hm])
    | some m =>
      cases hheld : m.dropped with
      | true =>
        exact h.reaches_of_eq (by simp [Traffic.step, Cluster.Action.user?, hidle, Cluster.step,
          Cluster.write, Cluster.withStore, Cluster.withMember, hm, hheld])
      | false =>
        rw [← Traffic.run_write hm hheld hidle]
        exact h.reaches_run (by simp [Traffic.Event.writer?])

/-- A read that gives no record, and the attempts that follow it at once if it fails. -/
theorem Settled.reaches_read (h : f.Settled) (hm : f.members[i]? = some m)
    (hr : ∀ r, (m.store.read f.broker).1 ≠ .record r) :
    f.Reaches { f.toTraffic with
      toCluster := f.toCluster.setStore i
        ((m.store.read f.broker).2.1.settle (m.store.read f.broker).2.2).1
        ((m.store.read f.broker).2.1.settle (m.store.read f.broker).2.2).2 } := by
  have hread : f.run [.read i] = f.withTask i (m.store.read f.broker).2.1
      (m.store.read f.broker).2.2 (f.tasks i) := step_read hm (h.engaged i) hr
  have hm₁ := member_of_withTask hm hread
  obtain ⟨es, hes⟩ := (h.of_withTask hread).exists_settle hm₁
    ((m.store.read f.broker).2.1.replay.settings.maxRestarts + 2)
  have hrun : f.run ([.read i] ++ es) = f.withTask i
      ((m.store.read f.broker).2.1.settle (m.store.read f.broker).2.2).1
      ((m.store.read f.broker).2.1.settle (m.store.read f.broker).2.2).2 (f.tasks i) := by
    rw [run_append, hes, hread, withTask_withTask, withTask_tasks]
    rfl
  exact h.reaches_withTask hrun

theorem Settled.reaches_deliver (h : f.Settled) (hm : f.members[i]? = some m) :
    f.Reaches { f.toTraffic with
      toCluster := f.toCluster.setStore i (m.store.deliver f.broker).2.1
        (m.store.deliver f.broker).2.2 } := by
  rw [Store.deliver_eq]
  rcases hread : m.store.read f.broker with ⟨d, s, b⟩
  cases d with
  | record r =>
    have htake := step_take hm (h.engaged i) hread
    have hm₁ := member_of_withTask hm htake
    have hholding : ((f.step (.read i)).tasks i).engaged = .holding r := by
      rw [htake, withTask_tasks]
    have hfree : { f.tasks i with engaged := .free } = f.tasks i := by rw [← h.engaged i]
    have hrun : f.run [.read i, .fold i] = f.withTask i (s.fold r) b (f.tasks i) := by
      show (f.step (.read i)).step (.fold i) = _
      rw [step_fold hm₁ hholding, htake, withTask_tasks, withTask_broker, withTask_withTask]
      exact congrArg _ hfree
    exact h.reaches_withTask hrun
  | _ =>
    have hsettle := h.reaches_read hm (by simp [hread])
    rw [hread] at hsettle
    exact hsettle

/-- The stores whose delays end try to open a reader one after another. -/
theorem Settled.reaches_wake (ms : List Member) :
    ∀ {f : Fleet} (before : List Member), f.Settled → f.members = before ++ ms →
      f.Reaches { f.toTraffic with
        broker := (Cluster.wake ms f.broker).2
        members := before ++ (Cluster.wake ms f.broker).1 } := by
  induction ms with
  | nil =>
    intro f before h hmembers
    have hsame : f.toTraffic = { f.toTraffic with members := before ++ [] } := by rw [← hmembers]
    exact hsame ▸ h.reaches
  | cons m ms ih =>
    intro f before h hmembers
    have hm : f.members[before.length]? = some m := by
      rw [hmembers, List.getElem?_append_right (Nat.le_refl _), Nat.sub_self]
      rfl
    obtain ⟨es, hes⟩ := h.exists_attemptOpen hm
    have hmembers₁ : (f.run es).members =
        (before ++ [{ m with store := (m.store.attemptOpen f.broker).1 }]) ++ ms := by
      rw [hes]
      show f.members.modify before.length _ = _
      rw [hmembers, modify_append_cons]
      simp
    have hrest := (ih _ (h.of_withTask hes) hmembers₁).after
    rw [hes, withTask_broker, List.append_assoc] at hrest
    exact hrest

theorem Settled.openStore (h : f.Settled) (log : String) (settings : ReplaySettings) :
    (f.run [.openStore log settings]).Settled := by
  let new : Member := ⟨Store.opened log settings, false⟩
  have hmembers : (f.run [.openStore log settings]).members = f.members ++ [new] := rfl
  have htask : ∀ i : Nat, (f.run [.openStore log settings]).tasks i =
      if i = f.members.length then {} else f.tasks i := fun _ => rfl
  refine ⟨fun i => ?_, fun i => ?_, fun i m hm htold => ?_⟩
  · rw [htask]
    split
    · rfl
    · exact h.engaged i
  · rw [htask]
    split
    · rfl
    · exact h.closing i
  · rw [htask] at htold
    split at htold
    · cases htold
    · rename_i hi
      rw [hmembers] at hm
      have hlength := (List.getElem?_eq_some_iff.1 hm).1
      rw [List.length_append, List.length_singleton] at hlength
      rw [List.getElem?_append_left (by omega)] at hm
      exact h.told i m hm htold

theorem Settled.reaches_openStore (h : f.Settled) (log : String) (settings : ReplaySettings) :
    f.Reaches { f.toTraffic with toCluster := (f.toCluster.openStore log settings).2 } := by
  have hm : (f.run [.openStore log settings]).members[f.members.length]? =
      some ⟨Store.opened log settings, false⟩ := List.getElem?_concat_length
  have hbroker : (f.run [.openStore log settings]).broker = f.broker := rfl
  obtain ⟨es, hes⟩ := (h.openStore log settings).exists_attemptOpen hm
  rcases hopened : (Store.opened log settings).attemptOpen f.broker with ⟨s, b⟩
  rw [hbroker, hopened] at hes
  have hcluster : (f.run [.openStore log settings]).toCluster.setStore f.members.length s b =
      (f.toCluster.openStore log settings).2 := by
    simp only [Cluster.openStore, hopened]
    show ({ f.toCluster with broker := b, members := List.modify _ _ _ } : Cluster) = _
    exact congrArg (Cluster.mk ⟨b, f.readers⟩) (modify_append_cons _ _ _ _)
  have hreaches := ((h.openStore log settings).reaches_withTask hes).after
  rw [hcluster] at hreaches
  exact hreaches

/-! ## Stopping replays -/

/-- A fleet in which all is as it was, but for a store that has stopped. -/
theorem Settled.of_frame (h : f.Settled) {g : Fleet} (hframe : f.Frame g i) {m' : Member}
    (hm' : g.members[i]? = some m') (hengaged : (g.tasks i).engaged = .free)
    (hclosing : (g.tasks i).closing = none) (hstopped : m'.store.health = .stopped) :
    g.Settled := by
  refine ⟨fun j => ?_, fun j => ?_, fun j mj hmj htold => ?_⟩
  · by_cases hj : i = j
    · exact hj ▸ hengaged
    · rw [(hframe.others j hj).2, h.engaged]
  · by_cases hj : i = j
    · exact hj ▸ hclosing
    · rw [(hframe.others j hj).2, h.closing]
  · by_cases hj : i = j
    · subst hj
      rw [hm'] at hmj
      cases hmj
      exact hstopped
    · rw [(hframe.others j hj).1] at hmj
      rw [(hframe.others j hj).2] at htold
      exact h.told j mj hmj htold

/-- A call that closes a store, with nothing in between. -/
theorem Settled.run_close (h : f.Settled) (hm : f.members[i]? = some m) (hheld : m.dropped = false)
    (hopen : m.store.closed = false) (hidle : f.underWay i = none)
    (client : Except LogError Unit) :
    f.run [.beginClose i, .tell i, .halt i, .endClose i client] =
      f.withTask i (m.store.close f.broker client).2.1 (m.store.close f.broker client).2.2
        { told := true } := by
  have hfree := h.engaged i
  let s : Store := { m.store with closed := true }
  have hbegin : f.step (.beginClose i) =
      f.withTask i s f.broker { f.tasks i with closing := some .begun } :=
    step_beginClose hm hheld hopen
  have htell : (f.withTask i s f.broker { f.tasks i with closing := some .begun }).step (.tell i) =
      f.withTask i s f.broker { told := true, closing := some .stopping } := by
    rw [step_tell (withTask_member hm _ _ _) (by rw [withTask_tasks]) hidle, withTask_withTask,
      withTask_tasks, withTask_broker, ← hfree]
  have hhalt : (f.withTask i s f.broker { told := true, closing := some .stopping }).step
      (.halt i) = f.withTask i (s.release f.broker).1 (s.release f.broker).2
        { told := true, closing := some .stopping } := by
    rw [step_halt (withTask_member hm _ _ _) (by rw [withTask_tasks]) (by rw [withTask_tasks]),
      withTask_withTask, withTask_tasks, withTask_broker]
  have hend := step_endClose (withTask_member hm (s.release f.broker).1 (s.release f.broker).2
    { told := true, closing := some .stopping }) (by rw [withTask_tasks])
    (Replay.stop_health s.replay f.broker) client
  rw [withTask_withTask, withTask_tasks, withTask_broker] at hend
  show (((f.step (.beginClose i)).step (.tell i)).step (.halt i)).step (.endClose i client) = _
  rw [hbegin, htell, hhalt, hend]
  cases client <;> simp [Store.close, hopen, s, Store.release]

/-- A store that is dropped, and its replay stops. -/
theorem Settled.run_drop (h : f.Settled) (hm : f.members[i]? = some m)
    (hidle : f.underWay i = none) :
    (f.run [.dropStore i, .halt i]).toTraffic =
        { f.toTraffic with
          broker := (m.store.release f.broker).2
          members := f.members.modify i fun _ => ⟨(m.store.release f.broker).1, true⟩ } ∧
      (f.run [.dropStore i, .halt i]).Settled := by
  have hdrop := step_dropStore hm (h.closing i) hidle
  have hm₁ : (f.step (.dropStore i)).members[i]? = some { m with dropped := true } := by
    rw [hdrop]
    simp only [List.getElem?_modify, withTask_member hm]
    rfl
  have htask : (f.step (.dropStore i)).tasks i = { f.tasks i with told := true } := by
    rw [hdrop]
    exact if_pos rfl
  have hengaged : ((f.step (.dropStore i)).tasks i).engaged = .free := by
    rw [htask]
    exact h.engaged i
  have hbroker : (f.step (.dropStore i)).broker = f.broker := by rw [hdrop]; rfl
  have hhalt : f.run [.dropStore i, .halt i] = (f.step (.dropStore i)).withTask i
      (m.store.release f.broker).1 (m.store.release f.broker).2
      ((f.step (.dropStore i)).tasks i) := by
    have hstep := step_halt hm₁ hengaged (by rw [htask])
    rw [hbroker] at hstep
    exact hstep
  constructor
  · have hmembers : ((f.members.modify i fun x => { x with store := m.store }).modify i
        fun x => { x with dropped := true }).modify i
          (fun x => { x with store := (m.store.release f.broker).1 }) =
        f.members.modify i fun _ => ⟨(m.store.release f.broker).1, true⟩ := by
      rw [List.modify_modify_eq, List.modify_modify_eq]
      rfl
    rw [hhalt, hdrop]
    show (⟨⟨⟨_, f.readers⟩, _⟩, f.underWay⟩ : Traffic) = _
    exact congrArg (fun ms => (⟨⟨⟨_, f.readers⟩, ms⟩, f.underWay⟩ : Traffic)) hmembers
  · rw [hhalt]
    refine h.of_frame ((step_frame (j := i) rfl).trans (frame_withTask _ i _ _ _))
      (withTask_member hm₁ _ _ _) ?_ ?_ (Replay.stop_health m.store.replay f.broker)
    · rw [withTask_tasks]
      exact hengaged
    · rw [withTask_tasks, htask]
      exact h.closing i

theorem Settled.reaches_close (h : f.Settled) (hm : f.members[i]? = some m)
    (hheld : m.dropped = false) (hidle : f.underWay i = none) (client : Except LogError Unit) :
    f.Reaches { f.toTraffic with
      toCluster := f.toCluster.setStore i (m.store.close f.broker client).2.1
        (m.store.close f.broker client).2.2 } := by
  cases hopen : m.store.closed with
  | true =>
    have hsame : m.store.close f.broker client = (.ok (), m.store, f.broker) := by
      simp [Store.close, hopen]
    rw [hsame, Cluster.setStore_self hm]
    exact h.reaches
  | false =>
    have hrun := h.run_close hm hheld hopen hidle client
    have hstopped : (m.store.close f.broker client).2.1.health = .stopped := by
      cases client <;> simp [Store.close, hopen, Store.health, Replay.stop_health]
    refine ⟨_, congrArg Fleet.toTraffic hrun, ?_⟩
    rw [hrun]
    refine h.of_frame (f.frame_withTask i _ _ _) (withTask_member hm _ _ _) ?_ ?_ hstopped
    · rw [withTask_tasks]
    · rw [withTask_tasks]

/-! ## All that traffic does -/

/-- Whatever can happen in traffic can happen in a settled fleet, which is settled again. -/
theorem Settled.step (h : f.Settled) (e : Traffic.Event) : f.Reaches (f.toTraffic.step e) := by
  by_cases hwriter : e.writer?.isSome
  · exact h.reaches_traffic (h.admits_writer hwriter)
  · cases e with
    | act a =>
      by_cases hbusy : (a.user?.bind f.underWay).isSome
      · exact h.reaches_of_eq (if_pos hbusy)
      · have hact : f.toTraffic.step (.act a) =
            { f.toTraffic with toCluster := (f.toCluster.step a).2 } := if_neg hbusy
        have hunchanged (hsame : (f.toCluster.step a).2 = f.toCluster) :
            f.Reaches (f.toTraffic.step (.act a)) := h.reaches_of_eq (by rw [hact, hsame])
        cases a with
        | call x => exact h.reaches_traffic rfl
        | stayUp ms => exact h.reaches_traffic rfl
        | openStore log settings =>
          rw [hact]
          exact h.reaches_openStore log settings
        | write i w now => exact h.reaches_write i w now
        | deliver i =>
          rcases Cluster.deliver_cases f.toCluster i with hsame | ⟨m, hm, hstep⟩
          · exact hunchanged (congrArg Prod.snd hsame)
          · rw [hact, hstep]
            exact h.reaches_deliver hm
        | tick =>
          rw [hact]
          exact h.reaches_wake f.members [] rfl
        | closeStore i client =>
          have hidle : f.underWay i = none := by simpa [Cluster.Action.user?] using hbusy
          cases hm : f.members[i]? with
          | none =>
            exact hunchanged (by
              simp [Cluster.step, Cluster.closeStore, Cluster.withStore, Cluster.withMember, hm])
          | some m =>
            cases hheld : m.dropped with
            | true =>
              exact hunchanged (by
                simp [Cluster.step, Cluster.closeStore, Cluster.withStore, Cluster.withMember, hm,
                  hheld])
            | false =>
              rw [hact, Cluster.closeStore_step hm hheld]
              exact h.reaches_close hm hheld hidle client
        | dropStore i =>
          have hidle : f.underWay i = none := by simpa [Cluster.Action.user?] using hbusy
          rcases Cluster.dropStore_cases f.toCluster i with hsame | ⟨m, hm, hstep⟩
          · exact hunchanged hsame
          · rw [hact, hstep]
            obtain ⟨htraffic, hsettled⟩ := h.run_drop hm hidle
            exact ⟨_, htraffic, hsettled⟩
    | _ => exact absurd rfl hwriter

theorem Settled.reaches_traffic_run (h : f.Settled) (es : List Traffic.Event) :
    f.Reaches (f.toTraffic.run es) := by
  induction es generalizing f with
  | nil => exact h.reaches
  | cons e es ih =>
    obtain ⟨first, htraffic, h₁⟩ := h.step e
    have hrest := ih h₁
    rw [htraffic] at hrest
    exact hrest.after

end Fleet

/-- All traffic is that of a fleet in which nothing else is under way. -/
theorem Traffic.Reachable.exists_fleet {t : Traffic} (h : t.Reachable) :
    ∃ f : Fleet, f.Reachable ∧ f.Settled ∧ f.toTraffic = t := by
  obtain ⟨es, rfl⟩ := h
  obtain ⟨steps, htraffic, hsettled⟩ := Fleet.settled_empty.reaches_traffic_run es
  exact ⟨_, ⟨steps, rfl⟩, hsettled, htraffic⟩

/-- In a cluster, too, each store that is tailing holds an open reader, and no other store does. -/
theorem Cluster.Reachable.openReaders_eq {c : Cluster} (h : c.Reachable) :
    c.broker.openReaders = c.inUse + c.members.countP (·.store.health.isTailing) := by
  obtain ⟨f, ⟨es, rfl⟩, -, htraffic⟩ := (Traffic.Reachable.of_cluster h).exists_fleet
  have hcluster : (({} : Fleet).run es).toCluster = c := congrArg Traffic.toCluster htraffic
  rw [← hcluster]
  exact (Fleet.balanced_empty.run es).count

end ReplayRegistry
