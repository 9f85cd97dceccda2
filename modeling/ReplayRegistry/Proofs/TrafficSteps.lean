import ReplayRegistry.Proofs.ClusterActions
import ReplayRegistry.Proofs.ViewHistory
import ReplayRegistry.Store.Traffic

/-!
# Proofs: stores in traffic

However the writes of stores overlap with deliveries, with each other and with what others do to the
broker, a store in which no write is under way has a view between two writes.
-/

namespace ReplayRegistry

open Time (Timestamp)

/-! ## Views of stores -/

/-- What a store reads in an action makes of its view: at most one record is folded. -/
def View.Reads (v w : View) : Prop := w = v ∨ ∃ r, w = (v.foldRecord r).2

namespace Store

variable {s : Store}

theorem deliver_view (s : Store) (b : Broker) : s.view.Reads (s.deliver b).2.1.view := by
  unfold deliver
  obtain ⟨d, replay, b'⟩ := s.replay.read b
  cases d with
  | record r => exact .inr ⟨r, rfl⟩
  | _ => exact .inl rfl

theorem close_view (s : Store) (b : Broker) (client : Except LogError Unit) :
    (s.close b client).2.1.view = s.view := by
  obtain ⟨-, hsame | hclosed⟩ := Cluster.close_spec s b client
  · rw [hsame]
  · rw [hclosed]

theorem write_view (h : s.view.BetweenWrites) (b : Broker) (w : Write) (now : Timestamp) :
    (s.write b w now).2.1.view.BetweenWrites := by
  rcases write_cases h.reachable.tidy b w now with ⟨e, hfail⟩ | ⟨d, b', -, -, hok⟩
  · rw [hfail]
    exact h
  · rw [hok]
    exact h.commit d []

end Store

namespace Cluster

variable {c : Cluster} {i : Nat} {m : Member}

theorem setStore_view (hm : c.members[i]? = some m) {j : Nat} {mj : Member}
    (hmj : c.members[j]? = some mj) {s : Store} (hs : mj.store.view.Reads s.view) (b : Broker) :
    ∃ m', (c.setStore j s b).members[i]? = some m' ∧ m.store.view.Reads m'.store.view := by
  rw [setStore_members]
  split
  · rename_i hj
    subst hj
    rw [hm] at hmj ⊢
    cases hmj
    exact ⟨_, rfl, hs⟩
  · exact ⟨m, hm, .inl rfl⟩

/-- An action that is not a write of a store does no more to the view of the store than a read. -/
theorem step_view (hm : c.members[i]? = some m) {a : Action} (hwrite : ¬ a.IsWrite i) :
    ∃ m', (c.step a).2.members[i]? = some m' ∧ m.store.view.Reads m'.store.view := by
  cases a with
  | call x => exact ⟨m, hm, .inl rfl⟩
  | openStore log settings =>
    obtain ⟨hi, rfl⟩ := List.getElem?_eq_some_iff.1 hm
    exact ⟨_, (List.getElem?_append_left hi).trans hm, .inl rfl⟩
  | write j w now =>
    have hj : j ≠ i := hwrite
    rcases write_setStore c j w now with hstep | ⟨mj, -, hstep⟩
    · exact ⟨m, by rw [hstep, hm], .inl rfl⟩
    · exact ⟨m, by rw [hstep, setStore_members, if_neg hj, hm], .inl rfl⟩
  | deliver j =>
    rcases deliver_cases c j with hstep | ⟨mj, hmj, hstep⟩
    · exact ⟨m, by rw [hstep, hm], .inl rfl⟩
    · rw [hstep]
      exact setStore_view hm hmj (Store.deliver_view mj.store c.broker) _
  | tick =>
    obtain ⟨b₀, -, hwake⟩ := (wake_spec c.members c.broker).2 i m hm
    exact ⟨_, hwake, .inl rfl⟩
  | stayUp ms =>
    refine ⟨{ m with store := m.store.stayUp ms }, ?_, .inl rfl⟩
    have hmembers : (c.step (.stayUp ms)).2.members =
        c.members.map fun m => { m with store := m.store.stayUp ms } := rfl
    rw [hmembers, List.getElem?_map, hm]
    rfl
  | closeStore j client =>
    rcases closeStore_cases c j client with hstep | ⟨mj, hmj, hstep⟩
    · exact ⟨m, by rw [hstep, hm], .inl rfl⟩
    · rw [hstep]
      exact setStore_view hm hmj (.inl (Store.close_view mj.store c.broker client)) _
  | dropStore j =>
    rcases dropStore_cases c j with hstep | ⟨mj, hmj, hstep⟩
    · exact ⟨m, by rw [hstep, hm], .inl rfl⟩
    · rw [hstep]
      simp only [List.getElem?_modify, hm]
      by_cases hj : j = i
      · subst hj
        rw [hm] at hmj
        cases hmj
        exact ⟨⟨(m.store.release c.broker).1, true⟩, by simp, .inl rfl⟩
      · exact ⟨m, by simp [hj], .inl rfl⟩

end Cluster

/-! ## Stores in traffic -/

/-- What is true of the view of a store, by the write that is under way in it. -/
def View.InOrder (v : View) : Option OpenWrite → Prop
  | none => v.BetweenWrites
  | some ⟨_, .prepared⟩ => v.BetweenWrites
  | some ⟨d, .noted⟩ => v.Writing d
  | some ⟨d, .asked _⟩ => v.Writing d

theorem View.InOrder.reads {v w : View} {o : Option OpenWrite} (h : v.InOrder o)
    (hreads : v.Reads w) : w.InOrder o := by
  rcases hreads with rfl | ⟨r, rfl⟩
  · exact h
  · rcases o with _ | ⟨d, _ | _ | _⟩
    · exact BetweenWrites.fold h r
    · exact BetweenWrites.fold h r
    · exact Writing.fold h r
    · exact Writing.fold h r

namespace Store

variable {s : Store} {d : FunctionDoc}

theorem note_view (h : s.view.BetweenWrites) (d : FunctionDoc) : (s.note d).view.Writing d :=
  ⟨s.view, [], h, rfl⟩

theorem endWrite_view (h : s.view.Writing d) (answer : Except LogError Unit) :
    (s.endWrite d answer).2.view.BetweenWrites := by
  obtain ⟨v, rs, hv, hview⟩ := h
  cases answer with
  | error e =>
    have habort : (s.endWrite d (.error e)).2.view = s.view.abortLocal d.id d.encode := rfl
    rw [habort, hview]
    exact hv.abort d rs
  | ok _ =>
    have hcommit : (s.endWrite d (.ok ())).2.view = (s.view.commitLocal d d.encode).2 := rfl
    rw [hcommit, hview]
    exact hv.commit d rs

end Store

namespace Traffic

variable {t : Traffic} {i : Nat} {m : Member}

theorem withWrite_members (j : Nat) (s : Store) (b : Broker) (o : Option OpenWrite) :
    (t.withWrite j s b o).members[i]? =
      if j = i then (t.members[i]?).map fun m => { m with store := s } else t.members[i]? :=
  Cluster.setStore_members j s b

@[simp] theorem withWrite_broker (t : Traffic) (i : Nat) (s : Store) (b : Broker)
    (o : Option OpenWrite) : (t.withWrite i s b o).broker = b := rfl

@[simp] theorem withWrite_underWay (t : Traffic) (i : Nat) (s : Store) (b : Broker)
    (o : Option OpenWrite) : (t.withWrite i s b o).underWay i = o := if_pos rfl

theorem withWrite_member (hm : t.members[i]? = some m) (s : Store) (b : Broker)
    (o : Option OpenWrite) :
    (t.withWrite i s b o).members[i]? = some { m with store := s } := by
  rw [withWrite_members, if_pos rfl, hm]
  rfl

@[simp] theorem withWrite_withWrite (t : Traffic) (i : Nat) (s s' : Store) (b b' : Broker)
    (o o' : Option OpenWrite) :
    (t.withWrite i s b o).withWrite i s' b' o' = t.withWrite i s' b' o' := by
  have hmembers : (t.members.modify i fun m => { m with store := s }).modify i
      (fun m => { m with store := s' }) = t.members.modify i fun m => { m with store := s' } :=
    List.modify_modify_eq ..
  have hopen : (fun j => if j = i then o' else if j = i then o else t.underWay j) =
      fun j => if j = i then o' else t.underWay j := by
    funext j
    split <;> rfl
  simp only [withWrite, Cluster.setStore, hmembers, hopen]

theorem setStore_eq_withWrite (hidle : t.underWay i = none) (s : Store) (b : Broker) :
    { t with toCluster := t.toCluster.setStore i s b } = t.withWrite i s b none := by
  have hopen : (fun j => if j = i then none else t.underWay j) = t.underWay := by
    funext j
    split
    · rename_i hj
      rw [hj, hidle]
    · rfl
  rw [withWrite, hopen]

theorem withWrite_self (hm : t.members[i]? = some m) (hidle : t.underWay i = none) :
    t.withWrite i m.store t.broker none = t := by
  rw [← setStore_eq_withWrite hidle, Cluster.setStore_self hm]

/-- Actions of the cluster neither begin nor end the writes that are under way. -/
theorem step_act_underWay (t : Traffic) (a : Cluster.Action) :
    (t.step (.act a)).underWay = t.underWay := by
  simp only [step]
  split <;> rfl

/-- What is true of all traffic. -/
structure Orderly (t : Traffic) : Prop where
  /-- The views of the stores are in order. -/
  views : ∀ (i : Nat) m, t.members[i]? = some m → m.store.view.InOrder (t.underWay i)
  /-- Writes are under way only in stores that are there. -/
  known : ∀ i : Nat, t.members[i]? = none → t.underWay i = none

theorem Orderly.withWrite (h : t.Orderly) (hm : t.members[i]? = some m) {s : Store} {b : Broker}
    {o : Option OpenWrite} (hs : s.view.InOrder o) : (t.withWrite i s b o).Orderly where
  views j m' hm' := by
    rw [withWrite_members] at hm'
    by_cases hj : i = j
    · subst hj
      rw [if_pos rfl, hm] at hm'
      cases hm'
      simpa [Traffic.withWrite] using hs
    · rw [if_neg hj] at hm'
      simpa [Traffic.withWrite, Ne.symm hj] using h.views j m' hm'
  known j hnone := by
    rw [withWrite_members] at hnone
    by_cases hj : i = j
    · subst hj
      rw [if_pos rfl, hm] at hnone
      cases hnone
    · rw [if_neg hj] at hnone
      simpa [Traffic.withWrite, Ne.symm hj] using h.known j hnone

/-- The view of a store after an action for which its user does not have to wait. -/
theorem Orderly.act_view (h : t.Orderly) {a : Cluster.Action}
    (hfree : (a.user?.bind t.underWay).isSome = false) (hm : t.members[i]? = some m) {m' : Member}
    (hm' : (t.toCluster.step a).2.members[i]? = some m') :
    m'.store.view.InOrder (t.underWay i) := by
  have horder := h.views i m hm
  by_cases hwrite : a.IsWrite i
  · cases a with
    | write j w now =>
      have hj : j = i := hwrite
      subst hj
      -- with a write under way already, the user of the store would have to wait
      have hidle : t.underWay j = none := by simpa [Cluster.Action.user?] using hfree
      rw [hidle] at horder ⊢
      rcases Cluster.write_setStore t.toCluster j w now with hstep | ⟨mj, hmj, hstep⟩
      · rw [hstep, hm] at hm'
        cases hm'
        exact horder
      · rw [hm] at hmj
        cases hmj
        rw [hstep, Cluster.setStore_members, if_pos rfl, hm] at hm'
        cases hm'
        exact Store.write_view horder t.broker w now
    | _ => exact absurd hwrite id
  · obtain ⟨m₁, hm₁, hreads⟩ := Cluster.step_view hm hwrite
    rw [hm'] at hm₁
    cases hm₁
    exact horder.reads hreads

theorem Orderly.act (h : t.Orderly) (a : Cluster.Action) : (t.step (.act a)).Orderly := by
  simp only [step]
  split
  · exact h
  · rename_i hfree
    constructor
    · intro i m' hm'
      cases hm : t.members[i]? with
      | none =>
        -- the store is new and has read nothing yet
        obtain ⟨-, -, hfollower⟩ := Cluster.opened_spec hm hm'
        have hview : m'.store.view = {} := congrArg Follower.view hfollower
        have hidle : t.underWay i = none := h.known i hm
        simp only [hidle, hview]
        exact .empty
      | some m => exact h.act_view (by simpa using hfree) hm hm'
    · intro i hnone
      have hgrow := Cluster.members_length_le_step t.toCluster a
      refine h.known i (List.getElem?_eq_none_iff.2 ?_)
      exact hgrow.trans (List.getElem?_eq_none_iff.1 hnone)

theorem Orderly.prepare (h : t.Orderly) (i : Nat) (w : Write) (now : Timestamp) :
    (t.step (.prepare i w now)).Orderly := by
  simp only [step]
  split
  · rename_i m hidle hm
    have hview := h.views i m hm
    rw [hidle] at hview
    split
    · exact h
    · split
      · exact h
      · exact h.withWrite hm hview
  · exact h

theorem Orderly.note (h : t.Orderly) (i : Nat) : (t.step (.note i)).Orderly := by
  simp only [step]
  split
  · rename_i d m hopen hm
    have hview := h.views i m hm
    rw [hopen] at hview
    split
    · exact h.withWrite hm hview
    · exact h.withWrite hm (Store.note_view hview d)
  · exact h

theorem Orderly.append (h : t.Orderly) (i : Nat) (lost : Option LogError) :
    (t.step (.append i lost)).Orderly := by
  simp only [step]
  split
  · rename_i d m hopen hm
    have hview := h.views i m hm
    rw [hopen] at hview
    split
    · exact h.withWrite hm hview
    · exact h.withWrite hm hview
  · exact h

theorem Orderly.endWrite (h : t.Orderly) (i : Nat) : (t.step (.endWrite i)).Orderly := by
  simp only [step]
  split
  · rename_i d answer m hopen hm
    have hview := h.views i m hm
    rw [hopen] at hview
    exact h.withWrite hm (Store.endWrite_view hview answer)
  · exact h

theorem Orderly.step (h : t.Orderly) (e : Event) : (t.step e).Orderly := by
  cases e with
  | act a => exact h.act a
  | prepare i w now => exact h.prepare i w now
  | note i => exact h.note i
  | append i lost => exact h.append i lost
  | endWrite i => exact h.endWrite i

theorem orderly_empty : ({} : Traffic).Orderly where
  views _ _ hm := by cases hm
  known _ _ := rfl

theorem Orderly.run (h : t.Orderly) (es : List Event) : (t.run es).Orderly := by
  induction es generalizing t with
  | nil => exact h
  | cons e es ih => exact ih (h.step e)

theorem Reachable.step (h : t.Reachable) (e : Event) : (t.step e).Reachable := by
  obtain ⟨es, rfl⟩ := h
  refine ⟨es ++ [e], ?_⟩
  rw [run, run, List.foldl_append]
  rfl

/-- A store in which no write is under way has a view between two writes. -/
theorem Reachable.betweenWrites (h : t.Reachable) (hm : t.members[i]? = some m)
    (hidle : t.underWay i = none) : m.store.view.BetweenWrites := by
  obtain ⟨es, rfl⟩ := h
  have hview := (orderly_empty.run es).views i m hm
  rw [hidle] at hview
  exact hview

/-! ## Writes without overlaps -/

/-- A write whose steps follow each other at once is a write of the cluster. -/
theorem run_write (hm : t.members[i]? = some m) (hheld : m.dropped = false)
    (hidle : t.underWay i = none) (w : Write) (now : Timestamp) :
    t.run [.prepare i w now, .note i, .append i none, .endWrite i] =
      t.step (.act (.write i w now)) := by
  have hwrite : t.step (.act (.write i w now)) =
      t.withWrite i (m.store.write t.broker w now).2.1 (m.store.write t.broker w now).2.2 none := by
    rw [← setStore_eq_withWrite hidle]
    simp [step, Cluster.Action.user?, hidle, Cluster.write_step hm hheld]
  have hself := withWrite_self hm hidle
  have hmember := withWrite_member hm
  rw [hwrite, Store.write, Store.writeAround_eq]
  simp only [run, List.foldl_cons, List.foldl_nil]
  cases hprepare : m.store.prepare w now with
  | error e => simp [step, hidle, hm, hheld, hprepare, hself]
  | ok d =>
    by_cases hclosed : m.store.closed
    · simp [step, hidle, hm, hheld, hprepare, hmember, hclosed, hself]
    · cases happend : t.broker.append (m.store.note d).log ⟨d.id, d.encode⟩ with
      | error e => simp [step, hidle, hm, hheld, hprepare, hmember, hclosed, happend]
      | ok b => simp [step, hidle, hm, hheld, hprepare, hmember, hclosed, happend]

/-- As long as no write is under way, traffic goes on as its cluster does. -/
theorem run_act (hidle : ∀ i, t.underWay i = none) (as : List Cluster.Action) :
    t.run (as.map .act) = { t with toCluster := t.toCluster.run as } := by
  induction as generalizing t with
  | nil => rfl
  | cons a as ih =>
    have hfree : (a.user?.bind t.underWay).isSome = false := by
      cases a.user? with
      | none => rfl
      | some i => exact congrArg Option.isSome (hidle i)
    have hstep : t.step (.act a) = { t with toCluster := (t.toCluster.step a).2 } := by
      simp only [step, hfree]
      rfl
    have hrest := ih (t := t.step (.act a)) (by rw [hstep]; exact hidle)
    rw [hstep] at hrest
    exact (congrArg (·.run (as.map .act)) hstep).trans hrest

theorem Reachable.of_cluster {c : Cluster} (h : c.Reachable) :
    ({ toCluster := c } : Traffic).Reachable := by
  obtain ⟨as, rfl⟩ := h
  exact ⟨as.map .act, (run_act (t := {}) (fun _ => rfl) as).symm⟩

end Traffic

end ReplayRegistry
