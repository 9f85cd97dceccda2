import ReplayRegistry.Proofs.ClusterActions

/-!
# Proofs: every action is an event

For each kind of action there is one lemma that finds the event that the action is for a store. From
them follows that clusters are sound: it holds of the cluster without stores, and actions keep it.
-/

namespace ReplayRegistry

open Time (Timestamp)

namespace Cluster

variable {c : Cluster} {i : Nat} {m : Member}

/-! ## Actions that neither read nor write for the store -/

theorem written_eq_nil {a : Action} (h : ¬ a.IsWrite i) : c.written i a = [] := by
  unfold Cluster.written
  split
  · exact if_neg h
  · rfl

/-- An event that delivers nothing and writes nothing of the store's own. -/
def Passive : Follower.Event → Prop
  | .write _ | .deliver _ | .rewind => False
  | _ => True

/-- An action that neither reads nor writes for a store is a passive event. -/
theorem Sees.passive {m' : Member} {a : Action} {e : Follower.Event} (he : Passive e)
    (hlog : m'.store.log = m.store.log) (hreader : m'.store.replay.Sound)
    (hstep : Follower.Step (c.follower m) e ((c.step a).2.follower m'))
    (hread : c.deliveries i a = []) (hwrite : c.written i a = [])
    (happend : ∀ r, e = .append r → ¬ a.IsWrite i)
    (hcompact : e = .compact → a.Compacts m.store.log)
    (hclosed : (∀ client, a ≠ .closeStore i client) → m'.store.closed = m.store.closed) :
    c.Sees i m m' a e where
  log := hlog
  reader := hreader
  step := hstep
  delivered := by
    rw [Cluster.delivered, hread]
    cases e <;> first | rfl | cases he
  failed h := by
    subst h
    cases he
  written := by
    rw [hwrite]
    cases e <;> first | rfl | cases he
  write d h := by
    subst h
    cases he
  append := happend
  compact := hcompact
  closed := hclosed

/-- A store whose replay goes on without reading, while its log stays as it is, notices nothing. -/
theorem Sees.idle {m' : Member} {a : Action} {r : Replay} (h : c.Sound)
    (hm : c.members[i]? = some m) (hstore : m'.store = { m.store with replay := r })
    (hkeeps : m.store.replay.Keeps r c.broker (c.step a).2.broker) (hread : c.deliveries i a = [])
    (hwrite : c.written i a = []) : c.Sees i m m' a .idle := by
  have hlog : m'.store.log = m.store.log := by rw [hstore]; exact hkeeps.log
  have hfollower : (c.step a).2.follower m' = c.follower m := by
    rw [follower, follower, Store.follower, Store.follower, hlog,
      Broker.partition_congr hkeeps.partitions, hstore, ← hkeeps.place]
  refine Sees.passive trivial hlog ?_ ?_ hread hwrite (by simp) (by simp) fun _ => by rw [hstore]
  · rw [hstore]
    exact hkeeps.sound (h.readers i m hm)
  · rw [hfollower]
    exact .idle _

/-- A store that is left alone notices of an action what becomes of its log. -/
theorem Sees.alone {a : Action} {e : Follower.Event} (he : Passive e) (h : c.Sound)
    (hm : c.members[i]? = some m)
    (hstep : Follower.Step (c.follower m) e ((c.step a).2.follower m))
    (hread : c.deliveries i a = []) (hwrite : ¬ a.IsWrite i)
    (hcompact : e = .compact → a.Compacts m.store.log) : c.Sees i m m a e :=
  Sees.passive he rfl (h.readers i m hm) hstep hread (written_eq_nil hwrite) (fun _ _ => hwrite)
    hcompact fun _ => rfl

/-- A store that is left alone is the same follower, of the log as it is now. -/
theorem follower_of_log {c' : Cluster} {p : Partition}
    (h : c'.broker.partition m.store.log = p) : c'.follower m = { c.follower m with log := p } := by
  rw [← h]
  rfl

theorem sees_call (h : c.Sound) (hm : c.members[i]? = some m) (x : Session.Call) :
    ∃ m' e, (c.step (.call x)).2.members[i]? = some m' ∧ c.Sees i m m' (.call x) e := by
  have hstep : (c.step (.call x)).2 = { c with toSession := (c.toSession.call x).2 } := rfl
  rcases Session.call_partitions c.toSession x with hsame | ⟨y, hy, hbroker⟩
  · exact ⟨m, .idle, hm, Sees.idle h hm rfl ⟨rfl, rfl, hsame, id⟩ rfl (written_eq_nil id)⟩
  · have hlog : (c.step (.call x)).2.broker.partition m.store.log =
        (c.broker.call y).2.partition m.store.log := by rw [hstep, ← hbroker]
    rcases Broker.call_partition c.broker y m.store.log with heq | ⟨r, heq⟩ | ⟨hcompact, heq⟩
    · refine ⟨m, .idle, hm, Sees.alone trivial h hm ?_ rfl id (by simp)⟩
      rw [follower_of_log (c := c) (hlog.trans heq)]
      exact .idle _
    · refine ⟨m, .append r, hm, Sees.alone trivial h hm ?_ rfl id (by simp)⟩
      rw [follower_of_log (c := c) (hlog.trans heq)]
      exact .append _ r
    · refine ⟨m, .compact, hm, Sees.alone trivial h hm ?_ rfl id fun _ => ?_⟩
      · rw [follower_of_log (c := c) (hlog.trans heq)]
        exact .compact _
      · subst hcompact
        rcases hy with rfl | ⟨j, rfl⟩ <;> rfl

theorem sees_openStore (h : c.Sound) (hm : c.members[i]? = some m) (log : String)
    (settings : ReplaySettings) :
    ∃ m' e, (c.step (.openStore log settings)).2.members[i]? = some m' ∧
      c.Sees i m m' (.openStore log settings) e := by
  obtain ⟨r, -, hkeeps⟩ := attemptOpen_keeps (Store.opened log settings) c.broker
  refine ⟨m, .idle, ?_, Sees.idle h hm rfl ⟨rfl, rfl, hkeeps.partitions, id⟩ rfl
    (written_eq_nil id)⟩
  obtain ⟨hi, rfl⟩ := List.getElem?_eq_some_iff.1 hm
  exact (List.getElem?_append_left hi).trans hm

theorem sees_tick (h : c.Sound) (hm : c.members[i]? = some m) :
    ∃ m' e, (c.step .tick).2.members[i]? = some m' ∧ c.Sees i m m' .tick e := by
  obtain ⟨hpartitions, hmembers⟩ := wake_spec c.members c.broker
  obtain ⟨b₀, hb₀, hwake⟩ := hmembers i m hm
  obtain ⟨r, hstore, hkeeps⟩ := attemptOpen_keeps m.store b₀
  exact ⟨_, .idle, hwake, Sees.idle h hm hstore
    ⟨hkeeps.log, hkeeps.place, hpartitions, hkeeps.sound⟩
    rfl (written_eq_nil id)⟩

theorem sees_stayUp (h : c.Sound) (hm : c.members[i]? = some m) (ms : Nat) :
    ∃ m' e, (c.step (.stayUp ms)).2.members[i]? = some m' ∧ c.Sees i m m' (.stayUp ms) e := by
  refine ⟨{ m with store := m.store.stayUp ms }, .idle, ?_,
    Sees.idle h hm rfl (Replay.stayUp_keeps _ _ _) rfl (written_eq_nil id)⟩
  have hmembers : (c.step (.stayUp ms)).2.members =
      c.members.map fun m => { m with store := m.store.stayUp ms } := rfl
  rw [hmembers, List.getElem?_map, hm]
  rfl

/-! ## Actions on one store -/

/-- An action on another store that leaves the logs as they are. -/
theorem Sees.elsewhere {a : Action} (h : c.Sound) (hm : c.members[i]? = some m)
    (hmember : (c.step a).2.members[i]? = some m)
    (hpartitions : (c.step a).2.broker.partitions = c.broker.partitions)
    (hread : c.deliveries i a = []) (hwrite : c.written i a = []) :
    ∃ m' e, (c.step a).2.members[i]? = some m' ∧ c.Sees i m m' a e :=
  ⟨m, .idle, hmember, Sees.idle h hm rfl ⟨rfl, rfl, hpartitions, id⟩ hread hwrite⟩

/-- A store whose replay stops. -/
theorem Sees.stop {m' : Member} {a : Action} (hstore : m'.store.view = m.store.view)
    (hreplay : m'.store.replay = (m.store.replay.stop c.broker).1)
    (hpartitions : (c.step a).2.broker.partitions = c.broker.partitions)
    (hread : c.deliveries i a = []) (hwrite : ¬ a.IsWrite i)
    (hclosed : (∀ client, a ≠ .closeStore i client) → m'.store.closed = m.store.closed) :
    c.Sees i m m' a .stop := by
  obtain ⟨hlog, hplace, hsound, -⟩ := Replay.stop_spec m.store.replay c.broker
  rw [← hreplay] at hlog hplace hsound
  have hlog : m'.store.log = m.store.log := hlog
  refine Sees.passive trivial hlog hsound ?_ hread (written_eq_nil hwrite) (by simp) (by simp)
    hclosed
  have hfollower : (c.step a).2.follower m' = { c.follower m with place := none } := by
    rw [follower, Store.follower, hlog, Broker.partition_congr hpartitions, hstore, hplace]
    rfl
  rw [hfollower]
  exact .stop _

theorem sees_closeStore (h : c.Sound) (hm : c.members[i]? = some m) (j : Nat)
    (client : Except LogError Unit) :
    ∃ m' e, (c.step (.closeStore j client)).2.members[i]? = some m' ∧
      c.Sees i m m' (.closeStore j client) e := by
  have hwrite : ¬ (Action.closeStore j client).IsWrite i := id
  rcases closeStore_cases c j client with hstep | ⟨mj, hmj, hstep⟩
  · exact Sees.elsewhere h hm (by rw [hstep, hm]) (by rw [hstep]) rfl (written_eq_nil hwrite)
  · obtain ⟨hpartitions, hstore⟩ := close_spec mj.store c.broker client
    have hmembers := setStore_members (c := c) (i := i) j (mj.store.close c.broker client).2.1
      (mj.store.close c.broker client).2.2
    have hlogs : (c.step (.closeStore j client)).2.broker.partitions = c.broker.partitions := by
      rw [hstep]
      exact hpartitions
    split at hmembers
    · rename_i hj
      subst hj
      rw [hm] at hmj hmembers
      cases hmj
      rcases hstore with hstore | hstore
      · refine ⟨_, .idle, by rw [hstep]; exact hmembers, Sees.idle h hm ?_ ⟨rfl, rfl, hlogs, id⟩ rfl
          (written_eq_nil hwrite)⟩
        rw [hstore]
      · refine ⟨_, .stop, by rw [hstep]; exact hmembers,
          Sees.stop ?_ ?_ hlogs rfl hwrite fun hne => ?_⟩
        · simp only [hstore]
        · simp only [hstore]
        · exact absurd rfl (hne client)
    · refine Sees.elsewhere h hm ?_ hlogs rfl (written_eq_nil hwrite)
      rw [hstep]
      exact hmembers.trans hm

theorem sees_dropStore (h : c.Sound) (hm : c.members[i]? = some m) (j : Nat) :
    ∃ m' e, (c.step (.dropStore j)).2.members[i]? = some m' ∧ c.Sees i m m' (.dropStore j) e := by
  have hwrite : ¬ (Action.dropStore j).IsWrite i := id
  rcases dropStore_cases c j with hstep | ⟨mj, hmj, hstep⟩
  · exact Sees.elsewhere h hm (by rw [hstep, hm]) (by rw [hstep]) rfl (written_eq_nil hwrite)
  · have hmembers : (c.step (.dropStore j)).2.members[i]? =
        if j = i then some ⟨(mj.store.release c.broker).1, true⟩ else some m := by
      rw [hstep]
      simp only [List.getElem?_modify, hm]
      split <;> rfl
    have hlogs : (c.step (.dropStore j)).2.broker.partitions = c.broker.partitions := by
      rw [hstep]
      exact (Replay.stop_spec mj.store.replay c.broker).2.2.2
    split at hmembers
    · rename_i hj
      subst hj
      rw [hm] at hmj
      cases hmj
      exact ⟨_, .stop, hmembers, Sees.stop rfl rfl hlogs rfl hwrite fun _ => rfl⟩
    · exact Sees.elsewhere h hm hmembers hlogs rfl (written_eq_nil hwrite)

/-! ## Reads of a store -/

theorem sees_deliver (h : c.Sound) (hm : c.members[i]? = some m) (j : Nat) :
    ∃ m' e, (c.step (.deliver j)).2.members[i]? = some m' ∧ c.Sees i m m' (.deliver j) e := by
  have hwrite : ¬ (Action.deliver j).IsWrite i := id
  rcases deliver_cases c j with hstep | ⟨mj, hmj, hstep⟩
  · refine Sees.elsewhere h hm (by rw [hstep, hm]) (by rw [hstep]) ?_ (written_eq_nil hwrite)
    simp only [deliveries, hstep]
  · obtain ⟨hpartitions, hlog, hsound, hclosed, e, hevent, hdelivered, hkind⟩ :=
      deliver_spec mj.store (h.readers j mj hmj) c.broker
    have hmembers := setStore_members (c := c) (i := i) j (mj.store.deliver c.broker).2.1
      (mj.store.deliver c.broker).2.2
    have hread : c.deliveries i (.deliver j) =
        if j = i then [(mj.store.deliver c.broker).1] else [] := by simp only [deliveries, hstep]
    split at hmembers
    · rename_i hj
      subst hj
      rw [hm] at hmj hmembers
      cases hmj
      rw [if_pos rfl] at hread
      refine ⟨_, e, by rw [hstep]; exact hmembers, hlog, hsound, ?_, ?_, ?_, ?_, ?_, ?_, ?_,
        fun _ => hclosed⟩
      · rw [hstep]
        exact hevent
      · rw [Cluster.delivered, hread, hdelivered]
      · rintro rfl
        rcases hkind with hk | ⟨-, hfail⟩ | ⟨f, hk⟩
        · cases hk
        · rw [failures, hread]
          exact hfail
        · cases hk
      · rw [written_eq_nil hwrite]
        rcases hkind with rfl | ⟨rfl, -⟩ | ⟨f, rfl⟩ <;> rfl
      · rintro d rfl
        rcases hkind with hk | ⟨hk, -⟩ | ⟨f, hk⟩ <;> cases hk
      · exact fun _ _ => hwrite
      · rintro rfl
        rcases hkind with hk | ⟨hk, -⟩ | ⟨f, hk⟩ <;> cases hk
    · rename_i hj
      rw [if_neg hj] at hread
      refine Sees.elsewhere h hm ?_ ?_ hread (written_eq_nil hwrite)
      · rw [hstep]
        exact hmembers.trans hm
      · rw [hstep]
        exact hpartitions

/-! ## Writes of a store -/

theorem sees_write (h : c.Sound) (hm : c.members[i]? = some m) (j : Nat) (w : Write)
    (now : Timestamp) :
    ∃ m' e, (c.step (.write j w now)).2.members[i]? = some m' ∧
      c.Sees i m m' (.write j w now) e := by
  rcases write_cases h j w now with ⟨hsame, hfail⟩ | ⟨mj, d, b, hmj, hprepare, happend, hstep⟩
  · have hwritten : c.written i (.write j w now) = [] := by
      unfold written
      split
      · rename_i key _ hres
        exact absurd hres (hfail key)
      · rfl
    exact Sees.elsewhere h hm (by rw [hsame, hm]) (by rw [hsame]) rfl hwritten
  · have hmembers := setStore_members (c := c) (i := i) j
      { mj.store with view := mj.store.view.install d } b
    have hpartition := Store.append_partition happend m.store.log
    obtain ⟨hid, hne⟩ := Store.prepare_id (h.followers j mj hmj).keyed hprepare
    split at hmembers
    · rename_i hj
      subst hj
      rw [hm] at hmj hmembers
      cases hmj
      rw [if_pos rfl] at hpartition
      refine ⟨{ m with store := { m.store with view := m.store.view.install d } }, .write d,
        by rw [hstep]; exact hmembers, rfl, h.readers j m hm, ?_, rfl, by simp, ?_,
        fun d' hd => ?_, by simp, by simp, fun _ => rfl⟩
      · have hfollower : (c.step (.write j w now)).2.follower
            { m with store := { m.store with view := m.store.view.install d } } =
              { c.follower m with
                view := m.store.view.install d
                log := (c.follower m).log.push ⟨d.id, d.encode⟩ } := by
          simp only [follower, Store.follower, hstep, setStore]
          rw [← hpartition]
          rfl
        rw [hfollower]
        exact .write (c.follower m) d hne
      · simp [written, hstep, Follower.Event.written]
      · cases hd
        exact ⟨w, now, rfl, hprepare⟩
    · rename_i hj
      have hmember : (c.step (.write j w now)).2.members[i]? = some m := by
        rw [hstep]
        exact hmembers.trans hm
      have hlogs : (c.step (.write j w now)).2.broker.partition m.store.log =
          b.partition m.store.log := by
        rw [hstep]
        rfl
      by_cases hlog : m.store.log = mj.store.log
      · rw [if_pos hlog, ← hlog] at hpartition
        refine ⟨m, .append ⟨d.id, d.encode⟩, hmember, Sees.alone trivial h hm ?_ rfl hj (by simp)⟩
        rw [follower_of_log (c := c) (hlogs.trans hpartition)]
        exact .append (c.follower m) _
      · rw [if_neg hlog] at hpartition
        refine ⟨m, .idle, hmember, Sees.alone trivial h hm ?_ rfl hj (by simp)⟩
        rw [follower_of_log (c := c) (hlogs.trans hpartition)]
        exact .idle (c.follower m)

/-! ## Every action -/

/-- Every action of a cluster is an event for each of its stores. -/
theorem Sound.sees (h : c.Sound) (hm : c.members[i]? = some m) (a : Action) :
    ∃ m' e, (c.step a).2.members[i]? = some m' ∧ c.Sees i m m' a e := by
  cases a with
  | call x => exact sees_call h hm x
  | openStore log settings => exact sees_openStore h hm log settings
  | write j w now => exact sees_write h hm j w now
  | deliver j => exact sees_deliver h hm j
  | tick => exact sees_tick h hm
  | stayUp ms => exact sees_stayUp h hm ms
  | closeStore j client => exact sees_closeStore h hm j client
  | dropStore j => exact sees_dropStore h hm j

/-- An action is an event for a store that is there before it. -/
theorem Sound.sees_after {m' : Member} {a : Action} (h : c.Sound) (hm : c.members[i]? = some m)
    (hm' : (c.step a).2.members[i]? = some m') : ∃ e, c.Sees i m m' a e := by
  obtain ⟨m₁, e, hm₁, hsees⟩ := h.sees hm a
  rw [hm'] at hm₁
  cases hm₁
  exact ⟨e, hsees⟩

/-- Actions keep clusters sound. -/
theorem Sound.step (h : c.Sound) (a : Action) : (c.step a).2.Sound where
  logs log := by
    rcases h.step_partition a log with heq | ⟨r, heq⟩ | heq
    · exact heq ▸ h.logs log
    · exact heq ▸ (h.logs log).push r
    · exact heq ▸ (h.logs log).compact
  followers i m' hm' := by
    cases hm : c.members[i]? with
    | some m =>
      obtain ⟨e, hsees⟩ := h.sees_after hm hm'
      exact hsees.step.sound (h.followers i m hm)
    | none =>
      obtain ⟨-, -, hfollower⟩ := opened_spec hm hm'
      rw [hfollower]
      exact Follower.sound_opened (h.logs _)
  readers i m' hm' := by
    cases hm : c.members[i]? with
    | some m =>
      obtain ⟨e, hsees⟩ := h.sees_after hm hm'
      exact hsees.reader
    | none => exact (opened_spec hm hm').1

theorem sound_empty : ({} : Cluster).Sound where
  logs _ := Partition.sound_empty
  followers _ _ hm := by cases hm
  readers _ _ hm := by cases hm

theorem Sound.run (h : c.Sound) (as : List Action) : (c.run as).Sound := by
  induction as generalizing c with
  | nil => exact h
  | cons a as ih => exact ih (h.step a)

theorem Reachable.sound (h : c.Reachable) : c.Sound := by
  obtain ⟨as, rfl⟩ := h
  exact sound_empty.run as

/-- The records that an action appends to the log of a store are those that its event appends. -/
theorem Sees.appended {m' : Member} {a : Action} {e : Follower.Event} (hs : c.Sees i m m' a e)
    (h : c.Sound) (hm : c.members[i]? = some m) : c.appended m.store.log a = e.appended := by
  have hlog := hs.step.appended (h.followers i m hm)
  simp only [follower, Store.follower, hs.log] at hlog
  exact hlog

/-- A store follows one log throughout a run. -/
theorem Sound.run_log (h : c.Sound) (hm : c.members[i]? = some m) (as : List Action) :
    ∃ m', (c.run as).members[i]? = some m' ∧ m'.store.log = m.store.log := by
  induction as generalizing c m with
  | nil => exact ⟨m, hm, rfl⟩
  | cons a as ih =>
    obtain ⟨m₁, e, hm₁, hsees⟩ := h.sees hm a
    obtain ⟨m', hm', hlog⟩ := ih (h.step a) hm₁
    exact ⟨m', hm', hlog.trans hsees.log⟩

/-- A write that succeeds is the event that writes its document. -/
theorem Sound.wrote (h : c.Sound) (hm : c.members[i]? = some m) {w : Write} {now : Timestamp}
    {d : FunctionDoc} (hprepare : m.store.prepare w now = .ok d)
    (hwrite : d.id ∈ c.written i (.write i w now)) :
    ∃ m', (c.step (.write i w now)).2.members[i]? = some m' ∧ m'.store.log = m.store.log ∧
      Follower.Step (c.follower m) (.write d) ((c.step (.write i w now)).2.follower m') := by
  obtain ⟨m', e, hm', hsees⟩ := h.sees hm (.write i w now)
  rw [hsees.written] at hwrite
  cases e with
  | write d' =>
    obtain ⟨w', now', heq, hprepare'⟩ := hsees.write d' rfl
    cases heq
    rw [hprepare] at hprepare'
    cases hprepare'
    exact ⟨m', hm', hsees.log, hsees.step⟩
  | _ => cases hwrite

/-- A key that is written in a run is the key of a version that is appended. -/
theorem Sound.versions_ne_nil (h : c.Sound) (hm : c.members[i]? = some m) {as : List Action}
    {key : RegistryKey} (hkey : key ∈ c.collect (written i) as) :
    versions key (c.collect (appended m.store.log) as) ≠ [] := by
  induction as generalizing c m with
  | nil => cases hkey
  | cons a as ih =>
    obtain ⟨m', e, hm', hsees⟩ := h.sees hm a
    rw [collect, versions_append, hsees.appended h hm]
    intro hnil
    obtain ⟨hfirst, hrest⟩ := List.append_eq_nil_iff.1 hnil
    rcases List.mem_append.1 hkey with hkey | hkey
    · rw [hsees.written] at hkey
      cases hevent : e with
      | write d =>
        have hstep := hsees.step
        rw [hevent] at hkey hstep hfirst
        obtain ⟨hid, -⟩ := hstep.of_write
        rw [List.mem_singleton.1 hkey] at hfirst
        simp [Follower.Event.appended, versions, Record.version?_encode hid] at hfirst
      | _ =>
        rw [hevent] at hkey
        cases hkey
    · exact ih (h.step a) hm' hkey (hsees.log.symm ▸ hrest)

end Cluster

end ReplayRegistry
